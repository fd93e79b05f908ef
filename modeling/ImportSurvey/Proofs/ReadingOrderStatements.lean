import ImportSurvey.Proofs.ReadingOrderExpressions

/-
  Declarations, imports and exports, and statements are read in the order of the text, and so are whole scripts.

  Decorators are read before it is known what they decorate, so declarations and exports take them as literals
  read before, and put them in front of their own.  The head of a loop does the same with what it starts with.

  With statements all productions are at hand.  A grammar of some depth refers to that of one depth less, so
  `orderly_grammar` is an induction on the depth, whose step is the list of the main results of these modules.
-/
namespace ImportSurvey.Script

open Parse

variable {g : Grammar} [g.Orderly]

/-! ## Declarations -/

namespace Declaration

@[simp] theorem positions_variableNodes (vs : List Variables) : positions (vs.flatMap (·.nodes)) = positions vs :=
  positions_flatMap (f := Variables.nodes) (fun _ => rfl) vs

instance inOrder_declarator (constant : Bool) : InOrder (declarator g constant) := by
  unfold declarator
  refine ⟨.bind fun isName => .bind fun target => .bind fun typed => ?_⟩
  extract_lets +onlyGivenNames -underBinder rest
  have hrest (u : Unit) : Orderly (positions target) (rest u) := by
    refine .bind fun type => .bind fun equals => .ite (.bind fun e => .pure (by simp)) ?_
    exact .pure (by simp)
  refine .ite (.bind fun newline => .optional fun _ => .bind fun _ => ?_) ?_
  · exact (hrest ()).mono (by simp)
  · exact (hrest ()).mono (by simp)

instance inOrder_variableList (constant : Bool) : InOrder (variableList g constant) := by
  unfold variableList
  refine ⟨.bind fun first => .seq (.many ?_) fun more => .pure (by simp)⟩
  exact .bind fun comma => .ite (.bind fun v => .pure (by simp)) .last

instance inOrder_checkValues (vs : Variables) : InOrder (checkValues vs) := by
  unfold checkValues
  infer_instance

instance inOrder_variableStatement (site : Site) : InOrder (variableStatement g site) := by
  unfold variableStatement
  refine ⟨.bind fun t => .bind fun _ => .bind fun vs => .bind fun _ => .bind fun _ => ?_⟩
  exact .bind fun _ => .pure (by simp)

instance inOrder_typeAlias : InOrder (typeAlias g) := by
  unfold typeAlias
  refine ⟨.bind fun _ => .bind fun n => .bind fun ps => .bind fun _ => .bind fun t => ?_⟩
  exact .bind fun _ => .pure (by simp)

instance inOrder_interface : InOrder (interface g) := by
  unfold interface
  refine ⟨.bind fun _ => .bind fun n => .bind fun ps => .bind fun bases => .bind fun members => ?_⟩
  exact .pure (by simp)

instance inOrder_enumKey : InOrder (enumKey g) := by
  unfold enumKey
  exact ⟨.bind fun t => .bind fun k => .bind fun _ => .pure (by simp)⟩

instance inOrder_enumeration : InOrder (enumeration g) := by
  have hmember : InOrder (do let k ← enumKey g; return k ++ (← initializer g) : Parse (List Node)) :=
    ⟨.bind fun k => .bind fun v => .pure (by simp)⟩
  unfold enumeration
  exact ⟨.bind fun _ => .bind fun n => .bind fun _ => .bind fun members => .pure (by simp)⟩

instance inOrder_space : InOrder (space g) := by
  have hpoint : InOrder (do if ← eatSign "." then return some (← anyWord) else return none : Parse (Option String)) :=
    ⟨.bind fun point => .ite .last .last⟩
  unfold space
  refine ⟨.bind fun global => .ite (.bind fun b => .pure (by simp)) (.bind fun _ => .bind fun t => .ite ?_ ?_)⟩
  · refine .bind fun _ => .bind fun brace => .ite (.bind fun b => .pure (by simp)) ?_
    exact .bind fun _ => .pure (by simp)
  · exact .bind fun n => .bind fun _ => .bind fun b => .pure (by simp)

instance inOrder_importEquals (typeOnly : Bool) : InOrder (importEquals typeOnly) := by
  unfold importEquals
  refine ⟨.bind fun _ => .bind fun isRequire => .bind fun after => .ite ?_ (.bind fun _ => .pure_bind ?_)⟩
  · refine .bind fun _ => .bind fun _ => .bind fun l => .bind fun _ => .pure_bind (.bind fun _ => ?_)
    exact .bind fun typed => .bind fun _ => .pure (by simp)
  · exact .bind fun _ => .bind fun typed => .bind fun _ => .pure (by simp)

instance inOrder_namedImport : InOrder namedImport := by
  unfold namedImport
  refine ⟨.bind fun _ => .bind fun isType => .bind fun after => .either fun typeOnly => ?_⟩
  exact .bind fun n => .bind fun node => .pure (by simp)

instance inOrder_function (modifiers : List String) : InOrder (Declaration.function g modifiers) := by
  unfold function
  exact ⟨.bind fun _ => .bind fun f => .bind fun _ => .pure (by simp)⟩

theorem orderly_classDeclaration (modifiers : List String) (decorators : List Node) :
    Orderly (positions decorators) (classDeclaration g modifiers decorators) := by
  unfold classDeclaration
  exact .bind fun c => .bind fun _ => .pure (by simp)

theorem orderly_qualified (modifiers : List String) (decorators : List Node) :
    Orderly (positions decorators) (qualified g modifiers decorators) := by
  unfold qualified
  refine .within (.bind fun typed => .bind fun t => ?_)
  split
  · refine .ite ((orderly_classDeclaration modifiers decorators).mono (by simp)) (.ite .last (.bind fun after => ?_))
    refine .ite .last (.ite (.bind fun _ => .last) (.ite .giveUp (.ite .last (.bind fun _ => ?_))))
    exact .ite .last (.ite .last (.ite .last (.ite .last .giveUp)))
  · exact .giveUp

theorem orderly_whole (decorators : List Node) : Orderly (positions decorators) (whole g decorators) := by
  unfold whole
  refine .bind fun typed => .either fun modifiers => ?_
  exact (orderly_qualified modifiers decorators).mono (by simp)

end Declaration

/-! ## Imports and exports -/

namespace Linkage

instance inOrder_outerName : InOrder outerName := by
  unfold outerName
  refine ⟨.bind fun t => ?_⟩
  split
  · exact .last
  · exact .last
  · exact .giveUp

instance inOrder_renamed (first : Token) : InOrder (renamed first) := by
  unfold renamed
  infer_instance

instance inOrder_specifier : InOrder specifier := by
  unfold specifier
  refine ⟨.bind fun first => .bind fun typed => .ite .last (.bind fun isAs => .ite (.bind fun as1 => ?_) ?_)⟩
  · refine .bind fun again => .ite (.bind fun as2 => .bind fun t => ?_) (.bind fun t => ?_)
    · exact .ite .last .last
    · exact .ite .last .last
  · exact .bind fun t => .ite .last .last

instance inOrder_attributes : InOrder attributes := by
  have hkey : InOrder (do
      let k ← outerName
      expectSign ":"
      discard literal
      return nameText k : Parse String) :=
    ⟨.bind fun k => .bind fun _ => .bind fun _ => .last⟩
  unfold attributes
  exact ⟨.bind fun t => .ite .last (.bind fun _ => .bind fun _ => .bind fun keys => .last)⟩

instance inOrder_importedNames (default : Bool) : InOrder (importedNames default) := by
  unfold importedNames
  extract_lets rest
  have hrest (u : Unit) : InOrder (rest u) :=
    ⟨.bind fun star => .ite (.bind fun _ => .last) (.bind fun _ => .bind fun ss => .last)⟩
  exact ⟨.ite (.bind fun comma => .ite .last .last) .last⟩

instance inOrder_qualifiesImport : InOrder qualifiesImport := by
  unfold qualifiesImport
  infer_instance

instance inOrder_saysPhase (w : String) : InOrder (saysPhase w) := by
  unfold saysPhase
  infer_instance

instance inOrder_importing : InOrder importing := by
  unfold importing
  refine ⟨.bind fun _ => .bind fun t => .ite ?_ ?_⟩
  · exact .bind fun source => .bind fun _ => .bind fun _ => .pure (by simp)
  extract_lets +onlyGivenNames named
  have hnamed : InOrder named := ⟨.bind fun isName => .ite .last .last⟩
  refine .bind fun first => .bind fun typed => .either fun typeOnly => .bind fun early => .either fun default => ?_
  refine .bind fun comma => .bind fun isFrom => .ite .last ?_
  exact .bind fun _ => .bind fun _ => .bind fun source => .bind fun _ => .bind fun _ => .pure (by simp)

instance inOrder_exportNames (names : List String) : InOrder (exportNames names) := by
  have hmodify (n : String) : InOrder (modify fun s => { s with exported := n :: s.exported } : Parse Unit) :=
    inOrder_modify (fun _ h => h) fun _ _ => Nat.le_refl _
  unfold exportNames
  refine ⟨.bind fun typed => .seq ?_ fun _ => .last⟩
  induction names with
  | nil => exact .pure (by simp)
  | cons n names ih =>
    rw [List.forIn_cons]
    refine .seq (.bind fun s => .bind fun _ => .bind fun _ => .pure (by simp)) fun step => ?_
    cases step with
    | done _ => exact .last
    | yield _ => exact ih.mono (List.nil_sublist _)

instance inOrder_exportBraces (typeOnly : Bool) : InOrder (exportBraces typeOnly) := by
  unfold exportBraces
  refine ⟨.bind fun _ => .bind fun ss => .bind fun _ => .bind fun t => ?_⟩
  extract_lets +onlyGivenNames -underBinder rest
  have hrest (source : Option Literal) : Orderly (positions source) (rest source) :=
    .optional fun _ => .bind fun _ => .pure (by simp)
  refine .ite (.bind fun _ => .bind fun after => ?_) (.pure_bind ((hrest none).mono (by simp)))
  split
  · exact .bind fun l => .bind fun _ => .pure_bind ((hrest (some l)).mono (by simp))
  · exact .seq .giveUp fun source => (hrest source).mono (by simp)
  · exact .pure_bind ((hrest none).mono (by simp))

instance inOrder_exportStar (typeOnly : Bool) : InOrder (exportStar typeOnly) := by
  unfold exportStar
  refine ⟨.bind fun _ => .bind fun isAs => ?_⟩
  extract_lets rest
  have hrest (u : Unit) : Orderly [] (rest u) :=
    .bind fun _ => .bind fun source => .bind fun _ => .bind fun _ => .pure (by simp)
  exact .ite (.bind fun n => .bind fun _ => (hrest ()).mono (by simp)) ((hrest ()).mono (by simp))

theorem orderly_exportDefault (before : List Node) : Orderly (positions before) (exportDefault g before) := by
  unfold exportDefault
  refine .bind fun _ => .bind fun _ => .bind fun more => .bind fun t => .bind fun after => .bind fun typed => ?_
  refine .ite (.bind fun c => .pure (by simp)) (.ite (.bind fun _ => .bind fun c => .pure (by simp)) (.ite ?_ ?_))
  · exact .bind fun d => .pure (by simp)
  · exact .ite (.bind fun f => .pure (by simp)) (.bind fun e => .bind fun _ => .pure (by simp))

theorem orderly_exportDeclared (before : List Node) : Orderly (positions before) (exportDeclared g before) := by
  unfold exportDeclared
  refine .bind fun more => ?_
  refine ((Declaration.orderly_whole (before ++ more)).through fun d => ?_).mono (by simp)
  exact .bind fun _ => .pure (by simp)

theorem orderly_exporting (before : List Node) : Orderly (positions before) (exporting g before) := by
  unfold exporting
  refine .bind fun _ => .bind fun t => .bind fun after => .bind fun typed => ?_
  refine .ite ((orderly_exportDefault before).mono (by simp)) (.ite .last (.ite .last (.ite ?_ ?_)))
  · exact .bind fun _ => .bind fun e => .bind fun _ => .pure (by simp)
  refine .ite ?_ (.ite (.bind fun _ => .last) (.ite (.bind fun _ => .last) (.ite ?_ ?_)))
  · exact .bind fun _ => .bind fun _ => .bind fun _ => .bind fun _ => .pure (by simp)
  · exact .bind fun d => .pure (by simp)
  · exact (orderly_exportDeclared before).mono (by simp)

end Linkage

/-! ## Statements -/

namespace Statement

instance inOrder_inner : InOrder (inner g) := Grammar.Orderly.statement _

instance inOrder_choice : InOrder (choice g) := by
  unfold choice
  refine ⟨.bind fun _ => .bind fun test => .bind fun yes => .bind fun isElse => .ite (.bind fun no => ?_) ?_⟩
  · exact .pure_bind (.pure (by simp))
  · exact .pure_bind (.pure (by simp))

instance inOrder_loop : InOrder (loop g) := by
  unfold loop
  exact ⟨.bind fun _ => .bind fun test => .bind fun b => .pure (by simp)⟩

instance inOrder_loopAtEnd : InOrder (loopAtEnd g) := by
  unfold loopAtEnd
  exact ⟨.bind fun _ => .bind fun b => .bind fun _ => .bind fun test => .bind fun _ => .pure (by simp)⟩

theorem orderly_counting (start : List Node) (awaits : Bool) :
    Orderly (positions start) (counting g start awaits) := by
  unfold counting
  refine .bind fun _ => .bind fun semicolon => .bind fun bracket => ?_
  extract_lets +onlyGivenNames -underBinder rest
  have hrest (test : List Node) : Orderly (positions start ++ positions test) (rest test) := by
    refine .bind fun _ => .bind fun bracket => .ite (.pure_bind ?_) (.bind fun step => .pure_bind ?_)
    · exact .bind fun _ => .bind fun _ => .bind fun body => .pure (by simp)
    · exact .bind fun _ => .bind fun _ => .bind fun body => .pure (by simp)
  refine .ite (.pure_bind ?_) (.bind fun test => .pure_bind ?_)
  · exact (hrest []).mono (by simp)
  · exact (hrest [test.node]).mono (by simp)

theorem orderly_iterating (target : List Node) (awaits : Bool) :
    Orderly (positions target) (iterating g target awaits) := by
  unfold iterating
  refine .bind fun keys => .bind fun _ => .either fun subject => .bind fun _ => .bind fun _ => ?_
  exact .bind fun b => .pure (by simp)

instance inOrder_startsVariables : InOrder startsVariables := by
  unfold startsVariables
  infer_instance

instance inOrder_startsUsing : InOrder startsUsing := inOrder_looksLike _

instance inOrder_declaringFor (awaits : Bool) : InOrder (declaringFor g awaits) := by
  unfold declaringFor
  refine ⟨.bind fun isAwait => .optional fun _ => .bind fun constant => .bind fun _ => .bind fun vs => ?_⟩
  refine .bind fun isIn => .bind fun isOf => .ite ((orderly_iterating vs.nodes awaits).mono (by simp)) ?_
  exact ((orderly_counting vs.nodes awaits).through fun n => .bind fun _ => .pure (by simp)).mono (by simp)

instance inOrder_forLoop : InOrder (forLoop g) := by
  unfold forLoop
  refine ⟨.bind fun _ => .bind fun awaits => ?_⟩
  extract_lets +onlyGivenNames -underBinder rest
  have hrest (u : Unit) : Orderly [] (rest u) := by
    refine .bind fun _ => .bind fun semicolon => .bind fun bracket => .ite ?_ ?_
    · exact (orderly_counting [] awaits).mono (by simp)
    refine .bind fun declares => .bind fun uses => .ite .last (.bind fun t => .bind fun after => .bind fun e => ?_)
    refine .bind fun isIn => .bind fun isOf => .ite (.bind fun _ => .bind fun _ => .bind fun isOf => ?_) ?_
    · exact .bind fun _ => (orderly_iterating [e.node] awaits).mono (by simp)
    · exact (orderly_counting [e.node] awaits).mono (by simp)
  refine .ite (.bind fun c => .bind fun _ => .bind fun _ => ?_) ?_
  · exact (hrest ()).mono (by simp)
  · exact (hrest ()).mono (by simp)

instance inOrder_leaving : InOrder leaving := by
  unfold leaving
  exact ⟨.bind fun _ => .bind fun atEnd => .otherwise fun _ => .bind fun _ => .pure (by simp)⟩

instance inOrder_returning : InOrder (returning g) := by
  unfold returning
  refine ⟨.bind fun _ => .bind fun semicolon => .bind fun atEnd => .ite (.pure_bind ?_) (.ite (.pure_bind ?_) ?_)⟩
  · exact .bind fun c => .bind fun _ => .pure (by simp)
  · exact .bind fun c => .bind fun _ => .pure (by simp)
  · exact .bind fun e => .bind fun _ => .pure_bind (.bind fun c => .bind fun _ => .pure (by simp))

instance inOrder_throwing : InOrder (throwing g) := by
  unfold throwing
  exact ⟨.bind fun _ => .bind fun newline => .bind fun _ => .bind fun e => .bind fun _ => .pure (by simp)⟩

instance inOrder_caseBody : InOrder (caseBody g) :=
  ⟨.many (.bind fun t => .ite .last (.bind fun n => .pure (by simp)))⟩

instance inOrder_switching : InOrder (switching g) := by
  unfold switching
  refine ⟨.bind fun _ => .bind fun subject => .bind fun _ => .seq (.many ?_) fun cases => ?_⟩
  · refine .bind fun isCase => .ite ?_ (.bind fun isDefault => .ite ?_ .last)
    · exact .bind fun test => .bind fun _ => .bind fun body => .pure (by simp)
    · exact .bind fun _ => .bind fun body => .pure (by simp)
  · exact .bind fun _ => .pure (by simp)

instance inOrder_catching : InOrder (catching g) := by
  unfold catching
  refine ⟨.bind fun isCatch => .ite .last (.bind fun bracket => .ite ?_ (.pure_bind ?_))⟩
  · refine .bind fun b => .bind fun type => .bind fun _ => .pure_bind (.bind fun body => .pure (by simp))
  · exact .bind fun body => .pure (by simp)

instance inOrder_trying : InOrder (trying g) := by
  unfold trying
  refine ⟨.bind fun _ => .bind fun body => .bind fun failed => .bind fun isFinally => .ite (.bind fun last => ?_) ?_⟩
  · exact .pure_bind (.bind fun _ => .pure (by simp))
  · exact .pure_bind (.bind fun _ => .pure (by simp))

instance inOrder_expressionOrLabel : InOrder (expressionOrLabel g) := by
  unfold expressionOrLabel
  refine ⟨.bind fun e => ?_⟩
  extract_lets rest
  have hrest (u : Unit) : Orderly (positions e) (rest u) := .bind fun _ => .pure (by simp)
  refine .ite (.bind fun colon => .ite .last ?_) ?_
  · exact (hrest ()).mono (by simp)
  · exact (hrest ()).mono (by simp)

instance inOrder_letting (site : Site) : InOrder (letting g site) := by
  unfold letting
  refine ⟨.bind fun after => .ite ?_ (.ite ?_ (.ite ?_ ?_))⟩
  · exact .bind fun e => .bind fun _ => .pure (by simp)
  · exact .bind fun e => .bind fun _ => .pure (by simp)
  · exact .bind fun n => .bind fun _ => .pure (by simp)
  · exact .bind fun d => .pure (by simp)

instance inOrder_usingDeclaration : InOrder (usingDeclaration g) := by
  unfold usingDeclaration
  refine ⟨.bind fun isAwait => .optional fun _ => .bind fun _ => .bind fun vs => .bind fun _ => ?_⟩
  exact .bind fun _ => .pure (by simp)

instance inOrder_decorated : InOrder (decorated g) := by
  unfold decorated
  refine ⟨.bind fun ds => .bind fun isExport => .ite ((Linkage.orderly_exporting ds).mono (by simp)) ?_⟩
  refine .bind fun typed => .either fun modifiers => .bind fun isClass => .bind fun _ => ?_
  exact ((Declaration.orderly_classDeclaration modifiers ds).through fun d => .pure (by simp)).mono (by simp)

instance inOrder_functionStatement (site : Site) : InOrder (functionStatement g site) := by
  unfold functionStatement
  exact ⟨.bind fun f => .bind fun _ => .pure (by simp)⟩

instance inOrder_startsTyped (w : String) : InOrder (startsTyped w) := by
  unfold startsTyped
  infer_instance

instance inOrder_ofWord (site : Site) (w : String) (escaped : Bool) : InOrder (ofWord g site w escaped) := by
  have hdeclaration : InOrder (Declaration.whole g []) := ⟨Declaration.orderly_whole []⟩
  have hexport : InOrder (Linkage.exporting g []) := ⟨Linkage.orderly_exporting []⟩
  have hvariables : Orderly [] (do return (← Declaration.variableStatement g site).node) :=
    .bind fun d => .pure (by simp)
  unfold ofWord
  refine ⟨.bind fun typed => .ite (.bind fun d => .pure (by simp)) (.bind fun after => ?_)⟩
  split
  -- most words have a production of their own
  all_goals try exact .last
  · exact .bind fun _ => .bind fun subject => .bind fun body => .pure (by simp)
  · exact .bind fun _ => .bind fun _ => .pure (by simp)
  · exact .bind fun c => .bind fun _ => .pure (by simp)
  · exact hvariables.mono (List.nil_sublist _)
  · exact hvariables.mono (List.nil_sublist _)

instance inOrder_whole (site : Site) : InOrder (Statement.whole g site) := by
  unfold whole
  refine ⟨.bind fun t => ?_⟩
  split
  · exact .last
  · exact .bind fun _ => .pure (by simp)
  · exact .last
  · exact .last
  · exact .last

end Statement

/-! ## Whole scripts -/

/-- **The whole grammar reads in the order of the text**, however deep a script may nest. -/
instance orderly_grammar (depth : Nat) : (grammar depth).Orderly := by
  induction depth with
  | zero =>
    exact ⟨fun _ => inOrder_giveUp, fun _ => inOrder_giveUp, inOrder_giveUp, inOrder_giveUp, inOrder_giveUp,
      fun _ => inOrder_giveUp, inOrder_giveUp, inOrder_giveUp, inOrder_giveUp, fun _ => inOrder_giveUp⟩
  | succ depth ih =>
    exact
      { assignment := fun returnType => Expression.inOrder_assignment returnType
        operation := fun rank => Expression.inOrder_operation rank
        unary := Expression.inOrder_unary
        access := Expression.inOrder_access
        primary := Expression.inOrder_primary
        element := fun inside => Markup.inOrder_element inside
        type := Types.inOrder_whole
        typeOperand := Types.inOrder_operand
        pattern := inOrder_bindingTarget
        statement := fun site => Statement.inOrder_whole site }

namespace Program

instance inOrder_statements : InOrder (statements g) :=
  ⟨.many (.bind fun t => .ite .last (.bind fun n => .pure (by simp)))⟩

theorem sound_start (d : Dialect) (cs : List Char) : (start d cs).Sound := State.sound_after (fits_next _) _ _ _ _

/-- **The literals of a tree that is read from a text stand in it in the order of the text.** -/
theorem ascending_positions {d : Dialect} {text : String} {p : Program} (h : read? d text = some p) :
    (positions p.tree).Pairwise (· < ·) := by
  unfold read? at h
  dsimp only at h
  split at h
  · rename_i ns s hrun
    obtain rfl := Option.some.inj h
    have horderly := (inOrder_statements (g := grammar (depthOf text.toList.length))).orderly
    obtain ⟨-, -, hspans⟩ := horderly hrun (sound_start d text.toList) (.nil (Nat.le_refl _))
    rw [positions_group]
    exact hspans.ascending
  · cases h

end Program

end ImportSurvey.Script
