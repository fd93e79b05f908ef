import ImportSurvey.Proofs.ReadingOrderTypes

/-
  Functions, classes, markup and expressions are read in the order of the text.

  Where a production takes the value that was read so far, as the links of a chain and the operators do, it is
  shown to be `Orderly` behind the literals of that value, and the loop around it by induction on its bound: each
  round hands on a value whose literals are in order and before the current token.

  A token that starts an expression is known when its production is chosen, and two of the ways depend on it: a
  literal, and a slash that starts a regular expression.
-/
namespace ImportSurvey.Script

open Parse

variable {g : Grammar} [g.Orderly]

/-! ## Functions -/

namespace Function

instance inOrder_block : InOrder (block g) := by
  unfold block
  refine ⟨.bind fun _ => .seq (.many ?_) fun statements => .bind fun _ => .pure (by simp)⟩
  exact .bind fun atEnd => .ite .last (.bind fun n => .pure (by simp))

instance inOrder_body : InOrder (body g) := by
  unfold body
  infer_instance

instance inOrder_parts (isAsync isGenerator : Bool) : InOrder (parts g isAsync isGenerator) := by
  unfold parts
  refine ⟨.seq (.within ?_) fun p => ?_⟩
  · refine .bind fun types => .bind fun ps => .bind fun result => .bind fun hasBody => .ite ?_ ?_
    · exact .bind fun b => .pure_bind (.pure (by simp))
    · exact .pure_bind (.pure (by simp))
  · exact .ite (.pure (by simp)) (.bind fun typed => .bind fun _ => .bind fun _ => .pure (by simp))

@[simp] theorem positions_parts_node (p : Parts) : positions p.node = positions p.nodes := positions_group p.nodes

instance inOrder_whole (qualified declaration needsName : Bool) :
    InOrder (whole g qualified declaration needsName) := by
  unfold whole
  refine ⟨.either fun isAsync => .bind fun _ => .bind fun isGenerator => .bind fun t => ?_⟩
  refine .ite (.bind fun n => .pure_bind (.bind fun p => .pure (by simp))) ?_
  refine .ite (.bind fun _ => .bind fun _ => .pure_bind ?_) (.pure_bind ?_)
  · exact .bind fun p => .pure (by simp)
  · exact .bind fun p => .pure (by simp)

instance inOrder_head : InOrder (head g) := by
  unfold head
  refine ⟨.bind fun isAsync => .seq (.within ?_) fun h => ?_⟩
  · refine .bind fun types => .bind fun ps => .bind fun _ => .bind fun typed => .bind fun colon => ?_
    exact .bind fun result => .pure (by simp)
  · exact .bind fun newline => .bind fun _ => .bind fun _ => .pure (by simp)

instance inOrder_arrowBody (isAsync returnType : Bool) : InOrder (arrowBody g isAsync returnType) := by
  unfold arrowBody
  exact ⟨.within (.bind fun brace => .ite .last (.bind fun e => .pure (by simp)))⟩

end Function

/-! ## Classes -/

namespace Class

instance inOrder_memberKey : InOrder (memberKey g) := by
  unfold memberKey
  refine ⟨.bind fun t => ?_⟩
  split
  · exact .bind fun _ => .bind fun _ => .pure (by simp)
  · exact .last

theorem orderly_method (modifiers : List String) (k : Key) (isGenerator : Bool) :
    Orderly (positions k) (method g modifiers k isGenerator) := by
  unfold method
  exact .bind fun _ => .bind fun _ => .bind fun p => .pure (by simp)

instance inOrder_accessor (modifiers : List String) (reads : Bool) : InOrder (accessor g modifiers reads) := by
  unfold accessor
  refine ⟨.bind fun k => .bind fun _ => .bind fun _ => .bind fun p => ?_⟩
  exact .either fun _ => .pure (by simp)

theorem orderly_field (modifiers : List String) (k : Key) (isOptional : Bool) :
    Orderly (positions k) (field g modifiers k isOptional) := by
  unfold field
  refine .bind fun _ => .bind fun _ => .bind fun typed => .bind fun newline => .optional fun _ => ?_
  exact .bind fun type => .bind fun value => .bind fun _ => .pure (by simp)

instance inOrder_member : InOrder (Class.member g) := by
  unfold member
  refine ⟨.bind fun before => .bind fun modifiers => .bind fun more => ?_⟩
  extract_lets +onlyGivenNames -underBinder ds
  have hds : positions ds = positions before ++ positions more := positions_append before more
  refine .bind fun isStatic => ?_
  extract_lets +onlyGivenNames -underBinder rest
  have hrest (u : Unit) : Orderly (positions ds) (rest u) := by
    refine .bind fun _ => .bind fun reads => .ite (.bind fun a => .pure (by simp)) ?_
    refine .bind fun writes => .ite (.bind fun a => .pure (by simp)) ?_
    refine .bind fun typed => .bind fun isIndex => .ite (.bind fun s => .bind fun _ => .pure (by simp)) ?_
    refine .bind fun isGenerator => .bind fun k => .bind fun typed => .either fun isOptional => ?_
    refine .bind fun bracket => .bind fun less => .ite ?_ ?_
    -- the method takes the key, not the decorators, which stay in front of it
    · exact (Orderly.framed (positions ds) (orderly_method _ k _) fun m => .pure (by simp)).mono (by simp)
    · exact (Orderly.framed (positions ds) (orderly_field _ k _) fun m => .pure (by simp)).mono (by simp)
  refine .ite (.bind fun after => .ite ?_ ?_) ?_
  · exact .bind fun _ => .bind fun b => .pure (by simp [hds])
  · exact (hrest ()).mono (by simp [hds])
  · exact (hrest ()).mono (by simp [hds])

instance inOrder_heritage (several : Bool) : InOrder (heritage g several) := by
  unfold heritage
  extract_lets base listed
  have hbase : InOrder base := ⟨.bind fun e => .bind fun types => .pure (by simp)⟩
  have hlisted (item : Parse (List Node)) (single : Bool) [InOrder item] : InOrder (listed item single) := by
    refine ⟨.bind fun first => .seq (.many ?_) fun more => .pure (by simp)⟩
    exact .bind fun comma => .ite (.bind fun _ => .bind fun e => .pure (by simp)) .last
  refine ⟨.seq (.many ?_) fun clauses => .pure (by simp)⟩
  refine .bind fun extending => .ite (.bind fun c => .pure (by simp)) ?_
  exact .bind fun implementing => .ite (.bind fun _ => .bind fun c => .pure (by simp)) .last

instance inOrder_whole : InOrder (Class.whole g) := by
  have hmembers : InOrder (do
      if ← atSign "\x7d" then return none
      else if ← eatSign ";" then return some []
      else return some (← member g) : Parse (Option (List Node))) :=
    ⟨.bind fun atEnd => .ite .last (.bind fun empty => .ite .last (.bind fun m => .pure (by simp)))⟩
  unfold whole
  refine ⟨.bind fun _ => .bind fun t => .ite (.bind fun n => .pure_bind ?_) (.pure_bind ?_)⟩
  · refine .bind fun types => .bind fun bases => .bind fun _ => .bind fun members => .bind fun _ => .pure (by simp)
  · refine .bind fun types => .bind fun bases => .bind fun _ => .bind fun members => .bind fun _ => .pure (by simp)

end Class

/-! ## Markup -/

namespace Markup

instance inOrder_word : InOrder word := by
  unfold word
  refine ⟨.bind fun t => ?_⟩
  split
  · refine .bind fun s => ?_
    extract_lets rest n
    have hmodify : InOrder (modify fun s => { s with rest := rest.drop n, position := s.position + n } : Parse Unit) :=
      inOrder_modify (fun s h => Nat.le_add_right_of_le h) fun s _ => Nat.le_refl _
    exact .bind fun _ => .bind fun _ => .pure (by simp)
  · exact .giveUp

instance inOrder_elementName : InOrder elementName := by
  unfold elementName
  exact ⟨.bind fun first => .bind fun colon => .ite .last (.bind fun more => .last)⟩

instance inOrder_value : InOrder (value g) := by
  unfold value
  refine ⟨.bind fun t => .ite .last (.bind fun brace => .ite ?_ (.ite ?_ .giveUp))⟩
  · refine .bind fun empty => .ite .last ?_
    exact .bind fun e => .bind fun _ => .pure (by simp)
  · exact .bind fun e => .pure (by simp)

instance inOrder_tagValue : InOrder (jump tagValue) := inOrder_jump fits_tagValue

instance inOrder_betweenTags : InOrder (jump betweenTags) := inOrder_jump fits_betweenTags

instance inOrder_property : InOrder (property g) := by
  unfold property
  refine ⟨.bind fun brace => .ite ?_ (.bind fun t => .ite ?_ .last)⟩
  · exact .bind fun _ => .bind fun e => .bind fun _ => .pure (by simp)
  refine .bind fun _ => .bind fun colon => .optional fun _ => .bind fun equals => .ite ?_ .last
  refine .bind fun s => .ite (.bind fun _ => .bind fun v => .pure (by simp)) ?_
  exact .bind fun _ => .bind fun v => .pure (by simp)

instance inOrder_endTag (inside : Bool) : InOrder (endTag inside) := by
  unfold endTag
  infer_instance

instance inOrder_child : InOrder (child g) := by
  unfold child
  refine ⟨.bind fun t => ?_⟩
  split
  · exact .last
  · refine .bind fun _ => .bind fun empty => .ite (.pure_bind ?_) (.bind fun _ => .bind fun e => .pure_bind ?_)
    · exact .bind fun _ => .bind fun _ => .bind fun _ => .pure (by simp)
    · exact .bind fun _ => .bind fun _ => .bind fun _ => .pure (by simp)
  · exact .bind fun after => .ite .last (.bind fun e => .pure (by simp))
  · exact .giveUp

instance inOrder_content (name : Option String) (inside : Bool) : InOrder (content g name inside) := by
  unfold content
  refine ⟨.bind fun _ => .bind fun children => .bind fun _ => .bind fun _ => ?_⟩
  dsimp only
  split
  · exact .bind fun w => .bind fun _ => .bind fun _ => .pure (by simp)
  · exact .bind fun _ => .pure (by simp)

instance inOrder_element (inside : Bool) : InOrder (element g inside) := by
  unfold element
  refine ⟨.bind fun _ => .bind fun close => .ite (.bind fun parts => .pure (by simp)) ?_⟩
  refine .bind fun name => .bind fun types => .bind fun properties => .bind fun slash => ?_
  refine .ite (.bind fun _ => .pure (by simp)) ?_
  exact .bind fun close => .bind fun _ => .bind fun parts => .pure (by simp)

end Markup

/-! ## Expressions -/

namespace Expression

@[simp] theorem positions_ofPhrase (e : Phrase) : positions (Part.ofPhrase e).nodes = positions e.node := by
  simp [Part.ofPhrase]

@[simp] theorem positions_ofRest (e : Phrase) : positions (Part.ofRest e).nodes = positions e.node := by
  simp [Part.ofRest]

@[simp] theorem positions_partNodes (ps : List Part) : positions (ps.flatMap (·.nodes)) = positions ps :=
  positions_flatMap (f := Part.nodes) (fun _ => rfl) ps

@[simp] theorem positions_value (ps : List Node) : positions (Phrase.value ps).node = positions ps := positions_group ps

@[simp] theorem positions_map_node (es : List Phrase) : positions (es.map (·.node)) = positions es := by
  rw [List.map_eq_flatMap]
  exact positions_flatMap (fun e => List.append_nil _) es

instance inOrder_listPart : InOrder (listPart g) := by
  unfold listPart
  refine ⟨.bind fun hole => .ite (.pure (by simp)) (.bind fun dots => .ite ?_ ?_)⟩
  · exact .bind fun e => .pure (by simp)
  · exact .bind fun e => .pure (by simp)

instance inOrder_list : InOrder (list g) := by
  unfold list
  exact ⟨.bind fun _ => .bind fun ps => .pure (by simp)⟩

/-- What stands between the tokens is counted elsewhere. -/
instance inOrder_pending (f : State → Nat) : InOrder (modify fun s => { s with pending := f s } : Parse Unit) :=
  inOrder_modify (fun _ h => h) fun _ _ => Nat.le_refl _

instance inOrder_shorthand (k : Key) : InOrder (shorthand g k) := by
  unfold shorthand
  refine ⟨.bind fun _ => .bind fun equals => .ite ?_ (.pure (by simp))⟩
  exact .bind fun e => .bind fun _ => .pure (by simp)

instance inOrder_objectPart : InOrder (objectPart g) := by
  unfold objectPart
  refine ⟨.bind fun dots => .ite (.bind fun e => .pure (by simp)) ?_⟩
  refine .bind fun ms => .bind fun reads => .ite ?_ (.bind fun writes => .ite ?_ ?_)
  · exact .bind fun k => .bind fun p => .bind fun _ => .pure (by simp)
  · exact .bind fun k => .bind fun p => .bind fun _ => .pure (by simp)
  refine .bind fun isGenerator => .bind fun k => .bind fun bracket => .bind fun less => .ite ?_ ?_
  · exact .bind fun _ => .bind fun p => .pure (by simp)
  refine .bind fun _ => .bind fun c => .bind fun colon => .ite .last ?_
  exact .bind fun _ => .bind fun e => .pure (by simp)

instance inOrder_object : InOrder (object g) := by
  unfold object
  exact ⟨.bind fun _ => .bind fun ps => .pure (by simp)⟩

/-! ### Calls and members -/

instance inOrder_substitution : InOrder (substitution g) := by
  unfold substitution
  exact ⟨.bind fun e => .pure (by simp)⟩

instance inOrder_arguments : InOrder (arguments g) := by
  have hargument : InOrder (do
      if ← eatSign "..." then return .group [(← g.assignment true).node]
      return (← g.assignment true).node : Parse Node) :=
    ⟨.bind fun dots => .ite (.bind fun e => .pure (by simp)) (.bind fun e => .pure (by simp))⟩
  unfold arguments
  infer_instance

@[simp] theorem Chain.positions_settled (c : Chain) : positions c.settled = positions c.node ++ positions c.types := by
  unfold Chain.settled
  split
  · rename_i h
    simp [h]
  · rename_i h
    simp [h]

@[simp] theorem Chain.node_step (c : Chain) (n : Node) (f : Form) : (c.step n f).node = n := rfl

@[simp] theorem Chain.types_step (c : Chain) (n : Node) (f : Form) : (c.step n f).types = none := rfl

theorem orderly_namedMember (c : Chain) : Orderly (positions c) (namedMember c) := by
  unfold namedMember
  refine .bind fun t => ?_
  split
  · exact .bind fun _ => .pure (by simp)
  · exact .bind fun w => .pure (by simp)

theorem orderly_computedMember (c : Chain) : Orderly (positions c) (computedMember g c) := by
  unfold computedMember
  exact .bind fun _ => .bind fun e => .bind fun _ => .pure (by simp)

theorem orderly_tagged (c : Chain) : Orderly (positions c) (tagged g c) := by
  unfold tagged
  exact .bind fun _ => .bind fun t => .pure (by simp)

theorem orderly_nextMember (constructing : Bool) (c : Chain) :
    Orderly (positions c) (nextMember g constructing c) := by
  have hsome {before : List Nat} {p : Parse Chain} {c : Chain} (hp : Orderly (positions c) p)
      (hsub : (positions c).Sublist before) : Orderly before (do return some (← p)) :=
    (hp.through fun d => .pure (by simp)).mono hsub
  unfold nextMember
  refine .bind fun t => .bind fun typed => .bind fun context => ?_
  refine .ite (.bind fun _ => hsome (orderly_namedMember c) (by simp)) (.ite (.bind fun after => ?_) ?_)
  · dsimp only
    split
    · exact .bind fun _ => hsome (orderly_namedMember _) (by simp)
    · exact .bind fun _ => hsome (orderly_namedMember _) (by simp)
    · exact .ite .last (.bind fun _ => hsome (orderly_computedMember _) (by simp))
    · exact .last
  refine .ite (hsome (orderly_computedMember c) (by simp)) (.ite (.bind fun _ => .pure (by simp)) ?_)
  refine .ite (hsome (orderly_tagged c) (by simp)) (.ite (.bind fun types => ?_) .last)
  cases types with
  | none => exact .last
  | some types => exact .pure (by simp)

theorem orderly_membersOf (constructing : Bool) (n : Nat) (c : Chain) :
    Orderly (positions c) (membersOf g constructing n c) := by
  induction n generalizing c with
  | zero => exact .giveUp
  | succ n ih =>
    rw [membersOf]
    -- a link that cannot be read leaves the chain as it was, and the chain ends there
    refine (orderly_nextMember constructing c).throughOrBack fun d => ?_
    cases d with
    | none => exact .inr (.pure (List.Sublist.refl _))
    | some d => exact .inl ((ih d).mono (by simp))

theorem orderly_callsOf (n : Nat) (c : Chain) : Orderly (positions c) (callsOf g n c) := by
  induction n generalizing c with
  | zero => exact .giveUp
  | succ n ih =>
    rw [callsOf]
    refine .bind fun b => ((orderly_membersOf false b c).through fun c => ?_).mono (by simp)
    refine .bind fun link => .ite (.bind fun types => .bind fun t => .ite ?_ ?_) ?_
    · exact ((orderly_tagged _).through ih).mono (by simp)
    · exact .bind fun args => (ih _).mono (by simp)
    · exact .bind fun bracket => .ite (.bind fun args => (ih _).mono (by simp)) (.pure (by simp))

instance inOrder_access : InOrder (access g) := by
  unfold access
  refine ⟨.bind fun p => .bind fun n => ?_⟩
  have hchain := orderly_callsOf (g := g) n ⟨p.node, p.form, none, false⟩
  exact (hchain.through fun c => .pure (by simp [Chain.phrase])).mono (by simp)

/-! ### Primary expressions -/

instance inOrder_construction : InOrder (construction g) := by
  unfold construction
  refine ⟨.bind fun _ => .bind fun point => .ite (.bind fun _ => .pure (by simp)) (.bind fun p => .bind fun n => ?_)⟩
  have hchain := orderly_membersOf (g := g) true n ⟨p.node, p.form, none, false⟩
  refine (hchain.through fun c => .bind fun bracket => ?_).mono (by simp)
  exact .either fun args => .bind fun _ => .bind fun link => .bind fun _ => .pure (by simp)

instance inOrder_loaded : InOrder (loaded g) := by
  unfold loaded
  refine ⟨.bind fun _ => .within (.bind fun source => .bind fun comma => .bind fun close => .ite ?_ (.pure_bind ?_))⟩
  · exact .bind fun e => .bind fun _ => .pure_bind (.bind fun _ => .pure (by simp))
  · exact .bind fun _ => .pure (by simp)

instance inOrder_importing : InOrder (importing g) := by
  unfold importing
  refine ⟨.bind fun _ => .bind fun point => .ite (.bind fun isMeta => .ite (.pure (by simp)) ?_) .last⟩
  exact .bind fun phase => .bind fun _ => .last

instance inOrder_bracket : InOrder (bracket g) := by
  unfold bracket
  refine ⟨.bind fun _ => .bind fun list => ?_⟩
  obtain ⟨es, trailing⟩ := list
  refine .bind fun _ => ?_
  split
  · exact .giveUp
  · exact .pure (by simp)
  · exact .pure (by simp)

/-- A slash with a sign behind it that belongs to the expression is two characters long. -/
theorem orderlyAt_regularExpression {t : Token} {back : List Char} (h : back.length ≤ t.lexeme.extent) :
    OrderlyAt t [] (regularExpression back) := by
  unfold regularExpression
  refine .seq (.rescan fun cs => ?_) fun _ => .bind fun t => .bind fun _ => .bind fun _ => .pure (by simp)
  rw [extent_regex]
  omega

instance inOrder_primary : InOrder (primary g) := by
  unfold primary
  refine ⟨.current fun t => ?_⟩
  split
  · rename_i htext
    exact .passed (by rw [htext]; exact Nat.one_pos) (.pure (by simp))
  · exact .of (.bind fun _ => .pure (by simp))
  · exact .of (.bind fun n => .pure (by simp))
  · exact .of (.bind fun n => .pure (by simp))
  · exact .of .last
  · exact .of .last
  · exact .of .last
  · exact orderlyAt_regularExpression (Nat.zero_le _)
  · rename_i hsign
    exact orderlyAt_regularExpression (by rw [hsign]; decide)
  · exact .of (.bind fun ds => .bind fun c => .pure (by simp))
  · have hfunction : Orderly [] (do return .value [(← Function.whole g false false false).node] : Parse Phrase) :=
      .bind fun f => .pure (by simp)
    refine .of (.ite hfunction (.ite (.bind fun c => .pure (by simp)) (.ite .last (.ite .last ?_))))
    refine .ite (.bind fun _ => .pure (by simp)) (.ite ?_ (.ite ?_ ?_))
    · exact .bind fun _ => .bind fun t => .bind fun _ => .pure (by simp)
    · exact .bind fun after => .ite hfunction (.bind fun w => .pure (by simp))
    · exact .bind fun w => .pure (by simp)
  · exact .of .giveUp

/-! ### Operators -/

instance inOrder_hasOperand (w : String) : InOrder (hasOperand w) := by
  unfold hasOperand
  refine ⟨.bind fun isWord => .ite (.bind fun after => ?_) .last⟩
  split <;> exact .last

instance inOrder_awaited : InOrder (awaited g) := by
  unfold awaited
  exact ⟨.bind fun c => .bind fun _ => .bind fun _ => .bind fun e => .pure (by simp)⟩

instance inOrder_unary : InOrder (unary g) := by
  have hsigned : Orderly [] (do advance; let e ← g.unary; return ⟨.group [e.node], .signed⟩ : Parse Phrase) :=
    .bind fun _ => .bind fun e => .pure (by simp)
  unfold unary
  refine ⟨.bind fun t => ?_⟩
  split
  all_goals try exact hsigned.mono (List.nil_sublist _)
  · exact .bind fun _ => .bind fun e => .bind fun _ => .pure (by simp)
  · exact .bind fun _ => .bind fun e => .bind fun _ => .pure (by simp)
  · refine .bind fun c => .ite (.bind fun n => .pure (by simp)) ?_
    exact .bind fun typed => .bind fun _ => .bind fun _ => .bind fun types => .bind fun _ => .bind fun e =>
      .pure (by simp)
  · refine .bind fun await => .bind fun c => .bind fun operand => .ite .last (.bind fun e => .bind fun after => ?_)
    exact .ite (.bind fun _ => .bind fun _ => .pure (by simp)) (.pure (by simp))

theorem orderly_combined (operator : Token) (a b : Phrase) :
    Orderly (positions a ++ positions b) (combined operator a b) := by
  unfold combined
  exact .bind fun _ => .bind fun _ => .pure (by simp)

theorem orderly_operationRest (least n : Nat) (a : Phrase) :
    Orderly (positions a) (operationRest g least n a) := by
  induction n generalizing a with
  | zero => exact .giveUp
  | succ n ih =>
    rw [operationRest]
    refine .bind fun _ => .bind fun t => ?_
    split
    · exact .pure (by simp)
    refine .ite (.pure (by simp)) (.bind fun c => .ite (.pure (by simp)) (.ite (.ite (.pure (by simp)) ?_) ?_))
    · exact .bind fun _ => .bind fun types => .bind fun typed => .bind fun _ => (ih _).mono (by simp)
    · refine .bind fun _ => .bind fun b => ?_
      exact ((orderly_combined t a b).through ih).mono (by simp)

instance inOrder_operation (least : Nat) : InOrder (operation g least) := by
  have hrest (first : Phrase) : Orderly (positions first) (do operationRest g least (← bound) first) :=
    .bind fun n => (orderly_operationRest least n first).mono (by simp)
  unfold operation
  refine ⟨.bind fun c => .bind fun t => ?_⟩
  dsimp only
  split
  · exact .bind fun _ => .bind fun _ => .bind fun _ => .bind fun e => .pure_bind ((hrest _).mono (by simp))
  · exact .bind fun first => (hrest first).mono (by simp)

/-! ### Arrow functions -/

instance inOrder_bracketArrow : InOrder (bracketArrow g) := by
  unfold bracketArrow
  exact ⟨.bind fun h => .bind fun b => .pure (by simp)⟩

instance inOrder_typedBody (h : Function.Head) (returnType : Bool) : InOrder (typedBody g h returnType) := by
  unfold typedBody
  exact ⟨.ite .last (.bind fun b => .bind fun colon => .bind fun _ => .pure (by simp))⟩

/-- Where brackets are plain is kept beside the place in the text. -/
instance inOrder_plainBrackets (f : State → List Nat) :
    InOrder (modify fun s => { s with plainBrackets := f s } : Parse Unit) :=
  inOrder_modify (fun _ h => h) fun _ _ => Nat.le_refl _

instance inOrder_tryArrow (returnType : Bool) : InOrder (tryArrow g returnType) := by
  unfold tryArrow
  refine ⟨.bind fun t => .bind fun s => .ite .last (.bind fun c => .otherwise fun _ => ?_)⟩
  -- an attempt that is given up leaves the place where it was, and nothing of it in the answer
  refine .seq (.attempt (.within (.bind fun h => .bind fun b => .pure (by simp)))) fun found => ?_
  split
  · exact .last
  · exact .pure (by simp)
  · exact .bind fun b => .pure (by simp)

instance inOrder_arrow? (returnType : Bool) : InOrder (arrow? g returnType) := by
  unfold arrow?
  refine ⟨.bind fun t => .ite .last (.bind fun guess => ?_)⟩
  split
  · exact .last
  · exact .bind fun e => .pure (by simp)
  · exact .last

instance inOrder_arrowAfter (isAsync returnType : Bool) : InOrder (arrowAfter g isAsync returnType) := by
  unfold arrowAfter
  exact ⟨.bind fun newline => .bind fun _ => .bind fun _ => .bind fun b => .pure (by simp)⟩

/-! ### Assignments -/

instance inOrder_yielded : InOrder (yielded g) := by
  unfold yielded
  refine ⟨.bind fun c => .bind fun _ => .bind fun _ => .bind fun newline => .ite (.pure (by simp)) ?_⟩
  exact .bind fun delegates => .bind fun t => .ite (.pure (by simp)) (.bind fun e => .pure (by simp))

theorem orderly_assigned (returnType : Bool) (left : Phrase) :
    Orderly (positions left) (assigned g returnType left) := by
  unfold assigned
  refine .bind fun plain => .bind fun _ => .optional fun _ => ?_
  exact .bind fun _ => .bind fun right => .pure (by simp)

theorem orderly_conditional (returnType : Bool) (test : Phrase) :
    Orderly (positions test) (conditional g returnType test) := by
  unfold conditional
  refine .bind fun question => .ite (.pure (by simp)) ?_
  exact .bind fun yes => .bind fun _ => .bind fun no => .pure (by simp)

instance inOrder_assignment (returnType : Bool) : InOrder (assignment g returnType) := by
  unfold assignment
  refine ⟨.bind fun yield => .bind fun c => .bind fun operand => .ite .last (.bind fun arrow => ?_)⟩
  split
  · exact .pure (by simp)
  refine .bind fun async => .bind fun starts => .ite (.bind fun _ => .bind fun _ => .last) ?_
  refine .bind fun left => .bind fun t => .ite .last (.ite ?_ ?_)
  · exact (orderly_assigned returnType left).mono (by simp)
  · exact (orderly_conditional returnType left).mono (by simp)

end Expression

end ImportSurvey.Script
