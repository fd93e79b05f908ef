import ImportSurvey.Proofs.ReadingOrderTokens

/-
  Patterns and types are read in the order of the text.

  A proof follows its production from step to step: `bind` for a step whose answer is kept, `ite` for a choice,
  `last` where the answer is that of the last step and holds all literals that matter, `pure` where the parts are
  put together.  What is to be shown there is that the literals of the answer are among those of the steps, in
  their order, which is a matter of simplification.  Where several ways lead to the same rest of a production, the
  rest is dealt with once (`either`, `optional`, `otherwise`, or by name).

  Productions call each other through the grammar.  What they rely on is that all productions of the grammar read
  in order (`Grammar.Orderly`); that there is such a grammar is shown at the end, by induction on how deep a script
  may nest.
-/
namespace ImportSurvey.Script

open Parse

/-- All productions of a grammar read in the order of the text. -/
class Grammar.Orderly (g : Grammar) : Prop where
  assignment (returnType : Bool) : InOrder (g.assignment returnType)
  operation (rank : Nat) : InOrder (g.operation rank)
  unary : InOrder g.unary
  access : InOrder g.access
  primary : InOrder g.primary
  element (inside : Bool) : InOrder (g.element inside)
  type : InOrder g.type
  typeOperand : InOrder g.typeOperand
  pattern : InOrder g.pattern
  statement (site : Site) : InOrder (g.statement site)

attribute [instance] Grammar.Orderly.assignment Grammar.Orderly.operation Grammar.Orderly.unary
  Grammar.Orderly.access Grammar.Orderly.primary Grammar.Orderly.element Grammar.Orderly.type
  Grammar.Orderly.typeOperand Grammar.Orderly.pattern Grammar.Orderly.statement

variable {g : Grammar} [g.Orderly]

/-! ## Expressions with commas -/

instance inOrder_expression : InOrder (expression g) := by
  unfold expression
  refine ⟨.within (.bind fun first => .bind fun comma => .ite ?_ (.pure (by simp)))⟩
  refine .seq (.many ?_) fun more => .pure (by simp [Phrase.value])
  exact .bind fun comma => .ite (.bind fun e => .pure (by simp)) .last

instance inOrder_bracketed : InOrder (bracketed g) := by
  unfold bracketed
  exact ⟨.bind fun _ => .bind fun e => .bind fun _ => .pure (by simp)⟩

/-! ## Words before a declaration -/

namespace Modifier

instance inOrder_followsModifier : InOrder followsModifier := by
  unfold followsModifier
  infer_instance

instance inOrder_followsDefault : InOrder followsDefault := by
  unfold followsDefault
  infer_instance

instance inOrder_taken (w : String) : InOrder (taken w) := by
  unfold taken
  refine ⟨.bind fun _ => ?_⟩
  dsimp only
  split <;> exact .last

instance inOrder_next? (constant block : Bool) (seen : List String) : InOrder (next? constant block seen) := by
  unfold next?
  refine ⟨.bind fun t => ?_⟩
  split
  · refine .ite .last (.bind fun after => .ite .last ?_)
    exact .last
  · exact .last

instance inOrder_all (constant block : Bool) : InOrder (all constant block) := by
  have hgo (n : Nat) (seen : List String) : Orderly [] (all.go constant block n seen) := by
    induction n generalizing seen with
    | zero => exact .giveUp
    | succ n ih =>
      rw [all.go]
      refine .bind fun w => ?_
      split
      · exact (ih _).mono (List.nil_sublist _)
      · exact .last
  exact ⟨.bind fun n => (hgo n []).mono (List.nil_sublist _)⟩

instance inOrder_check (words allowed : List String) : InOrder (check words allowed) := inOrder_fault _

end Modifier

/-! ## Decorators and keys -/

instance inOrder_decorators : InOrder (decorators g) :=
  ⟨.many (.bind fun sign => .ite (.bind fun e => .pure (by simp)) .last)⟩

instance inOrder_key : InOrder (key g) := by
  unfold key
  refine ⟨.bind fun t => ?_⟩
  split
  · exact .bind fun _ => .pure (by simp)
  · exact .bind fun _ => .pure (by simp)
  · exact .bind fun _ => .pure (by simp)
  · exact .bind fun _ => .bind fun e => .bind fun _ => .pure (by simp)
  · exact .giveUp

/-! ## Patterns -/

instance inOrder_annotation : InOrder ( annotation g) := by
  unfold annotation
  infer_instance

instance inOrder_initializer : InOrder (initializer g) := by
  unfold initializer
  exact ⟨.bind fun equals => .ite (.bind fun e => .pure (by simp)) .last⟩

instance inOrder_bindingElement : InOrder (bindingElement g) := by
  unfold bindingElement
  refine ⟨.bind fun target => .bind fun typed => .optional fun _ => ?_⟩
  exact .bind fun type => .bind fun value => .pure (by simp)

instance inOrder_restElement : InOrder (restElement g) := by
  unfold restElement
  refine ⟨.bind fun target => .bind fun typed => .optional fun _ => ?_⟩
  exact .bind fun type => .bind fun equals => .bind fun _ => .bind fun value => .pure (by simp)

instance inOrder_elementsTo {close : String} {item : Parse Binding} [InOrder item] :
    InOrder (elementsTo g close item) := by
  have hgo (n : Nat) (closed : Bool) : Orderly [] (elementsTo.go g close item n closed) := by
    induction n generalizing closed with
    | zero => exact .giveUp
    | succ n ih =>
      rw [elementsTo.go]
      refine .bind fun atEnd => .ite (.pure (by simp)) (.bind fun _ => .bind fun isRest => .either fun e => ?_)
      refine .bind fun atClose => .ite ?_ ?_
      · exact .seq (ih _) fun es => .pure (by simp)
      · refine .bind fun _ => .bind fun trailing => .ite ?_ ?_
        · exact .bind fun c => .bind fun _ => .seq (ih _) fun es => .pure (by simp)
        · exact .seq (ih _) fun es => .pure (by simp)
  exact ⟨.bind fun n => (hgo n false).mono (List.nil_sublist _)⟩

@[simp] theorem positions_join (bs : List Binding) : positions (Binding.join bs).nodes = positions bs :=
  positions_flatMap (f := Binding.nodes) (fun _ => rfl) bs

instance inOrder_bindingProperty : InOrder (bindingProperty g) := by
  unfold bindingProperty
  refine ⟨.bind fun k => .bind fun colon => .ite ?_ ?_⟩
  · exact .bind fun _ => .bind fun value => .pure (by simp)
  · exact .bind fun _ => .bind fun b => .pure (by simp)

instance inOrder_bindingTarget : InOrder (bindingTarget g) := by
  have hhole : InOrder (do if ← atSign "," then return {} else bindingElement g : Parse Binding) :=
    ⟨.bind fun comma => .ite (.pure (by simp)) .last⟩
  unfold bindingTarget
  refine ⟨.bind fun bracket => .ite (.bind fun bs => .pure (by simp)) ?_⟩
  exact .bind fun brace => .ite (.bind fun bs => .pure (by simp)) (.bind fun w => .pure (by simp))

/-! ## Parameters -/

instance inOrder_parameter : InOrder (parameter g) := by
  unfold parameter
  refine ⟨.bind fun ds => .bind fun ms => .bind fun typed => ?_⟩
  exact .bind fun _ => .bind fun b => .pure (by simp)

instance inOrder_parameters : InOrder (parameters g) := by
  unfold parameters
  refine ⟨.bind fun _ => .bind fun typed => .bind fun this => ?_⟩
  refine .ite (.bind fun _ => .bind fun type => .bind fun close => .otherwise fun _ => ?_) ?_
  · exact .pure_bind (.bind fun list => .pure (by simp))
  · exact .pure_bind (.bind fun list => .pure (by simp))

/-! ## Types -/

namespace Types

instance inOrder_angled {closed : Parse Bool} [InOrder closed] : InOrder (angled g closed) := by
  unfold angled
  exact ⟨.bind fun _ => .bind fun empty => .bind fun _ => .bind fun types => .pure (by simp)⟩

instance inOrder_arguments : InOrder (arguments g) := by
  unfold arguments
  infer_instance

instance inOrder_argumentsHere : InOrder (argumentsHere g) := by
  unfold argumentsHere
  infer_instance

instance inOrder_argumentsInExpression : InOrder (argumentsInExpression g) := by
  unfold argumentsInExpression
  refine ⟨.bind fun _ => .bind fun _ => .bind fun _ => .bind fun _ => .bind fun types => .bind fun t => ?_⟩
  exact .ite (.pure (by simp)) (.bind fun _ => .bind fun _ => .pure (by simp))

instance inOrder_parameter : InOrder (Types.parameter g) := by
  unfold parameter
  refine ⟨.bind fun ms => .bind fun _ => .bind fun _ => .bind fun extending => ?_⟩
  exact .either fun constraint => .bind fun equals => .either fun default => .pure (by simp)

instance inOrder_parameters : InOrder (Types.parameters g) := by
  unfold parameters
  refine ⟨.bind fun typed => .bind fun less => .ite .last ?_⟩
  exact .bind fun _ => .bind fun empty => .bind fun _ => .bind fun types => .pure (by simp)

instance inOrder_result : InOrder (result g) := by
  unfold result
  infer_instance

instance inOrder_resultAnnotation : InOrder ( resultAnnotation g) := by
  unfold resultAnnotation
  infer_instance

instance inOrder_startsFunction : InOrder (startsFunction g) := by
  unfold startsFunction
  infer_instance

instance inOrder_function : InOrder (Types.function g) := by
  unfold function
  refine ⟨.bind fun _ => .bind fun _ => .bind fun types => .bind fun ps => .bind fun _ => ?_⟩
  exact .bind fun result => .pure (by simp)

/-! ### Members -/

instance inOrder_endMember : InOrder endMember := by
  unfold endMember
  infer_instance

instance inOrder_atIndex : InOrder atIndex := by
  unfold atIndex
  infer_instance

instance inOrder_index : InOrder (index g) := by
  unfold index
  exact ⟨.bind fun _ => .bind fun keys => .bind fun type => .pure (by simp)⟩

instance inOrder_signature : InOrder (signature g) := by
  unfold signature
  exact ⟨.bind fun types => .bind fun ps => .bind fun result => .pure (by simp)⟩

instance inOrder_eatAccess (w : String) : InOrder (eatAccess w) := by
  unfold eatAccess
  infer_instance

instance inOrder_member : InOrder (member g) := by
  unfold member
  refine ⟨.bind fun bracket => .bind fun less => .ite (.bind fun s => .bind fun _ => .pure (by simp)) ?_⟩
  refine .bind fun new => ?_
  extract_lets -underBinder rest
  have hrest (u : Unit) : Orderly ([] ++ positions bracket ++ positions less ++ positions new) (rest u) := by
    refine .bind fun ms => .bind fun _ => .bind fun reads => .either fun accessed => .ite ?_ ?_
    · exact .bind fun k => .bind fun s => .bind fun _ => .pure (by simp)
    refine .bind fun isIndex => .ite (.bind fun s => .bind fun _ => .pure (by simp)) ?_
    refine .bind fun k => .bind fun _ => .bind fun bracket => .bind fun less => .either fun s => ?_
    exact .bind fun _ => .pure (by simp)
  refine .ite (.bind fun after => .ite ?_ ?_) (hrest ())
  · exact .bind fun _ => .bind fun s => .bind fun _ => .pure (by simp)
  · exact (hrest ()).mono (by simp)

instance inOrder_members : InOrder (members g) := by
  unfold members
  refine ⟨.bind fun _ => .seq (.many ?_) fun ms => .bind fun _ => .pure (by simp)⟩
  exact .bind fun atEnd => .ite .last (.bind fun m => .pure (by simp))

instance inOrder_eatPlusMinus : InOrder eatPlusMinus := by
  unfold eatPlusMinus
  infer_instance

instance inOrder_changed {eatMark : Parse Bool} [InOrder eatMark] : InOrder (changed eatMark) := by
  unfold changed
  infer_instance

instance inOrder_mapping : InOrder (mapping g) := by
  unfold mapping
  refine ⟨.bind fun _ => .bind fun _ => .bind fun _ => .bind fun _ => .bind fun _ => .bind fun keys => ?_⟩
  refine .bind fun as => .either fun renamed => .bind fun _ => .bind fun _ => .bind fun value => ?_
  exact .bind fun comma => .otherwise fun _ => .bind fun _ => .pure (by simp)

/-! ### Operands -/

instance inOrder_path : InOrder path := by
  have hstep : InOrder (do
      if ← eatSign "." then
        match (← current).lexeme with
        | .privateWord _ => advance
        | _ => discard anyWord
        return some ()
      else return none : Parse (Option Unit)) := by
    refine ⟨.bind fun point => .ite (.bind fun t => ?_) .last⟩
    dsimp only
    split <;> exact .last
  unfold path
  infer_instance

instance inOrder_reference : InOrder (reference g) := by
  unfold reference
  infer_instance

instance inOrder_imported : InOrder (imported g) := by
  unfold imported
  refine ⟨.bind fun _ => .bind fun _ => .bind fun source => .bind fun comma => .bind fun close => ?_⟩
  refine .ite (.bind fun e => .bind fun _ => .pure_bind ?_) (.pure_bind ?_)
  · exact .bind fun _ => .bind fun point => .optional fun _ => .bind fun types => .pure (by simp)
  · exact .bind fun _ => .bind fun point => .optional fun _ => .bind fun types => .pure (by simp)

instance inOrder_ofValue : InOrder (ofValue g) := by
  unfold ofValue
  infer_instance

instance inOrder_tuplePart : InOrder (tuplePart g) := by
  unfold tuplePart
  refine ⟨.bind fun named => .ite ?_ (.bind fun _ => .last)⟩
  exact .bind fun _ => .bind fun _ => .bind fun _ => .bind fun _ => .last

instance inOrder_atom : InOrder (atom g) := by
  unfold atom
  refine ⟨.bind fun t => ?_⟩
  split
  · exact .last
  · exact .last
  · exact .last
  · exact .bind fun n => .pure (by simp)
  · refine .bind fun _ => .bind fun t => ?_
    split <;> exact .last
  · exact .last
  · exact .bind fun _ => .bind fun parts => .pure (by simp)
  · exact .bind fun _ => .bind fun inner => .bind fun _ => .pure (by simp)
  · exact .last
  · exact .last
  · exact .ite .last (.ite .last (.ite .last (.ite .last (.ite (.bind fun after => .ite .last .last) .last))))
  · exact .last

instance inOrder_suffix : InOrder (suffix g) := by
  unfold suffix
  refine ⟨.bind fun t => .ite .last (.ite .last (.ite .last (.ite ?_ .last)))⟩
  refine .bind fun _ => .bind fun close => .ite (.pure (by simp)) ?_
  exact .bind fun inner => .bind fun _ => .pure (by simp)

instance inOrder_inferred : InOrder (inferred g) := by
  unfold inferred
  refine ⟨.bind fun _ => .bind fun c => .seq (.attempt ?_) fun constraint => .pure (by simp)⟩
  exact .bind fun _ => .bind fun t => .bind fun choice => .bind fun _ => .pure (by simp)

instance inOrder_operand : InOrder (operand g) := by
  unfold operand
  refine ⟨.bind fun t => .ite .last (.ite .last (.within ?_))⟩
  exact .bind fun first => .bind fun more => .pure (by simp)

/-! ### Operators -/

instance inOrder_joined {sign : String} {item : Parse (List Node)} [InOrder item] : InOrder (joined g sign item) := by
  unfold joined
  refine ⟨.bind fun led => .either fun first => .seq (.many ?_) fun more => .pure (by simp)⟩
  exact .bind fun sign => .ite (.bind fun t => .pure (by simp)) .last

instance inOrder_union : InOrder (union g) := by
  unfold union
  infer_instance

instance inOrder_whole : InOrder (whole g) := by
  unfold whole
  refine ⟨.bind fun isFunction => .ite .last (.bind fun t => .bind fun c => .bind fun newline => ?_)⟩
  refine .bind fun extending => .ite (.bind fun _ => .bind fun bound => .bind fun _ => ?_) (.pure (by simp))
  exact .bind fun yes => .bind fun _ => .bind fun no => .pure (by simp)

end Types

end ImportSurvey.Script
