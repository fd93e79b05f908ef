import ImportSurvey.Script.Statement

/-
  The whole grammar: the productions tied together, and scripts as lists of statements.
-/
namespace ImportSurvey.Script

open Parse

/-- The productions, for scripts that nest at most `depth` deep. -/
def grammar : Nat → Grammar
  | 0 =>
    { assignment := fun _ => giveUp, operation := fun _ => giveUp, unary := giveUp, access := giveUp,
      primary := giveUp, element := fun _ => giveUp, type := giveUp, typeOperand := giveUp,
      pattern := giveUp, statement := fun _ => giveUp }
  | depth + 1 =>
    { assignment := fun r c s => Expression.assignment (grammar depth) r c s
      operation := fun n c s => Expression.operation (grammar depth) n c s
      unary := fun c s => Expression.unary (grammar depth) c s
      access := fun c s => Expression.access (grammar depth) c s
      primary := fun c s => Expression.primary (grammar depth) c s
      element := fun i c s => Markup.element (grammar depth) i c s
      type := fun c s => Types.whole (grammar depth) c s
      typeOperand := fun c s => Types.operand (grammar depth) c s
      pattern := fun c s => bindingTarget (grammar depth) c s
      statement := fun p c s => Statement.whole (grammar depth) p c s }

/-- A script with its tree. -/
structure Program where
  tree : Node
  /-- how many faults were found that reading could go on after -/
  faults : Nat
deriving Repr

namespace Program

/-- Passes over a first line that tells a shell how to run the script. -/
def afterShellLine (cs : List Char) : List Char :=
  match cs with
  | '#' :: '!' :: rest => rest.dropWhile fun c => !Escape.isLineEnd c
  | cs => cs

/-- The place before the first token. -/
def start (d : Dialect) (cs : List Char) : State :=
  let rest := afterShellLine cs
  let gap := skip (!d.isModule) .blank rest (cs.length - rest.length) true
  let s : State := {
    token := ⟨.senseless, 0, true⟩, rest := [], position := 0, size := cs.length + 2,
    faults := if gap.unclosed then 1 else 0 }
  s.after (next gap.rest) gap.rest gap.position true

/-- Statements up to the end of the text. -/
def statements (g : Grammar) : Parse (List Node) :=
  many do
    if (← current).isEnd then return none else return some (← g.statement .list)

/-- How deep a text of `n` characters can nest.  Between two characters the productions nest a few
levels at most. -/
def depthOf (n : Nat) : Nat := 4 * n + 64

/-- Reads a script; nothing if it makes no sense. -/
def read? (d : Dialect) (text : String) : Option Program :=
  let cs := text.toList
  let c : Context := { dialect := d, allowAwait := d.isModule, ambient := d.isDefinition }
  match statements (grammar (depthOf cs.length)) c (start d cs) with
  | (some ns, s) => some ⟨.group ns, s.faults + s.pending⟩
  | (none, _) => none

end Program

end ImportSurvey.Script
