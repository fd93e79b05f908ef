import ImportSurvey.Script.Parse

/-
  The shape of the grammar.

  Nearly every production can contain every other one.  So that each can be defined and understood by
  itself, a production gets the productions it contains as an argument, the record `Grammar`.  Where the
  grammar is tied together, each level of the record is made of the productions over the level below,
  so the depth of nesting that is read is the number of levels.
-/
namespace ImportSurvey.Script

/-- What an expression can be besides a value. -/
inductive Form where
  /-- a bare name -/
  | name
  /-- a place to assign to -/
  | place
  /-- a list or an object; `sound` if it can be a pattern, and how many of its properties have a
  default and wait for that -/
  | pattern (sound : Bool) (pending : Nat)
  /-- `target = value` -/
  | assigned
  /-- a choice by `||` or `&&` -/
  | choice
  /-- an operator before an operand -/
  | signed
  /-- `import()` -/
  | importing
  | other
deriving DecidableEq, Repr, Inhabited

namespace Form

/-- A name or a place can be assigned to even in brackets. -/
def isSimple (f : Form) : Bool := f == .name || f == .place

/-- What the same expression is in brackets, or with a type attached. -/
def wrapped (f : Form) : Form := if f.isSimple then .place else .other

/-- Whether it can stand to the left of `=`. -/
def isTarget (f : Form) : Bool :=
  match f with
  | .pattern sound _ => sound
  | f => f.isSimple

/-- Whether it can be part of a pattern. -/
def isElement (f : Form) : Bool := f.isTarget || f == .assigned

/-- How many properties stop waiting when it becomes a pattern. -/
def pending (f : Form) : Nat :=
  match f with
  | .pattern _ n => n
  | _ => 0

end Form

/-- An expression. -/
structure Phrase where
  node : Node
  form : Form
deriving Repr, Inhabited

namespace Phrase

/-- An expression that is only a value, with its parts. -/
def value (parts : List Node) : Phrase := ⟨.group parts, .other⟩

end Phrase

/-- What a declaration gives names to: the expressions and types in it, and the names. -/
structure Binding where
  nodes : List Node := []
  names : List String := []
deriving Repr, Inhabited

/-- Where a statement stands. -/
inductive Site where
  /-- among others, in a block or a script -/
  | list
  /-- alone, after the head of another statement -/
  | single
deriving DecidableEq, Repr

structure Grammar where
  /-- an expression without commas; the flag allows an arrow function to name the type of its result -/
  assignment : Bool → Parse Phrase
  /-- operands joined by operators that bind tighter than the given rank -/
  operation : Nat → Parse Phrase
  unary : Parse Phrase
  /-- a call, a member or less -/
  access : Parse Phrase
  primary : Parse Phrase
  /-- an element of markup; the flag says that it stands between tags -/
  element : Bool → Parse Node
  type : Parse (List Node)
  /-- a type without operators between types -/
  typeOperand : Parse (List Node)
  /-- what a declaration gives names to, without its type -/
  pattern : Parse Binding
  statement : Site → Parse Node

namespace Parse

/-- Expressions with commas between them. -/
def expression (g : Grammar) : Parse Phrase := within (fun c => { c with decorating := false }) do
  let first ← g.assignment true
  if ← atSign "," then
    let more ← many do
      if ← eatSign "," then return some (← g.assignment true).node else return none
    return .value (first.node :: more)
  return first

/-- An expression where `in` is an operator. -/
def freely {α : Type} (p : Parse α) : Parse α :=
  within (fun c => { c with allowIn := true, decorating := false }) p

/-- An expression in round brackets. -/
def bracketed (g : Grammar) : Parse Node := do
  expectSign "("
  let e ← expression g
  expectSign ")"
  return e.node

/-- A template that starts here: its literal if it has no substitutions, else what they hold.  Only a
tag may see escapes that make no sense. -/
def template (tagged : Bool) (substitution : Parse (List Node)) : Parse Node := do
  let t ← current
  let piece (sound : Bool) : Parse Unit := faultIf (!sound && !tagged)
  let rec go : Nat → Parse (List Node)
    | 0 => giveUp
    | n + 1 => do
      let parts ← substitution
      require (← atSign "\x7d")
      rescan (fun cs => let c := templatePiece false cs; { c with length := c.length - 1 }) []
      match (← current).lexeme with
      | .templateMiddle sound =>
        piece sound
        advance
        return parts ++ (← go n)
      | .templateTail sound =>
        piece sound
        advance
        return parts
      | _ => giveUp
  match t.lexeme with
  | .template (some value) => advance; return .template ⟨value, t.start⟩
  | .template none => piece false; advance; return .group []
  | .templateHead sound =>
    piece sound
    advance
    return .group (← go (← bound))
  | _ => giveUp

end Parse

end ImportSurvey.Script
