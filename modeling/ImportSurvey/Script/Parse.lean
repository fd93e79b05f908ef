import ImportSurvey.Script.Dialect
import ImportSurvey.Script.Scanner
import ImportSurvey.Script.Tree

/-
  What the productions of the grammar have in common: where they stand in the text, what surrounds
  them, and what they do with a token.

  A production either reads something and answers what follows it, or gives up.  Most mistakes make it
  give up, and then the whole text has no tree, unless whoever asked for the production tries another
  one at the same place.  Mistakes after which reading can go on are only counted.

  Nothing here bounds the recursion of the productions: loops take their bound from the size of the
  text, and nesting is bounded where the grammar is tied together.
-/
namespace ImportSurvey.Script

/-- What surrounds a production. -/
structure Context where
  dialect : Dialect
  /-- `in` is an operator here -/
  allowIn : Bool := true
  /-- `await` is an operator here -/
  allowAwait : Bool := false
  allowYield : Bool := false
  /-- inside the body of a function -/
  allowReturn : Bool := false
  /-- only declarations, which have no values -/
  ambient : Bool := false
  /-- in the expression of a decorator, where a bracket does not select a member -/
  decorating : Bool := false
  /-- a type followed by `extends` is not the start of a conditional type -/
  plainTypes : Bool := false
  /-- in a reading that may be given up in favour of another one of the same text -/
  tentative : Bool := false
deriving Repr

/-- A place in a text. -/
structure State where
  /-- the token at this place -/
  token : Token
  /-- what follows the token -/
  rest : List Char
  /-- how many characters stand before `rest` -/
  position : Nat
  faults : Nat := 0
  /-- how many properties of object literals have a default but are in no pattern yet -/
  pending : Nat := 0
  /-- the names under which something was exported -/
  exported : List String := []
  /-- where brackets were found not to be those of an arrow function -/
  plainBrackets : List Nat := []
  /-- a bound for the number of tokens -/
  size : Nat
deriving Repr

/-- The place after a cut of the text that starts at `position`. -/
def State.after (s : State) (cut : Cut) (rest : List Char) (position : Nat) (newline : Bool) : State :=
  { s with
    token := ⟨cut.lexeme, position, newline⟩
    rest := rest.drop cut.length
    position := position + cut.length
    faults := s.faults + cut.faults }

/-- Back at the place `s`, with what was found out about the text since. -/
def State.learning (s since : State) : State := { s with plainBrackets := since.plainBrackets }

/-- A production: answers what it read, or gives up; and the place that it came to. -/
abbrev Parse (α : Type) := ReaderT Context (OptionT (StateM State)) α

namespace Parse

variable {α β : Type}

def giveUp : Parse α := fun _ s => (none, s)

def fault (count : Nat := 1) : Parse Unit := modify fun s => { s with faults := s.faults + count }

/-- Counts a fault if there is one. -/
def faultIf (wrong : Bool) : Parse Unit := if wrong then fault else pure ()

/-- Goes on only if `p` holds. -/
def require (p : Bool) : Parse Unit := if p then pure () else giveUp

def isTyped : Parse Bool := return (← read).dialect.isTyped

/-- Reads with other surroundings. -/
def within (change : Context → Context) (p : Parse α) : Parse α := fun c s => p (change c) s

/-- Reads without moving; nothing if the production gives up. -/
def ahead (p : Parse α) : Parse (Option α) := fun c s =>
  let (a, s') := p c s
  (some a, s.learning s')

/-- Whether a test of what follows succeeds. -/
def looksLike (p : Parse Bool) : Parse Bool := return (← ahead p).getD false

/-- Reads, or stays where it is if the production gives up. -/
def attempt (p : Parse α) : Parse (Option α) := fun c s =>
  match p c s with
  | (some a, s') => (some (some a), s')
  | (none, s') => (some none, s.learning s')

/-- A bound for loops that read a token each time. -/
def bound : Parse Nat := return (← get).size

/-- Reads as long as `p` finds something. -/
def collect (p : Parse (Option α)) : Nat → Parse (List α)
  | 0 => giveUp
  | n + 1 => do
    match ← p with
    | some a => return a :: (← collect p n)
    | none => return []

/-- All that `p` finds. -/
def many (p : Parse (Option α)) : Parse (List α) := do collect p (← bound)

/-! ## Tokens -/

def current : Parse Token := return (← get).token

/-- Moves to what `scan` finds where the current token ends. -/
def jump (scan : List Char → Cut) : Parse Unit :=
  modify fun s => s.after (scan s.rest) s.rest s.position false

/-- Moves to the next token, past blanks and comments. -/
def move : Parse Unit := do
  let script := !(← read).dialect.isModule
  modify fun s =>
    let gap := skip script .blank s.rest s.position false
    let s := if gap.unclosed then { s with faults := s.faults + 1 } else s
    s.after (next gap.rest) gap.rest gap.position gap.newline

/-- Moves on from a word that is a name here, whatever it is elsewhere. -/
def skipWord : Parse Unit := move

/-- Moves on.  A keyword must be written without escapes. -/
def advance : Parse Unit := do
  match (← current).lexeme with
  | .word w true => faultIf (isKeyword w)
  | _ => pure ()
  move

/-- The token after this one. -/
def peek : Parse Token := do
  return (← ahead (do move; current)).getD ⟨.endOfText, 0, false⟩

def atSign (s : String) : Parse Bool := return (← current).isSign s

def atWord (w : String) : Parse Bool := return (← current).isWord w

def atName : Parse Bool := return (← current).isName

/-- The token is the first of its line. -/
def onNewLine : Parse Bool := return (← current).newline

/-- Moves past a sign if it is there. -/
def eatSign (s : String) : Parse Bool := do
  if ← atSign s then advance; return true else return false

def eatWord (w : String) : Parse Bool := do
  if ← atWord w then advance; return true else return false

def expectSign (s : String) : Parse Unit := do require (← eatSign s)

def expectWord (w : String) : Parse Unit := do require (← eatWord w)

/-- A statement can end here without a semicolon. -/
def canEnd : Parse Bool := do
  let t ← current
  return t.newline || t.isSign ";" || t.isSign "\x7d" || t.isEnd

/-- The end of a statement. -/
def endStatement : Parse Unit := do
  unless ← eatSign ";" do require (← canEnd)

/-- Puts the scanned token of a special place in the place of the current one, whose first
`keep` characters belong to the token before. -/
def rescan (scan : List Char → Cut) (back : List Char) : Parse Unit :=
  modify fun s =>
    let rest := back ++ s.rest
    let cut := scan rest
    { s with
      token := { s.token with lexeme := cut.lexeme }
      rest := rest.drop cut.length
      position := s.position - back.length + cut.length
      faults := s.faults + cut.faults }

/-- Joins a `>` with what follows it at once, where that is one operator. -/
def joinGreater : Parse Unit := do
  if ← atSign ">" then
    let rest := (← get).rest
    let operators := [">>>=", ">>>", ">>=", ">>", ">="]
    match operators.find? fun o => (o.toList.drop 1).isPrefixOf rest with
    | some o => rescan (fun _ => ⟨.sign o, o.length - 1, 0⟩) []
    | none => pure ()

/-- Takes the first character of `<<` or `<=` as a token of its own; whether there is a `<` now. -/
def splitLess : Parse Bool := do
  let t ← current
  let split (back : String) : Parse Bool := do
    rescan (fun _ => ⟨.sign "<", 0, 0⟩) back.toList
    return true
  if t.isSign "<<" then split "<"
  else if t.isSign "<=" then split "="
  else return t.isSign "<"

/-! ## Names and literals -/

/-- Refuses a word that is an operator here as a name. -/
def checkName (w : String) : Parse Unit := do
  let c ← read
  faultIf ((c.allowAwait && w == "await") || (c.allowYield && w == "yield"))

/-- A name that is used or declared. -/
def name : Parse String := do
  match (← current).word? with
  | some w =>
    require (!isReserved w)
    checkName w
    skipWord
    return w
  | none => giveUp

/-- A word after a point or before a colon, where keywords are names too. -/
def anyWord : Parse String := do
  match (← current).word? with
  | some w => skipWord; return w
  | none => giveUp

/-- A string literal. -/
def literal : Parse Literal := do
  let t ← current
  match t.lexeme with
  | .text value => advance; return ⟨value, t.start⟩
  | _ => giveUp

/-! ## Lists -/

/-- Items with commas between them up to where `closed` says that they end; whether a comma stands
there. -/
def listUntil (closed : Parse Bool) (item : Parse α) : Parse (List α × Bool) := do
  let rec go : Nat → Parse (List α × Bool)
    | 0 => giveUp
    | n + 1 => do
      let a ← item
      if ← closed then return ([a], false)
      expectSign ","
      if ← closed then return ([a], true)
      let (as, trailing) ← go n
      return (a :: as, trailing)
  if ← closed then return ([], false)
  go (← bound)

/-- Items with commas between them up to a closing sign, which is read too. -/
def listTo (close : String) (item : Parse α) : Parse (List α) :=
  return (← listUntil (eatSign close) item).1

end Parse

end ImportSurvey.Script
