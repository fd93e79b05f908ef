/-
  Glob patterns over path texts.

  `?` is any character and `*` any run of characters, separators included; `**`, which must be a path
  component of its own, is any run of components; `[…]` and `[!…]` are sets.  Matching tries the
  shortest run first, and a try that runs out of text ends the whole match: no longer run can do with
  less text.
-/
namespace ImportSurvey

/-- One member of a bracketed set. -/
inductive Glob.Member where
  | char (c : Char)
  | range (low high : Char)
deriving Repr, DecidableEq

def Glob.Member.holds (x : Char) : Member → Bool
  | .char c => x == c
  | .range low high => low ≤ x && x ≤ high

inductive Glob.Token where
  | char (c : Char)
  | anyChar
  | anySequence
  | anyComponents
  | within (members : List Member)
  | except (members : List Member)
deriving Repr, DecidableEq

/-- A pattern as its tokens. -/
structure Glob where
  tokens : List Glob.Token
deriving Repr, DecidableEq

namespace Glob

/-! ## Reading -/

inductive FaultKind where
  | wildcards
  | components
  | range
deriving Repr, DecidableEq

/-- Why and where (counted in characters) a text is no pattern. -/
structure Fault where
  position : Nat
  kind : FaultKind
deriving Repr, DecidableEq

def FaultKind.reason : FaultKind → String
  | .wildcards => "wildcards are either regular `*` or recursive `**`"
  | .components => "recursive wildcards must form a single path component"
  | .range => "invalid range pattern"

def Fault.message (f : Fault) : String :=
  "Pattern syntax error near position " ++ toString f.position ++ ": " ++ f.kind.reason

/-- The members between the brackets of a set. -/
def members : List Char → List Member
  | a :: '-' :: b :: rest => .range a b :: members rest
  | a :: rest => .char a :: members rest
  | [] => []

/-- The set from behind its opening bracket, and what follows it.  The first member may be a closing
bracket, so a set is never empty. -/
def readSet? (cs : List Char) : Option (Token × List Char) :=
  let body (make : List Member → Token) : List Char → Option (Token × List Char)
    | [] => none
    | c :: rest =>
      match rest.dropWhile (· ≠ ']') with
      | [] => none
      | _ :: after => some (make (members (c :: rest.takeWhile (· ≠ ']'))), after)
  match cs with
  | '!' :: rest => body .except rest
  | _ => body .within cs

/-- Reads the tokens at the front of `cs`, which stands at `position` behind the character `before`.
The fuel is the number of characters left. -/
def readTokens : Nat → Nat → Option Char → List Char → List Token → Except Fault (List Token)
  | 0, _, _, _, done => .ok done.reverse
  | fuel + 1, position, before, cs, done =>
    match cs with
    | [] => .ok done.reverse
    | '?' :: rest => readTokens fuel (position + 1) (some '?') rest (.anyChar :: done)
    | '*' :: rest =>
      let stars := 1 + (rest.takeWhile (· = '*')).length
      let after := rest.dropWhile (· = '*')
      if stars > 2 then .error ⟨position + 2, .wildcards⟩
      else if stars = 1 then readTokens fuel (position + 1) (some '*') rest (.anySequence :: done)
      else if !(before.isNone || before == some '/') then .error ⟨position - 1, .components⟩
      else
        let done := match done with
          | .anyComponents :: _ :: _ => done
          | _ => .anyComponents :: done
        match after with
        | [] => .ok done.reverse
        | '/' :: rest => readTokens fuel (position + 3) (some '/') rest done
        | _ => .error ⟨position + 2, .components⟩
    | '[' :: rest =>
      match readSet? rest with
      | none => .error ⟨position, .range⟩
      | some (token, after) =>
        readTokens fuel (position + (cs.length - after.length)) (some ']') after (token :: done)
    | c :: rest => readTokens fuel (position + 1) (some c) rest (.char c :: done)

/-- The pattern that `text` denotes. -/
def read? (text : String) : Except Fault Glob :=
  (readTokens text.length 0 none text.toList []).map Glob.mk

/-! ## Matching -/

inductive Outcome where
  | hit
  | miss
  /-- the text ran out before the pattern did -/
  | spent
deriving Repr, DecidableEq

/-- The first outcome other than a miss, over the suffixes behind the characters that `stop` admits;
at the end of the text the last try decides. -/
def firstOutcome (attempt : List Char → Outcome) (stop : Char → Bool) : List Char → Outcome
  | [] => attempt []
  | c :: rest =>
    if stop c then
      match attempt rest with
      | .miss => firstOutcome attempt stop rest
      | m => m
    else firstOutcome attempt stop rest

def one (admits : Char → Bool) (next : List Char → Outcome) : List Char → Outcome
  | [] => .spent
  | c :: rest => if admits c then next rest else .miss

def outcome : List Token → List Char → Outcome
  | [], [] => .hit
  | [], _ :: _ => .miss
  | .anySequence :: ts, text =>
    match outcome ts text with
    | .miss => firstOutcome (outcome ts) (fun _ => true) text
    | m => m
  | .anyComponents :: ts, text =>
    match outcome ts text with
    | .miss => firstOutcome (outcome ts) (· == '/') text
    | m => m
  | .char c :: ts, text => one (· == c) (outcome ts) text
  | .anyChar :: ts, text => one (fun _ => true) (outcome ts) text
  | .within ms :: ts, text => one (fun x => ms.any (·.holds x)) (outcome ts) text
  | .except ms :: ts, text => one (fun x => !ms.any (·.holds x)) (outcome ts) text

/-- Whether the pattern matches the whole text. -/
def admits (g : Glob) (text : String) : Bool := outcome g.tokens text.toList == .hit

end Glob

end ImportSurvey
