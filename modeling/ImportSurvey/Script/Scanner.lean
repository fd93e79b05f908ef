import ImportSurvey.Script.Token
import ImportSurvey.Script.Escape
import ImportSurvey.Unicode.Category

/-
  Scanning: how long the next token of a text is, and what it is.

  The same characters can be different tokens in different places: a slash divides or opens a regular
  expression, a closing brace ends a block or a substitution, and between the tags of markup all is
  prose.  `next` scans as for most places; the other scanners are for the places that the grammar
  knows of.  A `>` is always a token of its own, because two of them may close two lists of types; the
  grammar joins them where they are one operator.
-/
namespace ImportSurvey.Script

open Escape (isLineEnd)

/-! ## Between tokens -/

inductive Gap where
  | blank
  | lineComment
  | blockComment

/-- What follows a gap. -/
structure Skipped where
  rest : List Char
  position : Nat
  /-- the gap holds the end of a line -/
  newline : Bool
  /-- a comment is left open -/
  unclosed : Bool := false

def isBlank (c : Char) : Bool :=
  if c.toNat < 128 then c == ' ' || c == '\t' || c.toNat == 11 || c.toNat == 12
  else Unicode.RangeSet.mem [(0x85, 0x85), (0xA0, 0xA0), (0x1680, 0x1680), (0x180E, 0x180E),
    (0x2000, 0x200B), (0x202F, 0x202F), (0x205F, 0x205F), (0x3000, 0x3000), (0xFEFF, 0xFEFF)] c.toNat

/-- Passes over blanks and comments.  Only a plain script has the two signs that hide a line from
readers who do not know scripts. -/
def skip (script : Bool) : Gap → List Char → Nat → Bool → Skipped
  | .blockComment, [], n, nl => ⟨[], n, nl, true⟩
  | _, [], n, nl => ⟨[], n, nl, false⟩
  | .blockComment, '*' :: '/' :: rest, n, nl => skip script .blank rest (n + 2) nl
  | .blockComment, c :: rest, n, nl => skip script .blockComment rest (n + 1) (nl || isLineEnd c)
  | .lineComment, c :: rest, n, nl =>
    if isLineEnd c then skip script .blank rest (n + 1) true
    else skip script .lineComment rest (n + 1) nl
  | .blank, '/' :: '/' :: rest, n, nl => skip script .lineComment rest (n + 2) nl
  | .blank, '/' :: '*' :: rest, n, nl => skip script .blockComment rest (n + 2) nl
  | .blank, '<' :: '!' :: '-' :: '-' :: rest, n, nl =>
    if script then skip script .lineComment rest (n + 4) nl
    else ⟨'<' :: '!' :: '-' :: '-' :: rest, n, nl, false⟩
  | .blank, '-' :: '-' :: '>' :: rest, n, nl =>
    if script && nl then skip script .lineComment rest (n + 3) nl
    else ⟨'-' :: '-' :: '>' :: rest, n, nl, false⟩
  | .blank, c :: rest, n, nl =>
    if isLineEnd c then skip script .blank rest (n + 1) true
    else if isBlank c then skip script .blank rest (n + 1) nl
    else ⟨c :: rest, n, nl, false⟩

/-! ## Kinds of token -/

/-- A token at the start of a text: what it is, how many characters it has, and how many faults. -/
structure Cut where
  lexeme : Lexeme
  length : Nat
  faults : Nat := 0
deriving Repr

def Cut.senseless : Cut := ⟨.senseless, 1, 0⟩

def isWordStart (c : Char) : Bool := c == '$' || c == '_' || Unicode.isIdStart c

def isWordPart (c : Char) : Bool := c == '$' || Unicode.isIdContinue c

/-- A word with escapes: its characters and its length.  `done` is reversed. -/
def escapedWord : Nat → List Char → List Char → Nat → Option (List Char × Nat)
  | 0, _, _, _ => none
  | fuel + 1, cs, done, n =>
    match cs with
    | [] => some (done.reverse, n)
    | '\\' :: rest =>
      if rest.head? ≠ some 'u' then none
      else
        let r := Escape.read false rest
        match r.outcome with
        | .unit u =>
          let c := Char.ofNat u
          if if done.isEmpty then isWordStart c else isWordPart c then
            escapedWord fuel (rest.drop r.length) (c :: done) (n + 1 + r.length)
          else none
        | _ => none
    | c :: rest =>
      if isWordPart c then escapedWord fuel rest (c :: done) (n + 1) else some (done.reverse, n)

/-- The word at the start of `cs`: its text, its length and whether it has escapes. -/
def word? (cs : List Char) : Option (String × Nat × Bool) :=
  let plain := cs.takeWhile isWordPart
  match cs.drop plain.length with
  | '\\' :: _ =>
    (escapedWord (cs.length + 1) cs [] 0).map fun (w, n) => (.ofList w, n, true)
  | _ => if plain.isEmpty then none else some (.ofList plain, plain.length, false)

/-- How many characters of `cs`, which follows the opening quote `q`, lie before the closing one. -/
def quotedLength (q : Char) : List Char → Nat → Option Nat
  | [], _ => none
  | '\\' :: '\r' :: '\n' :: rest, n => quotedLength q rest (n + 3)
  | '\\' :: _ :: rest, n => quotedLength q rest (n + 2)
  | c :: rest, n =>
    if c = q then some n else if c = '\n' ∨ c = '\r' then none else quotedLength q rest (n + 1)

def isQuote (c : Char) : Bool := c == '"' || c == '\''

def quotedText (q : Char) (rest : List Char) : Cut :=
  match quotedLength q rest 0 with
  | some n =>
    let (value, faults) := Escape.literal (rest.take n)
    ⟨.text value, n + 2, faults⟩
  | none => .senseless

/-- How many characters of a piece of a template lie before its end, and whether the template ends
there. -/
def pieceLength : List Char → Nat → Option (Nat × Bool)
  | [], _ => none
  | '\\' :: _ :: rest, n => pieceLength rest (n + 2)
  | '\x60' :: _, n => some (n, true)
  | '$' :: '{' :: _, n => some (n, false)
  | _ :: rest, n => pieceLength rest (n + 1)

/-- The piece of a template after its first sign. -/
def templatePiece (first : Bool) (rest : List Char) : Cut :=
  match pieceLength rest 0 with
  | none => .senseless
  | some (n, closed) =>
    let value := Escape.template? (rest.take n)
    let lexeme : Lexeme :=
      match first, closed with
      | true, true => .template value
      | true, false => .templateHead value.isSome
      | false, false => .templateMiddle value.isSome
      | false, true => .templateTail value.isSome
    ⟨lexeme, n + (if closed then 2 else 3), 0⟩

/-! ### Numbers -/

/-- Whether separators stand between digits only. -/
def wellSeparated : List Char → Bool
  | [] => true
  | ['_'] => false
  | '_' :: '_' :: _ => false
  | _ :: rest => wellSeparated rest

/-- The length of a run of digits, which may be apart by underscores. -/
def digitRun (isDigit : Char → Bool) (cs : List Char) : Option Nat :=
  let run := cs.takeWhile fun c => isDigit c || c == '_'
  if run.head? ≠ some '_' ∧ wellSeparated run then some run.length else none

/-- The length of a number whose digits are `isDigit` and follow a mark of two characters. -/
def markedNumber (isDigit : Char → Bool) (cs : List Char) : Option Nat := do
  let n ← digitRun isDigit cs
  if n = 0 then none
  else some (n + 2 + if (cs.drop n).head? = some 'n' then 1 else 0)

/-- The length of the exponent at the start of `cs`, if there is one. -/
def exponent (cs : List Char) : Option Nat :=
  match cs with
  | e :: rest =>
    if e = 'e' ∨ e = 'E' then do
      let mark := if rest.head?.any fun c => c = '+' ∨ c = '-' then 1 else 0
      let n ← digitRun Char.isDigit (rest.drop mark)
      if n = 0 then none else some (1 + mark + n)
    else some 0
  | [] => some 0

/-- The length of a number from its point on. -/
def fraction (cs : List Char) : Option Nat :=
  match cs with
  | '.' :: rest => do
    let n ← digitRun Char.isDigit rest
    let e ← exponent (rest.drop n)
    some (1 + n + e)
  | _ => exponent cs

/-- The length of a number that starts with a digit. -/
def numberLength (cs : List Char) : Option Nat :=
  match cs with
  | '0' :: 'x' :: rest | '0' :: 'X' :: rest =>
    markedNumber (fun c => (Unicode.RangeSet.hexDigit? c).isSome) rest
  | '0' :: 'o' :: rest | '0' :: 'O' :: rest => markedNumber Escape.isOctal rest
  | '0' :: 'b' :: rest | '0' :: 'B' :: rest => markedNumber (fun c => c == '0' || c == '1') rest
  | _ => do
    let n ← digitRun Char.isDigit cs
    let run := cs.take n
    let after := cs.drop n
    if run.length > 1 ∧ run.head? = some '0' ∧ run.contains '_' then none
    else if run.length > 1 ∧ run.head? = some '0' ∧ run.all Escape.isOctal then some n
    else if after.head? = some 'n' then some (n + 1)
    else (fraction after).map (n + ·)

/-- A number, which no word may follow at once. -/
def number (length : Option Nat) (cs : List Char) : Cut :=
  match length with
  | some n =>
    if (cs.drop n).head?.any fun c => isWordStart c || c.isDigit || c == '\\' then .senseless
    else ⟨.number, n, 0⟩
  | none => .senseless

/-! ### Signs -/

/-- The signs, longer ones first. -/
def signs : List (String × List Char) :=
  [">", "\x7b", "\x7d", "(", ")", "[", "]", ";", ",", "~", ":", "@",
    "...", ".", "<<=", "<<", "<=", "<", "===", "==", "=>", "=", "!==", "!=", "!",
    "++", "+=", "+", "--", "-=", "-", "**=", "**", "*=", "*", "/=", "/", "%=", "%",
    "&&=", "&&", "&=", "&", "||=", "||", "|=", "|", "^=", "^", "??=", "??", "?.", "?"].map
    fun s => (s, s.toList)

/-- The sign at the start of `cs`.  A question mark before a number is no link of a chain. -/
def sign (cs : List Char) : Cut :=
  match cs with
  | '?' :: '.' :: d :: _ => if d.isDigit then ⟨.sign "?", 1, 0⟩ else ⟨.sign "?.", 2, 0⟩
  | _ =>
    match signs.find? fun (_, s) => s.isPrefixOf cs with
    | some (s, chars) => ⟨.sign s, chars.length, 0⟩
    | none => .senseless

/-- The token at the start of a text. -/
def next (cs : List Char) : Cut :=
  match cs with
  | [] => ⟨.endOfText, 0, 0⟩
  | c :: rest =>
    if isWordStart c || c == '\\' then
      match word? cs with
      | some (w, n, escaped) => ⟨.word w escaped, n, 0⟩
      | none => .senseless
    else if isQuote c then quotedText c rest
    else if c == '\x60' then templatePiece true rest
    else if c.isDigit then number (numberLength cs) cs
    else if c == '.' && rest.head?.any Char.isDigit then number (fraction cs) cs
    else if c == '#' then
      match word? rest with
      | some (w, n, _) =>
        if rest.head?.any fun c => isWordStart c || c == '\\' then ⟨.privateWord w, n + 1, 0⟩
        else .senseless
      | none => .senseless
    else sign cs

/-! ## In special places -/

/-- The length of a regular expression after its first slash, flags not counted. -/
def regexLength (inClass : Bool) : List Char → Nat → Option Nat
  | [], _ => none
  | '\\' :: c :: rest, n => if isLineEnd c then none else regexLength inClass rest (n + 2)
  | c :: rest, n =>
    if isLineEnd c then none
    else if c = '/' ∧ !inClass then some (n + 1)
    else regexLength (if c = '[' then true else if c = ']' then false else inClass) rest (n + 1)

def regexFlags : List Char := ['d', 'g', 'i', 'm', 's', 'u', 'v', 'y']

/-- How many flags are unknown or written twice. -/
def flagFaults : List Char → List Char → Nat
  | _, [] => 0
  | seen, c :: rest =>
    if seen.contains c || !regexFlags.contains c then 1 + flagFaults seen rest
    else flagFaults (c :: seen) rest

/-- The regular expression that `cs` continues after its first slash. -/
def regex (cs : List Char) : Cut :=
  match regexLength false cs 0 with
  | some n =>
    let flags := (cs.drop n).takeWhile fun c => c.isAlphanum || c == '$' || c == '_'
    ⟨.regex, n + flags.length, flagFaults [] flags⟩
  | none => .senseless

/-- What stands between two tags. -/
def betweenTags (cs : List Char) : Cut :=
  match cs with
  | [] => ⟨.endOfText, 0, 0⟩
  | '<' :: _ => ⟨.sign "<", 1, 0⟩
  | '{' :: _ => ⟨.sign "\x7b", 1, 0⟩
  | _ => ⟨.prose, (cs.takeWhile fun c => c != '<' && c != '{').length, 0⟩

/-- A value in quotes inside a tag, which knows no escapes. -/
def tagValue (cs : List Char) : Cut :=
  match cs with
  | q :: rest =>
    let value := rest.takeWhile (· != q)
    if value.length < rest.length then ⟨.text (.ofList value), value.length + 2, 0⟩
    else .senseless
  | [] => .senseless

/-- How many characters continue a name inside a tag, which may have dashes. -/
def tagNameRest (cs : List Char) : Nat := (cs.takeWhile fun c => c == '-' || isWordPart c).length

end ImportSurvey.Script
