import ImportSurvey.Unicode.Ranges

/-
  The values of string literals and templates.

  A literal is first cut out of the text by its quotes and then read here, so an escape cannot run past
  the end of its literal.  Escapes name code points, among them the halves of a surrogate pair; two
  halves in a row are one character.  A half without its partner has no character, so it is written as
  U+FFFD and its four hexadecimal digits, and in such a literal U+FFFD itself is written that way too.
-/
namespace ImportSurvey.Script.Escape

/-- What a backslash and the characters after it come to. -/
inductive Outcome where
  | nothing
  | unit (u : Nat)
  | senseless
deriving DecidableEq, Repr

/-- An escape: what it comes to, and how many characters after the backslash belong to it. -/
structure Reading where
  outcome : Outcome
  length : Nat
deriving DecidableEq, Repr

def hex? (cs : List Char) : Option Nat :=
  cs.foldlM (fun v c => (Unicode.RangeSet.hexDigit? c).map (v * 16 + ·)) 0

def isOctal (c : Char) : Bool := '0' ≤ c && c ≤ '7'

def octal (cs : List Char) : Nat := cs.foldl (fun v c => v * 8 + (c.toNat - 48)) 0

/-- How many of the first `most` characters are hexadecimal digits, up to one that is none. -/
def hexLength (most : Nat) (cs : List Char) : Nat :=
  ((cs.take most).takeWhile fun c => (Unicode.RangeSet.hexDigit? c).isSome).length

/-- An escape of exactly `n` hexadecimal digits. -/
def fixed (n : Nat) (cs : List Char) : Reading :=
  if hexLength n cs = n then
    ⟨((hex? (cs.take n)).map Outcome.unit).getD .senseless, n + 1⟩
  else ⟨.senseless, hexLength n cs + 1⟩

/-- A code point in braces; `cs` follows the opening brace. -/
def braced (cs : List Char) : Reading :=
  let n := hexLength cs.length cs
  match cs.drop n, hex? (cs.take n) with
  | '}' :: _, some u =>
    if n > 0 ∧ u ≤ 0x10FFFF then ⟨.unit u, n + 3⟩ else ⟨.senseless, n + 2⟩
  | _, _ => ⟨.senseless, n + 2⟩

/-- An octal number of at most three digits and below 256. -/
def octalNumber (cs : List Char) : Reading :=
  let most := if cs.head?.any (· ≤ '3') then 3 else 2
  let ds := (cs.take most).takeWhile isOctal
  ⟨.unit (octal ds), ds.length⟩

/-- What a single letter after the backslash stands for. -/
def letter (c : Char) : Nat :=
  match c with
  | 'b' => 8
  | 't' => 9
  | 'n' => 10
  | 'v' => 11
  | 'f' => 12
  | 'r' => 13
  | c => c.toNat

def isLineEnd (c : Char) : Bool := c == '\n' || c == '\r' || c == '\u2028' || c == '\u2029'

/-- The escape at the start of `cs`, which follows a backslash.  Templates know no octal numbers. -/
def read (template : Bool) (cs : List Char) : Reading :=
  match cs with
  | [] => ⟨.nothing, 0⟩
  | '\r' :: '\n' :: _ => ⟨.nothing, 2⟩
  | 'u' :: '{' :: rest => braced rest
  | 'u' :: rest => fixed 4 rest
  | 'x' :: rest => fixed 2 rest
  | c :: rest =>
    if isLineEnd c then ⟨.nothing, 1⟩
    else if c = '0' ∧ !(rest.head?.any Char.isDigit) then ⟨.unit 0, 1⟩
    else if c.isDigit ∧ template then ⟨.senseless, 1⟩
    else if isOctal c then octalNumber cs
    else ⟨.unit (letter c), 1⟩

/-- The value of a literal as code points, and how many of its escapes make no sense. -/
structure Cooked where
  units : List Nat := []
  faults : Nat := 0
deriving DecidableEq, Repr

def Cooked.after (o : Outcome) (c : Cooked) : Cooked :=
  match o with
  | .nothing => c
  | .unit u => { c with units := u :: c.units }
  | .senseless => { c with faults := c.faults + 1 }

/-- The value of the text of a literal, less its first `skip` characters.  In a template every line
ends with a line feed. -/
def cook (template : Bool) : Nat → List Char → Cooked
  | _, [] => {}
  | skip + 1, _ :: rest => cook template skip rest
  | 0, c :: rest =>
    if c = '\\' then
      let r := read template rest
      (cook template r.length rest).after r.outcome
    else if template ∧ c = '\r' then
      (cook template (if rest.head? = some '\n' then 1 else 0) rest).after (.unit 10)
    else (cook template 0 rest).after (.unit c.toNat)

/-! ## From code points to text -/

def isHighHalf (u : Nat) : Bool := 0xD800 ≤ u && u < 0xDC00

def isLowHalf (u : Nat) : Bool := 0xDC00 ≤ u && u < 0xE000

/-- Joins the halves of surrogate pairs. -/
def joinHalves : List Nat → List Nat
  | [] => []
  | u :: rest =>
    match joinHalves rest with
    | l :: more =>
      if isHighHalf u && isLowHalf l then
        (0x10000 + (u - 0xD800) * 0x400 + (l - 0xDC00)) :: more
      else u :: l :: more
    | [] => [u]

def hexDigits (u : Nat) : List Char :=
  [u / 4096, u / 256, u / 16, u].map fun d => (Nat.digitChar (d % 16))

/-- The text of code points. -/
def text (units : List Nat) : String :=
  let us := joinHalves units
  let isHalf (u : Nat) : Bool := isHighHalf u || isLowHalf u
  if us.any isHalf then
    .ofList (us.flatMap fun u =>
      if isHalf u || u = 0xFFFD then '\uFFFD' :: hexDigits u else [Char.ofNat u])
  else .ofList (us.map Char.ofNat)

/-- The value of the text of a string literal, and how many of its escapes make no sense. -/
def literal (cs : List Char) : String × Nat :=
  let c := cook false 0 cs
  (text c.units, c.faults)

/-- The value of a piece of a template, if all its escapes make sense. -/
def template? (cs : List Char) : Option String :=
  let c := cook true 0 cs
  if c.faults = 0 then some (text c.units) else none

end ImportSurvey.Script.Escape
