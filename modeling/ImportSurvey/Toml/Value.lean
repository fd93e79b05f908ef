import ImportSurvey.Datum.Basic

/-
  The values of TOML text: strings, numbers, dates, arrays and inline tables.

  Every reader takes the characters at the front and gives the value with what follows, or nothing.  A
  table that is being built remembers how it came about, because that decides who may still add to it;
  see `Toml.Document`.
-/
namespace ImportSurvey.Toml

/-- How a table came about. -/
inductive TableKind where
  /-- by its own header -/
  | defined
  /-- as a step of the header of a table below it -/
  | implied
  /-- as a step of a dotted key -/
  | dotted
  /-- written in braces, complete -/
  | inline
deriving DecidableEq, Repr

/-- A table under construction. -/
inductive Node where
  | leaf (d : Datum)
  | array (items : List Node)
  | table (kind : TableKind) (entries : List (String × Node))
  /-- tables with a header in double brackets, latest first -/
  | tables (reversed : List Node)
deriving Inhabited

/-! ## Tokens -/

def isBlank (c : Char) : Bool := c == ' ' || c == '\t'

def skipBlanks (cs : List Char) : List Char := cs.dropWhile isBlank

/-- Control characters that may stand nowhere. -/
def isForbidden (c : Char) : Bool := (c.toNat < 32 && c != '\t') || c.toNat = 127

/-- The line end at the front. -/
def newline? : List Char → Option (List Char)
  | '\n' :: rest => some rest
  | '\r' :: '\n' :: rest => some rest
  | _ => none

/-- Skips a comment up to its line end; nothing if it holds a forbidden character. -/
def skipComment : List Char → Option (List Char)
  | [] => some []
  | '\n' :: rest => some ('\n' :: rest)
  | '\r' :: '\n' :: rest => some ('\r' :: '\n' :: rest)
  | c :: rest => if isForbidden c then none else skipComment rest

/-- Blanks and a comment. -/
def skipToLineEnd (cs : List Char) : Option (List Char) :=
  match skipBlanks cs with
  | '#' :: rest => skipComment rest
  | cs => some cs

/-- Blanks, comments and line ends.  The fuel is the number of characters. -/
def skipLines : Nat → List Char → Option (List Char)
  | 0, cs => some cs
  | fuel + 1, cs => do
    let cs ← skipToLineEnd cs
    match newline? cs with
    | some rest => skipLines fuel rest
    | none => return cs

/-! ## Strings -/

def hexValue? (cs : List Char) : Option Nat :=
  cs.foldlM (fun n c =>
    if '0' ≤ c ∧ c ≤ '9' then some (n * 16 + (c.toNat - 48))
    else if 'a' ≤ c ∧ c ≤ 'f' then some (n * 16 + (c.toNat - 87))
    else if 'A' ≤ c ∧ c ≤ 'F' then some (n * 16 + (c.toNat - 55))
    else none) 0

def codePoint? (width : Nat) (cs : List Char) : Option Char :=
  let digits := cs.take width
  if digits.length < width then none
  else match hexValue? digits with
    | some n => if n.isValidChar then some (Char.ofNat n) else none
    | none => none

/-- The escape behind a backslash: its character, and how many characters it takes. -/
def escape? : List Char → Option (Char × Nat)
  | 'b' :: _ => some ('\x08', 1)
  | 't' :: _ => some ('\t', 1)
  | 'n' :: _ => some ('\n', 1)
  | 'f' :: _ => some ('\x0c', 1)
  | 'r' :: _ => some ('\r', 1)
  | '"' :: _ => some ('"', 1)
  | '\\' :: _ => some ('\\', 1)
  | 'u' :: rest => (codePoint? 4 rest).map (·, 5)
  | 'U' :: rest => (codePoint? 8 rest).map (·, 9)
  | _ => none

/-- A string in double quotes, from behind the quote.  `skip` counts characters of an escape that are
still to be passed over. -/
def basicString : Nat → List Char → List Char → Option (List Char × List Char)
  | skip + 1, _ :: rest, done => basicString skip rest done
  | 0, '"' :: rest, done => some (done.reverse, rest)
  | 0, '\\' :: rest, done =>
    match escape? rest with
    | some (c, n) => basicString n rest (c :: done)
    | none => none
  | 0, c :: rest, done => if isForbidden c then none else basicString 0 rest (c :: done)
  | _, [], _ => none

/-- A string in single quotes, from behind the quote. -/
def literalString : List Char → List Char → Option (List Char × List Char)
  | '\'' :: rest, done => some (done.reverse, rest)
  | c :: rest, done => if isForbidden c then none else literalString rest (c :: done)
  | [], _ => none

/-- Up to two quotes may stand directly before the closing three. -/
def closing? (q : Char) (cs : List Char) : Option (Nat × List Char) :=
  let n := (cs.takeWhile (· = q)).length
  if n < 3 then none
  else if n ≤ 5 then some (n - 3, cs.drop n)
  else some (2, cs.drop 5)

/-- What a backslash at a line end skips: all blanks and line ends up to the next character; nothing
if the backslash does not end its line. -/
def lineContinuation? (cs : List Char) : Option (List Char) :=
  match newline? (skipBlanks cs) with
  | some rest => some (rest.dropWhile fun c => isBlank c || c == '\n' || c == '\r')
  | none => none

/-- A string in three double quotes, from behind them.  The fuel is the number of characters. -/
def multiBasicString : Nat → List Char → List Char → Option (List Char × List Char)
  | 0, _, _ => none
  | fuel + 1, cs, done =>
    match closing? '"' cs with
    | some (n, rest) => some (done.reverse ++ List.replicate n '"', rest)
    | none =>
      match cs with
      | [] => none
      | '\\' :: rest =>
        match lineContinuation? rest with
        | some rest => multiBasicString fuel rest done
        | none =>
          match escape? rest with
          | some (c, n) => multiBasicString fuel (rest.drop n) (c :: done)
          | none => none
      | '\r' :: '\n' :: rest => multiBasicString fuel rest ('\n' :: '\r' :: done)
      | '\n' :: rest => multiBasicString fuel rest ('\n' :: done)
      | c :: rest => if isForbidden c then none else multiBasicString fuel rest (c :: done)

def multiLiteralString : Nat → List Char → List Char → Option (List Char × List Char)
  | 0, _, _ => none
  | fuel + 1, cs, done =>
    match closing? '\'' cs with
    | some (n, rest) => some (done.reverse ++ List.replicate n '\'', rest)
    | none =>
      match cs with
      | [] => none
      | '\r' :: '\n' :: rest => multiLiteralString fuel rest ('\n' :: '\r' :: done)
      | '\n' :: rest => multiLiteralString fuel rest ('\n' :: done)
      | c :: rest => if isForbidden c then none else multiLiteralString fuel rest (c :: done)

/-- A line end directly behind the opening quotes does not count. -/
def afterOpening (cs : List Char) : List Char := (newline? cs).getD cs

def string? : List Char → Option (List Char × List Char)
  | '"' :: '"' :: '"' :: rest => multiBasicString (rest.length + 1) (afterOpening rest) []
  | '"' :: rest => basicString 0 rest []
  | '\'' :: '\'' :: '\'' :: rest => multiLiteralString (rest.length + 1) (afterOpening rest) []
  | '\'' :: rest => literalString rest []
  | _ => none

/-! ## Numbers and dates -/

def isBareChar (c : Char) : Bool := c.isAlphanum || c == '_' || c == '-'

/-- Digits with single underscores between them, as the digits alone. -/
def digits? (ok : Char → Bool) (cs : List Char) : Option (List Char) :=
  let rec go : Bool → List Char → Option (List Char)
    | afterDigit, [] => if afterDigit then some [] else none
    | afterDigit, c :: rest =>
      if c = '_' then (if afterDigit then go false rest else none)
      else if ok c then (go true rest).map (c :: ·)
      else none
  go false cs

def valueInBase (base : Nat) (cs : List Char) : Nat :=
  cs.foldl (fun n c => n * base + digit c) 0
where
  digit (c : Char) : Nat := if c.isDigit then c.toNat - 48 else c.toLower.toNat - 87

/-- Decimal digits without a leading zero. -/
def wholeNumber? (cs : List Char) : Option Nat := do
  let ds ← digits? Char.isDigit cs
  if ds.length > 1 && ds.head? == some '0' then none
  return valueInBase 10 ds

def integer? (cs : List Char) : Option Int :=
  match cs with
  | '0' :: 'x' :: rest =>
    (digits? (fun c => c.isDigit || ('a' ≤ c.toLower && c.toLower ≤ 'f')) rest).map
      fun ds => (valueInBase 16 ds : Int)
  | '0' :: 'o' :: rest =>
    (digits? (fun c => '0' ≤ c && c ≤ '7') rest).map fun ds => (valueInBase 8 ds : Int)
  | '0' :: 'b' :: rest =>
    (digits? (fun c => c == '0' || c == '1') rest).map fun ds => (valueInBase 2 ds : Int)
  | '-' :: rest => (wholeNumber? rest).map fun n => -(n : Int)
  | '+' :: rest => (wholeNumber? rest).map fun n => (n : Int)
  | cs => (wholeNumber? cs).map fun n => (n : Int)

def float? (cs : List Char) : Option Float := do
  let (negative, cs) := match cs with
    | '-' :: rest => (true, rest)
    | '+' :: rest => (false, rest)
    | cs => (false, cs)
  let signed (f : Float) : Float := if negative then -f else f
  if cs = "inf".toList then return signed (1.0 / 0.0)
  if cs = "nan".toList then return signed (0.0 / 0.0)
  let isMark (c : Char) : Bool := c == '.' || c == 'e' || c == 'E'
  let whole := cs.takeWhile (!isMark ·)
  let rest := cs.dropWhile (!isMark ·)
  let _ ← wholeNumber? whole
  let wholeDigits ← digits? Char.isDigit whole
  let (fracDigits, rest) ← match rest with
    | '.' :: r => do
      let part := r.takeWhile fun c => !(c == 'e' || c == 'E')
      pure (← digits? Char.isDigit part, r.drop part.length)
    | r => pure ([], r)
  let exponent : Int ← match rest with
    | [] => pure 0
    | _ :: '-' :: r => do pure (-(valueInBase 10 (← digits? Char.isDigit r) : Int))
    | _ :: '+' :: r => do pure (valueInBase 10 (← digits? Char.isDigit r) : Int)
    | _ :: r => do pure (valueInBase 10 (← digits? Char.isDigit r) : Int)
  let mantissa := valueInBase 10 (wholeDigits ++ fracDigits)
  let e := max (-100000) (min 100000 (exponent - fracDigits.length))
  if mantissa = 0 then return signed 0.0
  if e ≥ 0 then
    if e > 400 then return signed (1.0 / 0.0)
    return signed (Float.ofScientific mantissa false e.toNat)
  return signed (Float.ofScientific mantissa true (-e).toNat)

/-- Exactly `n` digits at the front. -/
def fixedDigits? (n : Nat) (cs : List Char) : Option (Nat × List Char) :=
  let ds := cs.take n
  if ds.length = n ∧ ds.all Char.isDigit then some (valueInBase 10 ds, cs.drop n) else none

def daysIn (year month : Nat) : Nat :=
  if month = 2 then
    (if year % 4 = 0 ∧ (year % 100 ≠ 0 ∨ year % 400 = 0) then 29 else 28)
  else if [4, 6, 9, 11].contains month then 30 else 31

/-- What follows a date at the front. -/
def date? (cs : List Char) : Option (List Char) := do
  let (y, cs) ← fixedDigits? 4 cs
  let '-' :: cs := cs | none
  let (m, cs) ← fixedDigits? 2 cs
  let '-' :: cs := cs | none
  let (d, cs) ← fixedDigits? 2 cs
  if 1 ≤ m ∧ m ≤ 12 ∧ 1 ≤ d ∧ d ≤ daysIn y m then some cs else none

/-- What follows a time of day at the front. -/
def time? (cs : List Char) : Option (List Char) := do
  let (h, cs) ← fixedDigits? 2 cs
  let ':' :: cs := cs | none
  let (m, cs) ← fixedDigits? 2 cs
  let ':' :: cs := cs | none
  let (s, cs) ← fixedDigits? 2 cs
  if h > 23 ∨ m > 59 ∨ s > 60 then none
  match cs with
  | '.' :: rest =>
    let f := rest.takeWhile Char.isDigit
    if f.isEmpty then none else some (rest.drop f.length)
  | cs => some cs

/-- What follows an offset at the front; there need not be one. -/
def offset? : List Char → Option (List Char)
  | 'Z' :: rest | 'z' :: rest => some rest
  | '+' :: rest | '-' :: rest => do
    let (h, cs) ← fixedDigits? 2 rest
    let ':' :: cs := cs | none
    let (m, cs) ← fixedDigits? 2 cs
    if h > 23 ∨ m > 59 then none else some cs
  | cs => some cs

/-- A date, a time, or both; what follows is given. -/
def dateTime? (cs : List Char) : Option (List Char) :=
  match date? cs with
  | some rest =>
    match rest with
    | 'T' :: r | 't' :: r => (time? r).bind offset?
    | ' ' :: r => if (r.head?.map Char.isDigit).getD false then (time? r).bind offset? else some rest
    | _ => some rest
  | none => time? cs

/-- A date is a map with one entry that no other value has. -/
def dateDatum (cs : List Char) : Datum :=
  .map [("$__toml_private_datetime", .str (.ofList cs))] true

/-- A number, date or constant. -/
def scalar? (cs : List Char) : Option (Datum × List Char) :=
  let isDate := (fixedDigits? 4 cs).any (fun r => r.2.head? == some '-') ||
    (fixedDigits? 2 cs).any (fun r => r.2.head? == some ':')
  if isDate then
    (dateTime? cs).bind fun rest =>
      if (rest.head?.map isBareChar).getD false then none
      else some (dateDatum (cs.take (cs.length - rest.length)), rest)
  else
    let token := cs.takeWhile fun c => isBareChar c || c == '+' || c == '.'
    let rest := cs.drop token.length
    if token = "true".toList then some (.bool true, rest)
    else if token = "false".toList then some (.bool false, rest)
    else
      match integer? token with
      | some i => some (.int i, rest)
      | none =>
        -- a point has digits on both sides, and an exponent is a number of its own
        (float? token).map fun f => (.float f, rest)

/-! ## Keys -/

def key? (cs : List Char) : Option (List Char × List Char) :=
  match cs with
  | '"' :: rest => basicString 0 rest []
  | '\'' :: rest => literalString rest []
  | _ =>
    let k := cs.takeWhile isBareChar
    if k.isEmpty then none else some (k, cs.drop k.length)

/-- Keys with points between them; there is at least one.  The fuel is the number of characters. -/
def dottedKey? : Nat → List Char → Option (List String × List Char)
  | 0, _ => none
  | fuel + 1, cs => do
    let (k, rest) ← key? (skipBlanks cs)
    match skipBlanks rest with
    | '.' :: rest => do
      let (ks, rest) ← dottedKey? fuel rest
      return (.ofList k :: ks, rest)
    | rest => return ([.ofList k], rest)

/-! ## Tables -/

/-- Replaces or appends an entry. -/
def setEntry (entries : List (String × Node)) (k : String) (n : Node) : List (String × Node) :=
  if entries.any (·.1 = k) then entries.map fun e => if e.1 = k then (k, n) else e
  else entries ++ [(k, n)]

def getEntry (entries : List (String × Node)) (k : String) : Option Node :=
  (entries.find? (·.1 = k)).map (·.2)

/-- Adds `path = value` to a table.  Steps of a dotted key may only pass tables that dotted keys made. -/
def assign (entries : List (String × Node)) : List String → Node → Option (List (String × Node))
  | [], _ => none
  | [k], v => if (getEntry entries k).isSome then none else some (entries ++ [(k, v)])
  | k :: ks, v =>
    match getEntry entries k with
    | none => do
      let inner ← assign [] ks v
      return entries ++ [(k, .table .dotted inner)]
    | some (.table .dotted inner) => do
      let inner ← assign inner ks v
      return setEntry entries k (.table .dotted inner)
    | some _ => none

/-- How deep arrays and inline tables may nest. -/
def maxNesting : Nat := 80

mutual

/-- The value at the front and what follows it. -/
def value? : Nat → Nat → List Char → Option (Node × List Char)
  | 0, _, _ => none
  | fuel + 1, depth, cs =>
    match cs with
    | '"' :: _ | '\'' :: _ => (string? cs).map fun r => (.leaf (.str (.ofList r.1)), r.2)
    | '[' :: rest =>
      match depth with
      | 0 => none
      | depth + 1 => (items? fuel depth rest []).map fun r => (.array r.1.reverse, r.2)
    | '{' :: rest =>
      match depth with
      | 0 => none
      | depth + 1 =>
        match skipBlanks rest with
        | '}' :: rest => some (.table .inline [], rest)
        | rest => (pairs? fuel depth rest []).map fun r => (.table .inline r.1, r.2)
    | _ => (scalar? cs).map fun r => (.leaf r.1, r.2)

/-- The items of an array, latest first. -/
def items? : Nat → Nat → List Char → List Node → Option (List Node × List Char)
  | 0, _, _, _ => none
  | fuel + 1, depth, cs, done => do
    match ← skipLines (cs.length + 1) cs with
    | ']' :: rest => return (done, rest)
    | cs => do
      let (n, rest) ← value? fuel depth cs
      match ← skipLines (rest.length + 1) rest with
      | ',' :: rest => items? fuel depth rest (n :: done)
      | ']' :: rest => return (n :: done, rest)
      | _ => none

/-- The pairs of an inline table, of which there is at least one more. -/
def pairs? : Nat → Nat → List Char → List (String × Node) → Option (List (String × Node) × List Char)
  | 0, _, _, _ => none
  | fuel + 1, depth, cs, done => do
    let (path, rest) ← dottedKey? (cs.length + 1) cs
    let '=' :: rest := rest | none
    let (n, rest) ← value? fuel depth (skipBlanks rest)
    let done ← assign done path n
    match skipBlanks rest with
    | ',' :: rest => pairs? fuel depth rest done
    | '}' :: rest => return (done, rest)
    | _ => none

end

end ImportSurvey.Toml
