import ImportSurvey.Datum.Basic

/-
  Reading JSON text.

  The result is a `Datum`, which tells how far the text could be read; `Json.read?` is for readers who
  want the whole value or nothing.
-/
namespace ImportSurvey.Json

/-! ## Tokens -/

def isBlank (c : Char) : Bool := c == ' ' || c == '\n' || c == '\t' || c == '\r'

def skipBlanks (cs : List Char) : List Char := cs.dropWhile isBlank

def hexValue? (c : Char) : Option Nat :=
  if '0' ≤ c ∧ c ≤ '9' then some (c.toNat - 48)
  else if 'a' ≤ c ∧ c ≤ 'f' then some (c.toNat - 87)
  else if 'A' ≤ c ∧ c ≤ 'F' then some (c.toNat - 55)
  else none

def hex4? (a b c d : Char) : Option Nat := do
  return (((← hexValue? a) * 16 + (← hexValue? b)) * 16 + (← hexValue? c)) * 16 + (← hexValue? d)

/-- The character a single letter after a backslash stands for. -/
def unescape? (c : Char) : Option Char :=
  match c with
  | '"' => some '"'
  | '\\' => some '\\'
  | '/' => some '/'
  | 'b' => some '\x08'
  | 'f' => some '\x0c'
  | 'n' => some '\n'
  | 'r' => some '\r'
  | 't' => some '\t'
  | _ => none

/-- The characters up to the closing quote and what follows it.  Code units beyond the basic plane
come as pairs; a lone half of a pair is refused, as are bare control characters. -/
def readString : List Char → List Char → Option (List Char × List Char)
  | '"' :: rest, done => some (done.reverse, rest)
  | '\\' :: 'u' :: a :: b :: c :: d :: rest, done =>
    match hex4? a b c d with
    | none => none
    | some n =>
      if 0xDC00 ≤ n ∧ n ≤ 0xDFFF then none
      else if 0xD800 ≤ n ∧ n ≤ 0xDBFF then
        match rest with
        | '\\' :: 'u' :: e :: f :: g :: h :: rest =>
          match hex4? e f g h with
          | none => none
          | some m =>
            if 0xDC00 ≤ m ∧ m ≤ 0xDFFF then
              readString rest (Char.ofNat (0x10000 + (n - 0xD800) * 0x400 + (m - 0xDC00)) :: done)
            else none
        | _ => none
      else readString rest (Char.ofNat n :: done)
  | '\\' :: e :: rest, done =>
    match unescape? e with
    | some c => readString rest (c :: done)
    | none => none
  | c :: rest, done => if c.toNat < 32 then none else readString rest (c :: done)
  | [], _ => none

/-- What follows the closing quote, whatever the code units in front of it mean. -/
def skipString : List Char → Option (List Char)
  | '"' :: rest => some rest
  | '\\' :: 'u' :: a :: b :: c :: d :: rest => if (hex4? a b c d).isSome then skipString rest else none
  | '\\' :: e :: rest => if (unescape? e).isSome then skipString rest else none
  | c :: rest => if c.toNat < 32 then none else skipString rest
  | [] => none

def digitsValue (cs : List Char) : Nat := cs.foldl (fun n c => n * 10 + (c.toNat - 48)) 0

/-- A number without its sign: whole part, fraction, exponent. -/
def readUnsigned (negative : Bool) (cs : List Char) : Option (Datum × List Char) :=
  let whole := cs.takeWhile Char.isDigit
  let rest := cs.dropWhile Char.isDigit
  if whole.isEmpty || (whole.head? == some '0' && whole.length > 1) then none
  else
    let fraction : Option (List Char × List Char) := match rest with
      | '.' :: r =>
        let f := r.takeWhile Char.isDigit
        if f.isEmpty then none else some (f, r.dropWhile Char.isDigit)
      | _ => some ([], rest)
    match fraction with
    | none => none
    | some (frac, rest) =>
      let exponent : Option (Option Int × List Char) := match rest with
        | 'e' :: r | 'E' :: r =>
          let (minus, r) := match r with
            | '-' :: r => (true, r)
            | '+' :: r => (false, r)
            | _ => (false, r)
          let e := r.takeWhile Char.isDigit
          if e.isEmpty then none
          else some (some (if minus then -(digitsValue e : Int) else digitsValue e), r.dropWhile Char.isDigit)
        | _ => some (none, rest)
      match exponent with
      | none => none
      | some (exp, after) =>
        let n := digitsValue whole
        if frac.isEmpty && exp.isNone && !(negative && n = 0) &&
            (if negative then n ≤ Nat.pow 2 63 else n < Nat.pow 2 64) then
          some (.int (if negative then -(n : Int) else n), after)
        else
          let mantissa := digitsValue (whole ++ frac)
          let e : Int := exp.getD 0 - frac.length
          -- far outside the range of floats the exact power does not matter
          let e := max (-100000) (min 100000 e)
          let f : Float :=
            if mantissa = 0 then 0.0
            else if e ≥ 0 then
              if e > 400 then 1.0 / 0.0 else Float.ofScientific mantissa false e.toNat
            else Float.ofScientific mantissa true (-e).toNat
          some (if f.isInf then .senseless else .float (if negative then -f else f), after)

def readNumber : List Char → Option (Datum × List Char)
  | '-' :: rest => readUnsigned true rest
  | cs => readUnsigned false cs

/-! ## Values -/

/-- How deep arrays and objects may nest. -/
def maxNesting : Nat := 127

/-- What was read where no further level is allowed has no value. -/
def withinDepth (depth : Nat) (r : Datum × Option (List Char)) : Datum × Option (List Char) :=
  if depth = 0 then (if r.2.isSome then (.senseless, r.2) else (.broken, none)) else r

mutual

/-- The value at the front and what follows it; nothing follows what is broken.  The fuel bounds the
calls, of which there are at most two per character. -/
def readValue : Nat → Nat → List Char → Datum × Option (List Char)
  | 0, _, _ => (.broken, none)
  | fuel + 1, depth, cs =>
    match skipBlanks cs with
    | 'n' :: 'u' :: 'l' :: 'l' :: rest => (.null, some rest)
    | 't' :: 'r' :: 'u' :: 'e' :: rest => (.bool true, some rest)
    | 'f' :: 'a' :: 'l' :: 's' :: 'e' :: rest => (.bool false, some rest)
    | '"' :: rest =>
      match readString rest [] with
      | some (s, rest) => (.str (.ofList s), some rest)
      | none =>
        match skipString rest with
        | some rest => (.senseless, some rest)
        | none => (.broken, none)
    | '[' :: rest =>
      withinDepth depth <| match skipBlanks rest with
        | ']' :: rest => (.seq [] true, some rest)
        | rest => readItems fuel (depth - 1) rest []
    | '{' :: rest =>
      withinDepth depth <| match skipBlanks rest with
        | '}' :: rest => (.map [] true, some rest)
        | rest => readEntries fuel (depth - 1) rest []
    | cs =>
      match readNumber cs with
      | some (d, rest) => (d, some rest)
      | none => (.broken, none)

def readItems : Nat → Nat → List Char → List Datum → Datum × Option (List Char)
  | 0, _, _, done => (.seq done.reverse false, none)
  | fuel + 1, depth, cs, done =>
    match readValue fuel depth cs with
    | (d, none) => (.seq (d :: done).reverse false, none)
    | (d, some rest) =>
      match skipBlanks rest with
      | ',' :: rest => readItems fuel depth rest (d :: done)
      | ']' :: rest => (.seq (d :: done).reverse true, some rest)
      | _ => (.seq (d :: done).reverse false, none)

def readEntries : Nat → Nat → List Char → List (String × Datum) → Datum × Option (List Char)
  | 0, _, _, done => (.map done.reverse false, none)
  | fuel + 1, depth, cs, done =>
    match skipBlanks cs with
    | '"' :: rest =>
      match readString rest [] with
      | none => (.map done.reverse false, none)
      | some (key, rest) =>
        match skipBlanks rest with
        | ':' :: rest =>
          match readValue fuel depth rest with
          | (d, none) => (.map ((.ofList key, d) :: done).reverse false, none)
          | (d, some rest) =>
            let done := (.ofList key, d) :: done
            match skipBlanks rest with
            | ',' :: rest => readEntries fuel depth rest done
            | '}' :: rest => (.map done.reverse true, some rest)
            | _ => (.map done.reverse false, none)
        | _ => (.map ((.ofList key, .broken) :: done).reverse false, none)
    | _ => (.map done.reverse false, none)

end

/-- The value of a whole text, as far as it could be read, and whether nothing but blanks follows. -/
def readDatum (text : String) : Datum × Bool :=
  let cs := text.toList
  match readValue (2 * cs.length + 2) maxNesting cs with
  | (d, some rest) => (d, (skipBlanks rest).isEmpty)
  | (d, none) => (d, false)

/-- The value that a text denotes. -/
def read? (text : String) : Option Json :=
  match readDatum text with
  | (d, true) => d.complete?
  | (_, false) => none

end ImportSurvey.Json
