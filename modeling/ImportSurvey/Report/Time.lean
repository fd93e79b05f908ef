import ImportSurvey.Datum.Decode

/-
  Points in time and spans of time, as reports write them.

  A point in time is kept as the fields of its date and time in UTC, which is how it is written; only a
  text that names another offset needs reckoning.
-/
namespace ImportSurvey

/-- A date and time in UTC. -/
structure Timestamp where
  year : Int
  month : Nat
  day : Nat
  hour : Nat
  minute : Nat
  /-- sixty in a leap second -/
  second : Nat
  nanosecond : Nat
deriving DecidableEq, Repr, Inhabited

namespace Timestamp

/-- The digits of `n`, with zeros in front up to `width`. -/
def padded (width n : Nat) : List Char :=
  let digits := Nat.toDigits 10 n
  List.replicate (width - digits.length) '0' ++ digits

/-! ## Writing -/

/-- Four digits; beyond them the sign is needed. -/
def yearChars (y : Int) : List Char :=
  if 0 ≤ y ∧ y ≤ 9999 then padded 4 y.toNat
  else if y < 0 then '-' :: padded 4 y.natAbs
  else '+' :: padded 4 y.natAbs

/-- No fraction, or as many groups of three digits as it takes. -/
def fractionChars (nanos : Nat) : List Char :=
  if nanos = 0 then []
  else if nanos % 1000000 = 0 then '.' :: padded 3 (nanos / 1000000)
  else if nanos % 1000 = 0 then '.' :: padded 6 (nanos / 1000)
  else '.' :: padded 9 nanos

def text (t : Timestamp) : String :=
  .ofList (yearChars t.year ++ '-' :: padded 2 t.month ++ '-' :: padded 2 t.day ++ 'T' ::
    padded 2 t.hour ++ ':' :: padded 2 t.minute ++ ':' :: padded 2 t.second ++
    fractionChars t.nanosecond ++ ['Z'])

/-! ## Calendar -/

def isLeapYear (y : Int) : Bool := (y % 4 = 0 && y % 100 ≠ 0) || y % 400 = 0

def daysIn (y : Int) (month : Nat) : Nat :=
  if month = 2 then (if isLeapYear y then 29 else 28)
  else if [4, 6, 9, 11].contains month then 30
  else 31

def previousDay (t : Timestamp) : Timestamp :=
  if t.day > 1 then { t with day := t.day - 1 }
  else if t.month > 1 then { t with month := t.month - 1, day := daysIn t.year (t.month - 1) }
  else { t with year := t.year - 1, month := 12, day := 31 }

def nextDay (t : Timestamp) : Timestamp :=
  if t.day < daysIn t.year t.month then { t with day := t.day + 1 }
  else if t.month < 12 then { t with month := t.month + 1, day := 1 }
  else { t with year := t.year + 1, month := 1, day := 1 }

/-- The same fields some minutes earlier, or later if `minutes` is negative; less than a day. -/
def earlier (t : Timestamp) (minutes : Int) : Timestamp :=
  let total : Int := t.hour * 60 + t.minute - minutes
  let inDay := (total % 1440).toNat
  let moved := { t with hour := inDay / 60, minute := inDay % 60 }
  if total < 0 then moved.previousDay else if total ≥ 1440 then moved.nextDay else moved

/-- The date that lies some days after the first of January 1970.  Counted from a first of March, the
leap day is the last one of its year and of its four centuries, so that the years before it are all of
one length. -/
def ofDays (days : Int) : Timestamp :=
  let sinceMarch := days + 719468
  let day := (sinceMarch % 146097).toNat
  let year := (day - day / 1460 + day / 36524 - day / 146096) / 365
  let day := day - (365 * year + year / 4 - year / 100)
  let month := (5 * day + 2) / 153
  let day := day - (153 * month + 2) / 5 + 1
  let year := sinceMarch / 146097 * 400 + year
  if month < 10 then ⟨year, month + 3, day, 0, 0, 0, 0⟩
  else ⟨year + 1, month - 9, day, 0, 0, 0, 0⟩

/-- The point in time that lies some nanoseconds after the start of 1970. -/
def ofNanoseconds (nanoseconds : Int) : Timestamp :=
  let seconds := nanoseconds / 1000000000
  let inDay := (seconds % 86400).toNat
  { ofDays (seconds / 86400) with
    hour := inDay / 3600
    minute := inDay / 60 % 60
    second := inDay % 60
    nanosecond := (nanoseconds % 1000000000).toNat }

/-! ## Reading -/

/-- A number of exactly `width` digits. -/
def digits? (width : Nat) (cs : List Char) : Option (Nat × List Char) :=
  let ds := cs.take width
  if ds.length = width && ds.all Char.isDigit then
    some (ds.foldl (fun n c => n * 10 + (c.toNat - 48)) 0, cs.drop width)
  else none

def year? : List Char → Option (Int × List Char)
  | '-' :: cs => (signed? cs).map fun (n, rest) => (-n, rest)
  | '+' :: cs => signed? cs
  | cs => (digits? 4 cs).map fun (n, rest) => ((n : Int), rest)
where
  /-- at least four digits behind a sign -/
  signed? (cs : List Char) : Option (Int × List Char) :=
    let ds := cs.takeWhile Char.isDigit
    if ds.length < 4 then none
    else some ((ds.foldl (fun n c => n * 10 + (c.toNat - 48)) 0 : Nat), cs.drop ds.length)

/-- The nanoseconds behind a point; digits beyond the ninth do not count. -/
def fraction? : List Char → Option (Nat × List Char)
  | '.' :: cs =>
    let ds := cs.takeWhile Char.isDigit
    if ds.isEmpty then none
    else
      let nine := (ds ++ List.replicate 9 '0').take 9
      some (nine.foldl (fun n c => n * 10 + (c.toNat - 48)) 0, cs.drop ds.length)
  | cs => some (0, cs)

/-- The minutes by which a local time is ahead of UTC. -/
def offset? : List Char → Option Int
  | ['Z'] | ['z'] => some 0
  | sign :: cs => do
    let (hours, rest) ← digits? 2 cs
    let rest := match rest with
      | ':' :: r => r
      | r => r
    let (minutes, rest) ← digits? 2 rest
    if !rest.isEmpty || hours > 23 || minutes > 59 then none
    else if sign = '+' then some (hours * 60 + minutes : Nat)
    else if sign = '-' then some (-(hours * 60 + minutes : Nat) : Int)
    else none
  | [] => none

def expect? (c : Char) : List Char → Option (List Char)
  | d :: rest => if d = c then some rest else none
  | [] => none

def isDateEnd (c : Char) : Bool := c == 'T' || c == 't' || c == ' '

/-- The point in time that a text names. -/
def ofText? (s : String) : Option Timestamp := do
  let (year, cs) ← year? s.toList
  let (month, cs) ← digits? 2 (← expect? '-' cs)
  let (day, cs) ← digits? 2 (← expect? '-' cs)
  let (c, cs) ← match cs with
    | c :: cs => some (c, cs)
    | [] => none
  if !isDateEnd c then none
  let (hour, cs) ← digits? 2 cs
  let (minute, cs) ← digits? 2 (← expect? ':' cs)
  let (second, cs) ← digits? 2 (← expect? ':' cs)
  let (nanosecond, cs) ← fraction? cs
  let ahead ← offset? cs
  if month < 1 || month > 12 || day < 1 || day > daysIn year month then none
  if hour > 23 || minute > 59 || second > 60 then none
  return { year, month, day, hour, minute, second, nanosecond : Timestamp }.earlier ahead

open Datum in
def decode : Datum → Decode Timestamp
  | .str s =>
    match ofText? s with
    | some t => .ok t
    | none => .error .malformed
  | d => d.wrongKind .json "an RFC 3339 formatted date and time string"

end Timestamp

/-! ## Spans of time -/

/-- `n` in units of `unit`, with two decimals; halves go to the even digit. -/
def twoDecimals (n unit : Nat) : String :=
  let q := n * 100 / unit
  let r := n * 100 % unit
  let q := if 2 * r > unit || (2 * r = unit && q % 2 = 1) then q + 1 else q
  toString (q / 100) ++ "." ++ .ofList (Timestamp.padded 2 (q % 100))

/-- A number of nanoseconds in the largest unit that is not larger. -/
def spanText (nanos : Nat) : String :=
  if nanos ≥ 1000000000 then twoDecimals nanos 1000000000 ++ "s"
  else if nanos ≥ 1000000 then twoDecimals nanos 1000000 ++ "ms"
  else if nanos ≥ 1000 then twoDecimals nanos 1000 ++ "µs"
  else twoDecimals nanos 1 ++ "ns"

end ImportSurvey
