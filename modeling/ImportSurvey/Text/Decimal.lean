/-
  Binary floating-point numbers as decimal text.

  A finite float is `m · 2^q`, and the reals that round to it form an interval (its ends included when
  `m` is even).  The decimal written for it is the one with the fewest digits inside that interval,
  and of two with equally many the nearer one.  Only whether an exponent is written differs between
  the places where a float is shown, so that is left to the two printers at the end.
-/
namespace ImportSurvey.Text

/-- `digits · 10 ^ exponent`, without trailing zeros. -/
structure Decimal where
  digits : Nat
  exponent : Int
deriving DecidableEq, Repr

/-- A positive fraction. -/
structure Fraction where
  num : Nat
  den : Nat

namespace Fraction

/-- `n · 2 ^ q`. -/
def ofBinary (n : Nat) (q : Int) : Fraction :=
  if q ≥ 0 then ⟨n * Nat.pow 2 q.toNat, 1⟩ else ⟨n, Nat.pow 2 (-q).toNat⟩

/-- The fraction in units of `10 ^ e`. -/
def scaled (r : Fraction) (e : Int) : Fraction :=
  if e ≥ 0 then ⟨r.num, r.den * Nat.pow 10 e.toNat⟩ else ⟨r.num * Nat.pow 10 (-e).toNat, r.den⟩

def floor (r : Fraction) : Nat := r.num / r.den

def lt (a b : Fraction) : Bool := a.num * b.den < b.num * a.den

end Fraction

/-- The least `k` in `low, low + 1, …` with `r < 10 ^ k`, looking at most `fuel` steps ahead. -/
def magnitude (r : Fraction) (low : Int) : Nat → Int
  | 0 => low
  | fuel + 1 => if (r.scaled low).num < (r.scaled low).den then low else magnitude r (low + 1) fuel

/-- The decimal without its trailing zeros; the fuel is the number of digits. -/
def Decimal.reduce (d : Decimal) : Nat → Decimal
  | 0 => d
  | fuel + 1 =>
    if d.digits ≠ 0 ∧ d.digits % 10 = 0 then Decimal.reduce ⟨d.digits / 10, d.exponent + 1⟩ fuel else d

/-- The shortest decimal in the interval of `m · 2 ^ q`; `narrow` if the next lower float is only half
as far away as the next higher one. -/
def shortest (m : Nat) (q : Int) (narrow : Bool) : Decimal :=
  let value := Fraction.ofBinary (4 * m) (q - 2)
  let low := Fraction.ofBinary (if narrow then 4 * m - 1 else 4 * m - 2) (q - 2)
  let high := Fraction.ofBinary (4 * m + 2) (q - 2)
  let inside (r : Fraction) : Bool :=
    if m % 2 = 0 then !r.lt low && !high.lt r else low.lt r && r.lt high
  let k := magnitude value (-330) 660
  go value inside k 17 17
where
  go (value : Fraction) (inside : Fraction → Bool) (k : Int) (places : Nat) : Nat → Decimal
    | 0 => grid value inside (k - places) |>.getD ⟨(value.scaled (k - places)).floor, k - places⟩
    | left + 1 =>
      let e := k - (places - left : Nat)
      match grid value inside e with
      | some d => d
      | none => go value inside k places left
  grid (value : Fraction) (inside : Fraction → Bool) (e : Int) : Option Decimal :=
    let below := (value.scaled e).floor
    let real (d : Nat) : Fraction :=
      if e ≥ 0 then ⟨d * Nat.pow 10 e.toNat, 1⟩ else ⟨d, Nat.pow 10 (-e).toNat⟩
    let fits (d : Nat) : Bool := d ≠ 0 && inside (real d)
    let s := value.scaled e
    -- below the middle of the two neighbours, or at it with an even lower neighbour
    let lowerNearer := 2 * s.num < (2 * below + 1) * s.den ||
      (2 * s.num = (2 * below + 1) * s.den && below % 2 = 0)
    let pick : Option Nat :=
      if fits below && fits (below + 1) then some (if lowerNearer then below else below + 1)
      else if fits below then some below
      else if fits (below + 1) then some (below + 1)
      else none
    pick.map fun d => Decimal.reduce ⟨d, e⟩ 20

/-- What a float is. -/
inductive FloatShape where
  | nan
  | infinite (negative : Bool)
  | zero (negative : Bool)
  | finite (negative : Bool) (value : Decimal)
deriving DecidableEq, Repr

def FloatShape.of (f : Float) : FloatShape :=
  let bits := f.toBits.toNat
  let negative := bits / Nat.pow 2 63 = 1
  let field : Nat := bits / Nat.pow 2 52 % 2048
  let mantissa : Nat := bits % Nat.pow 2 52
  if field = 2047 then (if mantissa = 0 then .infinite negative else .nan)
  else if field = 0 then
    if mantissa = 0 then .zero negative else .finite negative (shortest mantissa (-1074) false)
  else .finite negative (shortest (Nat.pow 2 52 + mantissa) ((field : Int) - 1075) (mantissa = 0 && field > 1))

/-! ## Printers -/

def zeros (n : Nat) : String := .ofList (List.replicate n '0')

/-- Positional digits, with a point only if there is something behind it. -/
def Decimal.positional (d : Decimal) : String :=
  let ds := toString d.digits
  if d.exponent ≥ 0 then ds ++ zeros d.exponent.toNat
  else
    let places := (-d.exponent).toNat
    let cs := ds.toList
    if cs.length > places then
      .ofList (cs.take (cs.length - places)) ++ "." ++ .ofList (cs.drop (cs.length - places))
    else "0." ++ zeros (places - cs.length) ++ ds

/-- Without exponent, and always with a point. -/
def plainFloat (f : Float) : String :=
  match FloatShape.of f with
  | .nan => "NaN"
  | .infinite negative => if negative then "-inf" else "inf"
  | .zero negative => if negative then "-0.0" else "0.0"
  | .finite negative d =>
    let s := d.positional
    (if negative then "-" else "") ++ (if s.toList.contains '.' then s else s ++ ".0")

/-- With an exponent below `1e-5` and from `1e16` on. -/
def compactFloat (f : Float) : String :=
  match FloatShape.of f with
  | .nan | .infinite _ => "null"
  | .zero negative => if negative then "-0.0" else "0.0"
  | .finite negative d =>
    let cs := (toString d.digits).toList
    let point := d.exponent + cs.length
    let body :=
      if -5 < point ∧ point ≤ 16 then
        let s := d.positional
        if s.toList.contains '.' then s else s ++ ".0"
      else
        let tail := if cs.length = 1 then "" else "." ++ .ofList cs.tail
        .ofList (cs.take 1) ++ tail ++ "e" ++ toString (point - 1)
    (if negative then "-" else "") ++ body

end ImportSurvey.Text
