/-
  Sets of characters given as code point ranges.

  The tables of the character database are long and regular, so they are written as text: hexadecimal
  code points and ranges, apart by blanks, ascending.  `RangeSet.ofText` reads that text once, and
  `RangeSet.mem` stops at the first range that starts above the code point asked for, which makes the
  question cheap for the low code points that nearly all inputs consist of.
-/
namespace ImportSurvey.Unicode

/-- Ranges of code points, both ends included, in ascending order. -/
abbrev RangeSet := List (Nat × Nat)

namespace RangeSet

/-- Membership; correct for ascending ranges because all later ranges start above `lo`. -/
def mem : RangeSet → Nat → Bool
  | [], _ => false
  | (lo, hi) :: rest, c => if c < lo then false else c ≤ hi || mem rest c

/-! ## The written form -/

def hexDigit? (c : Char) : Option Nat :=
  if '0' ≤ c ∧ c ≤ '9' then some (c.toNat - 48)
  else if 'A' ≤ c ∧ c ≤ 'F' then some (c.toNat - 55)
  else if 'a' ≤ c ∧ c ≤ 'f' then some (c.toNat - 87)
  else none

/-- Reads one line: `done` is reversed, `low` is the first end of a range whose second end is being
read, `digits` is what was read of the current number. -/
def scan : List Char → List (Nat × Nat) → Option Nat → Option Nat → List (Nat × Nat)
  | [], done, low, digits => close done low digits
  | c :: rest, done, low, digits =>
    match hexDigit? c with
    | some d => scan rest done low (some (digits.getD 0 * 16 + d))
    | none =>
      if c = '-' then scan rest done digits none
      else scan rest (close done low digits) none none
where
  close (done : List (Nat × Nat)) : Option Nat → Option Nat → List (Nat × Nat)
    | some a, some b => (a, b) :: done
    | none, some b => (b, b) :: done
    | _, none => done

/-- The set written in `lines`. -/
def ofText (lines : List String) : RangeSet :=
  lines.flatMap fun line => (scan line.toList [] none none).reverse

end RangeSet

end ImportSurvey.Unicode
