import ImportSurvey.Proofs.Layouts
import ImportSurvey.Report.Time

/-
  Points in time that are written and read again.

  A point in time is written field by field with a fixed number of digits, but for the year, which may have more, and
  for the fraction of a second, which has as many groups of three digits as it takes.  Both ends are clear from the
  character behind: the year ends at a hyphen, the fraction at the letter of the offset.

  1. **Digits** that are padded with zeros have the value they were made from (`digitsValue_padded`), and as many as
     the number fits into are taken back at once (`digits?_padded`).

  2. **Year and fraction** are read from their texts (`year?_yearChars`, `fraction?_fractionChars`).  A fraction with
     fewer than nine digits is filled up with the zeros that were left out.

  3. The offset is none, so no field moves (`earlier_zero`).
-/
namespace ImportSurvey.Timestamp

/-- The fields are those of a date and of a time of day; a leap second counts as the sixty-first of its minute. -/
structure Valid (t : Timestamp) : Prop where
  month : 1 ≤ t.month ∧ t.month ≤ 12
  day : 1 ≤ t.day ∧ t.day ≤ daysIn t.year t.month
  hour : t.hour ≤ 23
  minute : t.minute ≤ 59
  second : t.second ≤ 60
  nanosecond : t.nanosecond < 1000000000

/-! ## Digits -/

section

variable {width n : Nat} {rest : List Char}

theorem length_padded (hwidth : 0 < width) (hn : n < Nat.pow 10 width) : (padded width n).length = width := by
  have hle := (Nat.length_toDigits_le_iff (by decide) hwidth).mpr hn
  rw [padded, List.length_append, List.length_replicate]
  omega

/-- More digits than asked for are written in full. -/
theorem le_length_padded (width n : Nat) : width ≤ (padded width n).length := by
  rw [padded, List.length_append, List.length_replicate]
  omega

theorem isDigit_of_mem_padded (width n : Nat) {c : Char} (hc : c ∈ padded width n) : c.isDigit = true := by
  rcases List.mem_append.mp hc with hc | hc
  · rw [List.eq_of_mem_replicate hc]
    rfl
  · exact Json.isDigit_of_mem_toDigits hc

theorem digitsValue_padded (width n : Nat) : Json.digitsValue (padded width n) = n := by
  rw [Json.digitsValue_eq, padded, Nat.ofDigitChars_append, Nat.ofDigitChars_replicate_zero, Nat.mul_zero,
    Nat.ofDigitChars_ten_toDigits]

/-- **Digits of a fixed number are read back.** -/
theorem digits?_padded (hwidth : 0 < width) (hn : n < Nat.pow 10 width) (rest : List Char) :
    digits? width (padded width n ++ rest) = some (n, rest) := by
  have hlength := length_padded hwidth hn
  have hall : (padded width n).all Char.isDigit = true :=
    List.all_eq_true.mpr fun c hc => isDigit_of_mem_padded width n hc
  rw [digits?, List.take_left' hlength, List.drop_left' hlength, hlength, hall]
  have hvalue := digitsValue_padded width n
  rw [Json.digitsValue] at hvalue
  rw [hvalue]
  simp

/-! ## Years -/

/-- The digits of a year behind its sign. -/
theorem signed?_padded (hrest : Json.Ends rest) : year?.signed? (padded 4 n ++ rest) = some ((n : Int), rest) := by
  obtain ⟨htake, -⟩ := Json.while_digits (fun _ hc => isDigit_of_mem_padded 4 n hc) hrest
  have hvalue := digitsValue_padded 4 n
  rw [Json.digitsValue] at hvalue
  rw [year?.signed?, htake, if_neg (Nat.not_lt.mpr (le_length_padded 4 n)), List.drop_left, hvalue]

/-- Digits do not start with a sign. -/
theorem padded_append_ne {c : Char} (hc : c.isDigit = false) (rest after : List Char) :
    padded 4 n ++ rest ≠ c :: after := by
  have hlength := le_length_padded 4 n
  have hne : padded 4 n ≠ [] := List.ne_nil_of_length_pos (Nat.lt_of_lt_of_le (by decide) hlength)
  exact Json.digits_append_ne hne (fun _ hd => isDigit_of_mem_padded 4 n hd) hc rest after

/-- **A year is read back**, whatever its sign and its number of digits. -/
theorem year?_yearChars (y : Int) (hrest : Json.Ends rest) : year? (yearChars y ++ rest) = some (y, rest) := by
  rw [yearChars]
  split
  · rename_i hy
    have hfour : y.toNat < 10000 := by omega
    have hvalue : (y.toNat : Int) = y := Int.toNat_of_nonneg hy.1
    rw [year?, digits?_padded (by decide) hfour]
    · show some ((y.toNat : Int), rest) = _
      rw [hvalue]
    · exact padded_append_ne (by decide) rest
    · exact padded_append_ne (by decide) rest
  · split
    · rename_i hneg
      have hvalue : -(y.natAbs : Int) = y := by omega
      rw [List.cons_append, year?, signed?_padded hrest]
      show some (-(y.natAbs : Int), rest) = _
      rw [hvalue]
    · rename_i hlarge
      have hvalue : (y.natAbs : Int) = y := by omega
      rw [List.cons_append, year?, signed?_padded hrest, hvalue]

/-! ## Fractions -/

/-- The digits of a fraction, filled up to nine. -/
theorem fraction?_padded (hwidth : 0 < width) (hnine : width ≤ 9) (hn : n < Nat.pow 10 width) (hrest : Json.Ends rest) :
    fraction? ('.' :: (padded width n ++ rest)) = some (n * Nat.pow 10 (9 - width), rest) := by
  obtain ⟨htake, -⟩ := Json.while_digits (fun _ hc => isDigit_of_mem_padded width n hc) hrest
  have hlength := length_padded hwidth hn
  have hsome : (padded width n).isEmpty = false := by
    rw [List.isEmpty_eq_false_iff, ← List.length_pos_iff, hlength]
    exact hwidth
  have hfilled : (padded width n ++ List.replicate 9 '0').take 9 =
      padded width n ++ List.replicate (9 - width) '0' := by
    rw [List.take_append, hlength, List.take_of_length_le (hlength.trans_le hnine), List.take_replicate,
      Nat.min_eq_left (Nat.sub_le 9 width)]
  have hvalue : Json.digitsValue (padded width n ++ List.replicate (9 - width) '0') = n * Nat.pow 10 (9 - width) := by
    have hpadded := digitsValue_padded width n
    rw [Json.digitsValue_eq] at hpadded
    rw [Json.digitsValue_eq, Nat.ofDigitChars_append, hpadded, Nat.ofDigitChars_replicate_zero, Nat.mul_comm]
    rfl
  rw [Json.digitsValue] at hvalue
  rw [fraction?]
  simp only [htake, hsome, hfilled, hvalue, List.drop_left]
  rfl

/-- **A fraction is read back**, however many of its digits are written. -/
theorem fraction?_fractionChars (hn : n < 1000000000) : fraction? (fractionChars n ++ ['Z']) = some (n, ['Z']) := by
  have hends : Json.Ends ['Z'] := Json.ends_cons (by decide) (by decide) (by decide) (by decide) []
  have hwidth : ∀ width k : Nat, 0 < width → width ≤ 9 → k < Nat.pow 10 width → k * Nat.pow 10 (9 - width) = n →
      fraction? ('.' :: padded width k ++ ['Z']) = some (n, ['Z']) := by
    intro width k hpos hnine hk hvalue
    rw [List.cons_append, fraction?_padded hpos hnine hk hends, hvalue]
  rw [fractionChars]
  split
  · rename_i hzero
    rw [hzero]
    rfl
  · split
    · have hfew : n / 1000000 < 1000 := by omega
      have hvalue : n / 1000000 * 1000000 = n := by omega
      exact hwidth 3 (n / 1000000) (by decide) (by decide) hfew hvalue
    · split
      · have hfew : n / 1000 < 1000000 := by omega
        have hvalue : n / 1000 * 1000 = n := by omega
        exact hwidth 6 (n / 1000) (by decide) (by decide) hfew hvalue
      · exact hwidth 9 n (by decide) (by decide) hn (Nat.mul_one n)

/-! ## Points in time -/

/-- Without an offset nothing moves. -/
theorem earlier_zero {t : Timestamp} (hhour : t.hour ≤ 23) (hminute : t.minute ≤ 59) : t.earlier 0 = t := by
  have htotal : (t.hour * 60 + t.minute - 0 : Int) % 1440 = (t.hour * 60 + t.minute : Nat) := by omega
  have hhours : (t.hour * 60 + t.minute) / 60 = t.hour := by omega
  have hminutes : (t.hour * 60 + t.minute) % 60 = t.minute := by omega
  rw [earlier]
  simp only [htotal, Int.toNat_natCast, hhours, hminutes]
  rw [if_neg (by omega), if_neg (by omega)]

theorem daysIn_le (year : Int) (month : Nat) : daysIn year month ≤ 31 := by
  rw [daysIn]
  split
  · split <;> decide
  · split <;> decide

theorem expect?_cons (c : Char) (rest : List Char) : expect? c (c :: rest) = some rest := if_pos rfl

/-- A step of a reader that has a result goes on with it. -/
theorem bind_of_eq_some {α β : Type} {x : Option α} {a : α} (h : x = some a) (next : α → Option β) :
    (x >>= next) = next a := by
  rw [h]
  rfl

/-- **A point in time is read back from its text.** -/
theorem ofText?_text {t : Timestamp} (h : t.Valid) : ofText? t.text = some t := by
  obtain ⟨hmonth, hday, hhour, hminute, hsecond, hnanosecond⟩ := h
  have hdays := daysIn_le t.year t.month
  have hends : ∀ rest, Json.Ends ('-' :: rest) :=
    Json.ends_cons (by decide) (by decide) (by decide) (by decide)
  have htwo : ∀ k rest, k < 100 → digits? 2 (padded 2 k ++ rest) = some (k, rest) :=
    fun k rest hk => digits?_padded (by decide) hk rest
  have hdate : ¬ (decide (t.month < 1) || decide (t.month > 12) || decide (t.day < 1) ||
      decide (t.day > daysIn t.year t.month)) = true := by
    intro hfault
    simp only [Bool.or_eq_true, decide_eq_true_eq] at hfault
    omega
  have htime : ¬ (decide (t.hour > 23) || decide (t.minute > 59) || decide (t.second > 60)) = true := by
    intro hfault
    simp only [Bool.or_eq_true, decide_eq_true_eq] at hfault
    omega
  rw [ofText?, text, String.toList_ofList]
  simp only [List.append_assoc, List.cons_append]
  -- the date, each field up to the mark behind it
  refine (bind_of_eq_some (year?_yearChars t.year (hends _)) _).trans ?_
  refine (bind_of_eq_some (expect?_cons '-' _) _).trans ?_
  refine (bind_of_eq_some (htwo t.month _ (by omega)) _).trans ?_
  refine (bind_of_eq_some (expect?_cons '-' _) _).trans ?_
  refine (bind_of_eq_some (htwo t.day _ (by omega)) _).trans ?_
  -- the time of day
  refine (bind_of_eq_some (htwo t.hour _ (by omega)) _).trans ?_
  refine (bind_of_eq_some (expect?_cons ':' _) _).trans ?_
  refine (bind_of_eq_some (htwo t.minute _ (by omega)) _).trans ?_
  refine (bind_of_eq_some (expect?_cons ':' _) _).trans ?_
  refine (bind_of_eq_some (htwo t.second _ (by omega)) _).trans ?_
  refine (bind_of_eq_some (fraction?_fractionChars hnanosecond) _).trans ?_
  -- no offset, and fields in their bounds
  refine (if_neg hdate).trans ?_
  refine (if_neg htime).trans ?_
  exact congrArg some (earlier_zero hhour hminute)

end

end ImportSurvey.Timestamp
