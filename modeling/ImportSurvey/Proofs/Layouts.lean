import ImportSurvey.Json.Printer
import ImportSurvey.Json.Reader
import Mathlib.Data.List.DropRight

/-
  Reading the text of a JSON value.

  A value can be laid out in many ways: on one line, with a member per line, or with blanks wherever they are
  allowed.  What is read does not depend on it (`readDatum_of_written`).

  1. **Layouts** are a relation between values and texts (`Written`), with one rule per kind of value.  Both printers
     follow the rules, so whatever is said of written texts is said of what they print.

  2. **Tokens.**  Digits have the value they were made from and no zero in front (`readNumber_writeInt`); the reader
     of strings undoes the escapes one character at a time (`readString_escapeChar`).  A number is the only token that
     does not say where it ends, so what follows it must not go on with it (`Ends`).

  3. **Values.**  The three readers call each other, and each call spends one unit of fuel.  One induction on the fuel
     carries a statement for all three (`Reader`): two units per character are enough, since a character of an array
     or object is followed by at most two calls.

  Not every value has a written form that is read back: a float may be shortened, an integer of more than 64 bits
  turns into a float, and there is a limit for nesting.  `Legible` leaves these out.
-/
namespace ImportSurvey.Json

/-! ## Values that can be read -/

/-- An integer of 64 bits, with a sign or without. -/
structure Fits (i : Int) : Prop where
  low : -9223372036854775808 ≤ i
  high : i < 18446744073709551616

/-- No floats, integers of 64 bits, and at most so many levels of arrays and objects. -/
inductive Legible : Nat → Json → Prop
  | null {n : Nat} : Legible n .null
  | bool {n : Nat} (b : Bool) : Legible n (.bool b)
  | int {n : Nat} {i : Int} (h : Fits i) : Legible n (.int i)
  | str {n : Nat} (s : String) : Legible n (.str s)
  | arr {n : Nat} {items : List Json} (h : ∀ j ∈ items, Legible n j) : Legible (n + 1) (.arr items)
  | obj {n : Nat} {members : List (String × Json)} (h : ∀ m ∈ members, Legible n m.2) :
      Legible (n + 1) (.obj members)

/-! ## Layouts -/

/-- Characters that may stand between tokens. -/
def Blank (cs : List Char) : Prop := ∀ c ∈ cs, isBlank c = true

mutual

/-- The texts of a value, with at most so many levels of arrays and objects. -/
inductive Written : Nat → Json → List Char → Prop
  | null {n : Nat} : Written n .null ['n', 'u', 'l', 'l']
  | yes {n : Nat} : Written n (.bool true) ['t', 'r', 'u', 'e']
  | no {n : Nat} : Written n (.bool false) ['f', 'a', 'l', 's', 'e']
  | int {n : Nat} {i : Int} (h : Fits i) : Written n (.int i) (writeInt i)
  | str {n : Nat} (s : String) : Written n (.str s) (writeString s)
  | noItems {n : Nat} {gap : List Char} (hgap : Blank gap) : Written (n + 1) (.arr []) ('[' :: (gap ++ [']']))
  | arr {n : Nat} {items : List Json} {cs gap : List Char} (h : WrittenItems n items cs) (hgap : Blank gap) :
      Written (n + 1) (.arr items) ('[' :: (cs ++ (gap ++ [']'])))
  | noMembers {n : Nat} {gap : List Char} (hgap : Blank gap) : Written (n + 1) (.obj []) ('{' :: (gap ++ ['}']))
  | obj {n : Nat} {members : List (String × Json)} {cs gap : List Char} (h : WrittenMembers n members cs)
      (hgap : Blank gap) : Written (n + 1) (.obj members) ('{' :: (cs ++ (gap ++ ['}'])))

/-- The texts of the items of an array. -/
inductive WrittenItems : Nat → List Json → List Char → Prop
  | last {n : Nat} {j : Json} {gap cs : List Char} (hgap : Blank gap) (h : Written n j cs) :
      WrittenItems n [j] (gap ++ cs)
  | next {n : Nat} {j : Json} {items : List Json} {gap cs after more : List Char} (hgap : Blank gap)
      (h : Written n j cs) (hafter : Blank after) (hmore : WrittenItems n items more) :
      WrittenItems n (j :: items) (gap ++ (cs ++ (after ++ ',' :: more)))

/-- The texts of the members of an object. -/
inductive WrittenMembers : Nat → List (String × Json) → List Char → Prop
  | last {n : Nat} {key : String} {j : Json} {gap colon before cs : List Char} (hgap : Blank gap)
      (hcolon : Blank colon) (hbefore : Blank before) (h : Written n j cs) :
      WrittenMembers n [(key, j)] (gap ++ (writeString key ++ (colon ++ ':' :: (before ++ cs))))
  | next {n : Nat} {key : String} {j : Json} {members : List (String × Json)}
      {gap colon before cs after more : List Char} (hgap : Blank gap) (hcolon : Blank colon)
      (hbefore : Blank before) (h : Written n j cs) (hafter : Blank after) (hmore : WrittenMembers n members more) :
      WrittenMembers n ((key, j) :: members)
        (gap ++ (writeString key ++ (colon ++ ':' :: (before ++ (cs ++ (after ++ ',' :: more))))))

end

/-! ### The printers -/

theorem blank_nil : Blank [] := fun _ h => absurd h List.not_mem_nil

theorem blank_space : Blank [' '] := by
  intro c hc
  rw [List.mem_singleton.mp hc]
  rfl

theorem blank_indent (level : Nat) : Blank (indent level) := by
  intro c hc
  rcases List.mem_cons.mp hc with rfl | hc
  · rfl
  · rw [List.eq_of_mem_replicate hc]
    rfl

theorem writtenItems_compact {n : Nat} {items : List Json} (h : ∀ j ∈ items, Written n j j.compactChars)
    (hne : items ≠ []) : WrittenItems n items (compactItems items) := by
  induction items with
  | nil => exact absurd rfl hne
  | cons j items ih =>
    have hj := h j List.mem_cons_self
    cases items with
    | nil => exact .last blank_nil hj
    | cons k items =>
      have hmore := ih (fun i hi => h i (List.mem_cons_of_mem j hi)) (List.cons_ne_nil _ _)
      exact .next blank_nil hj blank_nil hmore

theorem writtenMembers_compact {n : Nat} {members : List (String × Json)}
    (h : ∀ m ∈ members, Written n m.2 m.2.compactChars) (hne : members ≠ []) :
    WrittenMembers n members (compactMembers members) := by
  induction members with
  | nil => exact absurd rfl hne
  | cons m members ih =>
    have hm := h m List.mem_cons_self
    cases members with
    | nil => exact .last blank_nil blank_nil blank_nil hm
    | cons k members =>
      have hmore := ih (fun i hi => h i (List.mem_cons_of_mem m hi)) (List.cons_ne_nil _ _)
      rw [compactMembers, List.append_assoc]
      · exact .next blank_nil blank_nil blank_nil hm blank_nil hmore
      · exact List.cons_ne_nil _ _

/-- **What is written on one line is a layout**, by induction on the value. -/
theorem written_compact {n : Nat} {j : Json} (h : Legible n j) : Written n j j.compactChars := by
  induction h with
  | null => exact .null
  | bool b =>
    cases b with
    | true => exact .yes
    | false => exact .no
  | int hfits => exact .int hfits
  | str s => exact .str s
  | @arr n items _ ih =>
    rw [compactChars]
    cases items with
    | nil => exact .noItems blank_nil
    | cons j items => exact .arr (writtenItems_compact ih (List.cons_ne_nil _ _)) blank_nil
  | @obj n members _ ih =>
    rw [compactChars]
    cases members with
    | nil => exact .noMembers blank_nil
    | cons m members => exact .obj (writtenMembers_compact ih (List.cons_ne_nil _ _)) blank_nil

theorem writtenItems_spread {n level : Nat} {items : List Json} (h : ∀ j ∈ items, Written n j (j.spreadChars level))
    (hne : items ≠ []) : WrittenItems n items (spreadItems level items) := by
  induction items with
  | nil => exact absurd rfl hne
  | cons j items ih =>
    have hj := h j List.mem_cons_self
    cases items with
    | nil => exact .last (blank_indent level) hj
    | cons k items =>
      have hmore := ih (fun i hi => h i (List.mem_cons_of_mem j hi)) (List.cons_ne_nil _ _)
      rw [spreadItems, List.append_assoc]
      · exact .next (blank_indent level) hj blank_nil hmore
      · exact List.cons_ne_nil _ _

theorem writtenMembers_spread {n level : Nat} {members : List (String × Json)}
    (h : ∀ m ∈ members, Written n m.2 (m.2.spreadChars level)) (hne : members ≠ []) :
    WrittenMembers n members (spreadMembers level members) := by
  induction members with
  | nil => exact absurd rfl hne
  | cons m members ih =>
    have hm := h m List.mem_cons_self
    cases members with
    | nil =>
      rw [spreadMembers, List.append_assoc]
      exact .last (blank_indent level) blank_nil blank_space hm
    | cons k members =>
      have hmore := ih (fun i hi => h i (List.mem_cons_of_mem m hi)) (List.cons_ne_nil _ _)
      rw [spreadMembers, List.append_assoc, List.append_assoc]
      · exact .next (blank_indent level) blank_nil blank_space hm blank_nil hmore
      · exact List.cons_ne_nil _ _

/-- **What is written with a member per line is a layout**, on every level of nesting. -/
theorem written_spread {n : Nat} {j : Json} (h : Legible n j) (level : Nat) : Written n j (j.spreadChars level) := by
  induction h generalizing level with
  | null => exact .null
  | bool b =>
    cases b with
    | true => exact .yes
    | false => exact .no
  | int hfits => exact .int hfits
  | str s => exact .str s
  | @arr n items _ ih =>
    cases items with
    | nil => exact .noItems blank_nil
    | cons j items =>
      have hitems := writtenItems_spread (fun i hi => ih i hi (level + 1)) (List.cons_ne_nil j items)
      rw [spreadChars, List.append_assoc, List.cons_append]
      exact .arr hitems (blank_indent level)
  | @obj n members _ ih =>
    cases members with
    | nil => exact .noMembers blank_nil
    | cons m members =>
      have hmembers := writtenMembers_spread (fun i hi => ih i hi (level + 1)) (List.cons_ne_nil m members)
      rw [spreadChars, List.append_assoc, List.cons_append]
      exact .obj hmembers (blank_indent level)

/-! ## Tokens -/

/-! ### Blanks -/

theorem skipBlanks_append {gap : List Char} (hgap : Blank gap) (cs : List Char) :
    skipBlanks (gap ++ cs) = skipBlanks cs := List.dropWhile_append_of_pos hgap

theorem skipBlanks_cons {c : Char} (hc : isBlank c = false) (cs : List Char) : skipBlanks (c :: cs) = c :: cs :=
  List.dropWhile_cons_of_neg (by rw [hc]; exact Bool.false_ne_true)

/-- The next token, after the blanks in front of it. -/
theorem skipBlanks_token {gap : List Char} (hgap : Blank gap) {c : Char} (hc : isBlank c = false) (cs : List Char) :
    skipBlanks (gap ++ c :: cs) = c :: cs := by
  rw [skipBlanks_append hgap, skipBlanks_cons hc]

theorem skipBlanks_skipBlanks (cs : List Char) : skipBlanks (skipBlanks cs) = skipBlanks cs :=
  List.dropWhile_idempotent isBlank cs

/-! ### Digits -/

theorem digitsValue_eq (cs : List Char) : digitsValue cs = Nat.ofDigitChars 10 cs 0 := by
  rw [digitsValue, Nat.ofDigitChars_eq_foldl]
  congr 1
  funext n c
  rw [Nat.mul_comm]
  rfl

theorem digitsValue_toDigits (n : Nat) : digitsValue (Nat.toDigits 10 n) = n := by
  rw [digitsValue_eq, Nat.ofDigitChars_ten_toDigits]

theorem isDigit_of_mem_toDigits {n : Nat} {c : Char} (hc : c ∈ Nat.toDigits 10 n) : c.isDigit = true :=
  Nat.isDigit_of_mem_toDigits (by decide) (by decide) hc

/-- No zero stands in front, unless it is the number. -/
theorem head?_toDigits_ne {n : Nat} (hn : n ≠ 0) : (Nat.toDigits 10 n).head? ≠ some '0' := by
  induction n using Nat.strongRecOn with
  | ind n ih =>
    rw [Nat.toDigits_eq_if (by decide)]
    split
    · rename_i hlt
      intro hhead
      have hdigit : n.digitChar = '0' := Option.some.inj hhead
      have hvalue := Nat.toNat_digitChar_sub_48_of_lt_ten hlt
      rw [hdigit] at hvalue
      exact hn hvalue.symm
    · rename_i hge
      have hfront := ih (n / 10) (by omega) (by omega)
      obtain ⟨c, cs, hcs⟩ := List.exists_cons_of_ne_nil (Nat.toDigits_ne_nil (n := n / 10) (b := 10))
      rw [hcs] at hfront ⊢
      exact hfront

/-- What stands behind a number does not go on with it. -/
def Ends (rest : List Char) : Prop :=
  ∀ c ∈ rest.head?, c.isDigit = false ∧ c ≠ '.' ∧ c ≠ 'e' ∧ c ≠ 'E'

theorem ends_nil : Ends [] := by
  intro c hc
  cases hc

theorem ends_cons {c : Char} (hdigit : c.isDigit = false) (hpoint : c ≠ '.') (hsmall : c ≠ 'e') (hlarge : c ≠ 'E')
    (rest : List Char) : Ends (c :: rest) := by
  intro d hd
  obtain rfl := Option.some.inj hd
  exact ⟨hdigit, hpoint, hsmall, hlarge⟩

theorem ends_of_blank {c : Char} (hc : isBlank c = true) (rest : List Char) : Ends (c :: rest) := by
  have hcases : c = ' ' ∨ c = '\n' ∨ c = '\t' ∨ c = '\r' := by
    simpa [isBlank, or_assoc] using hc
  rcases hcases with rfl | rfl | rfl | rfl
  all_goals exact ends_cons (by decide) (by decide) (by decide) (by decide) rest

theorem ends_append {gap : List Char} (hgap : Blank gap) {rest : List Char} (h : Ends rest) : Ends (gap ++ rest) := by
  cases gap with
  | nil => exact h
  | cons c gap => exact ends_of_blank (hgap c List.mem_cons_self) (gap ++ rest)

/-- The digits in front of what does not go on with them. -/
theorem while_digits {ds rest : List Char} (hds : ∀ c ∈ ds, c.isDigit = true) (hrest : Ends rest) :
    (ds ++ rest).takeWhile Char.isDigit = ds ∧ (ds ++ rest).dropWhile Char.isDigit = rest := by
  rw [List.takeWhile_append_of_pos hds, List.dropWhile_append_of_pos hds]
  cases rest with
  | nil => exact ⟨List.append_nil ds, rfl⟩
  | cons c rest =>
    have hc : ¬ c.isDigit = true := by
      rw [(hrest c rfl).1]
      exact Bool.false_ne_true
    rw [List.takeWhile_cons_of_neg hc, List.dropWhile_cons_of_neg hc]
    exact ⟨List.append_nil ds, rfl⟩

/-- What starts with digits starts with no other character. -/
theorem digits_append_ne {ds : List Char} (hne : ds ≠ []) (hds : ∀ c ∈ ds, c.isDigit = true) {c : Char}
    (hc : c.isDigit = false) (rest after : List Char) : ds ++ rest ≠ c :: after := by
  intro heq
  obtain ⟨d, more, rfl⟩ := List.exists_cons_of_ne_nil hne
  have hdigit := hds d List.mem_cons_self
  rw [(List.cons.inj heq).1, hc] at hdigit
  cases hdigit

/-- The digits of a number are read as this number. -/
theorem readUnsigned_toDigits {negative : Bool} {n : Nat} {rest : List Char} (hrest : Ends rest)
    (hfits : (negative = true ∧ n ≠ 0 ∧ n ≤ Nat.pow 2 63) ∨ (negative = false ∧ n < Nat.pow 2 64)) :
    readUnsigned negative (Nat.toDigits 10 n ++ rest) =
      some (.int (if negative then -(n : Int) else n), rest) := by
  obtain ⟨htake, hdrop⟩ := while_digits (fun _ hc => isDigit_of_mem_toDigits (n := n) hc) hrest
  have hwhole : ((Nat.toDigits 10 n).isEmpty ||
      ((Nat.toDigits 10 n).head? == some '0' && decide ((Nat.toDigits 10 n).length > 1))) = false := by
    by_cases hn : n = 0
    · subst hn
      rfl
    · simp [head?_toDigits_ne hn]
  have hint : (negative = false ∨ ¬ n = 0) ∧
      (if negative = true then n ≤ 9223372036854775808 else n < 18446744073709551616) := by
    rcases hfits with ⟨rfl, hn, hle⟩ | ⟨rfl, hlt⟩
    · exact ⟨.inr hn, hle⟩
    · exact ⟨.inl rfl, hlt⟩
  rw [readUnsigned]
  simp only [htake, hdrop, hwhole]
  -- neither a fraction nor an exponent follows
  cases rest with
  | nil => simp [digitsValue_toDigits, hint.1, hint.2]
  | cons c rest =>
    obtain ⟨-, hpoint, hsmall, hlarge⟩ := hrest c rfl
    simp [hpoint, hsmall, hlarge, digitsValue_toDigits, hint.1, hint.2]

theorem writeInt_ofNat (n : Nat) : writeInt (.ofNat n) = Nat.toDigits 10 n := Nat.toList_repr

theorem writeInt_negSucc (n : Nat) : writeInt (.negSucc n) = '-' :: Nat.toDigits 10 (n + 1) := by
  show ("-" ++ (n + 1).repr).toList = _
  rw [String.toList_append, Nat.toList_repr]
  rfl

/-- An integer starts with a sign or a digit. -/
theorem writeInt_head (i : Int) : ∃ c rest, writeInt i = c :: rest ∧ (c = '-' ∨ c.isDigit = true) := by
  cases i with
  | ofNat m =>
    obtain ⟨c, ds, hds⟩ := List.exists_cons_of_ne_nil (Nat.toDigits_ne_nil (n := m) (b := 10))
    exact ⟨c, ds, (writeInt_ofNat m).trans hds, .inr (isDigit_of_mem_toDigits (hds ▸ List.mem_cons_self))⟩
  | negSucc m => exact ⟨'-', _, writeInt_negSucc m, .inl rfl⟩

/-- **An integer of 64 bits is read from its text.** -/
theorem readNumber_writeInt {i : Int} (h : Fits i) {rest : List Char} (hrest : Ends rest) :
    readNumber (writeInt i ++ rest) = some (.int i, rest) := by
  cases i with
  | ofNat n =>
    have hfits : n < 18446744073709551616 := Int.ofNat_lt.mp h.high
    have hunsigned : ∀ after, Nat.toDigits 10 n ++ rest ≠ '-' :: after :=
      digits_append_ne Nat.toDigits_ne_nil (fun _ hc => isDigit_of_mem_toDigits hc) (by decide) rest
    rw [writeInt_ofNat, readNumber, readUnsigned_toDigits hrest (.inr ⟨rfl, hfits⟩)]
    · rfl
    · exact hunsigned
  | negSucc n =>
    have hfits : n + 1 ≤ 9223372036854775808 := by
      have hlow := h.low
      omega
    rw [writeInt_negSucc, List.cons_append, readNumber,
      readUnsigned_toDigits hrest (.inl ⟨rfl, Nat.succ_ne_zero n, hfits⟩)]
    rfl

/-! ### Strings -/

/-- The digits of a control character. -/
theorem hex4?_hexDigit {n : Nat} (hn : n < 32) : hex4? '0' '0' (hexDigit (n / 16)) (hexDigit (n % 16)) = some n := by
  have hall : ∀ n < 32, hex4? '0' '0' (hexDigit (n / 16)) (hexDigit (n % 16)) = some n := by decide
  exact hall n hn

/-- The reader undoes the escape of a character. -/
theorem readString_escapeChar (c : Char) (rest done : List Char) :
    readString (escapeChar c ++ rest) done = readString rest (c :: done) := by
  unfold escapeChar
  split
  case h_1 | h_2 | h_3 | h_4 | h_5 | h_6 | h_7 => rfl
  case h_8 hquote hslash _ _ _ _ _ =>
    split
    · -- a control character is no half of a pair of code units
      rename_i hcontrol
      simp only [List.cons_append, List.nil_append, readString, hex4?_hexDigit hcontrol]
      rw [if_neg (by omega), if_neg (by omega), Char.ofNat_toNat]
    · rename_i hplain
      rw [List.singleton_append, readString, if_neg hplain]
      · exact hquote
      · exact fun _ _ _ _ _ hc _ => hslash hc
      · exact fun _ _ hc _ => hslash hc

theorem readString_flatMap_escapeChar (cs rest done : List Char) :
    readString (cs.flatMap escapeChar ++ '"' :: rest) done = some (done.reverse ++ cs, rest) := by
  induction cs generalizing done with
  | nil => rw [List.flatMap_nil, List.nil_append, readString, List.append_nil]
  | cons c cs ih =>
    rw [List.flatMap_cons, List.append_assoc, readString_escapeChar, ih, List.reverse_cons, List.append_assoc]
    rfl

/-- **A string is read from its text**, behind the quote in front. -/
theorem readString_writeString (s : String) (rest : List Char) :
    ∃ body, writeString s ++ rest = '"' :: body ∧ readString body [] = some (s.toList, rest) := by
  refine ⟨s.toList.flatMap escapeChar ++ '"' :: rest, ?_, readString_flatMap_escapeChar s.toList rest []⟩
  rw [writeString, List.cons_append, List.cons_append, List.append_assoc]
  rfl

/-! ## Values -/

section

variable {n : Nat} {j : Json} {items : List Json} {members : List (String × Json)} {cs gap : List Char}

theorem isBlank_of_isDigit {c : Char} (h : c.isDigit = true) : isBlank c = false := by
  rw [Bool.eq_false_iff]
  intro hblank
  have hdigit := (ends_of_blank hblank [] c rfl).1
  rw [h] at hdigit
  cases hdigit

/-- A value starts with a character of its own. -/
theorem Written.head (h : Written n j cs) : ∃ c rest, cs = c :: rest ∧ isBlank c = false ∧ c ≠ ']' := by
  cases h with
  | @int _ i =>
    obtain ⟨c, rest, hcs, hc⟩ := writeInt_head i
    refine ⟨c, rest, hcs, ?_⟩
    rcases hc with rfl | hdigit
    · exact ⟨by decide, by decide⟩
    · refine ⟨isBlank_of_isDigit hdigit, ?_⟩
      rintro rfl
      exact absurd hdigit (by decide)
  | _ => exact ⟨_, _, rfl, by decide, by decide⟩

theorem Written.skipBlanks_append (h : Written n j cs) (hgap : Blank gap) (rest : List Char) :
    skipBlanks (gap ++ (cs ++ rest)) = cs ++ rest := by
  obtain ⟨c, front, rfl, hc, -⟩ := h.head
  exact skipBlanks_token hgap hc (front ++ rest)

theorem WrittenItems.head (h : WrittenItems n items cs) (rest after : List Char) :
    skipBlanks (cs ++ rest) ≠ ']' :: after := by
  have hfirst : ∃ gap k front more, Blank gap ∧ Written n k front ∧ cs ++ rest = gap ++ (front ++ more) := by
    cases h with
    | last hgap h => exact ⟨_, _, _, _, hgap, h, List.append_assoc ..⟩
    | @next _ _ _ _ _ after more hgap h =>
      exact ⟨_, _, _, after ++ ',' :: more ++ rest, hgap, h, by rw [List.append_assoc, List.append_assoc]⟩
  obtain ⟨gap, k, front, more, hgap, hk, htext⟩ := hfirst
  rw [htext, hk.skipBlanks_append hgap]
  obtain ⟨c, tail, rfl, -, hc⟩ := hk.head
  intro heq
  exact hc (List.cons.inj heq).1

theorem WrittenMembers.head (h : WrittenMembers n members cs) (rest : List Char) :
    ∃ more, skipBlanks (cs ++ rest) = '"' :: more := by
  have hfirst : ∃ gap key more, Blank gap ∧ cs ++ rest = gap ++ (writeString key ++ more) := by
    cases h with
    | last hgap => exact ⟨_, _, _, hgap, by rw [List.append_assoc, List.append_assoc]⟩
    | next hgap => exact ⟨_, _, _, hgap, by rw [List.append_assoc, List.append_assoc]⟩
  obtain ⟨gap, key, more, hgap, htext⟩ := hfirst
  rw [htext]
  exact ⟨_, skipBlanks_token hgap (by decide) _⟩

/-! ### Blanks in front -/

variable {fuel : Nat} {rest : List Char}

/-- Blanks in front do not matter. -/
theorem readValue_skipBlanks (fuel n : Nat) (cs : List Char) :
    readValue fuel n (skipBlanks cs) = readValue fuel n cs := by
  cases fuel with
  | zero => rfl
  | succ fuel => rw [readValue, readValue, skipBlanks_skipBlanks]

theorem readItems_skipBlanks (fuel n : Nat) (cs : List Char) (done : List Datum) :
    readItems fuel n (skipBlanks cs) done = readItems fuel n cs done := by
  cases fuel with
  | zero => rfl
  | succ fuel => rw [readItems, readItems, readValue_skipBlanks]

theorem readEntries_skipBlanks (fuel n : Nat) (cs : List Char) (done : List (String × Datum)) :
    readEntries fuel n (skipBlanks cs) done = readEntries fuel n cs done := by
  cases fuel with
  | zero => rfl
  | succ fuel => rw [readEntries, readEntries, skipBlanks_skipBlanks]

/-! ### What is shown of the readers -/

/-- With so much fuel, every text is read that is short enough. -/
structure Reader (fuel : Nat) : Prop where
  value : ∀ {n : Nat} {j : Json} {cs gap : List Char} (rest : List Char), Written n j cs → Blank gap → Ends rest →
    2 * cs.length ≤ fuel → readValue fuel n (gap ++ (cs ++ rest)) = (.ofJson j, some rest)
  items : ∀ {n : Nat} {items : List Json} {cs gap : List Char} (rest : List Char) (done : List Datum),
    WrittenItems n items cs → Blank gap → 2 * cs.length < fuel →
    readItems fuel n (cs ++ (gap ++ ']' :: rest)) done = (.seq (done.reverse ++ Datum.ofItems items) true, some rest)
  members : ∀ {n : Nat} {members : List (String × Json)} {cs gap : List Char} (rest : List Char)
    (done : List (String × Datum)), WrittenMembers n members cs → Blank gap → 2 * cs.length < fuel →
    readEntries fuel n (cs ++ (gap ++ '}' :: rest)) done =
      (.map (done.reverse ++ Datum.ofMembers members) true, some rest)

/-! ### Single steps -/

theorem readValue_writeInt {i : Int} (h : Fits i) (hgap : Blank gap) (hrest : Ends rest) :
    readValue (fuel + 1) n (gap ++ (writeInt i ++ rest)) = (.int i, some rest) := by
  have hskip := (Written.int (n := n) h).skipBlanks_append hgap rest
  have hread := readNumber_writeInt h hrest
  obtain ⟨c, ds, hcs, hc⟩ := writeInt_head i
  have hother : c ≠ 'n' ∧ c ≠ 't' ∧ c ≠ 'f' ∧ c ≠ '"' ∧ c ≠ '[' ∧ c ≠ '{' := by
    rcases hc with rfl | hdigit
    · decide
    · refine ⟨?_, ?_, ?_, ?_, ?_, ?_⟩
      all_goals
        rintro rfl
        exact absurd hdigit (by decide)
  -- so no other kind of value starts like it
  obtain ⟨hnull, htrue, hfalse, hquote, hsquare, hbrace⟩ := hother
  rw [readValue, hskip]
  rw [hcs, List.cons_append] at hread ⊢
  split
  case h_1 heq => exact absurd (List.cons.inj heq).1 hnull
  case h_2 heq => exact absurd (List.cons.inj heq).1 htrue
  case h_3 heq => exact absurd (List.cons.inj heq).1 hfalse
  case h_4 heq => exact absurd (List.cons.inj heq).1 hquote
  case h_5 heq => exact absurd (List.cons.inj heq).1 hsquare
  case h_6 heq => exact absurd (List.cons.inj heq).1 hbrace
  case h_7 => rw [hread]

theorem readValue_writeString (s : String) (hgap : Blank gap) :
    readValue (fuel + 1) n (gap ++ (writeString s ++ rest)) = (.str s, some rest) := by
  obtain ⟨body, htext, hread⟩ := readString_writeString s rest
  rw [htext, readValue, skipBlanks_token hgap (by decide)]
  simp only [hread, String.ofList_toList]

theorem withinDepth_succ (n : Nat) (r : Datum × Option (List Char)) : withinDepth (n + 1) r = r :=
  if_neg (Nat.succ_ne_zero n)

/-- Behind the bracket of an array that has items. -/
theorem readValue_items (h : WrittenItems n items cs) (hgap : Blank gap) :
    readValue (fuel + 1) (n + 1) (gap ++ '[' :: (cs ++ rest)) = readItems fuel n (cs ++ rest) [] := by
  rw [readValue, skipBlanks_token hgap (by decide)]
  simp only [withinDepth_succ, Nat.add_sub_cancel]
  split
  · rename_i after heq
    exact absurd heq (h.head rest after)
  · exact readItems_skipBlanks fuel n (cs ++ rest) []

/-- Behind the brace of an object that has members. -/
theorem readValue_members (h : WrittenMembers n members cs) (hgap : Blank gap) :
    readValue (fuel + 1) (n + 1) (gap ++ '{' :: (cs ++ rest)) = readEntries fuel n (cs ++ rest) [] := by
  rw [readValue, skipBlanks_token hgap (by decide)]
  simp only [withinDepth_succ, Nat.add_sub_cancel]
  split
  · rename_i after heq
    obtain ⟨more, hfirst⟩ := h.head rest
    rw [hfirst] at heq
    exact absurd (List.cons.inj heq).1 (by decide)
  · exact readEntries_skipBlanks fuel n (cs ++ rest) []

/-- An item and the comma behind it. -/
theorem readItems_next {d : Datum} {done : List Datum} {after : List Char}
    (hread : readValue fuel n cs = (d, some (gap ++ ',' :: after))) (hgap : Blank gap) :
    readItems (fuel + 1) n cs done = readItems fuel n after (d :: done) := by
  rw [readItems, hread]
  simp only [skipBlanks_token hgap (show isBlank ',' = false by decide)]

/-- An item and the bracket behind it. -/
theorem readItems_last {d : Datum} {done : List Datum} {after : List Char}
    (hread : readValue fuel n cs = (d, some (gap ++ ']' :: after))) (hgap : Blank gap) :
    readItems (fuel + 1) n cs done = (.seq (d :: done).reverse true, some after) := by
  rw [readItems, hread]
  simp only [skipBlanks_token hgap (show isBlank ']' = false by decide)]

/-- A member and the comma behind it. -/
theorem readEntries_next {key : String} {d : Datum} {done : List (String × Datum)} {colon after text rest : List Char}
    (hread : readValue fuel n text = (d, some (gap ++ ',' :: rest))) (hgap : Blank gap) (hcolon : Blank colon)
    (hafter : Blank after) :
    readEntries (fuel + 1) n (after ++ (writeString key ++ (colon ++ ':' :: text))) done =
      readEntries fuel n rest ((key, d) :: done) := by
  obtain ⟨body, htext, hkey⟩ := readString_writeString key (colon ++ ':' :: text)
  rw [htext, readEntries, skipBlanks_token hafter (by decide)]
  simp only [hkey, skipBlanks_token hcolon (show isBlank ':' = false by decide), hread, String.ofList_toList,
    skipBlanks_token hgap (show isBlank ',' = false by decide)]

/-- A member and the brace behind it. -/
theorem readEntries_last {key : String} {d : Datum} {done : List (String × Datum)} {colon after text rest : List Char}
    (hread : readValue fuel n text = (d, some (gap ++ '}' :: rest))) (hgap : Blank gap) (hcolon : Blank colon)
    (hafter : Blank after) :
    readEntries (fuel + 1) n (after ++ (writeString key ++ (colon ++ ':' :: text))) done =
      (.map ((key, d) :: done).reverse true, some rest) := by
  obtain ⟨body, htext, hkey⟩ := readString_writeString key (colon ++ ':' :: text)
  rw [htext, readEntries, skipBlanks_token hafter (by decide)]
  simp only [hkey, skipBlanks_token hcolon (show isBlank ':' = false by decide), hread, String.ofList_toList,
    skipBlanks_token hgap (show isBlank '}' = false by decide)]

/-! ### All together -/

/-- What follows a value inside an array or object ends it. -/
theorem ends_mark {c : Char} (hc : c = ',' ∨ c = ']' ∨ c = '}') (hgap : Blank gap) (rest : List Char) :
    Ends (gap ++ c :: rest) := by
  refine ends_append hgap ?_
  rcases hc with rfl | rfl | rfl
  all_goals exact ends_cons (by decide) (by decide) (by decide) (by decide) rest

theorem Reader.value_succ (ih : Reader fuel) (rest : List Char) (h : Written n j cs) (hgap : Blank gap)
    (hrest : Ends rest) (hfuel : 2 * cs.length ≤ fuel + 1) :
    readValue (fuel + 1) n (gap ++ (cs ++ rest)) = (.ofJson j, some rest) := by
  cases h with
  | null =>
    rw [readValue, Written.null.skipBlanks_append (n := n) hgap]
    rfl
  | yes =>
    rw [readValue, Written.yes.skipBlanks_append (n := n) hgap]
    rfl
  | no =>
    rw [readValue, Written.no.skipBlanks_append (n := n) hgap]
    rfl
  | int hfits => exact readValue_writeInt hfits hgap hrest
  | str s => exact readValue_writeString s hgap
  | @noItems n inner hinner =>
    simp only [List.cons_append, List.append_assoc, List.nil_append]
    rw [readValue, skipBlanks_token hgap (by decide)]
    simp only [withinDepth_succ, skipBlanks_token hinner (show isBlank ']' = false by decide)]
    rfl
  | @arr n items text inner h hinner =>
    simp only [List.length_append, List.length_cons] at hfuel
    simp only [List.cons_append, List.append_assoc, List.nil_append]
    rw [readValue_items h hgap, ih.items rest [] h hinner (by omega)]
    rfl
  | @noMembers n inner hinner =>
    simp only [List.cons_append, List.append_assoc, List.nil_append]
    rw [readValue, skipBlanks_token hgap (by decide)]
    simp only [withinDepth_succ, skipBlanks_token hinner (show isBlank '}' = false by decide)]
    rfl
  | @obj n members text inner h hinner =>
    simp only [List.length_append, List.length_cons] at hfuel
    simp only [List.cons_append, List.append_assoc, List.nil_append]
    rw [readValue_members h hgap, ih.members rest [] h hinner (by omega)]
    rfl

theorem Reader.items_succ (ih : Reader fuel) (rest : List Char) (done : List Datum) (h : WrittenItems n items cs)
    (hgap : Blank gap) (hfuel : 2 * cs.length < fuel + 1) :
    readItems (fuel + 1) n (cs ++ (gap ++ ']' :: rest)) done =
      (.seq (done.reverse ++ Datum.ofItems items) true, some rest) := by
  cases h with
  | @last _ j before text hbefore h =>
    rw [List.length_append] at hfuel
    have hread := ih.value (gap ++ ']' :: rest) h hbefore (ends_mark (.inr (.inl rfl)) hgap rest) (by omega)
    rw [List.append_assoc, readItems_last hread hgap, List.reverse_cons]
    rfl
  | @next _ j items before text after more hbefore h hafter hmore =>
    simp only [List.length_append, List.length_cons] at hfuel
    have hread := ih.value (after ++ ',' :: (more ++ (gap ++ ']' :: rest))) h hbefore (ends_mark (.inl rfl) hafter _)
      (by omega)
    simp only [List.cons_append, List.append_assoc]
    rw [readItems_next hread hafter, ih.items rest _ hmore hgap (by omega), List.reverse_cons, List.append_assoc]
    rfl

theorem Reader.members_succ (ih : Reader fuel) (rest : List Char) (done : List (String × Datum))
    (h : WrittenMembers n members cs) (hgap : Blank gap) (hfuel : 2 * cs.length < fuel + 1) :
    readEntries (fuel + 1) n (cs ++ (gap ++ '}' :: rest)) done =
      (.map (done.reverse ++ Datum.ofMembers members) true, some rest) := by
  cases h with
  | @last _ key j before colon inner text hbefore hcolon hinner h =>
    simp only [List.length_append, List.length_cons] at hfuel
    have hread := ih.value (gap ++ '}' :: rest) h hinner (ends_mark (.inr (.inr rfl)) hgap rest) (by omega)
    simp only [List.cons_append, List.append_assoc]
    rw [readEntries_last hread hgap hcolon hbefore, List.reverse_cons]
    rfl
  | @next _ key j members before colon inner text after more hbefore hcolon hinner h hafter hmore =>
    simp only [List.length_append, List.length_cons] at hfuel
    have hread := ih.value (after ++ ',' :: (more ++ (gap ++ '}' :: rest))) h hinner (ends_mark (.inl rfl) hafter _)
      (by omega)
    simp only [List.cons_append, List.append_assoc]
    rw [readEntries_next hread hafter hcolon hbefore, ih.members rest _ hmore hgap (by omega), List.reverse_cons,
      List.append_assoc]
    rfl

/-- **Every text is read that the fuel allows**, by induction on the fuel. -/
theorem reader (fuel : Nat) : Reader fuel := by
  induction fuel with
  | zero =>
    refine ⟨fun rest h _ _ hfuel => ?_, fun _ _ _ _ hfuel => ?_, fun _ _ _ _ hfuel => ?_⟩
    · obtain ⟨c, front, rfl, -, -⟩ := h.head
      rw [List.length_cons] at hfuel
      omega
    · exact absurd hfuel (Nat.not_lt_zero _)
    · exact absurd hfuel (Nat.not_lt_zero _)
  | succ fuel ih =>
    exact ⟨fun rest h hgap hrest hfuel => ih.value_succ rest h hgap hrest hfuel,
      fun rest done h hgap hfuel => ih.items_succ rest done h hgap hfuel,
      fun rest done h hgap hfuel => ih.members_succ rest done h hgap hfuel⟩

/-! ## Whole texts -/

mutual

/-- Nothing of a value is missing in the data it stands for. -/
theorem complete?_ofJson : ∀ j : Json, (Datum.ofJson j).complete? = some j
  | .null | .bool _ | .int _ | .float _ | .str _ => rfl
  | .arr items => by
    rw [Datum.ofJson, Datum.complete?, if_pos rfl, completeItems_ofItems items]
    rfl
  | .obj members => by
    rw [Datum.ofJson, Datum.complete?, if_pos rfl, completeEntries_ofMembers members]
    rfl

theorem completeItems_ofItems : ∀ items : List Json, Datum.completeItems (Datum.ofItems items) = some items
  | [] => rfl
  | j :: items => by
    rw [Datum.ofItems, Datum.completeItems, complete?_ofJson j, completeItems_ofItems items]
    rfl

theorem completeEntries_ofMembers :
    ∀ members : List (String × Json), Datum.completeEntries (Datum.ofMembers members) = some members
  | [] => rfl
  | (key, j) :: members => by
    rw [Datum.ofMembers, Datum.completeEntries, complete?_ofJson j, completeEntries_ofMembers members]
    rfl

end

/-- **A value is read from any of its texts**, with any blanks around it. -/
theorem readDatum_of_written {before after : List Char} (h : Written maxNesting j cs) (hbefore : Blank before)
    (hafter : Blank after) :
    readDatum (.ofList (before ++ (cs ++ after))) = (.ofJson j, true) := by
  have hends : Ends after := by
    have hnil := ends_append hafter ends_nil
    rw [List.append_nil] at hnil
    exact hnil
  have hempty : skipBlanks after = [] := List.dropWhile_eq_nil_iff.mpr hafter
  have hfuel : 2 * cs.length ≤ 2 * (before ++ (cs ++ after)).length + 2 := by
    simp only [List.length_append]
    omega
  have hread := (reader _).value after h hbefore hends hfuel
  rw [readDatum, String.toList_ofList]
  simp only [hread, hempty]
  rfl

/-- **Both printers write what is read back.** -/
theorem readDatum_compact (h : Legible maxNesting j) : readDatum j.compact = (.ofJson j, true) := by
  have hread := readDatum_of_written (written_compact h) blank_nil blank_nil
  rw [List.nil_append, List.append_nil] at hread
  exact hread

theorem readDatum_spread (h : Legible maxNesting j) : readDatum j.spread = (.ofJson j, true) := by
  have hread := readDatum_of_written (written_spread h 0) blank_nil blank_nil
  rw [List.nil_append, List.append_nil] at hread
  exact hread

theorem read?_compact (h : Legible maxNesting j) : read? j.compact = some j := by
  rw [read?, readDatum_compact h]
  exact complete?_ofJson j

end

end ImportSurvey.Json
