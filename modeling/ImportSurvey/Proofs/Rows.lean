import ImportSurvey.Report.Format

/-
  Lines of values, read back.

  Rules, names and references may hold commas, quotes and ends of lines, and each of them means something to a
  reader of values with commas between them.  So the statement is about a reader that knows nothing of how the
  report was written, only the rules of RFC 4180 (`rows?`): a field is bare or in quotes; a bare field holds no
  comma, no quote and no end of a line; in quotes everything stands for itself, except that a quote is written
  twice; fields end at a comma or at the end of their line.  A text that breaks these rules is refused, so
  that it is read at all says that it keeps them.

  The crux is one field (`rows?_csvValue`): whatever its text is, the reader comes to the end of it with
  exactly that text in hand, and not in the middle of quotes, so that a comma or the end of the line is taken for
  what it is.  Behind it are two inductions over the text, one for bare and one for quoted fields; the invariant
  is what the reader has taken of the field so far.  Lines follow, and from them the whole report.
-/
namespace ImportSurvey.Report

/-! ## The reader -/

/-- Where the reader stands in a field. -/
inductive Stand where
  /-- before its first character -/
  | fresh
  /-- in a field without quotes -/
  | bare
  /-- between the quotes of a field -/
  | quoted
  /-- behind a quote of a quoted field, which ends the field or is the first of two that mean one -/
  | closed
deriving DecidableEq, Repr

/-- The rows of a text, where `field` holds what was read of the current field and `row` the fields before
it.  A line ends with a line feed, with a carriage return or with both, and the last one may lack its end. -/
def rows? : Stand → List Char → List String → List Char → Option (List (List String))
  | .quoted, _, _, [] => none
  | .quoted, field, row, '"' :: cs => rows? .closed field row cs
  | .quoted, field, row, c :: cs => rows? .quoted (field ++ [c]) row cs
  | .closed, field, row, '"' :: cs => rows? .quoted (field ++ ['"']) row cs
  | .fresh, field, row, '"' :: cs => rows? .quoted field row cs
  | _, field, row, ',' :: cs => rows? .fresh [] (row ++ [.ofList field]) cs
  | _, field, row, '\r' :: '\n' :: cs | _, field, row, '\n' :: cs | _, field, row, '\r' :: cs =>
    (rows? .fresh [] [] cs).map ((row ++ [.ofList field]) :: ·)
  | .fresh, _, [], [] => some []
  | _, field, row, [] => some [row ++ [.ofList field]]
  | .bare, _, _, '"' :: _ | .closed, _, _, _ :: _ => none
  | _, field, row, c :: cs => rows? .bare (field ++ [c]) row cs

/-- The rows of a whole text. -/
def rowsOf? (text : String) : Option (List (List String)) := rows? .fresh [] [] text.toList

section

variable {field : List Char} {row : List String} {cs : List Char}

/-! ## The end of a field -/

theorem rows?_comma {s : Stand} (hs : s ≠ .quoted) :
    rows? s field row (',' :: cs) = rows? .fresh [] (row ++ [.ofList field]) cs := by
  cases s with
  | quoted => exact absurd rfl hs
  | fresh | bare | closed => simp [rows?]

theorem rows?_lineFeed {s : Stand} (hs : s ≠ .quoted) :
    rows? s field row ('\n' :: cs) = (rows? .fresh [] [] cs).map ((row ++ [.ofList field]) :: ·) := by
  cases s with
  | quoted => exact absurd rfl hs
  | fresh | bare | closed => simp [rows?]

/-! ## One field -/

/-- A character that no bare field holds. -/
def isMark (c : Char) : Bool := c == ',' || c == '"' || c == '\n' || c == '\r'

theorem rows?_plain {s : Stand} (hs : s = .fresh ∨ s = .bare) {c : Char} (hc : isMark c = false) :
    rows? s field row (c :: cs) = rows? .bare (field ++ [c]) row cs := by
  simp only [isMark, Bool.or_eq_false_iff, beq_eq_false_iff_ne] at hc
  obtain ⟨⟨⟨hcomma, hquote⟩, hfeed⟩, hreturn⟩ := hc
  rcases hs with rfl | rfl
  · rw [rows?] <;> simp_all
  · rw [rows?] <;> simp_all

/-- A bare field is taken character by character. -/
theorem rows?_bare {v : List Char} (hv : ∀ c ∈ v, isMark c = false) :
    rows? .bare field row (v ++ cs) = rows? .bare (field ++ v) row cs := by
  induction v generalizing field with
  | nil => rw [List.nil_append, List.append_nil]
  | cons c v ih =>
    have hc : isMark c = false := hv c List.mem_cons_self
    have hrest : ∀ c ∈ v, isMark c = false := fun c h => hv c (List.mem_cons_of_mem _ h)
    rw [List.cons_append, rows?_plain (.inr rfl) hc, ih hrest, List.append_assoc, List.singleton_append]

/-- In quotes a quote is taken once where it is written twice, and all else as it is. -/
theorem rows?_quoted (v : List Char) :
    rows? .quoted field row (v.flatMap (fun c => if c = '"' then ['"', '"'] else [c]) ++ cs) =
      rows? .quoted (field ++ v) row cs := by
  induction v generalizing field with
  | nil => rw [List.flatMap_nil, List.nil_append, List.append_nil]
  | cons c v ih =>
    rw [List.flatMap_cons, List.append_assoc]
    by_cases hc : c = '"'
    · -- the first of the two closes the field for a moment, the second opens it again
      subst hc
      rw [if_pos rfl, List.cons_append, List.singleton_append, rows?, rows?, ih, List.append_assoc,
        List.singleton_append]
    · rw [if_neg hc, List.singleton_append, rows?, ih, List.append_assoc, List.singleton_append]
      exact hc

/-- **A field gives its text back.** -/
theorem rows?_csvValue (row : List String) (cs : List Char) (t : String) :
    ∃ s, s ≠ .quoted ∧ rows? .fresh [] row (csvValue t ++ cs) = rows? s t.toList row cs := by
  rw [csvValue]
  by_cases hneeds : needsQuotes t.toList = true
  · refine ⟨.closed, by decide, ?_⟩
    rw [if_pos hneeds, List.cons_append, List.cons_append, List.append_assoc, rows?, rows?_quoted, List.nil_append,
      List.singleton_append, rows?]
  · have hplain : ∀ c ∈ t.toList, isMark c = false := by
      rw [needsQuotes, List.any_eq_true] at hneeds
      intro c hc
      exact Bool.eq_false_iff.mpr fun hmark => hneeds ⟨c, hc, hmark⟩
    rw [if_neg hneeds]
    cases hcs : t.toList with
    | nil => exact ⟨.fresh, by decide, rfl⟩
    | cons c v =>
      rw [hcs] at hplain
      refine ⟨.bare, by decide, ?_⟩
      rw [List.cons_append, rows?_plain (.inl rfl) (hplain c List.mem_cons_self),
        rows?_bare fun c h => hplain c (List.mem_cons_of_mem _ h)]
      rfl

/-! ## Lines -/

theorem rows?_csvValues {values : List String} (hne : values ≠ []) :
    rows? .fresh [] row (csvValues values ++ '\n' :: cs) =
      (rows? .fresh [] [] cs).map ((row ++ values) :: ·) := by
  induction values generalizing row with
  | nil => exact absurd rfl hne
  | cons t rest ih =>
    cases rest with
    | nil =>
      obtain ⟨s, hs, hfield⟩ := rows?_csvValue row ('\n' :: cs) t
      rw [csvValues, hfield, rows?_lineFeed hs, String.ofList_toList]
    | cons t' rest =>
      obtain ⟨s, hs, hfield⟩ := rows?_csvValue row (',' :: (csvValues (t' :: rest) ++ '\n' :: cs)) t
      rw [csvValues, List.append_assoc, List.cons_append, hfield, rows?_comma hs, String.ofList_toList,
        ih (List.cons_ne_nil _ _), List.append_assoc, List.singleton_append]
      exact List.cons_ne_nil _ _

end

/-- Lines of at least one value each are read as they were written. -/
theorem rows?_lines {table : List (List String)} (hne : ∀ values ∈ table, values ≠ []) :
    rows? .fresh [] [] (table.flatMap csvLine) = some table := by
  induction table with
  | nil => rfl
  | cons values table ih =>
    have hfirst : values ≠ [] := hne values List.mem_cons_self
    have hrest : ∀ values ∈ table, values ≠ [] := fun v h => hne v (List.mem_cons_of_mem _ h)
    rw [List.flatMap_cons, csvLine, List.append_assoc, List.singleton_append, rows?_csvValues hfirst, ih hrest]
    rfl

/-- Commas, quotes, ends of lines and values without a character, all in two lines. -/
example : rows? .fresh [] [] ("\"a,b\",\"\"\"\"\n,\"\r\n\"\n".toList) = some [["a,b", "\""], ["", "\r\n"]] := by
  decide

/-! ## The report -/

/-- **The report in lines reads as its violations**, one row of four values for each in their order, below a
row of names. -/
theorem rowsOf?_render (colors verbose quiet : Bool) (r : SurveyResult) :
    rowsOf? (render .csv colors verbose quiet r) =
      some (["severity", "rule", "from", "to"] ::
        r.summary.violations.map fun v => [v.rule.severity.name, v.rule.name, v.from, v.to]) := by
  have hrows : ∀ values ∈ ["severity", "rule", "from", "to"] :: r.summary.violations.map csvRow, values ≠ [] := by
    intro values hvalues
    rcases List.mem_cons.mp hvalues with rfl | hvalues
    · exact List.cons_ne_nil _ _
    · obtain ⟨v, -, rfl⟩ := List.mem_map.mp hvalues
      exact List.cons_ne_nil _ _
  show rows? .fresh [] [] (csv r).toList = _
  rw [csv, String.toList_ofList, rows?_lines hrows]
  rfl

end ImportSurvey.Report
