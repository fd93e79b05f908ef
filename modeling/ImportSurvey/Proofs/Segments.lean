import Mathlib.Data.List.Basic
import ImportSurvey.Path

/-
  The segments of a path text, and the text back from its segments.

  A text is its segments with one separator between two of them, so what is known of the segments is known of
  the text.  The crux for all that follows is `segments_append_sep`: a piece without separator that a separator
  follows is a segment, whatever comes behind.
-/
namespace ImportSurvey.Path

theorem segments_ne_nil (cs : List Char) : segments cs ≠ [] := by
  induction cs with
  | nil => exact List.cons_ne_nil _ _
  | cons c cs ih =>
    rw [segments]
    split
    · exact List.cons_ne_nil _ _
    · split
      · exact List.cons_ne_nil _ _
      · exact List.cons_ne_nil _ _

@[simp] theorem segments_nil : segments [] = [[]] := rfl

@[simp] theorem segments_sep (cs : List Char) : segments ('/' :: cs) = [] :: segments cs := if_pos rfl

/-- A character that is no separator belongs to the first segment. -/
theorem segments_cons {c : Char} (hc : c ≠ '/') {cs s : List Char} {ss : List (List Char)}
    (h : segments cs = s :: ss) : segments (c :: cs) = (c :: s) :: ss := by
  rw [segments, if_neg hc, h]

theorem segments_of_not_mem {s : List Char} (h : '/' ∉ s) : segments s = [s] := by
  induction s with
  | nil => rfl
  | cons c s ih =>
    rw [List.mem_cons, not_or] at h
    exact segments_cons (Ne.symm h.1) (ih h.2)

/-- **A piece without separator is a segment if a separator follows.** -/
theorem segments_append_sep {s : List Char} (h : '/' ∉ s) (cs : List Char) :
    segments (s ++ '/' :: cs) = s :: segments cs := by
  induction s with
  | nil => exact segments_sep cs
  | cons c s ih =>
    rw [List.mem_cons, not_or] at h
    exact segments_cons (Ne.symm h.1) (ih h.2)

/-- A text that is put together holds what its parts hold, and separators. -/
theorem mem_intercalate {ss : List (List Char)} {c sep : Char} (h : c ∈ [sep].intercalate ss) :
    c = sep ∨ ∃ s ∈ ss, c ∈ s := by
  induction ss with
  | nil => exact absurd h List.not_mem_nil
  | cons s ss ih =>
    cases ss with
    | nil =>
      rw [List.intercalate_singleton] at h
      exact .inr ⟨s, List.mem_singleton_self s, h⟩
    | cons t ss =>
      rw [List.intercalate_cons_cons, List.append_assoc, List.mem_append, List.singleton_append, List.mem_cons] at h
      rcases h with h | h | h
      · exact .inr ⟨s, List.mem_cons_self, h⟩
      · exact .inl h
      · exact (ih h).imp_right fun ⟨u, hu, hc⟩ => ⟨u, List.mem_cons_of_mem s hu, hc⟩

/-- A text is its segments with separators between them. -/
theorem intercalate_segments (cs : List Char) : ['/'].intercalate (segments cs) = cs := by
  induction cs with
  | nil => rfl
  | cons c cs ih =>
    obtain ⟨s, ss, hs⟩ := List.exists_cons_of_ne_nil (segments_ne_nil cs)
    by_cases hc : c = '/'
    · subst hc
      rw [segments_sep, hs]
      rw [hs] at ih
      rw [List.intercalate_cons_cons, ih]
      rfl
    · rw [segments_cons hc hs]
      rw [hs] at ih
      cases ss with
      | nil =>
        rw [List.intercalate_singleton] at ih ⊢
        rw [ih]
      | cons s' ss =>
        rw [List.intercalate_cons_cons] at ih ⊢
        rw [List.cons_append, List.cons_append, ih]

/-- No segment holds a separator. -/
theorem not_mem_of_mem_segments {cs s : List Char} (h : s ∈ segments cs) : '/' ∉ s := by
  induction cs generalizing s with
  | nil =>
    rw [segments_nil, List.mem_singleton] at h
    rw [h]
    exact List.not_mem_nil
  | cons c cs ih =>
    obtain ⟨t, ts, ht⟩ := List.exists_cons_of_ne_nil (segments_ne_nil cs)
    by_cases hc : c = '/'
    · subst hc
      rw [segments_sep, List.mem_cons] at h
      rcases h with rfl | h
      · exact List.not_mem_nil
      · exact ih h
    · rw [segments_cons hc ht, List.mem_cons] at h
      rcases h with rfl | h
      · have := ih (s := t) (ht ▸ List.mem_cons_self ..)
        rw [List.mem_cons, not_or]
        exact ⟨Ne.symm hc, this⟩
      · exact ih (ht ▸ List.mem_cons_of_mem t h)

/-- The segments of a text made of pieces without separators are the pieces. -/
theorem segments_intercalate {ss : List (List Char)} (hne : ss ≠ []) (h : ∀ s ∈ ss, '/' ∉ s) :
    segments (['/'].intercalate ss) = ss := by
  induction ss with
  | nil => exact absurd rfl hne
  | cons s ss ih =>
    have hs := h s (List.mem_cons_self ..)
    cases ss with
    | nil =>
      rw [List.intercalate_singleton]
      exact segments_of_not_mem hs
    | cons s' ss =>
      rw [List.intercalate_cons_cons, List.append_assoc, List.singleton_append, segments_append_sep hs,
        ih (List.cons_ne_nil _ _) fun t ht => h t (List.mem_cons_of_mem s ht)]

end ImportSurvey.Path
