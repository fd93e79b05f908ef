import Mathlib.Data.List.Forall2
import Mathlib.Data.List.Nodup

/-
  Lists that name each thing once: what is left after repetitions are erased, and look-ups by a key that
  occurs once.
-/
namespace ImportSurvey

theorem nodup_eraseDups {α : Type _} [BEq α] [LawfulBEq α] (l : List α) : l.eraseDups.Nodup := by
  match l with
  | [] => exact List.nodup_nil
  | a :: l =>
    have ih := nodup_eraseDups (l.filter fun b => !b == a)
    rw [List.eraseDups_cons, List.nodup_cons]
    refine ⟨fun hmem => ?_, ih⟩
    rw [List.mem_eraseDups, List.mem_filter] at hmem
    simp at hmem
termination_by l.length
decreasing_by exact Nat.lt_succ_of_le (List.length_filter_le _ _)

/-- The first occurrence counts: one more at the end matters only if it is new. -/
theorem eraseDups_concat {α : Type _} [BEq α] [LawfulBEq α] [DecidableEq α] (l : List α) (a : α) :
    (l ++ [a]).eraseDups = if a ∈ l then l.eraseDups else l.eraseDups ++ [a] := by
  rw [List.eraseDups_append]
  by_cases ha : a ∈ l
  · have hnone : [a].removeAll l = [] := by simp [List.removeAll, ha]
    rw [if_pos ha, hnone, List.eraseDups_nil, List.append_nil]
  · have hone : [a].removeAll l = [a] := by simp [List.removeAll, ha]
    rw [if_neg ha, hone, List.eraseDups_cons, List.filter_nil, List.eraseDups_nil]

/-- Mapping and erasing can change places if what was different stays different. -/
theorem eraseDups_map_of_inj {α β : Type _} [BEq α] [LawfulBEq α] [BEq β] [LawfulBEq β] (f : α → β) (l : List α)
    (hf : ∀ a ∈ l, ∀ b ∈ l, f a = f b → a = b) : (l.map f).eraseDups = l.eraseDups.map f := by
  match l with
  | [] => rfl
  | a :: l =>
    have hfilter : (l.map f).filter (fun y => !y == f a) = (l.filter fun b => !b == a).map f := by
      rw [List.filter_map]
      congr 1
      apply List.filter_congr
      intro b hb
      have hiff : f b = f a ↔ b = a :=
        ⟨hf b (List.mem_cons_of_mem a hb) a (List.mem_cons_self ..), fun h => h ▸ rfl⟩
      show (!f b == f a) = !b == a
      rw [Bool.eq_iff_iff]
      simp [hiff]
    have ih := eraseDups_map_of_inj f (l.filter fun b => !b == a) fun b hb c hc =>
      hf b (List.mem_cons_of_mem a (List.mem_of_mem_filter hb)) c
        (List.mem_cons_of_mem a (List.mem_of_mem_filter hc))
    rw [List.map_cons, List.eraseDups_cons, List.eraseDups_cons, List.map_cons, hfilter, ih]
termination_by l.length
decreasing_by exact Nat.lt_succ_of_le (List.length_filter_le _ _)

theorem lookup_cons_ne {a k : String} (v : Nat) (l : List (String × Nat)) (h : a ≠ k) :
    ((k, v) :: l).lookup a = l.lookup a := by
  rw [List.lookup_cons, beq_eq_false_iff_ne.mpr h]

/-- A look-up in a list whose keys differ finds what the list holds. -/
theorem lookup_iff_mem {l : List (String × Nat)} (hl : (l.map (·.1)).Nodup) (id : String) (i : Nat) :
    l.lookup id = some i ↔ (id, i) ∈ l := by
  induction l with
  | nil => simp
  | cons p l ih =>
    obtain ⟨k, v⟩ := p
    rw [List.map_cons, List.nodup_cons] at hl
    rw [List.mem_cons]
    by_cases hk : id = k
    · subst hk
      have hnot : (id, i) ∉ l := fun hm => hl.1 (List.mem_map_of_mem (f := (·.1)) hm)
      rw [List.lookup_cons_self]
      simp only [hnot, or_false, Option.some.injEq, Prod.mk.injEq, true_and]
      exact eq_comm
    · rw [lookup_cons_ne _ _ hk, ih hl.2]
      exact ⟨Or.inr, fun hm => hm.resolve_left fun he => hk (congrArg Prod.fst he)⟩

/-- What stands in a row has its partner in the other row. -/
theorem exists_of_mem_right {α β : Type _} {R : α → β → Prop} {l : List α} {l' : List β}
    (h : List.Forall₂ R l l') {b : β} (hb : b ∈ l') : ∃ a ∈ l, R a b := by
  induction h with
  | nil => exact absurd hb List.not_mem_nil
  | @cons a b' l l' hab _ ih =>
    rcases List.mem_cons.mp hb with rfl | hb
    · exact ⟨a, List.mem_cons_self .., hab⟩
    · obtain ⟨a', ha', hr⟩ := ih hb
      exact ⟨a', List.mem_cons_of_mem a ha', hr⟩

theorem exists_of_mem_left {α β : Type _} {R : α → β → Prop} {l : List α} {l' : List β}
    (h : List.Forall₂ R l l') {a : α} (ha : a ∈ l) : ∃ b ∈ l', R a b := by
  have hflip : List.Forall₂ (flip R) l' l := List.Forall₂.flip h
  exact exists_of_mem_right hflip ha

end ImportSurvey
