import Mathlib.Data.Finset.Card
import Mathlib.Data.Finset.Range
import Mathlib.Data.Finset.Filter
import Mathlib.Logic.Relation
import ImportSurvey.Graph.Reach

/-
  The breadth-first search finds exactly what can be reached, and by shortest ways.

  The search is a loop over levels, and `Layer` is its invariant.  After `k` levels the modules with a
  parent are those that some way of one to `k` edges leads to, the current level holds the modules whose
  shortest way has `k` edges, and a parent stands one edge before its child on a shortest way.  The root
  needs no case of its own: it starts the level of ways with no edges, and it gets a parent like any other
  module as soon as a way leads back to it.

  One round of the loop follows a list of edges one by one (`Followed`).  The fuel suffices because a round
  that finds nothing ends the search, and every other round takes something out of the modules that have
  no parent yet.
-/
namespace ImportSurvey.Graph

/-! ## Ways through a topology -/

/-- One edge. -/
def Topology.Edge (t : Topology) (i j : Nat) : Prop := j ∈ t.next i

/-- No edge leads out of the row. -/
def Topology.Closed (t : Topology) : Prop := ∀ i j, t.Edge i j → j < t.size

/-- A way of `n` edges from the root. -/
inductive Topology.Way (t : Topology) (root : Nat) : Nat → Nat → Prop where
  | start : Way t root 0 root
  | step {n i j : Nat} : Way t root n i → t.Edge i j → Way t root (n + 1) j

/-- A way of `n` edges such that no way of one edge or more is shorter. -/
def Topology.First (t : Topology) (root n j : Nat) : Prop :=
  t.Way root n j ∧ ∀ k, 0 < k → k < n → ¬ t.Way root k j

theorem Topology.way_zero {t : Topology} {root j : Nat} : t.Way root 0 j ↔ j = root := by
  constructor
  · intro h
    cases h
    rfl
  · rintro rfl
    exact .start

theorem Topology.first_zero {t : Topology} {root j : Nat} : t.First root 0 j ↔ j = root := by
  rw [First, way_zero]
  exact ⟨fun h => h.1, fun h => ⟨h, fun k _ hk => absurd hk (Nat.not_lt_zero k)⟩⟩

/-- A module that a way leads to is first reached on this way or on a shorter one. -/
theorem Topology.Way.first_or_shorter {t : Topology} {root n j : Nat} (h : t.Way root n j) :
    t.First root n j ∨ ∃ k, 0 < k ∧ k < n ∧ t.Way root k j := by
  by_cases hs : ∃ k, 0 < k ∧ k < n ∧ t.Way root k j
  · exact Or.inr hs
  · exact Or.inl ⟨h, fun k h0 hn hk => hs ⟨k, h0, hn, hk⟩⟩

/-- The ways of one edge or more are the paths of the edge relation. -/
theorem Topology.exists_way_iff {t : Topology} {root j : Nat} :
    (∃ n, t.Way root (n + 1) j) ↔ Relation.TransGen t.Edge root j := by
  constructor
  · rintro ⟨n, hn⟩
    induction n generalizing j with
    | zero =>
      cases hn with
      | step hi hij =>
        rw [way_zero.mp hi] at hij
        exact .single hij
    | succ n ih =>
      cases hn with
      | step hi hij => exact .tail (ih hi) hij
  · intro h
    induction h with
    | single hij => exact ⟨0, .step .start hij⟩
    | tail _ hjk ih =>
      obtain ⟨n, hn⟩ := ih
      exact ⟨n + 1, .step hn hjk⟩

/-! ## Following a list of edges -/

theorem Parents.of_setIfInBounds (ps : Parents) (k j p : Nat) :
    Parents.of (ps.setIfInBounds k (some p)) j = if k = j ∧ k < ps.size then some p else ps.of j := by
  rw [Parents.of, Array.getElem?_setIfInBounds]
  by_cases hk : k = j
  · subst hk
    by_cases hs : k < ps.size
    · rw [if_pos rfl, if_pos hs, if_pos ⟨rfl, hs⟩]
      rfl
    · rw [if_pos rfl, if_neg hs, if_neg (fun h => hs h.2), Parents.of,
        Array.getElem?_eq_none (Nat.le_of_not_lt hs)]
  · rw [if_neg hk, if_neg (fun h => hk h.1), Parents.of]

/-- The edges out of the modules of a level, in the order in which they are followed. -/
def Topology.edgesOut (t : Topology) (level : List Nat) : List (Nat × Nat) :=
  level.flatMap fun i => (t.next i).map fun j => (i, j)

theorem Topology.edgesOut_cons (t : Topology) (i : Nat) (level : List Nat) :
    t.edgesOut (i :: level) = (t.next i).map (fun j => (i, j)) ++ t.edgesOut level := List.flatMap_cons

theorem Topology.mem_edgesOut {t : Topology} {level : List Nat} {e : Nat × Nat} :
    e ∈ t.edgesOut level ↔ e.1 ∈ level ∧ t.Edge e.1 e.2 := by
  rw [edgesOut, List.mem_flatMap]
  constructor
  · rintro ⟨i, hi, he⟩
    obtain ⟨j, hj, rfl⟩ := List.mem_map.mp he
    exact ⟨hi, hj⟩
  · rintro ⟨hi, he⟩
    exact ⟨e.1, hi, List.mem_map.mpr ⟨e.2, he, rfl⟩⟩

theorem foldl_expand (t : Topology) (level : List Nat) (st : Parents × List Nat) :
    level.foldl (expand t) st = (t.edgesOut level).foldl (fun st e => follow e.1 st e.2) st := by
  induction level generalizing st with
  | nil => rfl
  | cons i level ih =>
    rw [List.foldl_cons, ih, Topology.edgesOut_cons, List.foldl_append, List.foldl_map]
    rfl

/-- What following some edges does: a module with a parent keeps it, a module without one gets one iff an
edge leads to it, and those that got one are collected. -/
structure Followed (edges : List (Nat × Nat)) (st st' : Parents × List Nat) : Prop where
  size : st'.1.size = st.1.size
  keeps : ∀ j p, st.1.of j = some p → st'.1.of j = some p
  finds : ∀ e ∈ edges, (st'.1.of e.2).isSome
  parent : ∀ j p, st'.1.of j = some p → st.1.of j = some p ∨ (st.1.of j = none ∧ (p, j) ∈ edges)
  collects : ∀ j, j ∈ st'.2 ↔ j ∈ st.2 ∨ (st.1.of j = none ∧ (st'.1.of j).isSome)

theorem Followed.isSome_of {edges : List (Nat × Nat)} {st st' : Parents × List Nat} (h : Followed edges st st')
    {j : Nat} (hj : (st.1.of j).isSome) : (st'.1.of j).isSome := by
  obtain ⟨p, hp⟩ := Option.isSome_iff_exists.mp hj
  rw [h.keeps j p hp]
  rfl

theorem Followed.eq_none_of {edges : List (Nat × Nat)} {st st' : Parents × List Nat} (h : Followed edges st st')
    {j : Nat} (hj : st'.1.of j = none) : st.1.of j = none := by
  by_contra hne
  have hsome := h.isSome_of (Option.isSome_iff_ne_none.mpr hne)
  rw [hj] at hsome
  cases hsome

/-- **Following one edge.** -/
theorem follow_spec (st : Parents × List Nat) {e : Nat × Nat} (he : e.2 < st.1.size) :
    Followed [e] st (follow e.1 st e.2) := by
  obtain ⟨p, k⟩ := e
  unfold follow
  cases hk : st.1.of k with
  | some q =>
    refine ⟨rfl, fun j r h => h, ?_, fun j r h => Or.inl h, ?_⟩
    · intro e he
      rw [List.mem_singleton.mp he, hk]
      rfl
    · intro j
      refine ⟨Or.inl, fun h => h.resolve_right ?_⟩
      rintro ⟨hn, hs⟩
      rw [hn] at hs
      cases hs
  | none =>
    have hof := Parents.of_setIfInBounds st.1 k
    refine ⟨by simp, ?_, ?_, ?_, ?_⟩
    · intro j r h
      show Parents.of (st.1.setIfInBounds k (some p)) j = some r
      rw [hof, if_neg, h]
      rintro ⟨rfl, -⟩
      rw [hk] at h
      cases h
    · intro e he'
      show (Parents.of (st.1.setIfInBounds k (some p)) e.2).isSome
      rw [List.mem_singleton.mp he', hof, if_pos ⟨rfl, he⟩]
      rfl
    · intro j r h
      have h' : Parents.of (st.1.setIfInBounds k (some p)) j = some r := h
      rw [hof] at h'
      split at h'
      · rename_i hkj
        obtain ⟨rfl, -⟩ := hkj
        rw [Option.some.inj h']
        exact Or.inr ⟨hk, List.mem_singleton.mpr rfl⟩
      · exact Or.inl h'
    · intro j
      show j ∈ k :: st.2 ↔ j ∈ st.2 ∨ (st.1.of j = none ∧ (Parents.of (st.1.setIfInBounds k (some p)) j).isSome)
      rw [List.mem_cons, hof]
      by_cases hj : k = j
      · subst hj
        rw [if_pos ⟨rfl, he⟩]
        exact ⟨fun _ => Or.inr ⟨hk, rfl⟩, fun _ => Or.inl rfl⟩
      · rw [if_neg fun h => hj h.1]
        constructor
        · rintro (h | h)
          · exact absurd h.symm hj
          · exact Or.inl h
        · rintro (h | ⟨hn, hs⟩)
          · exact Or.inr h
          · rw [hn] at hs
            cases hs

/-- **Following one edge and then the others.** -/
theorem Followed.cons {e : Nat × Nat} {edges : List (Nat × Nat)} {st st₁ st₂ : Parents × List Nat}
    (h₁ : Followed [e] st st₁) (h₂ : Followed edges st₁ st₂) : Followed (e :: edges) st st₂ := by
  refine ⟨h₂.size.trans h₁.size, fun j p h => h₂.keeps j p (h₁.keeps j p h), ?_, ?_, ?_⟩
  · intro e' he'
    rcases List.mem_cons.mp he' with rfl | he'
    · exact h₂.isSome_of (h₁.finds e' (List.mem_singleton.mpr rfl))
    · exact h₂.finds e' he'
  · intro j p h
    rcases h₂.parent j p h with h | ⟨hn, hm⟩
    · rcases h₁.parent j p h with h | ⟨hn, hm⟩
      · exact Or.inl h
      · exact Or.inr ⟨hn, List.mem_cons.mpr (Or.inl (List.mem_singleton.mp hm))⟩
    · exact Or.inr ⟨h₁.eq_none_of hn, List.mem_cons_of_mem e hm⟩
  · intro j
    rw [h₂.collects, h₁.collects]
    cases hj : st.1.of j with
    | some q =>
      -- a parent from before stays through both
      have h1 := h₁.keeps j q hj
      simp [h1]
    | none =>
      cases hj₁ : st₁.1.of j with
      | some q =>
        have h2 := h₂.keeps j q hj₁
        simp [h2]
      | none => simp

theorem foldl_follow_spec (edges : List (Nat × Nat)) (st : Parents × List Nat)
    (h : ∀ e ∈ edges, e.2 < st.1.size) :
    Followed edges st (edges.foldl (fun st e => follow e.1 st e.2) st) := by
  induction edges generalizing st with
  | nil =>
    refine ⟨rfl, fun j p h => h, fun e he => absurd he List.not_mem_nil, fun j p h => Or.inl h, fun j => ?_⟩
    refine ⟨Or.inl, fun h => h.resolve_right ?_⟩
    rintro ⟨hn, hs⟩
    rw [List.foldl_nil, hn] at hs
    cases hs
  | cons e edges ih =>
    have h₁ := follow_spec st (h e (List.mem_cons_self ..))
    refine h₁.cons (ih _ fun e' he' => ?_)
    rw [h₁.size]
    exact h e' (List.mem_cons_of_mem e he')

/-! ## One level after another -/

/-- **The invariant of the search.**  The first `k` levels are done. -/
structure Layer (t : Topology) (root k : Nat) (level : List Nat) (ps : Parents) : Prop where
  size : ps.size = t.size
  seen : ∀ j, (ps.of j).isSome ↔ ∃ n, n < k ∧ t.Way root (n + 1) j
  level : ∀ j, j ∈ level ↔ t.First root k j
  parent : ∀ j p, ps.of j = some p → ∃ n, t.First root n p ∧ t.Edge p j ∧ t.First root (n + 1) j

theorem Layer.init (t : Topology) (root : Nat) :
    Layer t root 0 [root] (Array.replicate t.size none) := by
  have hnone : ∀ j, Parents.of (Array.replicate t.size none) j = none := by
    intro j
    rw [Parents.of, Array.getElem?_replicate]
    split <;> rfl
  refine ⟨Array.size_replicate, fun j => ?_, fun j => ?_, fun j p h => ?_⟩
  · rw [hnone]
    constructor
    · intro h
      cases h
    · rintro ⟨n, hn, -⟩
      exact absurd hn (Nat.not_lt_zero n)
  · rw [List.mem_singleton]
    exact Topology.first_zero.symm
  · rw [hnone] at h
    cases h

/-- A way to a module goes through the current level, or was seen before. -/
theorem Layer.way_succ {t : Topology} {root k : Nat} {level : List Nat} {ps : Parents}
    (h : Layer t root k level ps) {j : Nat} :
    t.Way root (k + 1) j → (ps.of j).isSome ∨ ∃ i ∈ level, t.Edge i j := by
  intro hway
  cases hway with
  | step hi hij =>
    rename_i i
    rcases hi.first_or_shorter with hf | ⟨n, h0, hn, hw⟩
    · exact Or.inr ⟨i, (h.level i).mpr hf, hij⟩
    · exact Or.inl ((h.seen j).mpr ⟨n, hn, .step hw hij⟩)

/-- What has a parent after a round: what had one, and what the level leads to. -/
theorem Layer.seen_next {t : Topology} {root k : Nat} {level : List Nat} {ps : Parents}
    {st : Parents × List Nat} (h : Layer t root k level ps) (hf : Followed (t.edgesOut level) (ps, []) st)
    (j : Nat) : (st.1.of j).isSome ↔ ∃ n, n < k + 1 ∧ t.Way root (n + 1) j := by
  constructor
  · intro hj
    obtain ⟨p, hp⟩ := Option.isSome_iff_exists.mp hj
    rcases hf.parent j p hp with hold | ⟨-, hm⟩
    · obtain ⟨n, hn, hw⟩ := (h.seen j).mp (by rw [hold]; rfl)
      exact ⟨n, Nat.lt_succ_of_lt hn, hw⟩
    · obtain ⟨hp, hpj⟩ := Topology.mem_edgesOut.mp hm
      exact ⟨k, Nat.lt_succ_self k, .step ((h.level p).mp hp).1 hpj⟩
  · rintro ⟨n, hn, hw⟩
    have hor : (ps.of j).isSome ∨ ∃ i ∈ level, t.Edge i j := by
      rcases Nat.lt_or_eq_of_le (Nat.le_of_lt_succ hn) with hlt | rfl
      · exact Or.inl ((h.seen j).mpr ⟨n, hlt, hw⟩)
      · exact h.way_succ hw
    rcases hor with hj | ⟨i, hi, hij⟩
    · exact hf.isSome_of hj
    · exact hf.finds (i, j) (Topology.mem_edgesOut.mpr ⟨hi, hij⟩)

/-- What got its parent in this round is first reached by ways of one edge more. -/
theorem Layer.first_of_fresh {t : Topology} {root k : Nat} {level : List Nat} {ps : Parents}
    {st : Parents × List Nat} (h : Layer t root k level ps) (hf : Followed (t.edgesOut level) (ps, []) st)
    {j : Nat} (hn : ps.of j = none) (hs : (st.1.of j).isSome) : t.First root (k + 1) j := by
  have hold : ∀ n, n < k → ¬ t.Way root (n + 1) j := by
    intro n hnk hw
    have hsome := (h.seen j).mpr ⟨n, hnk, hw⟩
    rw [hn] at hsome
    cases hsome
  obtain ⟨n, hn, hw⟩ := (h.seen_next hf j).mp hs
  rcases Nat.lt_or_eq_of_le (Nat.le_of_lt_succ hn) with hlt | rfl
  · exact absurd hw (hold n hlt)
  · refine ⟨hw, fun m h0 hm hwm => ?_⟩
    obtain ⟨m', rfl⟩ := Nat.exists_eq_succ_of_ne_zero (Nat.ne_of_gt h0)
    exact hold m' (by omega) hwm

/-- **One round keeps the invariant.** -/
theorem Layer.next {t : Topology} {root k : Nat} {level : List Nat} {ps : Parents}
    {st : Parents × List Nat} (h : Layer t root k level ps)
    (hf : Followed (t.edgesOut level) (ps, []) st) : Layer t root (k + 1) st.2.reverse st.1 := by
  refine ⟨hf.size.trans h.size, h.seen_next hf, fun j => ?_, fun j p hp => ?_⟩
  · rw [List.mem_reverse, hf.collects]
    constructor
    · rintro (hj | ⟨hn, hs⟩)
      · exact absurd hj List.not_mem_nil
      · exact h.first_of_fresh hf hn hs
    · intro hj
      refine Or.inr ⟨?_, (h.seen_next hf j).mpr ⟨k, Nat.lt_succ_self k, hj.1⟩⟩
      by_contra hsome
      obtain ⟨n, hn, hw⟩ := (h.seen j).mp (Option.isSome_iff_ne_none.mpr hsome)
      exact hj.2 (n + 1) (Nat.succ_pos n) (by omega) hw
  · rcases hf.parent j p hp with hold | ⟨hn, hm⟩
    · exact h.parent j p hold
    · obtain ⟨hpl, hpj⟩ := Topology.mem_edgesOut.mp hm
      exact ⟨k, (h.level p).mp hpl, hpj, h.first_of_fresh hf hn (by rw [hp]; rfl)⟩

/-- Once a level is empty, every way leads to a module with a parent. -/
theorem Layer.complete {t : Topology} {root k : Nat} {ps : Parents} (h : Layer t root k [] ps) {n j : Nat}
    (hw : t.Way root (n + 1) j) : (ps.of j).isSome := by
  have hnone : ∀ i, ¬ t.First root k i := fun i hi => List.not_mem_nil ((h.level i).mpr hi)
  have hk : 0 < k := by
    rcases Nat.eq_zero_or_pos k with rfl | hk
    · exact absurd (Topology.first_zero.mpr rfl) (hnone root)
    · exact hk
  induction n generalizing j with
  | zero => exact (h.seen j).mpr ⟨0, hk, hw⟩
  | succ n ih =>
    cases hw with
    | step hi hij =>
      rename_i i
      obtain ⟨m, hm, hwm⟩ := (h.seen i).mp (ih hi)
      rcases Nat.lt_or_eq_of_le (show m + 1 ≤ k from hm) with hlt | heq
      · exact (h.seen j).mpr ⟨m + 1, hlt, .step hwm hij⟩
      · -- a way of `k` edges is no shortest way, so a shorter one leads on to `j`
        rcases hwm.first_or_shorter with hf | ⟨l, h0, hl, hwl⟩
        · rw [heq] at hf
          exact absurd hf (hnone i)
        · exact (h.seen j).mpr ⟨l, by omega, .step hwl hij⟩

/-! ## The fuel suffices -/

/-- The modules without a parent. -/
def unseen (t : Topology) (ps : Parents) : Finset Nat :=
  (Finset.range t.size).filter fun j => ps.of j = none

/-- A round that finds something leaves fewer modules without a parent. -/
theorem card_unseen_lt {t : Topology} {edges : List (Nat × Nat)} {ps : Parents} {st : Parents × List Nat}
    (hf : Followed edges (ps, []) st) (hsize : ps.size = t.size) (hne : st.2 ≠ []) :
    (unseen t st.1).card < (unseen t ps).card := by
  obtain ⟨j, hj⟩ := List.exists_mem_of_ne_nil _ hne
  obtain ⟨hn, hs⟩ := ((hf.collects j).mp hj).resolve_left List.not_mem_nil
  have hlt : j < t.size := by
    by_contra hge
    have hout : st.1.of j = none := by
      rw [Parents.of, Array.getElem?_eq_none]
      · rfl
      · rw [hf.size]
        show ps.size ≤ j
        omega
    rw [hout] at hs
    cases hs
  apply Finset.card_lt_card
  rw [Finset.ssubset_iff_of_subset]
  · refine ⟨j, Finset.mem_filter.mpr ⟨Finset.mem_range.mpr hlt, hn⟩, fun hmem => ?_⟩
    rw [(Finset.mem_filter.mp hmem).2] at hs
    cases hs
  · intro i hi
    obtain ⟨hir, hin⟩ := Finset.mem_filter.mp hi
    exact Finset.mem_filter.mpr ⟨hir, hf.eq_none_of hin⟩

/-- **The search ends in an empty level.** -/
theorem levels_spec {t : Topology} (ht : t.Closed) {root : Nat} (fuel : Nat) :
    ∀ (k : Nat) (level : List Nat) (ps : Parents), Layer t root k level ps →
      level = [] ∨ (unseen t ps).card < fuel → ∃ k', Layer t root k' [] (levels t fuel level ps) := by
  induction fuel with
  | zero =>
    intro k level ps h hfuel
    obtain rfl := hfuel.resolve_right (Nat.not_lt_zero _)
    exact ⟨k, h⟩
  | succ fuel ih =>
    intro k level ps h hfuel
    cases level with
    | nil => exact ⟨k, h⟩
    | cons i level =>
      have hcard := hfuel.resolve_left (List.cons_ne_nil i level)
      have hin : ∀ e ∈ t.edgesOut (i :: level), e.2 < ps.size := by
        intro e he
        rw [h.size]
        exact ht _ _ (Topology.mem_edgesOut.mp he).2
      have hf := foldl_follow_spec (t.edgesOut (i :: level)) (ps, []) hin
      rw [← foldl_expand] at hf
      refine ih (k + 1) _ _ (h.next hf) ?_
      by_cases hnil : ((i :: level).foldl (expand t) (ps, [])).2 = []
      · exact Or.inl (List.reverse_eq_nil_iff.mpr hnil)
      · have hlt := card_unseen_lt hf h.size hnil
        exact Or.inr (Nat.lt_of_lt_of_le hlt (Nat.le_of_lt_succ hcard))

/-- The finished search has the invariant, with nothing left to go on from. -/
theorem exists_layer_parents {t : Topology} (ht : t.Closed) (root : Nat) :
    ∃ k, Layer t root k [] (parents t root) := by
  have hcard : (unseen t (Array.replicate t.size none)).card < t.size + 1 := by
    have hle := Finset.card_filter_le (Finset.range t.size)
      fun j => Parents.of (Array.replicate t.size none) j = none
    rw [Finset.card_range] at hle
    exact Nat.lt_succ_of_le hle
  exact levels_spec ht (t.size + 1) 0 [root] _ (Layer.init t root) (Or.inr hcard)

/-- **The search is sound and complete**: a module has a parent iff a path of one edge or more leads to it
from the root. -/
theorem isSome_parents_iff {t : Topology} (ht : t.Closed) (root j : Nat) :
    ((parents t root).of j).isSome ↔ Relation.TransGen t.Edge root j := by
  obtain ⟨k, h⟩ := exists_layer_parents ht root
  rw [← Topology.exists_way_iff]
  constructor
  · intro hj
    obtain ⟨n, -, hw⟩ := (h.seen j).mp hj
    exact ⟨n, hw⟩
  · rintro ⟨n, hw⟩
    exact h.complete hw

theorem searchFrom_searches {t : Topology} {i : Nat} (hi : i < t.size) :
    searchFrom t.searches i = parents t i := by
  rw [searchFrom, Topology.searches, List.getElem?_toArray, List.getElem?_map, List.getElem?_range hi]
  rfl

/-- A path starts inside the row. -/
theorem Topology.lt_of_path {t : Topology} {i j : Nat} (h : Relation.TransGen t.Edge i j) : i < t.size := by
  obtain ⟨k, hk, -⟩ := Relation.TransGen.head'_iff.mp h
  by_contra hge
  rw [Edge, Topology.next, Array.getElem?_eq_none (Nat.le_of_not_lt hge)] at hk
  exact List.not_mem_nil hk

/-- The same for the table of all searches. -/
theorem isSome_searches_iff {t : Topology} (ht : t.Closed) (i j : Nat) :
    ((searchFrom t.searches i).of j).isSome ↔ Relation.TransGen t.Edge i j := by
  by_cases hi : i < t.size
  · rw [searchFrom_searches hi]
    exact isSome_parents_iff ht i j
  · have hnone : searchFrom t.searches i = #[] := by
      rw [searchFrom, Topology.searches, Array.getElem?_eq_none]
      · rfl
      · simp only [List.size_toArray, List.length_map, List.length_range]
        omega
    rw [hnone]
    exact ⟨fun h => (by cases h), fun h => absurd (Topology.lt_of_path h) hi⟩

end ImportSurvey.Graph
