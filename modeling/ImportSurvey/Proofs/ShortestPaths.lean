import Mathlib.Data.Fintype.Card
import ImportSurvey.Proofs.Search

/-
  Walking back over the parents gives a shortest path.

  The walk starts at the target and stops where the next parent would be the root.  Its invariant: what was
  collected so far is a path from the current module to the target, and the current module is first reached
  by as many edges as are still to come.  Each parent is first reached by one edge less, so the walk comes
  closer to the root with every step.

  The root is the delicate module, since it has a parent itself when it lies on a cycle.  The walk never gets
  there: a module that has the root for a parent is one edge away from it, and a module that is further away
  has another parent (`Topology.First.eq_root_iff`).

  The number of steps is bounded by the number of modules.  On a shortest way to a module every shorter
  length is the distance of some module, so these are pairwise different modules (`Topology.First.le_size`).
-/
namespace ImportSurvey.Graph

/-! ## Paths with their nodes -/

/-- A path of one edge or more that leaves `x` and ends at `z`, with its nodes; `x` itself is left out at the
start. -/
inductive Along {α : Type _} (R : α → α → Prop) : α → List α → α → Prop where
  | last {x z : α} : R x z → Along R x [z] z
  | step {x y z : α} {path : List α} : R x y → Along R y path z → Along R x (y :: path) z

theorem Along.length_pos {α : Type _} {R : α → α → Prop} {x z : α} {path : List α} (h : Along R x path z) :
    0 < path.length := by
  cases h with
  | last => exact Nat.zero_lt_one
  | step => exact Nat.succ_pos _

/-- **A path in one relation is a path in every relation that simulates it**, node by node. -/
theorem Along.simulate {α β : Type _} {R : α → α → Prop} {S : β → β → Prop} {T : α → β → Prop}
    (hT : ∀ a b a', T a b → R a a' → ∃ b', T a' b' ∧ S b b') {x z : α} {path : List α}
    (h : Along R x path z) {y : β} (hy : T x y) :
    ∃ path' w, T z w ∧ Along S y path' w ∧ List.Forall₂ T path path' := by
  induction h generalizing y with
  | @last x z hxz =>
    obtain ⟨w, hw, hyw⟩ := hT _ _ _ hy hxz
    exact ⟨[w], w, hw, .last hyw, .cons hw .nil⟩
  | @step x x' z path hxx' _ ih =>
    obtain ⟨y', hy', hyy'⟩ := hT _ _ _ hy hxx'
    obtain ⟨path', w, hw, hp, hall⟩ := ih hy'
    exact ⟨y' :: path', w, hw, .step hyy' hp, .cons hy' hall⟩

/-- A path goes on from a way. -/
theorem Along.way {t : Topology} {root n x z : Nat} {path : List Nat} (h : Along t.Edge x path z)
    (hx : t.Way root n x) : t.Way root (n + path.length) z := by
  induction h generalizing n with
  | last hxz => exact .step hx hxz
  | @step x y z path hxy _ ih =>
    have hz := ih (.step hx hxy)
    have hlen : n + (y :: path).length = n + 1 + path.length := by
      rw [List.length_cons]
      omega
    rw [hlen]
    exact hz

/-! ## How far a module is away -/

/-- A module is first reached by one number of edges. -/
theorem Topology.First.unique {t : Topology} {root n m j : Nat} (hn : t.First root (n + 1) j)
    (hm : t.First root (m + 1) j) : n = m := by
  rcases Nat.lt_trichotomy n m with hlt | heq | hlt
  · exact absurd hn.1 (hm.2 (n + 1) (Nat.succ_pos n) (Nat.succ_lt_succ hlt))
  · exact heq
  · exact absurd hm.1 (hn.2 (m + 1) (Nat.succ_pos m) (Nat.succ_lt_succ hlt))

/-- One edge before a module on a shortest way stands a module on a shortest way. -/
theorem Topology.First.before {t : Topology} {root n j : Nat} (h : t.First root (n + 1) j) :
    ∃ i, t.First root n i := by
  obtain ⟨hway, hmin⟩ := h
  cases hway with
  | @step _ i _ hi hij =>
    refine ⟨i, hi, fun k h0 hk hwi => ?_⟩
    exact hmin (k + 1) (Nat.succ_pos k) (Nat.succ_lt_succ hk) (.step hwi hij)

theorem Topology.First.exists_of_le {t : Topology} {root n j : Nat} (h : t.First root n j) {k : Nat}
    (hk : k ≤ n) : ∃ i, t.First root k i := by
  induction n generalizing j with
  | zero =>
    obtain rfl := Nat.le_zero.mp hk
    exact ⟨j, h⟩
  | succ n ih =>
    rcases Nat.lt_or_eq_of_le hk with hlt | rfl
    · obtain ⟨i, hi⟩ := h.before
      exact ih hi (Nat.le_of_lt_succ hlt)
    · exact ⟨j, h⟩

theorem Topology.First.lt_size {t : Topology} (ht : t.Closed) {root n j : Nat} (h : t.First root (n + 1) j) :
    j < t.size := by
  obtain ⟨hway, -⟩ := h
  cases hway with
  | step _ hij => exact ht _ _ hij

/-- **No module is further away than there are modules.** -/
theorem Topology.First.le_size {t : Topology} (ht : t.Closed) {root n j : Nat} (h : t.First root n j) :
    n ≤ t.size := by
  have hat : ∀ k : Fin n, ∃ i : Fin t.size, t.First root (k + 1) i := by
    intro k
    obtain ⟨i, hi⟩ := h.exists_of_le (k := k + 1) k.isLt
    exact ⟨⟨i, hi.lt_size ht⟩, hi⟩
  choose moduleAt hfirst using hat
  have hinj : Function.Injective moduleAt := by
    intro k l hkl
    have hk := hfirst k
    rw [hkl] at hk
    exact Fin.ext (hk.unique (hfirst l))
  have hcard := Fintype.card_le_of_injective moduleAt hinj
  rw [Fintype.card_fin, Fintype.card_fin] at hcard
  exact hcard

/-- A module that stands one edge before another on a shortest way is the root iff the other one is a single
edge away, also when the root lies on a cycle. -/
theorem Topology.First.eq_root_iff {t : Topology} {root n i j : Nat} (hi : t.First root n i)
    (hj : t.First root (n + 1) j) (hij : t.Edge i j) : i = root ↔ n = 0 := by
  constructor
  · rintro rfl
    by_contra hn
    have hone : t.Way i 1 j := .step .start hij
    exact hj.2 1 Nat.zero_lt_one (by omega) hone
  · rintro rfl
    exact Topology.first_zero.mp hi

/-! ## Walking back -/

section

variable {t : Topology} (ht : t.Closed)
include ht

theorem size_parents (root : Nat) : (parents t root).size = t.size := by
  obtain ⟨k, h⟩ := exists_layer_parents ht root
  exact h.size

/-- **A parent is one edge closer to the root.** -/
theorem exists_parent_of_first {root n j : Nat} (hj : t.First root (n + 1) j) :
    ∃ p, (parents t root).of j = some p ∧ t.Edge p j ∧ t.First root n p := by
  obtain ⟨k, h⟩ := exists_layer_parents ht root
  obtain ⟨p, hp⟩ := Option.isSome_iff_exists.mp (h.complete hj.1)
  obtain ⟨m, hpm, hpj, hjm⟩ := h.parent j p hp
  obtain rfl := hj.unique hjm
  exact ⟨p, hp, hpj, hpm⟩

/-- A module that a path leads to is first reached by some number of edges. -/
theorem exists_first_of_path {root j : Nat} (h : Relation.TransGen t.Edge root j) :
    ∃ n, t.First root (n + 1) j := by
  obtain ⟨k, hlayer⟩ := exists_layer_parents ht root
  obtain ⟨p, hp⟩ := Option.isSome_iff_exists.mp ((isSome_parents_iff ht root j).mpr h)
  obtain ⟨n, -, -, hj⟩ := hlayer.parent j p hp
  exact ⟨n, hj⟩

/-- **The walk back.**  From a module that is first reached by `n + 1` edges it takes `n` steps, and they
complete what was collected to a path that leaves the root. -/
theorem go_spec {root : Nat} (n : Nat) :
    ∀ (fuel current target : Nat) (path : List Nat), n ≤ fuel → t.First root (n + 1) current →
      (∀ x, t.Edge x current → Along t.Edge x path target) →
        Along t.Edge root (via.go (parents t root) root fuel current path) target ∧
          (via.go (parents t root) root fuel current path).length = n + path.length := by
  induction n with
  | zero =>
    intro fuel current target path _ hcur hpath
    obtain ⟨p, hp, hpc, hpn⟩ := exists_parent_of_first ht hcur
    have hroot : p = root := (hpn.eq_root_iff hcur hpc).mpr rfl
    subst hroot
    have hstop : via.go (parents t p) p fuel current path = path := by
      cases fuel with
      | zero => rfl
      | succ fuel => simp only [via.go, hp, if_true]
    rw [hstop]
    exact ⟨hpath p hpc, (Nat.zero_add _).symm⟩
  | succ n ih =>
    intro fuel current target path hfuel hcur hpath
    obtain ⟨p, hp, hpc, hpn⟩ := exists_parent_of_first ht hcur
    have hroot : p ≠ root := fun h => Nat.succ_ne_zero n ((hpn.eq_root_iff hcur hpc).mp h)
    obtain ⟨fuel, rfl⟩ := Nat.exists_eq_succ_of_ne_zero (show fuel ≠ 0 by omega)
    have hgo : via.go (parents t root) root (fuel + 1) current path =
        via.go (parents t root) root fuel p (p :: path) := by
      simp only [via.go, hp, if_neg hroot]
    obtain ⟨halong, hlen⟩ := ih fuel p target (p :: path) (Nat.le_of_succ_le_succ hfuel) hpn
      fun x hx => .step hx (hpath p hpc)
    rw [hgo]
    refine ⟨halong, hlen.trans ?_⟩
    rw [List.length_cons]
    omega

/-- **The way that the search tells is a path, no path is shorter, and it has at most as many modules as the
row**, so the bound on its length cuts nothing off. -/
theorem via_spec {root target : Nat} (h : Relation.TransGen t.Edge root target) :
    Along t.Edge root (via (parents t root) root target) target ∧
      (∀ path, Along t.Edge root path target → (via (parents t root) root target).length ≤ path.length) ∧
        (via (parents t root) root target).length ≤ t.size := by
  obtain ⟨n, hfirst⟩ := exists_first_of_path ht h
  have hsize : n + 1 ≤ t.size := hfirst.le_size ht
  have hfuel : n ≤ (parents t root).size := by
    rw [size_parents ht]
    omega
  obtain ⟨halong, hlen⟩ := go_spec ht n _ target target [target] hfuel hfirst fun x hx => .last hx
  have hvia : (via (parents t root) root target).length = n + 1 := hlen
  refine ⟨halong, fun path hpath => ?_, hvia ▸ hsize⟩
  -- a shorter path would be a way of one edge or more below the first
  by_contra hlt
  have hway := hpath.way .start
  rw [Nat.zero_add] at hway
  exact hfirst.2 path.length hpath.length_pos (by omega) hway

end

end ImportSurvey.Graph
