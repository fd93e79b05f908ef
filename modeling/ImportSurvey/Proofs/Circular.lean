import Mathlib.Data.List.Perm.Basic
import ImportSurvey.Proofs.Analysis

/-
  Circular edges are exactly the edges on a cycle.

  Edges are marked from a list of strongly connected components: every module gets the number of its
  component, and an edge is circular if it leads back to its own module, or to another module of the same
  component.  `IsComponents` says what such a list has to be; in what order the components come, and the
  modules in each of them, does not matter.  `Topology.components` is such a list (`isComponents_components`).

  The length that is compared with one is no condition of its own for an edge between different modules:
  if they have one number then both lie in that component (`closesCycle_iff`).
-/
namespace ImportSurvey.Graph

/-- Two modules lead to each other, over any number of edges. -/
def Topology.Connected (t : Topology) (i j : Nat) : Prop :=
  Relation.ReflTransGen t.Edge i j ∧ Relation.ReflTransGen t.Edge j i

/-- A list of the strongly connected components: every module stands in it once, and with those that it is
connected with. -/
structure Topology.IsComponents (t : Topology) (components : List (List Nat)) : Prop where
  perm : components.flatten.Perm (List.range t.size)
  connected : ∀ c ∈ components, ∀ i ∈ c, ∀ j, j ∈ c ↔ j < t.size ∧ t.Connected i j

theorem Topology.Connected.symm {t : Topology} {i j : Nat} (h : t.Connected i j) : t.Connected j i :=
  ⟨h.2, h.1⟩

theorem Topology.Connected.trans {t : Topology} {i j k : Nat} (h : t.Connected i j) (h' : t.Connected j k) :
    t.Connected i k := ⟨h.1.trans h'.1, h'.2.trans h.2⟩

/-! ## The numbers of the components -/

/-- Writes one number at some positions. -/
theorem getElem?_foldl_set (c : List Nat) (k : Nat) (ls : Array Nat) (i : Nat) (hi : i < ls.size) :
    (c.foldl (fun ls i => ls.setIfInBounds i k) ls)[i]? = if i ∈ c then some k else ls[i]? := by
  induction c generalizing ls with
  | nil => rfl
  | cons a c ih =>
    rw [List.foldl_cons, ih _ (by rw [Array.size_setIfInBounds]; exact hi), Array.getElem?_setIfInBounds]
    by_cases hic : i ∈ c
    · rw [if_pos hic, if_pos (List.mem_cons_of_mem a hic)]
    · rw [if_neg hic]
      by_cases ha : a = i
      · subst ha
        rw [if_pos rfl, if_pos hi, if_pos (List.mem_cons_self ..)]
      · rw [if_neg ha, if_neg fun h => (List.mem_cons.mp h).elim (fun he => ha he.symm) hic]

theorem size_foldl_set (c : List Nat) (k : Nat) (ls : Array Nat) :
    (c.foldl (fun ls i => ls.setIfInBounds i k) ls).size = ls.size := by
  induction c generalizing ls with
  | nil => rfl
  | cons a c ih => rw [List.foldl_cons, ih, Array.size_setIfInBounds]

/-- A module that stands in one class only gets the number of this class. -/
theorem getElem?_foldl_labels (cs : List (List Nat)) (o : Nat) (ls : Array Nat) {i : Nat} (hi : i < ls.size)
    (hnd : cs.flatten.Nodup) :
    ((cs.zipIdx o).foldl (fun ls c => c.1.foldl (fun ls i => ls.setIfInBounds i c.2) ls) ls)[i]? =
      ((cs.findIdx? (i ∈ ·)).map (· + o)).or ls[i]? := by
  induction cs generalizing o ls with
  | nil => rfl
  | cons c cs ih =>
    rw [List.flatten_cons, List.nodup_append] at hnd
    rw [List.zipIdx_cons, List.foldl_cons, ih _ _ (by rw [size_foldl_set]; exact hi) hnd.2.1,
      getElem?_foldl_set _ _ _ _ hi, List.findIdx?_cons]
    by_cases hic : i ∈ c
    · have hrest : cs.findIdx? (i ∈ ·) = none := by
        rw [List.findIdx?_eq_none_iff]
        intro c' hc'
        rw [decide_eq_false_iff_not]
        exact fun hi' => hnd.2.2 i hic i (List.mem_flatten.mpr ⟨c', hc', hi'⟩) rfl
      rw [hrest, if_pos hic, if_pos (by simpa using hic)]
      simp
    · rw [if_neg hic, if_neg (by simpa using hic), Option.map_map]
      congr 2
      funext k
      show k + (o + 1) = k + 1 + o
      omega

/-- **The number of a module is the position of its component.** -/
theorem Topology.IsComponents.findIdx?_eq {t : Topology} {cs : List (List Nat)} (h : t.IsComponents cs)
    {i : Nat} (hi : i < t.size) : cs.findIdx? (i ∈ ·) = some ((labels t.size cs).getD i 0) := by
  have hnd : cs.flatten.Nodup := h.perm.nodup_iff.mpr List.nodup_range
  have hfind := getElem?_foldl_labels cs 0 (Array.replicate t.size 0) (i := i)
    (by rw [Array.size_replicate]; exact hi) hnd
  have hmem : i ∈ cs.flatten := h.perm.mem_iff.mpr (List.mem_range.mpr hi)
  obtain ⟨c, hc, hic⟩ := List.mem_flatten.mp hmem
  obtain ⟨k, hk⟩ : ∃ k, cs.findIdx? (i ∈ ·) = some k := by
    rw [← Option.isSome_iff_exists, List.findIdx?_isSome, List.any_eq_true]
    exact ⟨c, hc, by simpa using hic⟩
  rw [Array.getD_eq_getD_getElem?, labels, hfind, hk]
  rfl

theorem Topology.IsComponents.mem_label {t : Topology} {cs : List (List Nat)} (h : t.IsComponents cs)
    {i : Nat} (hi : i < t.size) :
    cs.getD ((labels t.size cs).getD i 0) [] ∈ cs ∧ i ∈ cs.getD ((labels t.size cs).getD i 0) [] := by
  obtain ⟨hlt, hin, -⟩ := List.findIdx?_eq_some_iff_getElem.mp (h.findIdx?_eq hi)
  rw [List.getD_eq_getElem?_getD, List.getElem?_eq_getElem hlt, Option.getD_some]
  exact ⟨List.getElem_mem hlt, by simpa using hin⟩

/-- Modules that stand in the same classes have the same first class. -/
theorem findIdx?_congr {cs : List (List Nat)} {i j : Nat} (h : ∀ c ∈ cs, j ∈ c ↔ i ∈ c) :
    cs.findIdx? (j ∈ ·) = cs.findIdx? (i ∈ ·) := by
  induction cs with
  | nil => rfl
  | cons c cs ih =>
    have hc : decide (j ∈ c) = decide (i ∈ c) := decide_eq_decide.mpr (h c (List.mem_cons_self ..))
    rw [List.findIdx?_cons, List.findIdx?_cons, hc, ih fun c' hc' => h c' (List.mem_cons_of_mem c hc')]

/-- **Two modules have one number iff they are connected.** -/
theorem Topology.IsComponents.label_eq_iff {t : Topology} {cs : List (List Nat)} (h : t.IsComponents cs)
    {i j : Nat} (hi : i < t.size) (hj : j < t.size) :
    (labels t.size cs).getD j 0 = (labels t.size cs).getD i 0 ↔ t.Connected i j := by
  constructor
  · intro heq
    obtain ⟨hc, hic⟩ := h.mem_label hi
    have hjc := (h.mem_label hj).2
    rw [heq] at hjc
    exact ((h.connected _ hc i hic j).mp hjc).2
  · intro hij
    have hsame : cs.findIdx? (j ∈ ·) = cs.findIdx? (i ∈ ·) :=
      findIdx?_congr fun c hc => ⟨fun hjc => (h.connected c hc j hjc i).mpr ⟨hi, hij.symm⟩,
        fun hic => (h.connected c hc i hic j).mpr ⟨hj, hij⟩⟩
    rw [h.findIdx?_eq hi, h.findIdx?_eq hj] at hsame
    exact Option.some.inj hsame

/-- **An edge is marked iff its target leads back to its module.** -/
theorem Topology.IsComponents.closesCycle_iff {t : Topology} {cs : List (List Nat)} (h : t.IsComponents cs)
    (ht : t.Closed) {i j : Nat} (hij : t.Edge i j) :
    closesCycle cs (labels t.size cs) i (some j) ↔ Relation.ReflTransGen t.Edge j i := by
  have hi : i < t.size := t.lt_of_path (.single hij)
  have hj : j < t.size := ht i j hij
  rw [closesCycle, Bool.or_eq_true, Bool.and_eq_true, decide_eq_true_eq, decide_eq_true_eq, decide_eq_true_eq]
  constructor
  · rintro (rfl | ⟨hlabel, -⟩)
    · exact .refl
    · exact ((h.label_eq_iff hi hj).mp hlabel).2
  · intro hback
    by_cases hne : j = i
    · exact Or.inl hne
    · have hcon : t.Connected i j := ⟨.single hij, hback⟩
      refine Or.inr ⟨(h.label_eq_iff hi hj).mpr hcon, ?_⟩
      -- the component holds the two ends of the edge, which differ
      obtain ⟨hc, hic⟩ := h.mem_label hi
      have hjc := (h.connected _ hc i hic j).mpr ⟨hj, hcon⟩
      generalize cs.getD ((labels t.size cs).getD i 0) [] = c at hic hjc
      match c, hic, hjc with
      | [a], hic, hjc =>
        rw [List.mem_singleton] at hic hjc
        exact absurd (hjc.trans hic.symm) hne
      | _ :: _ :: _, _, _ => exact Nat.succ_lt_succ (Nat.succ_pos _)

/-! ## The components that the searches find -/

theorem connected_searches_iff {t : Topology} (ht : t.Closed) (i j : Nat) :
    connected t.searches i j ↔ t.Connected i j := by
  rw [connected, Bool.or_eq_true, Bool.and_eq_true, decide_eq_true_eq, isSome_searches_iff ht,
    isSome_searches_iff ht, Topology.Connected, Relation.reflTransGen_iff_eq_or_transGen,
    Relation.reflTransGen_iff_eq_or_transGen]
  constructor
  · rintro (rfl | ⟨h1, h2⟩)
    · exact ⟨Or.inl rfl, Or.inl rfl⟩
    · exact ⟨Or.inr h1, Or.inr h2⟩
  · rintro ⟨rfl | h1, h2⟩
    · exact Or.inl rfl
    · rcases h2 with rfl | h2
      · exact Or.inl rfl
      · exact Or.inr ⟨h1, h2⟩

theorem mem_componentOf {t : Topology} (ht : t.Closed) (i j : Nat) :
    j ∈ componentOf t.searches i ↔ j < t.size ∧ t.Connected i j := by
  rw [componentOf, List.mem_filter, connected_searches_iff ht, List.mem_range, Topology.searches,
    List.size_toArray, List.length_map, List.length_range]

theorem componentOf_congr {t : Topology} (ht : t.Closed) {i j : Nat} (h : t.Connected i j) :
    componentOf t.searches i = componentOf t.searches j := by
  apply List.filter_congr
  intro k _
  rw [Bool.eq_iff_iff, connected_searches_iff ht, connected_searches_iff ht]
  exact ⟨h.symm.trans, h.trans⟩

/-- **The components are found**, so the assumption on the components that edges are marked by can be
met. -/
theorem isComponents_components {t : Topology} (ht : t.Closed) : t.IsComponents t.components := by
  have hmem : ∀ c, c ∈ t.components ↔ ∃ i < t.size, componentOf t.searches i = c := by
    intro c
    rw [Topology.components, List.mem_eraseDups, List.mem_map]
    exact exists_congr fun i => and_congr_left fun _ => List.mem_range
  constructor
  · apply (List.perm_ext_iff_of_nodup ?_ List.nodup_range).mpr
    · intro i
      rw [List.mem_flatten, List.mem_range]
      constructor
      · rintro ⟨c, hc, hic⟩
        obtain ⟨j, -, rfl⟩ := (hmem c).mp hc
        exact ((mem_componentOf ht j i).mp hic).1
      · intro hi
        exact ⟨_, (hmem _).mpr ⟨i, hi, rfl⟩, (mem_componentOf ht i i).mpr ⟨hi, .refl, .refl⟩⟩
    · rw [List.nodup_flatten]
      constructor
      · intro c hc
        obtain ⟨i, -, rfl⟩ := (hmem c).mp hc
        exact List.nodup_range.filter _
      · refine (nodup_eraseDups _).imp_of_mem fun {c c'} hc hc' hne => ?_
        obtain ⟨i, -, rfl⟩ := (hmem c).mp hc
        obtain ⟨j, -, rfl⟩ := (hmem c').mp hc'
        -- a module in both would make them one component
        intro k hki hkj
        have hik := ((mem_componentOf ht i k).mp hki).2
        have hjk := ((mem_componentOf ht j k).mp hkj).2
        exact hne (componentOf_congr ht (hik.trans hjk.symm))
  · intro c hc i hic j
    obtain ⟨k, -, rfl⟩ := (hmem c).mp hc
    have hki := ((mem_componentOf ht k i).mp hic).2
    rw [mem_componentOf ht]
    exact and_congr_right fun _ => ⟨hki.symm.trans, hki.trans⟩

/-! ## Circular edges -/

/-- The mark of one edge. -/
theorem circularAt_iff {cs : List (List Nat)} {g : Graph} (hg : g.Indexed) (hc : g.topology.IsComponents cs)
    {i : Nat} {m : Module} (hm : g.modules[i]? = some m) {d : Dependency} (hd : d ∈ m.dependencies) :
    circularAt cs g i d ↔ ∃ y ∈ g.ids, d.to = some y ∧ Relation.ReflTransGen g.Leads y m.id := by
  have hx := getElem?_ids_of_module hm
  rw [circularAt, ← size_topology]
  cases hj : d.to.bind g.indexOf with
  | none =>
    refine ⟨fun h => (by cases h), ?_⟩
    rintro ⟨y, hy, hto, -⟩
    rw [hto, Option.bind_some] at hj
    have hsome := (hg.isSome_indexOf y).mpr hy
    rw [hj] at hsome
    cases hsome
  | some j =>
    obtain ⟨y, hto, hindex⟩ := Option.bind_eq_some_iff.mp hj
    have hy : g.ids[j]? = some y := (hg y j).mp hindex
    have hij : g.topology.Edge i j :=
      (edge_topology g i j).mpr ⟨m, hm, (mem_targets g m j).mpr ⟨d, hd, y, hto, hindex⟩⟩
    rw [hc.closesCycle_iff hg.closed_topology hij, hg.reflPath_iff hy hx]
    constructor
    · intro hback
      exact ⟨y, List.mem_of_getElem? hy, hto, hback⟩
    · rintro ⟨z, -, hz, hback⟩
      rw [hto, Option.some.injEq] at hz
      rw [hz]
      exact hback

/-- **An edge is circular iff its target is a module of the graph that leads back to the module the edge
belongs to.**  Any list of the strongly connected components will do.  The edges that are meant are those
of the graph itself: analysis leaves all else as it is. -/
theorem circular_iff_leads_back {components : Topology → List (List Nat)}
    (hc : ∀ t : Topology, t.Closed → t.IsComponents (components t)) {g : Graph} (hg : g.Indexed)
    (s : RuleSet) :
    (g.analyzeWith components s).modules.map Module.clearDerived = g.modules.map Module.clearDerived ∧
    ∀ m ∈ (g.analyzeWith components s).modules, ∀ d ∈ m.dependencies,
      (d.circular = true ↔ ∃ n ∈ (g.analyzeWith components s).modules,
        d.to = some n.id ∧ Relation.ReflTransGen g.Leads n.id m.id) := by
  refine ⟨clearDerived_analyzeWith components g s, fun m' hm' d' hd' => ?_⟩
  obtain ⟨i, m, hm, rfl⟩ := (mem_analyzeWith components g s m').mp hm'
  obtain ⟨d, hd, rfl⟩ := List.mem_map.mp hd'
  have hids : ∀ y, y ∈ g.ids ↔ ∃ n ∈ (g.analyzeWith components s).modules, n.id = y := by
    intro y
    rw [← ids_analyzeWith components g s, ids, List.mem_map]
  refine (circularAt_iff hg (hc _ hg.closed_topology) hm hd).trans ?_
  constructor
  · rintro ⟨y, hy, hto, hback⟩
    obtain ⟨n, hn, rfl⟩ := (hids y).mp hy
    exact ⟨n, hn, hto, hback⟩
  · rintro ⟨n, hn, hto, hback⟩
    exact ⟨n.id, (hids n.id).mpr ⟨n, hn, rfl⟩, hto, hback⟩

/-- Of two modules that lead to each other, one also to itself and to an id without a module, and a third
that leads to them. -/
theorem circular_of_two_cycles :
    let g := ofTargets [("a", ["b"]), ("b", ["a", "b", "gone"]), ("c", ["a"])]
    ((g.analyze {}).modules.map fun m => m.dependencies.map (·.circular)) =
        [[true], [true, true, false], [false]] ∧
      (g.analyze {}).modules.map Module.clearDerived = g.modules.map Module.clearDerived ∧
      ∀ m ∈ (g.analyze {}).modules, ∀ d ∈ m.dependencies,
        (d.circular = true ↔ ∃ n ∈ (g.analyze {}).modules,
          d.to = some n.id ∧ Relation.ReflTransGen g.Leads n.id m.id) :=
  ⟨by decide,
    circular_iff_leads_back (fun _ => isComponents_components) (ofTargets_indexed (by decide)) {}⟩

end ImportSurvey.Graph
