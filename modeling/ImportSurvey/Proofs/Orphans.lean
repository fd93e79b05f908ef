import ImportSurvey.Proofs.Analysis
import ImportSurvey.Proofs.Filters

/-
  Orphans are the isolated modules.

  The two sides of an orphan are told in two ways.  What the module depends on is read off its own edges, and all of
  them count, also one that led nowhere or to an id without a module.  What depends on it is looked up among the
  targets of all modules, which are positions, so that only edges into the graph can be seen there.

  The crux is that nothing is overlooked by this: an edge to the id of a module of the graph does lead to the position
  of that module, since the index agrees with the row (`Indexed.hasIncoming_iff`).  So an orphan is a module that is
  isolated by the edges as they are written (`Indexed.isOrphan_iff`).  A leaf of a built graph is there for an edge,
  hence it is none.
-/
namespace ImportSurvey.Graph

/-- The module has no edge at all, and no edge of the graph leads to it. -/
structure Isolated (g : Graph) (m : Module) : Prop where
  bare : m.dependencies = []
  unsought : ∀ n ∈ g.modules, ∀ d ∈ n.dependencies, d.to ≠ some m.id

theorem hasIncoming_iff (t : Topology) (i : Nat) : hasIncoming t i = true ↔ ∃ k, t.Edge k i := by
  rw [hasIncoming, Array.any_eq_true]
  constructor
  · rintro ⟨k, hk, hi⟩
    refine ⟨k, ?_⟩
    rw [Topology.Edge, Topology.next, Array.getElem?_eq_getElem hk]
    exact List.contains_iff_mem.mp hi
  · rintro ⟨k, hk⟩
    rw [Topology.Edge, Topology.next] at hk
    cases ht : t[k]? with
    | none =>
      rw [ht] at hk
      exact absurd hk List.not_mem_nil
    | some ts =>
      obtain ⟨hlt, hts⟩ := Array.getElem?_eq_some_iff.mp ht
      rw [ht] at hk
      exact ⟨k, hlt, hts ▸ List.contains_iff_mem.mpr hk⟩

/-- **Looking for a position among all targets finds every edge to the id that stands there.** -/
theorem Indexed.hasIncoming_iff {g : Graph} (hg : g.Indexed) {i : Nat} {m : Module} (hm : g.modules[i]? = some m) :
    hasIncoming g.topology i = true ↔ ∃ n ∈ g.modules, ∃ d ∈ n.dependencies, d.to = some m.id := by
  have hid := getElem?_ids_of_module hm
  rw [Graph.hasIncoming_iff]
  constructor
  · rintro ⟨k, hk⟩
    obtain ⟨n, hn, hi⟩ := (edge_topology g k i).mp hk
    obtain ⟨d, hd, y, hto, hy⟩ := (mem_targets g n i).mp hi
    have hsame := (hg y i).mp hy
    rw [hid] at hsame
    exact ⟨n, List.mem_of_getElem? hn, d, hd, hsame ▸ hto⟩
  · rintro ⟨n, hn, d, hd, hto⟩
    obtain ⟨k, hk⟩ := List.mem_iff_getElem?.mp hn
    have htarget : i ∈ g.targets n := (mem_targets g n i).mpr ⟨d, hd, m.id, hto, (hg m.id i).mpr hid⟩
    exact ⟨k, (edge_topology g k i).mpr ⟨n, hk, htarget⟩⟩

theorem Indexed.isOrphan_iff {g : Graph} (hg : g.Indexed) {i : Nat} {m : Module} (hm : g.modules[i]? = some m) :
    isOrphan g.topology i m = true ↔ g.Isolated m := by
  rw [isOrphan, Bool.and_eq_true, Bool.not_eq_true', ← Bool.not_eq_true, hg.hasIncoming_iff hm, List.isEmpty_iff]
  constructor
  · rintro ⟨hnone, hbare⟩
    exact ⟨hbare, fun n hn d hd hto => hnone ⟨n, hn, d, hd, hto⟩⟩
  · rintro ⟨hbare, hunsought⟩
    exact ⟨fun ⟨n, hn, d, hd, hto⟩ => hunsought n hn d hd hto, hbare⟩

/-- Analysis adds no edge and takes none away. -/
theorem isolated_analyzed (components : Topology → List (List Nat)) (g : Graph) (s : RuleSet) (i : Nat) (m : Module) :
    (g.analyzeWith components s).Isolated (analyzed components g s i m) ↔ g.Isolated m := by
  have hbare : (analyzed components g s i m).dependencies = [] ↔ m.dependencies = [] := List.map_eq_nil_iff
  constructor
  · rintro ⟨hnone, hunsought⟩
    refine ⟨hbare.mp hnone, fun n hn d hd => ?_⟩
    obtain ⟨k, hk⟩ := List.mem_iff_getElem?.mp hn
    have hmarked : ({ d with circular := circularAt (components g.topology) g k d } : Dependency) ∈
        (analyzed components g s k n).dependencies := List.mem_map_of_mem hd
    have helsewhere := hunsought _ ((mem_analyzeWith components g s _).mpr ⟨k, n, hk, rfl⟩) _ hmarked
    exact helsewhere
  · rintro ⟨hnone, hunsought⟩
    refine ⟨hbare.mpr hnone, fun n' hn' d' hd' => ?_⟩
    obtain ⟨k, n, hn, rfl⟩ := (mem_analyzeWith components g s n').mp hn'
    obtain ⟨d, hd, rfl⟩ := List.mem_map.mp hd'
    exact hunsought n (List.mem_of_getElem? hn) d hd

/-- The flag of a module after analysis. -/
theorem orphan_analyzed_iff (components : Topology → List (List Nat)) {g : Graph} (hg : g.Indexed) (s : RuleSet)
    {m : Module} (hm : m ∈ (g.analyzeWith components s).modules) :
    m.orphan = true ↔ (g.analyzeWith components s).Isolated m := by
  obtain ⟨i, n, hn, rfl⟩ := (mem_analyzeWith components g s m).mp hm
  rw [isolated_analyzed]
  exact hg.isOrphan_iff hn

/-- **Orphans are the isolated modules, and no leaf is one.**  The edges that are meant are those of the graph
itself: analysis leaves all else as it is. -/
theorem orphan_iff_isolated (components : Topology → List (List Nat)) (s : RuleSet) :
    (∀ g : Graph, g.Indexed →
      (g.analyzeWith components s).modules.map Module.clearDerived = g.modules.map Module.clearDerived ∧
      ∀ m ∈ (g.analyzeWith components s).modules, (m.orphan = true ↔ (g.analyzeWith components s).Isolated m)) ∧
    ∀ (resolve : Resolver) (includeOnly : Option Regex) (files : List (String × List Reference)),
      ∀ m ∈ ((build resolve includeOnly files).analyzeWith components s).modules,
        m.followed = false → m.orphan = false := by
  refine ⟨fun g hg => ⟨clearDerived_analyzeWith components g s, fun m => orphan_analyzed_iff components hg s⟩, ?_⟩
  intro resolve includeOnly files m hm hfollowed
  have hindexed := (building_addAll resolve includeOnly files).indexed.sortById
  refine Bool.eq_false_iff.mpr fun horphan => ?_
  obtain ⟨i, n, hn, rfl⟩ := (mem_analyzeWith components _ s m).mp hm
  have hisolated := (isolated_analyzed ..).mp ((orphan_analyzed_iff components hindexed s hm).mp horphan)
  obtain ⟨-, n', hn', -, d, hd, hto⟩ := leaf_of_build resolve includeOnly files (List.mem_of_getElem? hn) hfollowed
  exact hisolated.unsought n' hn' d hd hto

/-- Modules with an edge to themselves, to one another twice, to an id without a module and to nowhere, and one with
none; and a leaf. -/
theorem orphan_iff_isolated_of_all_kinds :
    let nowhere : Module :=
      { Module.ofFollowed "nowhere" with dependencies := [.ofReference "nowhere" (.plain "x" .es6) .unresolved] }
    let g := (ofTargets [("self", ["self"]), ("source", ["target", "target"]), ("target", []), ("astray", ["gone"]),
      ("alone", [])]).add nowhere
    let built := build onlyByPath none [("a.js", [.plain "./b" .es6])]
    g.Indexed ∧ (g.analyze {}).modules.map (·.orphan) = [false, false, false, false, true, false] ∧
      (∀ m ∈ (g.analyze {}).modules, (m.orphan = true ↔ (g.analyze {}).Isolated m)) ∧
      ∃ m ∈ (built.analyze {}).modules, m.id = "b.js" ∧ m.followed = false ∧ m.orphan = false := by
  intro nowhere g built
  have hindexed : g.Indexed := (ofTargets_indexed (by decide)).add nowhere
  have hleaf : Module.leaf "b.js" false ∈ built.modules := (mem_sortById _ _).mpr (by decide)
  obtain ⟨i, hi⟩ := List.mem_iff_getElem?.mp hleaf
  have hanalyzed := (mem_analyzeWith Topology.components built {} _).mpr ⟨i, _, hi, rfl⟩
  refine ⟨hindexed, by decide +kernel, ?_, _, hanalyzed, rfl, rfl, ?_⟩
  · exact ((orphan_iff_isolated Topology.components {}).1 g hindexed).2
  · exact (orphan_iff_isolated Topology.components {}).2 onlyByPath none _ _ hanalyzed rfl

end ImportSurvey.Graph
