import ImportSurvey.Graph.Build
import ImportSurvey.Proofs.Index
import ImportSurvey.Proofs.Search

/-
  What it means in a graph that one module leads to another, by their ids.

  `Leads` speaks of modules, edges and ids only, while the search works on positions.  In a graph whose
  index agrees the two are the same relation seen through `ids` (`edge_iff`), and so are their paths
  (`path_iff`).  A reference that led nowhere, and one whose target is not in the graph, is no edge here.
-/
namespace ImportSurvey.Graph

/-- The module `x` has an edge that leads to the module `y` of the graph. -/
def Leads (g : Graph) (x y : String) : Prop :=
  (∃ m ∈ g.modules, m.id = x ∧ ∃ d ∈ m.dependencies, d.to = some y) ∧ y ∈ g.ids

/-- A path of one edge or more leads from the module `x` to the module `y`. -/
def Reaches (g : Graph) : String → String → Prop := Relation.TransGen g.Leads

/-! ## Positions and ids -/

theorem size_topology (g : Graph) : g.topology.size = g.size := by
  rw [topology, List.size_toArray, List.length_map, size]

theorem mem_targets (g : Graph) (m : Module) (j : Nat) :
    j ∈ g.targets m ↔ ∃ d ∈ m.dependencies, ∃ y, d.to = some y ∧ g.indexOf y = some j := by
  rw [targets, List.mem_filterMap]
  exact exists_congr fun d => and_congr_right fun _ => Option.bind_eq_some_iff

theorem edge_topology (g : Graph) (i j : Nat) :
    g.topology.Edge i j ↔ ∃ m, g.modules[i]? = some m ∧ j ∈ g.targets m := by
  rw [Topology.Edge, Topology.next, topology, List.getElem?_toArray, List.getElem?_map]
  cases hm : g.modules[i]? with
  | none => simp
  | some m =>
    show j ∈ (g.targets m).eraseDups ↔ _
    rw [List.mem_eraseDups]
    exact ⟨fun h => ⟨m, rfl, h⟩, by
      rintro ⟨n, hn, h⟩
      exact Option.some.inj hn ▸ h⟩

/-- **An edge between positions is an edge between ids.** -/
theorem Indexed.edge_iff {g : Graph} (h : g.Indexed) {i : Nat} {x : String} (hx : g.ids[i]? = some x)
    (j : Nat) : g.topology.Edge i j ↔ ∃ y, g.ids[j]? = some y ∧ g.Leads x y := by
  rw [edge_topology]
  constructor
  · rintro ⟨m, hm, hj⟩
    rw [getElem?_ids_of_module hm] at hx
    obtain ⟨d, hd, y, hto, hy⟩ := (mem_targets g m j).mp hj
    have hy' := (h y j).mp hy
    exact ⟨y, hy', ⟨m, List.mem_of_getElem? hm, Option.some.inj hx, d, hd, hto⟩, List.mem_of_getElem? hy'⟩
  · rintro ⟨y, hy, ⟨m, hm, hid, d, hd, hto⟩, -⟩
    obtain ⟨k, hk⟩ := List.mem_iff_getElem?.mp hm
    have hki : k = i := by
      have h1 := (h x k).mpr (hid ▸ getElem?_ids_of_module hk)
      have h2 := (h x i).mpr hx
      rw [h1] at h2
      exact Option.some.inj h2
    subst hki
    exact ⟨m, hk, (mem_targets g m j).mpr ⟨d, hd, y, hto, (h y j).mpr hy⟩⟩

theorem Indexed.closed_topology {g : Graph} (h : g.Indexed) : g.topology.Closed := by
  intro i j hij
  obtain ⟨m, -, hj⟩ := (edge_topology g i j).mp hij
  obtain ⟨d, -, y, -, hy⟩ := (mem_targets g m j).mp hj
  have hlt := (List.getElem?_eq_some_iff.mp ((h y j).mp hy)).1
  rw [size_topology, ← length_ids]
  exact hlt

/-- **A path between positions is a path between ids.** -/
theorem Indexed.path_iff {g : Graph} (h : g.Indexed) {i : Nat} {x : String} (hx : g.ids[i]? = some x)
    (j : Nat) : Relation.TransGen g.topology.Edge i j ↔ ∃ y, g.ids[j]? = some y ∧ g.Reaches x y := by
  constructor
  · intro hp
    induction hp with
    | single hij =>
      obtain ⟨y, hy, hl⟩ := (h.edge_iff hx _).mp hij
      exact ⟨y, hy, .single hl⟩
    | tail _ hjk ih =>
      obtain ⟨y, hy, hr⟩ := ih
      obtain ⟨z, hz, hl⟩ := (h.edge_iff hy _).mp hjk
      exact ⟨z, hz, .tail hr hl⟩
  · rintro ⟨y, hy, hr⟩
    induction hr generalizing j with
    | single hl => exact .single ((h.edge_iff hx j).mpr ⟨_, hy, hl⟩)
    | tail hr hl ih =>
      -- the middle of the path is the start of an edge, so it stands in the row
      obtain ⟨m, hm, hid, -⟩ := hl.1
      obtain ⟨k, hk⟩ := List.mem_iff_getElem?.mp hm
      have hk' := getElem?_ids_of_module hk
      rw [hid] at hk'
      exact .tail (ih k hk') ((h.edge_iff hk' j).mpr ⟨_, hy, hl⟩)

/-- The searches of a graph tell what its modules reach. -/
theorem Indexed.isSome_search_iff {g : Graph} (h : g.Indexed) {i j : Nat} {x y : String}
    (hx : g.ids[i]? = some x) (hy : g.ids[j]? = some y) :
    ((searchFrom g.topology.searches i).of j).isSome ↔ g.Reaches x y := by
  rw [isSome_searches_iff h.closed_topology, h.path_iff hx, hy]
  simp only [Option.some.injEq, exists_eq_left']

/-- Every path of any number of edges, also as a path between ids. -/
theorem Indexed.reflPath_iff {g : Graph} (h : g.Indexed) {i j : Nat} {x y : String}
    (hx : g.ids[i]? = some x) (hy : g.ids[j]? = some y) :
    Relation.ReflTransGen g.topology.Edge i j ↔ Relation.ReflTransGen g.Leads x y := by
  rw [Relation.reflTransGen_iff_eq_or_transGen, Relation.reflTransGen_iff_eq_or_transGen, h.path_iff hx, hy]
  have heq : j = i ↔ y = x := by
    rw [← Option.some.injEq y x, ← hx, @eq_comm _ (some y), ← h y i, (h y j).mpr hy, Option.some.injEq]
  rw [heq]
  simp only [Option.some.injEq, exists_eq_left', Reaches]

/-! ## A graph from its edges -/

/-- A module with an edge to each of some ids. -/
def moduleTo (id : String) (targets : List String) : Module :=
  { Module.ofFollowed id with
    dependencies := targets.map fun y => .ofReference id (.plain y .es6) (.module y) }

/-- The graph of some ids, each with the ids it has edges to, whether these are in the graph or not. -/
def ofTargets (rows : List (String × List String)) : Graph := ofRow (rows.map fun p => moduleTo p.1 p.2)

theorem ofTargets_indexed {rows : List (String × List String)} (h : (rows.map (·.1)).Nodup) :
    (ofTargets rows).Indexed := by
  apply ofRow_indexed_iff.mpr
  rw [List.map_map]
  exact h

end ImportSurvey.Graph
