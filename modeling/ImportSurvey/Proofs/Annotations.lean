import Mathlib.Data.List.Forall2
import Mathlib.Data.List.Nodup
import ImportSurvey.Proofs.ReachabilityRule
import ImportSurvey.Proofs.ShortestPaths

/-
  What a rule on reachability leaves on every module: its notes are exact, and every way is a shortest one.

  A rule leaves a note on its roots and, if it asks for what cannot be reached, on the other modules that its
  target side admits (`Rule.Annotates`).  Of a root it lists what the root reaches (`Rule.Lists`), and tells
  for each listed module the sources along a path (`Graph.ShortestVia`).

  All of this is said of modules and of edges between ids, whereas the search knows positions only.  A graph
  whose index agrees has one position for each module, so the edges between positions and those between
  modules simulate each other (`leadsTo_of_edge`, `edge_of_leadsTo`), and paths go over in both directions.
  That is what carries minimality over: no path of modules is shorter, because no path of positions is.
-/
namespace ImportSurvey

namespace Graph

/-- An edge from a module to a module of the graph. -/
def LeadsTo (g : Graph) (m n : Module) : Prop := n ∈ g.modules ∧ g.Leads m.id n.id

/-- The sources along a path from `m` to `t`, `m` left out at the start.  No path from `m` to `t` has fewer
edges.  The path is never longer than the row of modules, which is where it would be cut off. -/
def ShortestVia (g : Graph) (m t : Module) (via : List String) : Prop :=
  ∃ path : List Module, via = path.map (·.source) ∧ Along g.LeadsTo m path t ∧
    (∀ path', Along g.LeadsTo m path' t → path.length ≤ path'.length) ∧ path.length ≤ g.modules.length

end Graph

namespace Rule

/-- The module is admitted by the target side of a rule on what cannot be reached, and is no root. -/
def IsTarget (r : Rule) (m : Module) : Prop :=
  ¬ r.LooksOutFrom m ∧ r.to.reachable = some false ∧ r.to.paths.admits m.source

/-- The entries name the modules that `m` reaches over one edge or more and that the target side of the rule
admits, in the order of the graph and each once, with a shortest way to it. -/
def Lists (r : Rule) (g : Graph) (m : Module) (entries : List ReachedModule) : Prop :=
  ∃ targets : List Module, targets.Sublist g.modules ∧ targets.Nodup ∧
    (∀ t ∈ g.modules, t ∈ targets ↔ r.to.paths.admits t.source ∧ g.Reaches m.id t.id) ∧
      List.Forall₂ (fun e t => e.source = t.source ∧ g.ShortestVia m t e.via) entries targets

/-- What stands on a module of an analyzed graph under the name of a rule. -/
structure Annotates (r : Rule) (g : Graph) (m : Module) : Prop where
  root : r.LooksOutFrom m → ∃ value, m.reachable.filter (·.asDefinedInRule = r.name) = [⟨r.name, value⟩] ∧
    (value = true ↔ r.ReachesTarget g m)
  target : r.IsTarget m → ∃ value, m.reachable.filter (·.asDefinedInRule = r.name) = [⟨r.name, value⟩] ∧
    (value = true ↔ ∃ n ∈ g.modules, r.LooksOutFrom n ∧ g.Reaches n.id m.id)
  other : ¬ r.LooksOutFrom m → ¬ r.IsTarget m → m.reachable.filter (·.asDefinedInRule = r.name) = []
  reaches : r.LooksOutFrom m → r.ReachesTarget g m → ∃ entries,
    m.reaches.filter (·.asDefinedInRule = r.name) = [⟨r.name, entries⟩] ∧ r.Lists g m entries
  nothing : ¬ (r.LooksOutFrom m ∧ r.ReachesTarget g m) → m.reaches.filter (·.asDefinedInRule = r.name) = []

end Rule

namespace Graph

/-! ## Positions and modules -/

/-- The module at a position. -/
def At (g : Graph) (i : Nat) (m : Module) : Prop := g.modules[i]? = some m

theorem Indexed.at_unique {g : Graph} (hg : g.Indexed) {i j : Nat} {m : Module} (hi : g.At i m)
    (hj : g.At j m) : i = j := by
  have hi' := (hg m.id i).mpr (getElem?_ids_of_module hi)
  have hj' := (hg m.id j).mpr (getElem?_ids_of_module hj)
  rw [hi'] at hj'
  exact Option.some.inj hj'

/-- Edges between positions are simulated by edges between modules. -/
theorem Indexed.leadsTo_of_edge {g : Graph} (hg : g.Indexed) (i : Nat) (m : Module) (j : Nat)
    (hm : g.At i m) (hij : g.topology.Edge i j) : ∃ n, g.At j n ∧ g.LeadsTo m n := by
  obtain ⟨y, hy, hleads⟩ := (hg.edge_iff (getElem?_ids_of_module hm) j).mp hij
  rw [getElem?_ids] at hy
  obtain ⟨n, hn, rfl⟩ := Option.map_eq_some_iff.mp hy
  exact ⟨n, hn, List.mem_of_getElem? hn, hleads⟩

/-- Edges between modules are simulated by edges between positions. -/
theorem Indexed.edge_of_leadsTo {g : Graph} (hg : g.Indexed) (m : Module) (i : Nat) (n : Module)
    (hm : g.At i m) (hmn : g.LeadsTo m n) : ∃ j, g.At j n ∧ g.topology.Edge i j := by
  obtain ⟨hmem, hleads⟩ := hmn
  obtain ⟨j, hj⟩ := List.mem_iff_getElem?.mp hmem
  exact ⟨j, hj, (hg.edge_iff (getElem?_ids_of_module hm) j).mpr ⟨n.id, getElem?_ids_of_module hj, hleads⟩⟩

theorem map_sources {g : Graph} {positions : List Nat} {path : List Module}
    (h : List.Forall₂ g.At positions path) :
    positions.map (fun j => g.sources.getD j "") = path.map (·.source) := by
  induction h with
  | nil => rfl
  | cons hn _ ih => rw [List.map_cons, List.map_cons, ih, sources_getD hn]

/-- **The way that the search tells, as a way of modules.** -/
theorem Indexed.shortestVia {g : Graph} (hg : g.Indexed) {i j : Nat} {m t : Module} (hm : g.At i m)
    (ht : g.At j t) (hreach : g.Reaches m.id t.id) :
    g.ShortestVia m t
      ((via (searchFrom g.topology.searches i) i j).map fun k => g.sources.getD k "") := by
  have hlt : i < g.topology.size := by
    rw [size_topology]
    exact (List.getElem?_eq_some_iff.mp hm).1
  have hpath : Relation.TransGen g.topology.Edge i j :=
    (hg.path_iff (getElem?_ids_of_module hm) j).mpr ⟨t.id, getElem?_ids_of_module ht, hreach⟩
  obtain ⟨halong, hmin, hlen⟩ := via_spec hg.closed_topology hpath
  obtain ⟨path, t', ht', hpath', hall⟩ := halong.simulate hg.leadsTo_of_edge hm
  obtain rfl : t' = t := Option.some.inj (ht'.symm.trans ht)
  have hlength := hall.length_eq
  rw [size_topology] at hlen
  rw [searchFrom_searches hlt]
  refine ⟨path, map_sources hall, hpath', fun path₂ h₂ => ?_, hlength ▸ hlen⟩
  -- a path of modules goes over the positions of its modules, and there the found way is a shortest one
  obtain ⟨positions, j', hj', halong₂, hall₂⟩ := h₂.simulate (T := fun n k => g.At k n) hg.edge_of_leadsTo hm
  obtain rfl : j' = j := hg.at_unique hj' ht
  calc path.length = (via (parents g.topology i) i j').length := hlength.symm
    _ ≤ positions.length := hmin positions halong₂
    _ = path₂.length := hall₂.length_eq.symm

/-! ## What a root lists -/

/-- What a root lists are the modules that were found, in their order. -/
theorem reached_eq (g : Graph) (r : Rule) (search : Parents) (root : Nat) :
    reached g.sources r search root =
      (g.modules.zipIdx.filter fun p => (search.of p.2).isSome && r.to.paths.admits p.1.source).map fun p =>
        ⟨p.1.source, (via search root p.2).map fun j => g.sources.getD j ""⟩ := by
  have hmap : ∀ (p : Module × Nat → Bool) (entry : Module × Nat → ReachedModule) (l : List (Module × Nat)),
      (l.filter p).map entry = l.filterMap fun q => if p q then some (entry q) else none := by
    intro p entry l
    rw [← List.filterMap_eq_map, List.filterMap_filter]
    rfl
  have hrange : List.range g.sources.size = g.modules.zipIdx.map (·.2) := by
    rw [size_sources, List.zipIdx_map_snd, List.range_eq_range']
  rw [reached, hrange, List.filterMap_map, hmap]
  apply List.filterMap_congr
  rintro ⟨m, k⟩ hmk
  have hk : g.modules[k]? = some m := List.mem_zipIdx_iff_getElem?.mp hmk
  rw [Function.comp_apply, sources_getD hk]

/-- The modules at some positions of a row are in the order of the row. -/
theorem sublist_of_positions (row : List Module) (p : Module × Nat → Bool) :
    ((row.zipIdx.filter p).map (·.1)).Sublist row := by
  have hsub : ((row.zipIdx.filter p).map Prod.fst).Sublist (row.zipIdx.map Prod.fst) :=
    List.filter_sublist.map Prod.fst
  rw [List.zipIdx_map_fst] at hsub
  exact hsub

/-- **What a root lists.** -/
theorem Indexed.lists_reached {g : Graph} (hg : g.Indexed) (r : Rule) {i : Nat} {m : Module} (hm : g.At i m) :
    r.Lists g m (reached g.sources r (searchFrom g.topology.searches i) i) := by
  have hfound : ∀ q ∈ g.modules.zipIdx,
      ((((searchFrom g.topology.searches i).of q.2).isSome && r.to.paths.admits q.1.source) = true ↔
        r.to.paths.admits q.1.source ∧ g.Reaches m.id q.1.id) := by
    intro q hq
    have hat : g.At q.2 q.1 := List.mem_zipIdx_iff_getElem?.mp hq
    rw [Bool.and_eq_true, hg.isSome_search_iff (getElem?_ids_of_module hm) (getElem?_ids_of_module hat),
      and_comm]
  have hids : (g.modules.map (·.id)).Nodup := hg.nodup
  have hsub := sublist_of_positions g.modules fun q =>
    ((searchFrom g.topology.searches i).of q.2).isSome && r.to.paths.admits q.1.source
  rw [reached_eq]
  refine ⟨_, hsub, (hids.of_map _).sublist hsub, fun t ht => ?_, ?_⟩
  · rw [List.mem_map]
    constructor
    · rintro ⟨q, hq, rfl⟩
      obtain ⟨hmem, hpass⟩ := List.mem_filter.mp hq
      exact (hfound q hmem).mp hpass
    · intro hpass
      obtain ⟨k, hk⟩ := List.mem_iff_getElem?.mp ht
      have hmem : (t, k) ∈ g.modules.zipIdx := List.mem_zipIdx_iff_getElem?.mpr hk
      exact ⟨(t, k), List.mem_filter.mpr ⟨hmem, (hfound (t, k) hmem).mpr hpass⟩, rfl⟩
  · rw [List.forall₂_map_left_iff, List.forall₂_map_right_iff, List.forall₂_same]
    intro q hq
    obtain ⟨hmem, hpass⟩ := List.mem_filter.mp hq
    obtain ⟨-, hreach⟩ := (hfound q hmem).mp hpass
    exact ⟨rfl, hg.shortestVia hm (List.mem_zipIdx_iff_getElem?.mp hmem) hreach⟩

/-! ## The analyzed graph -/

section

variable (components : Topology → List (List Nat)) (g : Graph) (s : RuleSet)

theorem Indexed.analyzeWith {g : Graph} (hg : g.Indexed) : (g.analyzeWith components s).Indexed := by
  refine hg.congr (ids_analyzeWith components g s) ?_
  rw [analyzeWith_eq]

theorem sources_analyzeWith : (g.analyzeWith components s).sources = g.sources := by
  have hkeep : ∀ i m, (analyzed components g s i m).source = m.source := fun i m => rfl
  rw [analyzeWith_eq, sources, map_mapIdx (·.source) g.modules hkeep, sources]

theorem topology_analyzeWith : (g.analyzeWith components s).topology = g.topology := by
  have hkeep : ∀ i m, g.targets (analyzed components g s i m) = g.targets m := by
    intro i m
    show (m.dependencies.map _).filterMap _ = _
    rw [List.filterMap_map]
    rfl
  rw [analyzeWith_eq, topology]
  show (List.map (fun m => (g.targets m).eraseDups) (g.modules.mapIdx _)).toArray = _
  rw [map_mapIdx (fun m => (g.targets m).eraseDups) g.modules fun i m => by rw [hkeep], topology]

end

section

variable (components : Topology → List (List Nat)) {g : Graph} {s : RuleSet}
  (hs : (s.reachabilityRules.map (·.name)).Nodup) {r : Rule} (hr : r ∈ s.reachabilityRules) (hg : g.Indexed)
  {i : Nat} {m : Module} (hm : g.modules[i]? = some m)
include hs hr hg hm

/-- What a rule notes about being reachable. -/
theorem reachable_analyzed :
    (r.LooksOutFrom (analyzed components g s i m) →
      ∃ value, (analyzed components g s i m).reachable.filter (·.asDefinedInRule = r.name) =
        [⟨r.name, value⟩] ∧ (value = true ↔ r.ReachesTarget g m)) ∧
    (r.IsTarget (analyzed components g s i m) →
      ∃ value, (analyzed components g s i m).reachable.filter (·.asDefinedInRule = r.name) =
        [⟨r.name, value⟩] ∧ (value = true ↔ ∃ j n, g.modules[j]? = some n ∧
          r.LooksOutFrom (analyzed components g s j n) ∧ g.Reaches n.id m.id)) ∧
    (¬ r.LooksOutFrom (analyzed components g s i m) → ¬ r.IsTarget (analyzed components g s i m) →
      (analyzed components g s i m).reachable.filter (·.asDefinedInRule = r.name) = []) := by
  have hroot := isRoot_iff r (shaped (components g.topology) g i m)
  have hfound := reached_isEmpty_iff hg r hm
  have hroots := any_rootsOf_iff components hg r hm
  rw [filter_reachable_analyzed hs hr, reachableNotes]
  refine ⟨fun hlook => ?_, fun htarget => ?_, fun hlook htarget => ?_⟩
  · rw [if_pos (hroot.mpr hlook)]
    refine ⟨_, rfl, ?_⟩
    rw [Bool.not_eq_true', hfound]
  · obtain ⟨hlook, hto, hadm⟩ := htarget
    rw [if_neg fun h => hlook (hroot.mp h), if_pos ⟨hto, hadm⟩]
    exact ⟨_, rfl, hroots⟩
  · rw [if_neg fun h => hlook (hroot.mp h), if_neg fun h => htarget ⟨hlook, h.1, h.2⟩]

/-- What a rule notes about what is reached. -/
theorem reaches_analyzed :
    (r.LooksOutFrom (analyzed components g s i m) → r.ReachesTarget g m →
      (analyzed components g s i m).reaches.filter (·.asDefinedInRule = r.name) =
        [⟨r.name, reached g.sources r (searchFrom g.topology.searches i) i⟩]) ∧
    (¬ (r.LooksOutFrom (analyzed components g s i m) ∧ r.ReachesTarget g m) →
      (analyzed components g s i m).reaches.filter (·.asDefinedInRule = r.name) = []) := by
  have hroot := isRoot_iff r (shaped (components g.topology) g i m)
  have hfound := reached_isEmpty_iff hg r hm
  rw [filter_reaches_analyzed hs hr, reachesNotes]
  refine ⟨fun hlook hreach => ?_, fun hnot => ?_⟩
  · rw [if_pos ⟨hroot.mpr hlook, by rw [hfound.mpr hreach]; exact Bool.false_ne_true⟩]
  · rw [if_neg]
    rintro ⟨hlook, hne⟩
    rw [Bool.not_eq_true] at hne
    exact hnot ⟨hroot.mp hlook, hfound.mp hne⟩

/-- What a rule leaves on the module at a position. -/
theorem annotates_analyzed :
    r.Annotates (g.analyzeWith components s) (analyzed components g s i m) := by
  have hg' := hg.analyzeWith components s
  have hat : (g.analyzeWith components s).At i (analyzed components g s i m) := by
    rw [At, analyzeWith_eq]
    show (g.modules.mapIdx _)[i]? = _
    rw [List.getElem?_mapIdx, hm, Option.map_some]
  have hreaches := reachesTarget_analyzeWith components g s r i m
  have hlists := hg'.lists_reached r hat
  rw [sources_analyzeWith, topology_analyzeWith] at hlists
  obtain ⟨hroot, htarget, hother⟩ := reachable_analyzed components hs hr hg hm
  obtain ⟨hsome, hnone⟩ := reaches_analyzed components hs hr hg hm
  refine ⟨fun hlook => ?_, fun hto => ?_, hother, fun hlook hreach => ?_, fun hnot => ?_⟩
  · rw [hreaches]
    exact hroot hlook
  · obtain ⟨value, hvalue, hiff⟩ := htarget hto
    refine ⟨value, hvalue, hiff.trans ?_⟩
    rw [reaches_analyzeWith]
    constructor
    · rintro ⟨j, n, hn, hlook, hreach⟩
      exact ⟨_, (mem_analyzeWith components g s _).mpr ⟨j, n, hn, rfl⟩, hlook, hreach⟩
    · rintro ⟨n', hn', hlook, hreach⟩
      obtain ⟨j, n, hn, rfl⟩ := (mem_analyzeWith components g s n').mp hn'
      exact ⟨j, n, hn, hlook, hreach⟩
  · exact ⟨_, hsome hlook (hreaches.mp hreach), hlists⟩
  · exact hnone fun h => hnot ⟨h.1, hreaches.mpr h.2⟩

end

/-- **Under the name of an accepted rule on reachability stands exactly what holds of the graph**, with a
shortest way to every module that is listed. -/
theorem annotates_analyzeWith (components : Topology → List (List Nat)) {spec : RuleSetSpec} {s : RuleSet}
    (hs : RuleSet.ofSpec? spec = .ok s) {r : Rule} (hr : r ∈ s.forbidden ∨ r ∈ s.allowed) {wanted : Bool}
    (hw : r.to.reachable = some wanted) {g : Graph} (hg : g.Indexed) :
    ∀ m ∈ (g.analyzeWith components s).modules, r.Annotates (g.analyzeWith components s) m := by
  intro m' hm'
  obtain ⟨i, m, hm, rfl⟩ := (mem_analyzeWith components g s m').mp hm'
  exact annotates_analyzed components (RuleSet.nodup_names_of_ofSpec? hs)
    (RuleSet.mem_reachabilityRules hr hw) hg hm

/-- A rule on what the modules in `a` cannot reach, other than those in `l`. -/
def deadBeyondLibraries : RuleSetSpec where
  forbidden := [{ name := "dead", «from» := { path := some (.one "^a") },
                  «to» := { pathNot := some (.one "^l"), reachable := some false } }]

/-- A cycle leads back to the root, two ways lead to `deep`, and nothing leads to `solo`. -/
theorem annotates_of_cycle_through_root :
    let g := ofTargets [("app", ["lib", "gone"]), ("lib", ["app", "mid", "deep"]), ("mid", ["deep"]),
      ("deep", []), ("solo", [])]
    ∃ s, RuleSet.ofSpec? deadBeyondLibraries = .ok s ∧ ∃ r ∈ s.forbidden,
      (g.analyze s).modules.map (·.reachable) =
        [[⟨"dead", true⟩], [], [⟨"dead", true⟩], [⟨"dead", true⟩], [⟨"dead", false⟩]] ∧
      (g.analyze s).modules.map (·.reaches) =
        [[⟨"dead", [⟨"app", ["lib", "app"]⟩, ⟨"mid", ["lib", "mid"]⟩, ⟨"deep", ["lib", "deep"]⟩]⟩],
          [], [], [], []] ∧
      ∀ m ∈ (g.analyze s).modules, r.Annotates (g.analyze s) m := by
  refine ⟨_, rfl, _, List.mem_cons_self .., by decide, by decide, ?_⟩
  have hs : RuleSet.ofSpec? deadBeyondLibraries = .ok _ := rfl
  exact annotates_analyzeWith Topology.components hs (Or.inl (List.mem_cons_self ..)) rfl
    (ofTargets_indexed (by decide))

end Graph

end ImportSurvey
