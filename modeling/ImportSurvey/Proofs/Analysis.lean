import ImportSurvey.Proofs.Reaches
import ImportSurvey.Graph.Analysis

/-
  What analysis makes of each module, said once for all that is proved about it.

  Analysis goes over the row many times: it clears, marks orphans, marks circular edges, and then notes
  one rule after the other.  No pass reads what a later one writes, and a rule reads of a module only
  its source and its orphan flag, which no rule changes.  So the whole of it is one function of a position
  and the module there (`analyzed`), and the notes of a rule are the same wherever the rule stands among
  the others.
-/
namespace ImportSurvey.Graph

/-! ## The shape: orphans and circular edges -/

/-- The graph before any analysis. -/
def cleared (g : Graph) : Graph := { g with modules := g.modules.map Module.clearDerived }

theorem topology_cleared (g : Graph) : g.cleared.topology = g.topology := by
  rw [topology, topology, cleared]
  show (List.map _ (g.modules.map Module.clearDerived)).toArray = _
  rw [List.map_map]
  congr 2
  funext m
  show ((m.dependencies.map _).filterMap _).eraseDups = _
  rw [List.filterMap_map]
  rfl

/-- Whether an edge of the module at `i` is marked as circular. -/
def circularAt (components : List (List Nat)) (g : Graph) (i : Nat) (d : Dependency) : Bool :=
  closesCycle components (labels g.size components) i (d.to.bind g.indexOf)

/-- The module at a position with its orphan flag and its circular edges. -/
def shaped (components : List (List Nat)) (g : Graph) (i : Nat) (m : Module) : Module :=
  { m.clearDerived with
    orphan := isOrphan g.topology i m
    dependencies := m.dependencies.map fun d => { d with circular := circularAt components g i d } }

/-- The graph before the first rule is noted. -/
def shape (components : Topology → List (List Nat)) (g : Graph) : Graph :=
  (g.cleared.markOrphans g.topology).markCircular (components g.topology)

theorem isOrphan_clearDerived (t : Topology) (i : Nat) (m : Module) :
    isOrphan t i m.clearDerived = isOrphan t i m := by
  show (!hasIncoming t i && (m.dependencies.map _).isEmpty) = _
  rw [List.isEmpty_map]
  rfl

theorem map_dependencies_clearDerived (m : Module) (circular : Dependency → Bool)
    (h : ∀ d, circular { d with circular := false } = circular d) :
    (m.clearDerived.dependencies.map fun d => { d with circular := circular d }) =
      m.dependencies.map fun d => { d with circular := circular d } := by
  show (m.dependencies.map _).map _ = _
  rw [List.map_map]
  apply List.map_congr_left
  intro d _
  show ({ d with circular := circular { d with circular := false } } : Dependency) = _
  rw [h d]

theorem modules_shape (components : Topology → List (List Nat)) (g : Graph) :
    (g.shape components).modules = g.modules.mapIdx (shaped (components g.topology) g) := by
  have hsize : (g.cleared.markOrphans g.topology).size = g.size := by
    show (List.mapIdx _ (g.modules.map Module.clearDerived)).length = g.modules.length
    rw [List.length_mapIdx, List.length_map]
  apply List.ext_getElem?
  intro i
  show (List.mapIdx _ (List.mapIdx _ (g.modules.map Module.clearDerived)))[i]? = _
  rw [hsize, List.getElem?_mapIdx, List.getElem?_mapIdx, List.getElem?_map, List.getElem?_mapIdx,
    Option.map_map, Option.map_map]
  congr 1
  funext m
  have hedges := map_dependencies_clearDerived m (circularAt (components g.topology) g i) fun d => rfl
  show ({ m.clearDerived with
    orphan := isOrphan g.topology i m.clearDerived
    dependencies := m.clearDerived.dependencies.map fun d =>
      { d with circular := circularAt (components g.topology) g i d } } : Module) = _
  rw [shaped, isOrphan_clearDerived, hedges]

/-! ## The notes of the rules -/

/-- What a rule notes about being reachable. -/
def reachableNotes (sources : Array String) (searches : Array Parents) (r : Rule) (roots : List Nat)
    (i : Nat) (m : Module) : List ReachableEntry :=
  if isRoot r m then [⟨r.name, !(reached sources r (searchFrom searches i) i).isEmpty⟩]
  else if r.to.reachable = some false ∧ r.to.paths.admits m.source then
    [⟨r.name, roots.any fun j => ((searchFrom searches j).of i).isSome⟩]
  else []

/-- What a rule notes about what is reached. -/
def reachesNotes (sources : Array String) (searches : Array Parents) (r : Rule) (i : Nat) (m : Module) :
    List ReachesEntry :=
  let found := reached sources r (searchFrom searches i) i
  if isRoot r m ∧ ¬ found.isEmpty then [⟨r.name, found⟩] else []

theorem note_eq (sources : Array String) (searches : Array Parents) (r : Rule) (roots : List Nat) (i : Nat)
    (m : Module) : note sources searches r roots i m =
      { m with
        reachable := m.reachable ++ reachableNotes sources searches r roots i m
        reaches := m.reaches ++ reachesNotes sources searches r i m } := by
  rw [note, reachableNotes, reachesNotes]
  by_cases hroot : isRoot r m
  · rw [if_pos hroot, if_pos hroot]
    by_cases hfound : (reached sources r (searchFrom searches i) i).isEmpty
    · simp [hfound]
    · simp [hfound, hroot]
  · rw [if_neg hroot, if_neg hroot]
    by_cases htarget : r.to.reachable = some false ∧ r.to.paths.admits m.source
    · simp [htarget, hroot]
    · simp [htarget, hroot]

/-! ## Rules after rules -/

/-- The module at a position after some rules were noted; their roots are sought in `g`. -/
def annotated (g : Graph) (searches : Array Parents) (rules : List Rule) (i : Nat) (m : Module) : Module :=
  { m with
    reachable := m.reachable ++
      rules.flatMap fun r => reachableNotes g.sources searches r (g.rootsOf r) i m
    reaches := m.reaches ++ rules.flatMap fun r => reachesNotes g.sources searches r i m }

theorem isRoot_note (sources : Array String) (searches : Array Parents) (r r' : Rule) (roots : List Nat)
    (i : Nat) (m : Module) : isRoot r' (note sources searches r roots i m) = isRoot r' m := by
  rw [note_eq]
  rfl

/-- What no change touches is the same after all of them. -/
theorem map_mapIdx {α : Type _} (φ : Module → α) (l : List Module) {f : Nat → Module → Module}
    (hf : ∀ i m, φ (f i m) = φ m) : (l.mapIdx f).map φ = l.map φ := by
  apply List.ext_getElem?
  intro i
  rw [List.getElem?_map, List.getElem?_mapIdx, List.getElem?_map, Option.map_map]
  congr 1
  funext m
  exact hf i m

theorem sources_markByRule (searches : Array Parents) (g : Graph) (r : Rule) :
    (markByRule searches g r).sources = g.sources := by
  show (List.map _ (g.modules.mapIdx (note g.sources searches r (g.rootsOf r)))).toArray = _
  rw [map_mapIdx (·.source) g.modules fun i m => by rw [note_eq], sources]

/-- The positions that pass a test do not change if the modules keep their answers. -/
theorem filter_zipIdx_mapIdx (p : Module → Bool) (l : List Module) (k : Nat) (f : Nat → Module → Module)
    (hf : ∀ i m, p (f i m) = p m) :
    (((l.mapIdx f).zipIdx k).filter fun q => p q.1).map (·.2) =
      ((l.zipIdx k).filter fun q => p q.1).map (·.2) := by
  induction l generalizing k f with
  | nil => rfl
  | cons m l ih =>
    rw [List.mapIdx_cons, List.zipIdx_cons, List.zipIdx_cons, List.filter_cons, List.filter_cons]
    have htail := ih (k + 1) (fun i => f (i + 1)) fun i => hf (i + 1)
    show List.map _ (if p (f 0 m) = true then _ else _) = List.map _ (if p m = true then _ else _)
    rw [hf 0 m]
    split
    · rw [List.map_cons, List.map_cons, htail]
    · exact htail

theorem rootsOf_markByRule (searches : Array Parents) (g : Graph) (r r' : Rule) :
    (markByRule searches g r).rootsOf r' = g.rootsOf r' :=
  filter_zipIdx_mapIdx (isRoot r') g.modules 0 _ fun i m => isRoot_note g.sources searches r r' _ i m

/-- **Noting all rules at once.** -/
theorem foldl_markByRule (searches : Array Parents) (rules : List Rule) (g : Graph) :
    rules.foldl (markByRule searches) g =
      { g with modules := g.modules.mapIdx (annotated g searches rules) } := by
  induction rules generalizing g with
  | nil =>
    have hid : g.modules.mapIdx (annotated g searches []) = g.modules := by
      rw [List.mapIdx_eq_iff]
      intro i
      have hann : annotated g searches [] i = id := by
        funext m
        rw [annotated, List.flatMap_nil, List.flatMap_nil, List.append_nil, List.append_nil, id]
      rw [hann, Option.map_id, id]
    rw [List.foldl_nil, hid]
  | cons r rules ih =>
    rw [List.foldl_cons, ih]
    show (⟨(g.modules.mapIdx (note g.sources searches r (g.rootsOf r))).mapIdx _, g.index⟩ : Graph) = _
    rw [List.mapIdx_mapIdx]
    congr 2
    funext i m
    have hnotes : ∀ r', reachableNotes g.sources searches r' (g.rootsOf r') i
        (note g.sources searches r (g.rootsOf r) i m) =
          reachableNotes g.sources searches r' (g.rootsOf r') i m := by
      intro r'
      rw [note_eq]
      rfl
    have hreaches : ∀ r', reachesNotes g.sources searches r' i
        (note g.sources searches r (g.rootsOf r) i m) = reachesNotes g.sources searches r' i m := by
      intro r'
      rw [note_eq]
      rfl
    rw [Function.comp_apply, annotated, annotated, sources_markByRule]
    simp only [rootsOf_markByRule, hnotes, hreaches]
    rw [note_eq, List.flatMap_cons, List.flatMap_cons, List.append_assoc, List.append_assoc]

/-! ## The whole of it -/

/-- The module at a position after analysis. -/
def analyzed (components : Topology → List (List Nat)) (g : Graph) (s : RuleSet) (i : Nat) (m : Module) :
    Module :=
  annotated (g.shape components) g.topology.searches s.reachabilityRules i
    (shaped (components g.topology) g i m)

/-- **Analysis is a function of position and module.** -/
theorem analyzeWith_eq (components : Topology → List (List Nat)) (g : Graph) (s : RuleSet) :
    g.analyzeWith components s = { g with modules := g.modules.mapIdx (analyzed components g s) } := by
  show s.reachabilityRules.foldl (markByRule g.cleared.topology.searches)
    ((g.cleared.markOrphans g.cleared.topology).markCircular (components g.cleared.topology)) = _
  rw [topology_cleared]
  show s.reachabilityRules.foldl (markByRule g.topology.searches) (g.shape components) = _
  rw [foldl_markByRule, modules_shape, List.mapIdx_mapIdx]
  rfl

theorem mem_analyzeWith (components : Topology → List (List Nat)) (g : Graph) (s : RuleSet) (m' : Module) :
    m' ∈ (g.analyzeWith components s).modules ↔
      ∃ i m, g.modules[i]? = some m ∧ m' = analyzed components g s i m := by
  rw [analyzeWith_eq, List.mem_iff_getElem?]
  apply exists_congr
  intro i
  show (g.modules.mapIdx _)[i]? = some m' ↔ _
  rw [List.getElem?_mapIdx, Option.map_eq_some_iff]
  exact exists_congr fun m => and_congr_right fun _ => eq_comm

theorem clearDerived_analyzed (components : Topology → List (List Nat)) (g : Graph) (s : RuleSet) (i : Nat)
    (m : Module) : (analyzed components g s i m).clearDerived = m.clearDerived := by
  have hedges : ((analyzed components g s i m).dependencies.map fun d => { d with circular := false }) =
      m.dependencies.map fun d => { d with circular := false } := by
    show (m.dependencies.map _).map _ = _
    rw [List.map_map]
    rfl
  rw [Module.clearDerived, hedges, Module.clearDerived]
  rfl

/-- **Analysis changes nothing but what it derives.** -/
theorem clearDerived_analyzeWith (components : Topology → List (List Nat)) (g : Graph) (s : RuleSet) :
    (g.analyzeWith components s).modules.map Module.clearDerived = g.modules.map Module.clearDerived := by
  rw [analyzeWith_eq]
  exact map_mapIdx Module.clearDerived g.modules fun i m => clearDerived_analyzed components g s i m

theorem ids_analyzeWith (components : Topology → List (List Nat)) (g : Graph) (s : RuleSet) :
    (g.analyzeWith components s).ids = g.ids := by
  have hkeep : ∀ i m, (analyzed components g s i m).id = m.id := fun i m => rfl
  rw [analyzeWith_eq, ids, map_mapIdx (·.id) g.modules hkeep, ids]

/-- Analysis changes no edge. -/
theorem leads_analyzeWith (components : Topology → List (List Nat)) (g : Graph) (s : RuleSet) :
    (g.analyzeWith components s).Leads = g.Leads := by
  funext x y
  rw [Leads, Leads, ids_analyzeWith]
  congr 1
  apply propext
  constructor
  · rintro ⟨m', hm', hid, d', hd', hto⟩
    obtain ⟨i, m, hm, rfl⟩ := (mem_analyzeWith components g s m').mp hm'
    obtain ⟨d, hd, rfl⟩ := List.mem_map.mp hd'
    exact ⟨m, List.mem_of_getElem? hm, hid, d, hd, hto⟩
  · rintro ⟨m, hm, hid, d, hd, hto⟩
    obtain ⟨i, hi⟩ := List.mem_iff_getElem?.mp hm
    exact ⟨_, (mem_analyzeWith components g s _).mpr ⟨i, m, hi, rfl⟩, hid, _, List.mem_map_of_mem hd, hto⟩

theorem reaches_analyzeWith (components : Topology → List (List Nat)) (g : Graph) (s : RuleSet) :
    (g.analyzeWith components s).Reaches = g.Reaches := by
  rw [Reaches, leads_analyzeWith, Reaches]

theorem sources_shape (components : Topology → List (List Nat)) (g : Graph) :
    (g.shape components).sources = g.sources := by
  have hkeep : ∀ i m, (shaped (components g.topology) g i m).source = m.source := fun i m => rfl
  rw [sources, modules_shape, map_mapIdx (·.source) g.modules hkeep, sources]

/-- The roots of a rule are the positions of the modules that pass as roots once orphans are marked. -/
theorem mem_rootsOf_shape (components : Topology → List (List Nat)) (g : Graph) (r : Rule) (j : Nat) :
    j ∈ (g.shape components).rootsOf r ↔
      ∃ m, g.modules[j]? = some m ∧ isRoot r (shaped (components g.topology) g j m) := by
  rw [rootsOf, modules_shape, List.mem_map]
  constructor
  · rintro ⟨⟨n, k⟩, hn, rfl⟩
    obtain ⟨hmem, hroot⟩ := List.mem_filter.mp hn
    have hat := List.mem_zipIdx_iff_getElem?.mp hmem
    rw [List.getElem?_mapIdx] at hat
    obtain ⟨m, hm, he⟩ := Option.map_eq_some_iff.mp hat
    exact ⟨m, hm, by rw [he]; exact hroot⟩
  · rintro ⟨m, hm, hroot⟩
    refine ⟨(shaped (components g.topology) g j m, j), List.mem_filter.mpr ⟨?_, hroot⟩, rfl⟩
    rw [List.mem_zipIdx_iff_getElem?, List.getElem?_mapIdx, hm]
    rfl

end ImportSurvey.Graph
