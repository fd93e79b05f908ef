import ImportSurvey.Proofs.Analysis
import ImportSurvey.Rules.Validate

/-
  Analysis and validation leave nothing behind that a later run of them could see.

  A pass over a graph writes two kinds of fields.  Analysis clears what it derives before it derives
  anything (`analyzeWith_cleared`); validation replaces every verdict (`validate_unjudged`).  The crux is
  that analysis neither reads nor writes a verdict, so that taking the verdicts back commutes with it
  (`unjudged_analyzeWith`).  A graph with both kinds taken back is the same before and after any pass
  (`blank_foldl`), and judging the analyzed graph needs to know no more than that blank graph.  So it
  forgets every pass that came before.

  `SameBut` is the frame: it names the fields that a pass may write, and says that all others, the order
  of the modules and the index are those that came in.  How the strongly connected components are found
  does not matter, as long as it is a function of the topology.
-/
namespace ImportSurvey

/-! ## What a pass may write -/

/-- The edge but for its circular mark. -/
def Dependency.SameButCircular (d d' : Dependency) : Prop := ∃ circular, d' = { d with circular }

/-- The edge but for its verdict. -/
def Dependency.SameButVerdict (d d' : Dependency) : Prop := ∃ valid rules, d' = { d with valid, rules }

/-- The module but for what analysis derives. -/
def Module.SameButDerived (m m' : Module) : Prop :=
  ∃ orphan reachable reaches dependencies,
    m' = { m with orphan, reachable, reaches, dependencies } ∧
      List.Forall₂ Dependency.SameButCircular m.dependencies dependencies

/-- The module but for its verdict and those of its edges. -/
def Module.SameButVerdict (m m' : Module) : Prop :=
  ∃ valid rules dependencies, m' = { m with valid, rules, dependencies } ∧
    List.Forall₂ Dependency.SameButVerdict m.dependencies dependencies

namespace Graph

/-- The same index, and module by module the same but for some fields. -/
def SameBut (R : Module → Module → Prop) (g g' : Graph) : Prop :=
  g'.index = g.index ∧ List.Forall₂ R g.modules g'.modules

/-- A change of one module after the other, told from each change. -/
theorem forall₂_mapIdx {R : Module → Module → Prop} (l : List Module) (f : Nat → Module → Module)
    (hf : ∀ i m, R m (f i m)) : List.Forall₂ R l (l.mapIdx f) := by
  induction l generalizing f with
  | nil => exact .nil
  | cons m l ih =>
    rw [List.mapIdx_cons]
    exact .cons (hf 0 m) (ih _ fun i => hf (i + 1))

/-- A change of one edge after the other, told from each change. -/
theorem forall₂_map {R : Dependency → Dependency → Prop} (l : List Dependency) (f : Dependency → Dependency)
    (hf : ∀ d, R d (f d)) : List.Forall₂ R l (l.map f) := by
  rw [List.forall₂_map_right_iff, List.forall₂_same]
  exact fun d _ => hf d

/-- **Analysis writes only what it derives.** -/
theorem sameBut_analyzeWith (components : Topology → List (List Nat)) (g : Graph) (s : RuleSet) :
    SameBut Module.SameButDerived g (g.analyzeWith components s) := by
  rw [analyzeWith_eq]
  refine ⟨rfl, forall₂_mapIdx g.modules _ fun i m => ?_⟩
  have hedges : List.Forall₂ Dependency.SameButCircular m.dependencies
      (m.dependencies.map fun d => { d with circular := circularAt (components g.topology) g i d }) :=
    forall₂_map _ _ fun d => ⟨_, rfl⟩
  exact ⟨_, _, _, _, rfl, hedges⟩

/-- **Validation writes only verdicts.** -/
theorem sameBut_validate (g : Graph) (s : RuleSet) (validate : Bool) :
    SameBut Module.SameButVerdict g (g.validate s validate) := by
  refine ⟨rfl, ?_⟩
  show List.Forall₂ _ g.modules (g.modules.map (s.judge validate))
  rw [List.forall₂_map_right_iff, List.forall₂_same]
  intro m _
  have hedges : List.Forall₂ Dependency.SameButVerdict m.dependencies
      (m.dependencies.map fun d => d.applyVerdict (s.judgeDependency validate m d)) :=
    forall₂_map _ _ fun d => ⟨_, _, rfl⟩
  exact ⟨_, _, _, rfl, hedges⟩

/-! ## Taking back verdicts -/

end Graph

/-- Without verdict. -/
def Dependency.unjudged (d : Dependency) : Dependency := d.applyVerdict .clean

/-- Without verdicts, those of the edges included. -/
def Module.unjudged (m : Module) : Module :=
  { m with dependencies := m.dependencies.map Dependency.unjudged }.applyVerdict .clean

namespace Graph

/-- The graph before any validation. -/
def unjudged (g : Graph) : Graph := { g with modules := g.modules.map Module.unjudged }

/-- No rule reads a verdict. -/
theorem judge_unjudged (s : RuleSet) (validate : Bool) (m : Module) :
    s.judge validate m.unjudged = s.judge validate m := by
  have hedges : m.unjudged.dependencies.map
      (fun d => d.applyVerdict (s.judgeDependency validate m.unjudged d)) =
        m.dependencies.map fun d => d.applyVerdict (s.judgeDependency validate m d) := by
    show (m.dependencies.map Dependency.unjudged).map _ = _
    rw [List.map_map]
    rfl
  show Module.applyVerdict { m.unjudged with dependencies := m.unjudged.dependencies.map _ } _ = _
  rw [hedges]
  rfl

theorem validate_unjudged (g : Graph) (s : RuleSet) (validate : Bool) :
    g.unjudged.validate s validate = g.validate s validate := by
  show (⟨(g.modules.map Module.unjudged).map (s.judge validate), g.index⟩ : Graph) = _
  rw [List.map_map]
  have hjudge : s.judge validate ∘ Module.unjudged = s.judge validate :=
    funext fun m => judge_unjudged s validate m
  rw [hjudge]
  rfl

/-- Verdicts that are taken back do not tell what they were. -/
theorem unjudged_judge (s : RuleSet) (validate : Bool) (m : Module) :
    (s.judge validate m).unjudged = m.unjudged := by
  have hedges : (s.judge validate m).dependencies.map Dependency.unjudged =
      m.dependencies.map Dependency.unjudged := by
    show (m.dependencies.map _).map Dependency.unjudged = _
    rw [List.map_map]
    rfl
  rw [Module.unjudged, hedges]
  rfl

theorem unjudged_validate (g : Graph) (s : RuleSet) (validate : Bool) :
    (g.validate s validate).unjudged = g.unjudged := by
  show (⟨(g.modules.map (s.judge validate)).map Module.unjudged, g.index⟩ : Graph) = _
  rw [List.map_map]
  have hjudge : Module.unjudged ∘ s.judge validate = Module.unjudged :=
    funext fun m => unjudged_judge s validate m
  rw [hjudge]
  rfl

/-! ## Analysis reads no verdict -/

/-- Verdicts can be taken back before a change of every module or after it, if that holds for each. -/
theorem mapIdx_map_unjudged (l : List Module) {f f' : Nat → Module → Module}
    (hf : ∀ i m, f i m.unjudged = (f' i m).unjudged) :
    (l.map Module.unjudged).mapIdx f = (l.mapIdx f').map Module.unjudged := by
  apply List.ext_getElem?
  intro i
  rw [List.getElem?_mapIdx, List.getElem?_map, List.getElem?_map, List.getElem?_mapIdx, Option.map_map,
    Option.map_map]
  congr 1
  funext m
  exact hf i m

theorem topology_unjudged (g : Graph) : g.unjudged.topology = g.topology := by
  show ((g.modules.map Module.unjudged).map _).toArray = _
  rw [List.map_map, topology]
  congr 2
  funext m
  show ((m.dependencies.map Dependency.unjudged).filterMap _).eraseDups = _
  rw [List.filterMap_map]
  rfl

theorem shaped_unjudged (components : List (List Nat)) (g : Graph) (i : Nat) (m : Module) :
    shaped components g.unjudged i m.unjudged = (shaped components g i m).unjudged := by
  have hsize : g.unjudged.size = g.size := List.length_map _
  have hedges : m.unjudged.dependencies.map
      (fun d => { d with circular := circularAt components g.unjudged i d }) =
        (m.dependencies.map fun d => { d with circular := circularAt components g i d }).map
          Dependency.unjudged := by
    show (m.dependencies.map Dependency.unjudged).map _ = _
    rw [List.map_map, List.map_map]
    apply List.map_congr_left
    intro d _
    have hmark : circularAt components g.unjudged i d.unjudged = circularAt components g i d := by
      rw [circularAt, hsize]
      rfl
    show ({ d.unjudged with circular := circularAt components g.unjudged i d.unjudged } : Dependency) = _
    rw [hmark]
    rfl
  have horphan : isOrphan g.unjudged.topology i m.unjudged = isOrphan g.topology i m := by
    rw [topology_unjudged]
    show (!hasIncoming _ i && (m.dependencies.map _).isEmpty) = _
    rw [List.isEmpty_map]
    rfl
  rw [shaped, horphan, hedges]
  rfl

theorem shape_unjudged (components : Topology → List (List Nat)) (g : Graph) :
    g.unjudged.shape components = (g.shape components).unjudged := by
  have hmodules : (g.unjudged.shape components).modules = (g.shape components).unjudged.modules := by
    rw [modules_shape, topology_unjudged]
    show (g.modules.map Module.unjudged).mapIdx _ = (g.shape components).modules.map Module.unjudged
    rw [modules_shape]
    exact mapIdx_map_unjudged g.modules (shaped_unjudged (components g.topology) g)
  show (⟨(g.unjudged.shape components).modules, g.index⟩ : Graph) = _
  rw [hmodules]
  rfl

theorem sources_unjudged (g : Graph) : g.unjudged.sources = g.sources := by
  show ((g.modules.map Module.unjudged).map (·.source)).toArray = _
  rw [List.map_map]
  rfl

theorem rootsOf_unjudged (g : Graph) (r : Rule) : g.unjudged.rootsOf r = g.rootsOf r := by
  have hmapIdx : g.modules.map Module.unjudged = g.modules.mapIdx fun _ m => m.unjudged := by
    apply List.ext_getElem?
    intro i
    rw [List.getElem?_map, List.getElem?_mapIdx]
  show (((g.modules.map Module.unjudged).zipIdx.filter _).map _) = _
  rw [hmapIdx]
  exact filter_zipIdx_mapIdx (isRoot r) g.modules 0 _ fun i m => rfl

/-- **Analysis neither reads nor writes a verdict.** -/
theorem unjudged_analyzeWith (components : Topology → List (List Nat)) (g : Graph) (s : RuleSet) :
    g.unjudged.analyzeWith components s = (g.analyzeWith components s).unjudged := by
  have hmodule : ∀ i m, analyzed components g.unjudged s i m.unjudged =
      (analyzed components g s i m).unjudged := by
    intro i m
    rw [analyzed, shape_unjudged, topology_unjudged, shaped_unjudged, annotated, sources_unjudged]
    simp only [rootsOf_unjudged]
    rfl
  rw [analyzeWith_eq, analyzeWith_eq]
  show (⟨(g.modules.map Module.unjudged).mapIdx _, g.index⟩ : Graph) =
    ⟨(g.modules.mapIdx _).map Module.unjudged, g.index⟩
  congr 1
  exact mapIdx_map_unjudged g.modules hmodule

/-! ## Analysis starts from the cleared graph -/

theorem cleared_cleared (g : Graph) : g.cleared.cleared = g.cleared := by
  show (⟨(g.modules.map Module.clearDerived).map Module.clearDerived, g.index⟩ : Graph) = _
  rw [List.map_map]
  have hclear : Module.clearDerived ∘ Module.clearDerived = Module.clearDerived := by
    funext m
    show ({ m.clearDerived with dependencies := (m.dependencies.map _).map _ } : Module) = _
    rw [List.map_map]
    rfl
  rw [hclear]
  rfl

theorem analyzeWith_cleared (components : Topology → List (List Nat)) (g : Graph) (s : RuleSet) :
    g.cleared.analyzeWith components s = g.analyzeWith components s := by
  show s.reachabilityRules.foldl (markByRule g.cleared.cleared.topology.searches)
    ((g.cleared.cleared.markOrphans g.cleared.cleared.topology).markCircular
      (components g.cleared.cleared.topology)) = _
  rw [cleared_cleared]
  rfl

theorem cleared_analyzeWith (components : Topology → List (List Nat)) (g : Graph) (s : RuleSet) :
    (g.analyzeWith components s).cleared = g.cleared := by
  have hmodules := clearDerived_analyzeWith components g s
  rw [cleared, hmodules, analyzeWith_eq, cleared]

/-- **An analysis is as good as any number of them**, by whatever rules the earlier ones were. -/
theorem analyzeWith_analyzeWith (components : Topology → List (List Nat)) (g : Graph) (s s' : RuleSet) :
    (g.analyzeWith components s').analyzeWith components s = g.analyzeWith components s := by
  rw [← analyzeWith_cleared, cleared_analyzeWith, analyzeWith_cleared]

/-! ## Any number of passes -/

theorem cleared_unjudged (g : Graph) : g.unjudged.cleared = g.cleared.unjudged := by
  show (⟨(g.modules.map Module.unjudged).map Module.clearDerived, g.index⟩ : Graph) =
    ⟨(g.modules.map Module.clearDerived).map Module.unjudged, g.index⟩
  rw [List.map_map, List.map_map]
  congr 2
  funext m
  show Module.applyVerdict { m.clearDerived with dependencies := (m.dependencies.map _).map _ } .clean =
    Module.applyVerdict { m.clearDerived with dependencies := (m.dependencies.map _).map _ } .clean
  rw [List.map_map, List.map_map]
  rfl

/-- A pass over a graph. -/
inductive Pass where
  | analysis (s : RuleSet)
  | validation (s : RuleSet) (validate : Bool)

def Pass.apply (components : Topology → List (List Nat)) (g : Graph) : Pass → Graph
  | .analysis s => g.analyzeWith components s
  | .validation s validate => g.validate s validate

/-- **One pass** changes nothing but what can be taken back. -/
theorem blank_apply (components : Topology → List (List Nat)) (g : Graph) (p : Pass) :
    (p.apply components g).cleared.unjudged = g.cleared.unjudged := by
  cases p with
  | analysis s =>
    show (g.analyzeWith components s).cleared.unjudged = _
    rw [cleared_analyzeWith]
  | validation s validate =>
    show (g.validate s validate).cleared.unjudged = _
    rw [← cleared_unjudged, unjudged_validate, cleared_unjudged]

/-- **All passes**, by induction on how many there are. -/
theorem blank_foldl (components : Topology → List (List Nat)) (passes : List Pass) (g : Graph) :
    (passes.foldl (Pass.apply components) g).cleared.unjudged = g.cleared.unjudged := by
  induction passes generalizing g with
  | nil => rfl
  | cons p passes ih => rw [List.foldl_cons, ih, blank_apply]

/-- Judging an analyzed graph needs to know the blank graph only. -/
theorem validate_analyzeWith_blank (components : Topology → List (List Nat)) (g : Graph) (s : RuleSet)
    (validate : Bool) :
    (g.cleared.unjudged.analyzeWith components s).validate s validate =
      (g.analyzeWith components s).validate s validate := by
  rw [unjudged_analyzeWith, validate_unjudged, analyzeWith_cleared]

/-- **Analysis and validation forget what was done before, and touch only what is theirs.**  Whatever
passes a graph went through, analyzing and judging it gives what it gives for the graph that came in;
in particular analysis repeated is analysis, and nothing survives of one by other rules. -/
theorem passes_leave_no_trace (components : Topology → List (List Nat)) (g : Graph) (passes : List Pass)
    (s : RuleSet) (validate : Bool) :
    ((passes.foldl (Pass.apply components) g).analyzeWith components s).validate s validate =
        (g.analyzeWith components s).validate s validate ∧
      (∀ s', (g.analyzeWith components s').analyzeWith components s = g.analyzeWith components s) ∧
      SameBut Module.SameButDerived g (g.analyzeWith components s) ∧
      SameBut Module.SameButVerdict g (g.validate s validate) := by
  refine ⟨?_, analyzeWith_analyzeWith components g s, sameBut_analyzeWith components g s,
    sameBut_validate g s validate⟩
  rw [← validate_analyzeWith_blank, blank_foldl, validate_analyzeWith_blank]

end Graph

end ImportSurvey
