import ImportSurvey.Proofs.Accepted
import ImportSurvey.Proofs.Analysis
import ImportSurvey.Rules.Match

/-
  What a rule on reachability means, from the rule file to the answer for a module.

  The answer goes a long way: searches from every root, notes on the modules under the name of the rule,
  and three ways of matching that read them back.  The names are what could mix rules up, and an accepted
  rule set keeps them apart, so reading back a name gives the notes of that rule and no others
  (`filter_flatMap_of_name`).  A rule leaves at most one note of each kind on a module, hence the answer is
  a function of the rule, the graph and the module.

  A rule that asks for what can be reached speaks of its roots alone.  One that asks for what cannot be
  reached speaks of the modules its target side admits: of a root, whether it reaches none of them, and of
  any other module, whether no root reaches it.
-/
namespace ImportSurvey

/-- The rule looks out from this module. -/
def Rule.LooksOutFrom (r : Rule) (m : Module) : Prop :=
  r.from.paths.admits m.source ∧ ∀ wanted, r.from.orphan = some wanted → m.orphan = wanted

/-- The module reaches some module that the target side of the rule admits. -/
def Rule.ReachesTarget (r : Rule) (g : Graph) (m : Module) : Prop :=
  ∃ t ∈ g.modules, r.to.paths.admits t.source ∧ g.Reaches m.id t.id

/-- What a rule on reachability asks of a module of an analyzed graph. -/
def Rule.AsksFor (r : Rule) (g : Graph) : Bool → Module → Prop
  | true, m => r.LooksOutFrom m ∧ r.ReachesTarget g m
  | false, m => r.to.paths.admits m.source ∧
      ((r.LooksOutFrom m ∧ ¬ r.ReachesTarget g m) ∨
        (¬ r.LooksOutFrom m ∧ ∀ n ∈ g.modules, r.LooksOutFrom n → ¬ g.Reaches n.id m.id))

/-- A rule on reachability does not apply by the orphan flag alone. -/
theorem Rule.matchesOrphan_of_reachable {r : Rule} {wanted : Bool} (hw : r.to.reachable = some wanted)
    (m : Module) : r.matchesOrphan m = false := by
  rw [matchesOrphan, isReachability, hw]
  rfl

namespace Graph

theorem isRoot_iff (r : Rule) (m : Module) : isRoot r m ↔ r.LooksOutFrom m := by
  rw [isRoot, Bool.and_eq_true, Rule.LooksOutFrom]
  refine and_congr_right fun _ => ?_
  cases r.from.orphan with
  | none => simp
  | some wanted =>
    show (wanted == m.orphan) = true ↔ _
    rw [beq_iff_eq]
    exact ⟨fun h w hw => h ▸ Option.some.inj hw ▸ rfl, fun h => (h wanted rfl).symm⟩

/-! ## Reading notes back by name -/

/-- Among notes under different names, those under the name of a rule are the notes of that rule. -/
theorem filter_flatMap_of_name {α : Type _} {rules : List Rule} (hnd : (rules.map (·.name)).Nodup) {r : Rule}
    (hr : r ∈ rules) (notes : Rule → List α) (nameOf : α → String)
    (hname : ∀ r', ∀ e ∈ notes r', nameOf e = r'.name) :
    (rules.flatMap notes).filter (nameOf · = r.name) = notes r := by
  have hown : (notes r).filter (nameOf · = r.name) = notes r := by
    rw [List.filter_eq_self]
    intro e he
    rw [decide_eq_true_eq]
    exact hname r e he
  have hother : ∀ r' : Rule, r'.name ≠ r.name → (notes r').filter (nameOf · = r.name) = [] := by
    intro r' hne
    rw [List.filter_eq_nil_iff]
    intro e he
    rw [decide_eq_true_eq, hname r' e he]
    exact hne
  induction rules with
  | nil => exact absurd hr List.not_mem_nil
  | cons r₀ rules ih =>
    rw [List.map_cons, List.nodup_cons] at hnd
    rw [List.flatMap_cons, List.filter_append]
    by_cases h₀ : r₀.name = r.name
    · have heq : r = r₀ := by
        rcases List.mem_cons.mp hr with h | h
        · exact h
        · exact absurd (h₀ ▸ List.mem_map_of_mem (f := (·.name)) h) hnd.1
      subst heq
      have hrest : (rules.flatMap notes).filter (nameOf · = r.name) = [] := by
        rw [List.filter_flatMap, List.flatMap_eq_nil_iff]
        intro r' hr'
        exact hother r' fun h => hnd.1 (h ▸ List.mem_map_of_mem (f := (·.name)) hr')
      rw [hown, hrest, List.append_nil]
    · rw [hother r₀ h₀, List.nil_append]
      rcases List.mem_cons.mp hr with h | h
      · exact absurd (congrArg Rule.name h.symm) h₀
      · exact ih hnd.2 h

theorem name_reachableNotes {sources : Array String} {searches : Array Parents} {r : Rule} {roots : List Nat}
    {i : Nat} {m : Module} {e : ReachableEntry} (he : e ∈ reachableNotes sources searches r roots i m) :
    e.asDefinedInRule = r.name := by
  rw [reachableNotes] at he
  split at he
  · rw [List.mem_singleton.mp he]
  · split at he
    · rw [List.mem_singleton.mp he]
    · exact absurd he List.not_mem_nil

theorem name_reachesNotes {sources : Array String} {searches : Array Parents} {r : Rule} {i : Nat}
    {m : Module} {e : ReachesEntry} (he : e ∈ reachesNotes sources searches r i m) :
    e.asDefinedInRule = r.name := by
  rw [reachesNotes] at he
  split at he
  · rw [List.mem_singleton.mp he]
  · exact absurd he List.not_mem_nil

section

variable {components : Topology → List (List Nat)} {g : Graph} {s : RuleSet}
  (hs : (s.reachabilityRules.map (·.name)).Nodup) {r : Rule} (hr : r ∈ s.reachabilityRules)
include hs hr

/-- Under the name of a rule stands what this rule noted about being reachable, and nothing else. -/
theorem filter_reachable_analyzed (i : Nat) (m : Module) :
    (analyzed components g s i m).reachable.filter (·.asDefinedInRule = r.name) =
      reachableNotes g.sources g.topology.searches r ((g.shape components).rootsOf r) i
        (shaped (components g.topology) g i m) := by
  show ([] ++ s.reachabilityRules.flatMap _).filter _ = _
  rw [List.nil_append, sources_shape]
  exact filter_flatMap_of_name hs hr _ (·.asDefinedInRule) fun r' e he => name_reachableNotes he

/-- Under the name of a rule stands what this rule noted about what is reached, and nothing else. -/
theorem filter_reaches_analyzed (i : Nat) (m : Module) :
    (analyzed components g s i m).reaches.filter (·.asDefinedInRule = r.name) =
      reachesNotes g.sources g.topology.searches r i (shaped (components g.topology) g i m) := by
  show ([] ++ s.reachabilityRules.flatMap _).filter _ = _
  rw [List.nil_append, sources_shape]
  exact filter_flatMap_of_name hs hr _ (·.asDefinedInRule) fun r' e he => name_reachesNotes he

theorem reachableFor_analyzed (i : Nat) (m : Module) :
    (analyzed components g s i m).reachableFor r.name =
      (reachableNotes g.sources g.topology.searches r ((g.shape components).rootsOf r) i
        (shaped (components g.topology) g i m)).head? := by
  rw [Module.reachableFor, ← List.head?_filter, filter_reachable_analyzed hs hr]

theorem reachesFor_analyzed (i : Nat) (m : Module) :
    (analyzed components g s i m).reachesFor r.name =
      (reachesNotes g.sources g.topology.searches r i (shaped (components g.topology) g i m)).head? := by
  rw [Module.reachesFor, ← List.head?_filter, filter_reaches_analyzed hs hr]

end

/-! ## What the notes say -/

theorem size_sources (g : Graph) : g.sources.size = g.modules.length := by
  rw [sources, List.size_toArray, List.length_map]

theorem sources_getD {g : Graph} {k : Nat} {n : Module} (hn : g.modules[k]? = some n) :
    g.sources.getD k "" = n.source := by
  rw [Array.getD_eq_getD_getElem?, sources, List.getElem?_toArray, List.getElem?_map, hn]
  rfl

/-- All that a root reaches by a rule passes the filters of its target side. -/
theorem admits_of_mem_reached {sources : Array String} {r : Rule} {search : Parents} {root : Nat}
    {e : ReachedModule} (he : e ∈ reached sources r search root) : r.to.paths.admits e.source := by
  obtain ⟨k, -, hk⟩ := List.mem_filterMap.mp he
  split at hk
  · rename_i hpass
    rw [← Option.some.inj hk]
    exact (Bool.and_eq_true_iff.mp hpass).2
  · cases hk

/-- **A root finds something iff it reaches an admitted module.** -/
theorem reached_isEmpty_iff {g : Graph} (hg : g.Indexed) (r : Rule) {i : Nat} {m : Module}
    (hm : g.modules[i]? = some m) :
    (reached g.sources r (searchFrom g.topology.searches i) i).isEmpty = false ↔ r.ReachesTarget g m := by
  have hx := getElem?_ids_of_module hm
  rw [List.isEmpty_eq_false_iff_exists_mem]
  constructor
  · rintro ⟨e, he⟩
    obtain ⟨k, hk, hpass⟩ := List.mem_filterMap.mp he
    split at hpass
    · rename_i hboth
      obtain ⟨hreach, hadm⟩ := Bool.and_eq_true_iff.mp hboth
      have hlt : k < g.modules.length := size_sources g ▸ List.mem_range.mp hk
      have hn := List.getElem?_eq_getElem hlt
      refine ⟨g.modules[k], List.getElem_mem hlt, ?_,
        (hg.isSome_search_iff hx (getElem?_ids_of_module hn)).mp hreach⟩
      rw [← sources_getD hn]
      exact hadm
    · cases hpass
  · rintro ⟨n, hn, hadm, hreach⟩
    obtain ⟨k, hk⟩ := List.mem_iff_getElem?.mp hn
    have hlt : k < g.sources.size := size_sources g ▸ (List.getElem?_eq_some_iff.mp hk).1
    have hfound := (hg.isSome_search_iff hx (getElem?_ids_of_module hk)).mpr hreach
    refine ⟨_, List.mem_filterMap.mpr ⟨k, List.mem_range.mpr hlt, if_pos ?_⟩⟩
    rw [sources_getD hk, hfound, hadm]
    rfl

/-- A module is found from the roots iff one of them reaches it. -/
theorem any_rootsOf_iff (components : Topology → List (List Nat)) {g : Graph} (hg : g.Indexed) (r : Rule)
    {i : Nat} {m : Module} (hm : g.modules[i]? = some m) :
    (((g.shape components).rootsOf r).any fun j => ((searchFrom g.topology.searches j).of i).isSome) ↔
      ∃ j n, g.modules[j]? = some n ∧ r.LooksOutFrom (shaped (components g.topology) g j n) ∧
        g.Reaches n.id m.id := by
  have hx := getElem?_ids_of_module hm
  rw [List.any_eq_true]
  constructor
  · rintro ⟨j, hj, hreach⟩
    obtain ⟨n, hn, hroot⟩ := (mem_rootsOf_shape components g r j).mp hj
    exact ⟨j, n, hn, (isRoot_iff r _).mp hroot,
      (hg.isSome_search_iff (getElem?_ids_of_module hn) hx).mp hreach⟩
  · rintro ⟨j, n, hn, hroot, hreach⟩
    exact ⟨j, (mem_rootsOf_shape components g r j).mpr ⟨n, hn, (isRoot_iff r _).mpr hroot⟩,
      (hg.isSome_search_iff (getElem?_ids_of_module hn) hx).mpr hreach⟩

/-! ## The answer -/

section

variable {components : Topology → List (List Nat)} {g : Graph} {s : RuleSet}
  (hs : (s.reachabilityRules.map (·.name)).Nodup) {r : Rule} (hr : r ∈ s.reachabilityRules) (hg : g.Indexed)
  {i : Nat} {m : Module} (hm : g.modules[i]? = some m)
include hs hr hg hm

/-- A rule on what can be reached speaks of its roots alone.  Being reachable adds nothing to reaching
something: only roots have a note on it, and it says whether they reach something. -/
theorem matchesModule_of_wanted (hw : r.to.reachable = some true) :
    r.matchesModule (analyzed components g s i m) ↔
      r.LooksOutFrom (analyzed components g s i m) ∧ r.ReachesTarget g m := by
  have hroot := isRoot_iff r (shaped (components g.topology) g i m)
  have hfound := reached_isEmpty_iff hg r hm
  rw [Rule.matchesModule, Rule.matchesOrphan_of_reachable hw, Bool.false_or, Rule.matchesReachable,
    Rule.matchesReaches, hw, reachableFor_analyzed hs hr, reachesFor_analyzed hs hr, reachableNotes,
    reachesNotes]
  show _ ↔ r.LooksOutFrom (shaped (components g.topology) g i m) ∧ _
  rw [← hroot, ← hfound]
  by_cases hlook : isRoot r (shaped (components g.topology) g i m)
  · cases hempty : (reached g.sources r (searchFrom g.topology.searches i) i).isEmpty with
    | true => simp [hlook]
    | false =>
      obtain ⟨e, he⟩ := List.isEmpty_eq_false_iff_exists_mem.mp hempty
      have hany : (reached g.sources r (searchFrom g.topology.searches i) i).any
          (fun t => r.to.paths.admits t.source) = true :=
        List.any_eq_true.mpr ⟨e, he, admits_of_mem_reached he⟩
      simp [hlook, hany]
  · simp [hlook, hw]

/-- A rule on what cannot be reached speaks of the modules that its target side admits. -/
theorem matchesModule_of_unwanted (hw : r.to.reachable = some false) :
    r.matchesModule (analyzed components g s i m) ↔
      r.to.paths.admits m.source ∧
        ((r.LooksOutFrom (analyzed components g s i m) ∧ ¬ r.ReachesTarget g m) ∨
          (¬ r.LooksOutFrom (analyzed components g s i m) ∧
            ∀ j n, g.modules[j]? = some n → r.LooksOutFrom (analyzed components g s j n) →
              ¬ g.Reaches n.id m.id)) := by
  have hroot := isRoot_iff r (shaped (components g.topology) g i m)
  have hfound := reached_isEmpty_iff hg r hm
  have hroots := any_rootsOf_iff components hg r hm
  have hreaches : r.matchesReaches (analyzed components g s i m) = false := by
    rw [Rule.matchesReaches, hw]
    rfl
  have hnone : (∀ j n, g.modules[j]? = some n → r.LooksOutFrom (analyzed components g s j n) →
      ¬ g.Reaches n.id m.id) ↔
        (((g.shape components).rootsOf r).any fun j => ((searchFrom g.topology.searches j).of i).isSome) =
          false := by
    rw [← Bool.not_eq_true, hroots]
    constructor
    · rintro h ⟨j, n, hn, hlook, hreach⟩
      exact h j n hn hlook hreach
    · intro h j n hn hlook hreach
      exact h ⟨j, n, hn, hlook, hreach⟩
  rw [Rule.matchesModule, Rule.matchesOrphan_of_reachable hw, hreaches, Bool.false_or, Bool.or_false,
    Rule.matchesReachable, hw, reachableFor_analyzed hs hr, reachableNotes, hw, hnone]
  show _ ↔ _ ∧ ((r.LooksOutFrom (shaped (components g.topology) g i m) ∧ _) ∨
    (¬ r.LooksOutFrom (shaped (components g.topology) g i m) ∧ _))
  rw [← hroot, ← hfound]
  have hadm : (analyzed components g s i m).source = m.source := rfl
  have hadm' : (shaped (components g.topology) g i m).source = m.source := rfl
  rw [hadm, hadm']
  by_cases hlook : isRoot r (shaped (components g.topology) g i m)
  · simp [hlook, and_comm]
  · by_cases hto : r.to.paths.admits m.source
    · simp [hlook, hto]
    · simp [hlook, hto]

end

theorem reachesTarget_analyzeWith (components : Topology → List (List Nat)) (g : Graph) (s : RuleSet) (r : Rule)
    (i : Nat) (m : Module) :
    r.ReachesTarget (g.analyzeWith components s) (analyzed components g s i m) ↔ r.ReachesTarget g m := by
  rw [Rule.ReachesTarget, reaches_analyzeWith]
  constructor
  · rintro ⟨t', ht', hadm, hreach⟩
    obtain ⟨k, t, ht, rfl⟩ := (mem_analyzeWith components g s t').mp ht'
    exact ⟨t, List.mem_of_getElem? ht, hadm, hreach⟩
  · rintro ⟨t, ht, hadm, hreach⟩
    obtain ⟨k, hk⟩ := List.mem_iff_getElem?.mp ht
    exact ⟨analyzed components g s k t, (mem_analyzeWith components g s _).mpr ⟨k, t, hk, rfl⟩, hadm, hreach⟩

/-- What a rule asks for, at a position of the graph that came in. -/
theorem matchesModule_analyzed_iff (components : Topology → List (List Nat)) {g : Graph} (hg : g.Indexed)
    {s : RuleSet} (hs : (s.reachabilityRules.map (·.name)).Nodup) {r : Rule} (hr : r ∈ s.reachabilityRules)
    {wanted : Bool} (hw : r.to.reachable = some wanted) {i : Nat} {m : Module} (hm : g.modules[i]? = some m) :
    r.matchesModule (analyzed components g s i m) = true ↔
      r.AsksFor (g.analyzeWith components s) wanted (analyzed components g s i m) := by
  cases wanted with
  | true =>
    rw [matchesModule_of_wanted hs hr hg hm hw, Rule.AsksFor, reachesTarget_analyzeWith]
  | false =>
    rw [matchesModule_of_unwanted hs hr hg hm hw, Rule.AsksFor, reachesTarget_analyzeWith,
      reaches_analyzeWith]
    refine and_congr_right fun _ => or_congr_right (and_congr_right fun _ => ?_)
    constructor
    · intro h n' hn'
      obtain ⟨j, n, hn, rfl⟩ := (mem_analyzeWith components g s n').mp hn'
      exact h j n hn
    · intro h j n hn
      exact h _ ((mem_analyzeWith components g s _).mpr ⟨j, n, hn, rfl⟩)

/-- The other rules of two sets do not matter. -/
theorem matchesModule_analyzed_congr (components : Topology → List (List Nat)) {g : Graph} (hg : g.Indexed)
    {s s' : RuleSet} (hs : (s.reachabilityRules.map (·.name)).Nodup)
    (hs' : (s'.reachabilityRules.map (·.name)).Nodup) {r : Rule} (hr : r ∈ s.reachabilityRules)
    (hr' : r ∈ s'.reachabilityRules) {wanted : Bool} (hw : r.to.reachable = some wanted) {i : Nat}
    {m : Module} (hm : g.modules[i]? = some m) :
    r.matchesModule (analyzed components g s' i m) = r.matchesModule (analyzed components g s i m) := by
  have hlook : ∀ j n, r.LooksOutFrom (analyzed components g s' j n) ↔
      r.LooksOutFrom (analyzed components g s j n) := fun j n => Iff.rfl
  rw [Bool.eq_iff_iff]
  cases wanted with
  | true => rw [matchesModule_of_wanted hs' hr' hg hm hw, matchesModule_of_wanted hs hr hg hm hw, hlook]
  | false =>
    rw [matchesModule_of_unwanted hs' hr' hg hm hw, matchesModule_of_unwanted hs hr hg hm hw]
    simp only [hlook]

/-- **An accepted rule on reachability applies to exactly the modules that it asks for**, whatever else the
rule set holds.  Paths, orphans and edges are those of the analyzed graph, in which only what analysis
derives differs from the graph that came in. -/
theorem matchesModule_analyzeWith_iff (components : Topology → List (List Nat)) {spec : RuleSetSpec}
    {s : RuleSet} (hs : RuleSet.ofSpec? spec = .ok s) {r : Rule} (hr : r ∈ s.forbidden ∨ r ∈ s.allowed)
    {wanted : Bool} (hw : r.to.reachable = some wanted) {g : Graph} (hg : g.Indexed) :
    (g.analyzeWith components s).modules.map Module.clearDerived = g.modules.map Module.clearDerived ∧
    (∀ m ∈ (g.analyzeWith components s).modules,
      r.matchesModule m = true ↔ r.AsksFor (g.analyzeWith components s) wanted m) ∧
    ∀ spec' s', RuleSet.ofSpec? spec' = .ok s' → (r ∈ s'.forbidden ∨ r ∈ s'.allowed) →
      (g.analyzeWith components s').modules.map r.matchesModule =
        (g.analyzeWith components s).modules.map r.matchesModule := by
  have hnd := RuleSet.nodup_names_of_ofSpec? hs
  have hmem := RuleSet.mem_reachabilityRules hr hw
  refine ⟨clearDerived_analyzeWith components g s, fun m' hm' => ?_, fun spec' s' hs' hr' => ?_⟩
  · obtain ⟨i, m, hm, rfl⟩ := (mem_analyzeWith components g s m').mp hm'
    exact matchesModule_analyzed_iff components hg hnd hmem hw hm
  · have hnd' := RuleSet.nodup_names_of_ofSpec? hs'
    have hmem' := RuleSet.mem_reachabilityRules hr' hw
    rw [analyzeWith_eq, analyzeWith_eq]
    apply List.ext_getElem?
    intro i
    rw [List.getElem?_map, List.getElem?_map, List.getElem?_mapIdx, List.getElem?_mapIdx, Option.map_map,
      Option.map_map]
    cases hm : g.modules[i]? with
    | none => rfl
    | some m =>
      show some (r.matchesModule (analyzed components g s' i m)) =
        some (r.matchesModule (analyzed components g s i m))
      rw [matchesModule_analyzed_congr components hg hnd hnd' hmem hmem' hw hm]

/-- A rule on what the modules in `a` cannot reach, and one on what leads to the modules in `l`. -/
def deadAndUsed : RuleSetSpec where
  forbidden := [{ name := "dead", «from» := { path := some (.one "^a") }, «to» := { reachable := some false } }]
  allowed := [{ name := "used", «from» := { orphan := some false },
                «to» := { path := some (.any ["^l", "^m"]), reachable := some true } }]

/-- Under these rules, with a cycle through a root, an id without a module and an orphan. -/
theorem matchesModule_of_dead_and_used :
    let g := ofTargets [("app", ["lib"]), ("lib", ["app", "gone"]), ("old", ["lib"]), ("solo", [])]
    ∃ s, RuleSet.ofSpec? deadAndUsed = .ok s ∧ ∃ r ∈ s.forbidden, r.to.reachable = some false ∧
      (g.analyze s).modules.map r.matchesModule = [false, false, true, true] ∧
      (g.analyze s).modules.map Module.clearDerived = g.modules.map Module.clearDerived ∧
      (∀ m ∈ (g.analyze s).modules, r.matchesModule m = true ↔ r.AsksFor (g.analyze s) false m) ∧
      ∀ spec' s', RuleSet.ofSpec? spec' = .ok s' → (r ∈ s'.forbidden ∨ r ∈ s'.allowed) →
        (g.analyze s').modules.map r.matchesModule = (g.analyze s).modules.map r.matchesModule := by
  refine ⟨_, rfl, _, List.mem_cons_self .., rfl, by decide +kernel, ?_⟩
  have hs : RuleSet.ofSpec? deadAndUsed = .ok _ := rfl
  exact matchesModule_analyzeWith_iff Topology.components hs (Or.inl (List.mem_cons_self ..)) rfl
    (ofTargets_indexed (by decide))

end Graph

end ImportSurvey
