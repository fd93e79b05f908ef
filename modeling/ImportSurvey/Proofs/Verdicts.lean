import Mathlib.Data.List.Perm.Basic
import Mathlib.Data.List.Forall2
import ImportSurvey.Proofs.Accepted
import ImportSurvey.Rules.Validate
import ImportSurvey.Graph.Build

/-
  The verdicts of an accepted rule set: what they list, in which order, and where they end up.

  Two things have to come together.  The first is the order.  `Verdict.arranged` is the only stable arrangement
  by severity, written as the groups of equally grave violations one after the other, and the sort that verdicts
  are made with is this arrangement (`Verdict.mergeSort_eq_arranged`): it keeps every group as it was found, and
  a list in which the ranks ascend is the concatenation of its groups.

  The second is the scope.  A rule carries a mark that says what it is applied to; reading a rule file sets
  it once and for all by whether the rule speaks of orphans or of reachability
  (`Rule.isModuleOnly_of_ofSpec?`).  So the marks split a rule set into two, each half judges its own kind
  and has nothing to say about the other (`splits_of_ofSpec?`).
-/
namespace ImportSurvey

namespace Verdict

/-! ## Arrangements by severity -/

/-- The violations of each of some severities, one severity after the other. -/
def groups (severities : List Severity) (found : List RuleViolation) : List RuleViolation :=
  severities.flatMap fun severity => found.filter (·.severity = severity)

/-- The gravest first, equally grave ones in the order in which they were found. -/
def arranged (found : List RuleViolation) : List RuleViolation :=
  groups [.error, .warn, .info, .ignore] found

theorem groups_append (before after : List Severity) (found : List RuleViolation) :
    groups (before ++ after) found = groups before found ++ groups after found := List.flatMap_append

theorem mem_groups {severities : List Severity} {found : List RuleViolation} {v : RuleViolation} :
    v ∈ groups severities found ↔ v.severity ∈ severities ∧ v ∈ found := by
  rw [groups, List.mem_flatMap]
  constructor
  · rintro ⟨severity, hs, hv⟩
    obtain ⟨hv, heq⟩ := List.mem_filter.mp hv
    exact ⟨of_decide_eq_true heq ▸ hs, hv⟩
  · rintro ⟨hs, hv⟩
    exact ⟨v.severity, hs, List.mem_filter.mpr ⟨hv, decide_eq_true rfl⟩⟩

/-- A violation belongs to the group of its severity only. -/
theorem groups_cons_of_not_mem {severities : List Severity} {v : RuleViolation} (hv : v.severity ∉ severities)
    (found : List RuleViolation) : groups severities (v :: found) = groups severities found := by
  rw [groups, groups, List.flatMap_def, List.flatMap_def]
  congr 1
  apply List.map_congr_left
  intro severity hs
  have hne : v.severity ≠ severity := fun heq => hv (heq ▸ hs)
  rw [List.filter_cons_of_neg (by simpa using hne)]

/-- The severities that are graver than one, that one, and those that are less grave. -/
theorem split_severities (severity : Severity) : ∃ before after,
    [Severity.error, .warn, .info, .ignore] = before ++ severity :: after ∧
      (∀ graver ∈ before, graver.rank < severity.rank) ∧ severity ∉ after := by
  cases severity with
  | error => exact ⟨[], [.warn, .info, .ignore], rfl, by decide, by decide⟩
  | warn => exact ⟨[.error], [.info, .ignore], rfl, by decide, by decide⟩
  | info => exact ⟨[.error, .warn], [.ignore], rfl, by decide, by decide⟩
  | ignore => exact ⟨[.error, .warn, .info], [], rfl, by decide, by decide⟩

/-- What is found first stands, in the end, behind what is strictly graver and before all else. -/
theorem arranged_cons (v : RuleViolation) (found : List RuleViolation) :
    ∃ graver rest, arranged (v :: found) = graver ++ v :: rest ∧ graver ++ rest = arranged found ∧
      ∀ b ∈ graver, b.severity.rank < v.severity.rank := by
  obtain ⟨before, after, hsplit, hbefore, hafter⟩ := split_severities v.severity
  have hnot : v.severity ∉ before := fun hmem => Nat.lt_irrefl _ (hbefore _ hmem)
  have hcons : ∀ found, groups (v.severity :: after) found =
      found.filter (·.severity = v.severity) ++ groups after found := fun found => List.flatMap_cons
  refine ⟨groups before found, found.filter (·.severity = v.severity) ++ groups after found, ?_, ?_, ?_⟩
  · have hown : (v :: found).filter (·.severity = v.severity) =
        v :: found.filter (·.severity = v.severity) := List.filter_cons_of_pos (decide_eq_true rfl)
    rw [arranged, hsplit, groups_append, groups_cons_of_not_mem hnot, hcons, hown,
      groups_cons_of_not_mem hafter, List.cons_append]
  · rw [arranged, hsplit, groups_append, hcons]
  · exact fun b hb => hbefore _ (mem_groups.mp hb).1

/-- A list in which the ranks ascend is arranged. -/
theorem arranged_of_pairwise {l : List RuleViolation}
    (hl : l.Pairwise fun a b => a.severity.rank ≤ b.severity.rank) : arranged l = l := by
  induction l with
  | nil => rfl
  | cons v l ih =>
    rw [List.pairwise_cons] at hl
    obtain ⟨graver, rest, heq, hrest, hgraver⟩ := arranged_cons v l
    rw [ih hl.2] at hrest
    -- nothing in the list is graver than its head
    have hnil : graver = [] := by
      rw [List.eq_nil_iff_forall_not_mem]
      intro b hb
      have hle := hl.1 b (hrest ▸ List.mem_append_left rest hb)
      have hlt := hgraver b hb
      omega
    subst hnil
    rw [List.nil_append] at heq hrest
    rw [heq, hrest]

theorem noGraver_trans (a b c : RuleViolation) (hab : decide (a.severity.rank ≤ b.severity.rank) = true)
    (hbc : decide (b.severity.rank ≤ c.severity.rank) = true) :
    decide (a.severity.rank ≤ c.severity.rank) = true :=
  decide_eq_true (Nat.le_trans (of_decide_eq_true hab) (of_decide_eq_true hbc))

theorem noGraver_total (a b : RuleViolation) :
    (decide (a.severity.rank ≤ b.severity.rank) || decide (b.severity.rank ≤ a.severity.rank)) = true := by
  rw [Bool.or_eq_true, decide_eq_true_eq, decide_eq_true_eq]
  exact Nat.le_total ..

/-- The sort keeps every group as it was found. -/
theorem filter_mergeSort (found : List RuleViolation) (severity : Severity) :
    (found.mergeSort fun a b => a.severity.rank ≤ b.severity.rank).filter (·.severity = severity) =
      found.filter (·.severity = severity) := by
  have hperm := (List.mergeSort_perm found fun a b => a.severity.rank ≤ b.severity.rank).filter
    (·.severity = severity)
  have hequal : (found.filter (·.severity = severity)).Pairwise fun a b =>
      decide (a.severity.rank ≤ b.severity.rank) = true := by
    rw [List.pairwise_iff_forall_sublist]
    intro a b hab
    have ha := List.mem_filter.mp (hab.subset (List.mem_cons_self ..))
    have hb := List.mem_filter.mp (hab.subset (List.mem_cons_of_mem _ (List.mem_cons_self ..)))
    rw [of_decide_eq_true ha.2, of_decide_eq_true hb.2]
    exact decide_eq_true (Nat.le_refl _)
  -- a sublist whose ranks ascend is a sublist of the sorted list too
  have hsub := (List.sublist_mergeSort noGraver_trans noGraver_total hequal List.filter_sublist).filter
    (·.severity = severity)
  rw [List.filter_filter] at hsub
  simp only [Bool.and_self] at hsub
  exact (hsub.eq_of_length hperm.length_eq.symm).symm

/-- **Verdicts are sorted by the only stable arrangement there is.** -/
theorem mergeSort_eq_arranged (found : List RuleViolation) :
    (found.mergeSort fun a b => a.severity.rank ≤ b.severity.rank) = arranged found := by
  have hsorted : (found.mergeSort fun a b => a.severity.rank ≤ b.severity.rank).Pairwise
      fun a b => a.severity.rank ≤ b.severity.rank :=
    (List.pairwise_mergeSort noGraver_trans noGraver_total found).imp fun hab => of_decide_eq_true hab
  rw [← arranged_of_pairwise hsorted, arranged, arranged, groups, groups]
  simp only [filter_mergeSort]

theorem ofViolations_nil : ofViolations [] = clean := by
  rw [ofViolations, List.mergeSort_nil]
  rfl

end Verdict

/-! ## What a rule speaks of -/

/-- The rule speaks of whole modules: of orphans, or of what is reachable. -/
def Rule.onModules (r : Rule) : Bool := r.from.orphan.isSome || r.to.reachable.isSome

/-- The rule speaks of single edges. -/
def Rule.onEdges (r : Rule) : Bool := !r.onModules

/-- **A rule that was accepted is marked by what it speaks of.** -/
theorem Rule.isModuleOnly_of_ofSpec? {spec : RuleSpec} {r : Rule} (h : ofSpec? spec = .ok r) :
    r.isModuleOnly = r.onModules := by
  rw [ofSpec?] at h
  have hpassed := of_check_eq_ok (of_check_eq_ok h)
  obtain ⟨fromPaths, -, h⟩ := exists_of_bind_eq_ok hpassed
  obtain ⟨toPaths, -, h⟩ := exists_of_bind_eq_ok h
  obtain rfl := Except.ok.inj h
  rw [isModuleOnly, onModules]
  cases spec.from.orphan.isSome || spec.to.reachable.isSome <;> rfl

namespace RuleSet

/-- **The marks of an accepted rule set.** -/
theorem isModuleOnly_of_mem {spec : RuleSetSpec} {s : RuleSet} (hs : ofSpec? spec = .ok s) {r : Rule}
    (hr : r ∈ s.forbidden ∨ r ∈ s.allowed) : r.isModuleOnly = r.onModules := by
  obtain ⟨hforbidden, hallowed, -⟩ := ofSpec?_eq_ok hs
  rcases hr with hr | hr
  · obtain ⟨_, -, h⟩ := exists_of_mem_mapM hforbidden hr
    exact Rule.isModuleOnly_of_ofSpec? h
  · obtain ⟨_, -, h⟩ := exists_of_mem_mapM hallowed hr
    exact Rule.isModuleOnly_of_ofSpec? h

/-! ## What a verdict says -/

/-- Something is allowed of this kind, but not this. -/
def Outside (s : RuleSet) (concerns applies : Rule → Bool) : Prop :=
  (∃ r ∈ s.allowed, concerns r) ∧ ∀ r ∈ s.allowed, concerns r → ¬ applies r

instance (s : RuleSet) (concerns applies : Rule → Bool) : Decidable (s.Outside concerns applies) :=
  inferInstanceAs (Decidable (_ ∧ _))

/-- The violations of the forbidding rules that apply, in the order in which these are declared. -/
def forbiddenHits (s : RuleSet) (concerns applies : Rule → Bool) : List RuleViolation :=
  (s.forbidden.filter fun r => concerns r && applies r).map fun r => ⟨r.name, r.severity⟩

/-- All that is found: first, perhaps, that nothing allowed applies. -/
def found (s : RuleSet) (concerns applies : Rule → Bool) : List RuleViolation :=
  (if s.Outside concerns applies then [⟨notInAllowed, s.allowedSeverity⟩] else []) ++
    s.forbiddenHits concerns applies

/-- The verdict by the rules that concern something. -/
structure Judges (s : RuleSet) (concerns applies : Rule → Bool) (v : Verdict) : Prop where
  rules : v.rules = Verdict.arranged (s.found concerns applies)
  valid : v.valid = true ↔ s.found concerns applies = []
  /-- that nothing allowed applies is told before every forbidding rule that is no graver -/
  first : s.Outside concerns applies → ∃ graver rest,
    v.rules = graver ++ ⟨notInAllowed, s.allowedSeverity⟩ :: rest ∧
      graver ++ rest = Verdict.arranged (s.forbiddenHits concerns applies) ∧
      ∀ b ∈ graver, b.severity.rank < s.allowedSeverity.rank

/-- The violations are what is to be found, for the marks say what the rules speak of. -/
theorem violations_eq_found {s : RuleSet} {inScope concerns : Rule → Bool}
    (hscope : ∀ r, r ∈ s.forbidden ∨ r ∈ s.allowed → inScope r = concerns r) (applies : Rule → Bool) :
    s.violations inScope applies = s.found concerns applies := by
  have hhits : (s.forbidden.filter fun r => inScope r && applies r) =
      s.forbidden.filter fun r => concerns r && applies r :=
    List.filter_congr fun r hr => by rw [hscope r (Or.inl hr)]
  have hallowed : s.allowed.filter inScope = s.allowed.filter concerns :=
    List.filter_congr fun r hr => hscope r (Or.inr hr)
  have houtside : (!(s.allowed.filter inScope).isEmpty && !(s.allowed.filter inScope).any applies) = true ↔
      s.Outside concerns applies := by
    rw [hallowed, Bool.and_eq_true, Bool.not_eq_true', Bool.not_eq_true', Outside,
      List.isEmpty_eq_false_iff_exists_mem, List.any_eq_false]
    simp only [List.mem_filter, and_imp]
  rw [violations, found, forbiddenHits, hhits]
  congr 1
  exact if_congr houtside rfl rfl

theorem judges_ofViolations (s : RuleSet) (concerns applies : Rule → Bool) :
    s.Judges concerns applies (.ofViolations (s.found concerns applies)) where
  rules := Verdict.mergeSort_eq_arranged _
  valid := List.isEmpty_iff
  first := by
    intro houtside
    obtain ⟨graver, rest, heq, hrest, hgraver⟩ :=
      Verdict.arranged_cons ⟨notInAllowed, s.allowedSeverity⟩ (s.forbiddenHits concerns applies)
    have hrules := Verdict.mergeSort_eq_arranged (s.found concerns applies)
    rw [found, if_pos houtside, List.singleton_append, heq] at hrules
    refine ⟨graver, rest, ?_, hrest, hgraver⟩
    rw [found, if_pos houtside, List.singleton_append]
    exact hrules

/-! ## Each rule judges one kind -/

/-- The rules of one kind. -/
def part (s : RuleSet) (concerns : Rule → Bool) : RuleSet :=
  { s with forbidden := s.forbidden.filter concerns, allowed := s.allowed.filter concerns }

/-- A part finds what the whole finds by the rules of this part. -/
theorem violations_part (s : RuleSet) (concerns inScope applies : Rule → Bool) :
    (s.part concerns).violations inScope applies =
      s.violations (fun r => inScope r && concerns r) applies := by
  have hallowed : (s.part concerns).allowed.filter inScope =
      s.allowed.filter fun r => inScope r && concerns r := List.filter_filter ..
  have hforbidden : (s.part concerns).forbidden.filter (fun r => inScope r && applies r) =
      s.forbidden.filter fun r => (inScope r && concerns r) && applies r := by
    show (s.forbidden.filter concerns).filter _ = _
    rw [List.filter_filter]
    exact List.filter_congr fun r _ => Bool.and_right_comm ..
  rw [violations, violations, hallowed, hforbidden]
  rfl

/-- Without a rule in scope nothing is found. -/
theorem violations_of_none (s : RuleSet) (applies : Rule → Bool) :
    s.violations (fun _ => false) applies = [] := by
  rw [violations, List.filter_eq_nil_iff.mpr fun _ _ => Bool.false_ne_true]
  simp

/-- Two rule sets share the rules of one, each rule as often as it is declared: the first judges modules and
has nothing to say about edges, the second the other way round. -/
structure Splits (s modules edges : RuleSet) : Prop where
  forbidden : (modules.forbidden ++ edges.forbidden).Perm s.forbidden
  allowed : (modules.allowed ++ edges.allowed).Perm s.allowed
  judgeModule : ∀ m, s.judgeModule true m = modules.judgeModule true m ∧ edges.judgeModule true m = .clean
  judgeDependency : ∀ m d, s.judgeDependency true m d = edges.judgeDependency true m d ∧
    modules.judgeDependency true m d = .clean

theorem splits_part (s : RuleSet) :
    s.Splits (s.part Rule.isModuleOnly) (s.part fun r => !r.isModuleOnly) where
  forbidden := List.filter_append_perm ..
  allowed := List.filter_append_perm ..
  judgeModule := by
    intro m
    have hsame : (fun r : Rule => r.isModuleOnly && r.isModuleOnly) = Rule.isModuleOnly :=
      funext fun r => Bool.and_self _
    have hother : (fun r : Rule => r.isModuleOnly && !r.isModuleOnly) = fun _ => false :=
      funext fun r => Bool.and_not_self _
    show Verdict.ofViolations _ = Verdict.ofViolations _ ∧ Verdict.ofViolations _ = .clean
    rw [violations_part, violations_part, hsame, hother, violations_of_none]
    exact ⟨rfl, Verdict.ofViolations_nil⟩
  judgeDependency := by
    intro m d
    have hsame : (fun r : Rule => !r.isModuleOnly && !r.isModuleOnly) = fun r => !r.isModuleOnly :=
      funext fun r => Bool.and_self _
    have hother : (fun r : Rule => !r.isModuleOnly && r.isModuleOnly) = fun _ => false :=
      funext fun r => Bool.not_and_self _
    show Verdict.ofViolations _ = Verdict.ofViolations _ ∧ Verdict.ofViolations _ = .clean
    rw [violations_part, violations_part, hsame, hother, violations_of_none]
    exact ⟨rfl, Verdict.ofViolations_nil⟩

/-- **An accepted rule set falls into the rules that speak of modules and those that speak of edges.** -/
theorem splits_of_ofSpec? {spec : RuleSetSpec} {s : RuleSet} (hs : ofSpec? spec = .ok s) :
    s.Splits (s.part Rule.onModules) (s.part Rule.onEdges) := by
  have hmodules : s.part Rule.isModuleOnly = s.part Rule.onModules := by
    rw [part, part, List.filter_congr fun r hr => isModuleOnly_of_mem hs (Or.inl hr),
      List.filter_congr fun r hr => isModuleOnly_of_mem hs (Or.inr hr)]
  have hedges : (s.part fun r => !r.isModuleOnly) = s.part Rule.onEdges := by
    rw [part, part,
      List.filter_congr fun r hr => congrArg (!·) (isModuleOnly_of_mem hs (Or.inl hr)),
      List.filter_congr fun r hr => congrArg (!·) (isModuleOnly_of_mem hs (Or.inr hr))]
    rfl
  rw [← hmodules, ← hedges]
  exact splits_part s

/-! ## Verdicts on a graph -/

/-- The module carries the verdict on `m`, and its edges those on the edges of `m`, one for one. -/
def Judged (s : RuleSet) (validate : Bool) (m m' : Module) : Prop :=
  (⟨m'.valid, m'.rules⟩ : Verdict) = s.judgeModule validate m ∧
    List.Forall₂ (fun d d' => (⟨d'.valid, d'.rules⟩ : Verdict) = s.judgeDependency validate m d)
      m.dependencies m'.dependencies

theorem judged_judge (s : RuleSet) (validate : Bool) (m : Module) :
    s.Judged validate m (s.judge validate m) := by
  refine ⟨rfl, ?_⟩
  show List.Forall₂ _ m.dependencies (m.dependencies.map _)
  rw [List.forall₂_map_right_iff, List.forall₂_same]
  exact fun d _ => rfl

/-- **The verdicts of an accepted rule set are sound, complete and in order.**  A module is judged by the
rules that speak of modules and an edge by those that speak of edges, so that every rule takes part in
exactly one of the two; and a graph that was validated carries each verdict where it belongs. -/
theorem judges_of_accepted {spec : RuleSetSpec} {s : RuleSet} (hs : ofSpec? spec = .ok s) :
    (∀ m, s.Judges Rule.onModules (·.matchesModule m) (s.judgeModule true m)) ∧
    (∀ m, ∀ d ∈ m.dependencies,
      s.Judges Rule.onEdges (·.matchesDependency m d) (s.judgeDependency true m d)) ∧
    s.Splits (s.part Rule.onModules) (s.part Rule.onEdges) ∧
    ∀ (g : Graph) (validate : Bool),
      List.Forall₂ (s.Judged validate) g.modules (g.validate s validate).modules := by
  refine ⟨fun m => ?_, fun m d _ => ?_, splits_of_ofSpec? hs, fun g validate => ?_⟩
  · have hfound := violations_eq_found (fun r hr => isModuleOnly_of_mem hs hr) (·.matchesModule m)
    show s.Judges _ _ (.ofViolations (s.violations Rule.isModuleOnly (·.matchesModule m)))
    rw [hfound]
    exact judges_ofViolations ..
  · have hscope : ∀ r, r ∈ s.forbidden ∨ r ∈ s.allowed → (!r.isModuleOnly) = r.onEdges :=
      fun r hr => congrArg (!·) (isModuleOnly_of_mem hs hr)
    have hfound := violations_eq_found hscope (·.matchesDependency m d)
    show s.Judges _ _ (.ofViolations (s.violations (fun r => !r.isModuleOnly) (·.matchesDependency m d)))
    rw [hfound]
    exact judges_ofViolations ..
  · show List.Forall₂ _ g.modules (g.modules.map (s.judge validate))
    rw [List.forall₂_map_right_iff, List.forall₂_same]
    exact fun m _ => judged_judge s validate m

/-- Rules of both kinds, forbidden and allowed, two of one name and two equally grave. -/
def ofBothKinds : RuleSetSpec where
  forbidden := [
    { name := "lonely", «from» := { orphan := some true }, «to» := { path := some (.one "^a") } },
    { name := "late", severity := .error, «to» := { dynamic := some true } },
    { name := "lonely", severity := .error, «from» := { orphan := some true } },
    { name := "lost", «to» := { couldNotResolve := some true } }]
  allowed := [{ «from» := { orphan := some false } }, { «to» := { coreModule := some true } }]

/-- Under these rules, for an orphan that refers to something that cannot be resolved. -/
theorem judges_of_both_kinds :
    let m := { Module.ofFollowed "a" with
      orphan := true
      dependencies := [.ofReference "a" (.plain "b" .es6) .unresolved] }
    ∃ s, ofSpec? ofBothKinds = .ok s ∧
      (s.judgeModule true m).rules =
        [⟨"lonely", .error⟩, ⟨"not-in-allowed", .warn⟩, ⟨"lonely", .warn⟩] ∧
      (m.dependencies.map fun d => (s.judgeDependency true m d).rules) =
        [[⟨"not-in-allowed", .warn⟩, ⟨"lost", .warn⟩]] ∧
      (∀ m, s.Judges Rule.onModules (·.matchesModule m) (s.judgeModule true m)) ∧
      (∀ m, ∀ d ∈ m.dependencies,
        s.Judges Rule.onEdges (·.matchesDependency m d) (s.judgeDependency true m d)) ∧
      s.Splits (s.part Rule.onModules) (s.part Rule.onEdges) ∧
      ∀ (g : Graph) (validate : Bool),
        List.Forall₂ (s.Judged validate) g.modules (g.validate s validate).modules := by
  intro m
  have hs : ofSpec? ofBothKinds = .ok _ := rfl
  obtain ⟨hmodule, hedge, hrest⟩ := judges_of_accepted hs
  refine ⟨_, hs, ?_, ?_, hmodule, hedge, hrest⟩
  · rw [(hmodule m).rules]
    decide
  · rw [List.map_congr_left fun d hd => (hedge m d hd).rules]
    decide

end RuleSet

end ImportSurvey
