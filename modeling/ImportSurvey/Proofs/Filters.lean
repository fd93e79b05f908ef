import ImportSurvey.Proofs.Resilience

/-
  What the two filters of the settings promise of a result.

  The filters are applied in different places and to different texts: to the ids of the files that were found, to
  the text of every edge, and through the edges to the leaves.  What comes of it is told by three statements
  (`Survey.filters_hold`).

  1. **With a filter on what is included**, everything passes it: the ids of files since they were taken, those of
     leaves since an edge leads to them, and the texts of edges since nothing else becomes an edge.

  2. **With a filter on what is not followed**, whatever it finds is a leaf.  A leaf has no edges of its own and is
     there for some edge, so this edge is another module's.

  3. **Without the second filter**, all that was followed is followed still, with the same edges but for what
     analysis and validation write into them.  The two surveys read different files, and the crux is that the files
     of the one are those of the other that its filter takes (`mem_gathered_filter`): a file that takes the place of
     an earlier one has its id, so the filter takes both or neither.
-/
namespace ImportSurvey

/-! ## What analysis and validation leave alone -/

/-- The edge but for what analysis and validation write. -/
def Dependency.SameButFindings (e e' : Dependency) : Prop :=
  ∃ circular valid rules, e' = { e with circular, valid, rules }

/-- The module but for what analysis and validation write. -/
structure Module.SameButFindings (m m' : Module) : Prop where
  id_eq : m'.id = m.id
  followed_eq : m'.followed = m.followed
  dependencies : List.Forall₂ Dependency.SameButFindings m.dependencies m'.dependencies

theorem Dependency.SameButFindings.symm {e e' : Dependency} (h : e.SameButFindings e') : e'.SameButFindings e := by
  obtain ⟨circular, valid, rules, rfl⟩ := h
  exact ⟨e.circular, e.valid, e.rules, rfl⟩

theorem Dependency.SameButFindings.trans {e e' e'' : Dependency} (h : e.SameButFindings e')
    (h' : e'.SameButFindings e'') : e.SameButFindings e'' := by
  obtain ⟨_, _, _, rfl⟩ := h
  obtain ⟨circular, valid, rules, rfl⟩ := h'
  exact ⟨circular, valid, rules, rfl⟩

section

variable {α β γ : Type} {R : α → β → Prop} {S : β → γ → Prop} {T : α → γ → Prop}

/-- Two lists that match a third one, one by one. -/
theorem forall₂_comp (hcomp : ∀ a b c, R a b → S b c → T a c) {l : List α} {m : List β} {n : List γ}
    (h : List.Forall₂ R l m) (h' : List.Forall₂ S m n) : List.Forall₂ T l n := by
  induction h generalizing n with
  | nil =>
    cases h'
    exact .nil
  | cons hab _ ih =>
    cases h' with
    | cons hbc hrest => exact .cons (hcomp _ _ _ hab hbc) (ih hrest)

end

/-- **Analysis and validation write nothing else.** -/
theorem Graph.sameButFindings_analyze_validate (g : Graph) (rules : RuleSet) (validate : Bool) :
    List.Forall₂ Module.SameButFindings g.modules ((g.analyze rules).validate rules validate).modules := by
  have hanalyze := (sameBut_analyzeWith Topology.components g rules).2
  have hvalidate := (sameBut_validate (g.analyze rules) rules validate).2
  refine forall₂_comp ?_ hanalyze hvalidate
  rintro m _ _ ⟨_, _, _, dependencies, rfl, hcircular⟩ ⟨_, _, dependencies', rfl, hverdict⟩
  refine ⟨rfl, rfl, ?_⟩
  refine forall₂_comp ?_ hcircular hverdict
  rintro e _ _ ⟨circular, rfl⟩ ⟨valid, rules, rfl⟩
  exact ⟨circular, valid, rules, rfl⟩

/-! ## Leaves -/

/-- A module of a built graph that was not added is a leaf: it has no edges, and another module has one to it. -/
theorem Graph.leaf_of_build (resolve : Resolver) (includeOnly : Option Regex)
    (files : List (String × List Reference)) {m : Module} (hm : m ∈ (build resolve includeOnly files).modules)
    (hfollowed : m.followed = false) : m.dependencies = [] ∧
      ∃ n ∈ (build resolve includeOnly files).modules, n.id ≠ m.id ∧ ∃ e ∈ n.dependencies, e.to = some m.id := by
  have hb := building_addAll resolve includeOnly files
  have hmem := mem_sortById (addAll resolve includeOnly files)
  have hm := (hmem m).mp hm
  obtain ⟨hbare, n, hn, e, he, hto⟩ := hb.leaf m hm hfollowed
  refine ⟨hbare, n, (hmem n).mpr hn, ?_, e, he, hto⟩
  -- a module of the same id would be the leaf, which has no edge
  intro hid
  have hsame : n = m := List.inj_on_of_nodup_map hb.indexed.nodup hn hm hid
  rw [hsame, hbare] at he
  exact absurd he List.not_mem_nil

namespace Survey

/-! ## Plans -/

section

variable {d : Disk} {s : Settings} {p : Plan}

end

/-! ## Files that a filter takes -/

/-- What came of some files, under their ids. -/
def gathered (space : ModuleSpace) (outcomes : List (Path × FileOutcome)) : List (String × List Reference) :=
  outcomes.foldl (fileOutcome space) []

theorem mem_fileUnder_iff {id : String} {refs : List Reference} {acc : List (String × List Reference)}
    (hacc : (acc.map (·.1)).Pairwise (· < ·)) (e : String × List Reference) :
    e ∈ fileUnder id refs acc ↔ e = (id, refs) ∨ e ∈ acc ∧ e.1 ≠ id := by
  induction acc with
  | nil => simp [fileUnder]
  | cons f acc ih =>
    obtain ⟨k, r⟩ := f
    rw [List.map_cons, List.pairwise_cons] at hacc
    obtain ⟨hbelow, hacc⟩ := hacc
    have hlt : ∀ x ∈ acc, k < x.1 := fun x hx => hbelow x.1 (List.mem_map_of_mem hx)
    rw [fileUnder]
    split
    · -- the entry of the id is replaced, and all that follow have greater ids
      rename_i hk
      subst hk
      rw [List.mem_cons, List.mem_cons]
      constructor
      · rintro (h | h)
        · exact .inl h
        · exact .inr ⟨.inr h, ne_of_gt (hlt e h)⟩
      · rintro (h | ⟨rfl | h, hne⟩)
        · exact .inl h
        · exact absurd rfl hne
        · exact .inr h
    · rename_i hk
      split
      · -- nothing is there under the id, since the ids ascend from here
        rename_i hbefore
        rw [List.mem_cons]
        refine or_congr_right ⟨fun h => ⟨h, ?_⟩, fun h => h.1⟩
        rcases List.mem_cons.mp h with rfl | h
        · exact ne_of_gt hbefore
        · exact ne_of_gt (lt_trans hbefore (hlt e h))
      · rw [List.mem_cons, ih hacc, List.mem_cons]
        constructor
        · rintro (rfl | h | ⟨h, hne⟩)
          · exact .inr ⟨.inl rfl, Ne.symm hk⟩
          · exact .inl h
          · exact .inr ⟨.inr h, hne⟩
        · rintro (h | ⟨rfl | h, hne⟩)
          · exact .inr (.inl h)
          · exact .inl rfl
          · exact .inr (.inr ⟨h, hne⟩)

theorem ascending_gathered (space : ModuleSpace) (outcomes : List (Path × FileOutcome)) :
    ((gathered space outcomes).map (·.1)).Pairwise (· < ·) := by
  induction outcomes using List.reverseRecOn with
  | nil => exact .nil
  | append_singleton outcomes o ih =>
    rw [gathered, List.foldl_append, List.foldl_cons, List.foldl_nil, fileOutcome]
    split
    · exact ascending_fileUnder _ _ ih
    · exact ih

/-- All that a result holds passes the filter. -/
def Limited (r : Regex) (modules : List Module) : Prop :=
  ∀ m ∈ modules, r.search m.id = true ∧ ∀ e ∈ m.dependencies, r.search e.resolved = true

/-- What the filter finds is not followed. -/
structure Spared (r : Regex) (modules : List Module) : Prop where
  followed : ∀ m ∈ modules, m.followed = true → r.search m.id = false
  /-- it is a leaf that another module leads to -/
  leaf : ∀ m ∈ modules, r.search m.id = true → m.followed = false ∧ m.dependencies = [] ∧
    ∃ n ∈ modules, n.id ≠ m.id ∧ ∃ e ∈ n.dependencies, e.to = some m.id

/-- What is followed here is followed there, with the same edges but for what analysis and validation write. -/
def FollowedIn (modules modules' : List Module) : Prop :=
  ∀ m ∈ modules, m.followed = true → ∃ m' ∈ modules', m'.id = m.id ∧ m'.followed = true ∧
    List.Forall₂ Dependency.SameButFindings m.dependencies m'.dependencies

section

variable {d : Disk} {s : Settings} {p : Plan} {modules modules' : List Module} {rules : RuleSet} {validate : Bool}

/-- The graph that is built from the files of a survey. -/
def built (d : Disk) (s : Settings) (p : Plan) : Graph :=
  Graph.build (p.space.resolver d) p.includeOnly (filesOf d s p)

theorem Limited.congr (h : List.Forall₂ Module.SameButFindings modules modules') {r : Regex}
    (hlimited : Limited r modules) : Limited r modules' := by
  intro m' hm'
  obtain ⟨m, hm, hsame⟩ := exists_of_mem_right h hm'
  obtain ⟨hid, hedges⟩ := hlimited m hm
  refine ⟨by rw [hsame.id_eq]; exact hid, fun e' he' => ?_⟩
  obtain ⟨e, he, _, _, _, rfl⟩ := exists_of_mem_right hsame.dependencies he'
  exact hedges e he

theorem Spared.congr (h : List.Forall₂ Module.SameButFindings modules modules') {r : Regex}
    (hspared : Spared r modules) : Spared r modules' where
  followed := by
    intro m' hm' hfollowed
    obtain ⟨m, hm, hsame⟩ := exists_of_mem_right h hm'
    rw [hsame.id_eq]
    rw [hsame.followed_eq] at hfollowed
    exact hspared.followed m hm hfollowed
  leaf := by
    intro m' hm' hfound
    obtain ⟨m, hm, hsame⟩ := exists_of_mem_right h hm'
    rw [hsame.id_eq] at hfound
    obtain ⟨hfollowed, hbare, n, hn, hne, e, he, hto⟩ := hspared.leaf m hm hfound
    refine ⟨hsame.followed_eq.trans hfollowed, ?_, ?_⟩
    · have hedges := hsame.dependencies
      rw [hbare] at hedges
      exact List.forall₂_nil_left_iff.mp hedges
    · obtain ⟨n', hn', hsame'⟩ := exists_of_mem_left h hn
      obtain ⟨e', he', _, _, _, rfl⟩ := exists_of_mem_left hsame'.dependencies he
      refine ⟨n', hn', ?_, _, he', ?_⟩
      · rw [hsame'.id_eq, hsame.id_eq]
        exact hne
      · rw [hsame.id_eq]
        exact hto

theorem FollowedIn.congr {result result' : List Module} (h : List.Forall₂ Module.SameButFindings modules result)
    (h' : List.Forall₂ Module.SameButFindings modules' result') (hfollowed : FollowedIn modules modules') :
    FollowedIn result result' := by
  intro r hr hf
  obtain ⟨m, hm, hsame⟩ := exists_of_mem_right h hr
  rw [hsame.followed_eq] at hf
  obtain ⟨m', hm', hid, hf', hedges⟩ := hfollowed m hm hf
  obtain ⟨r', hr', hsame'⟩ := exists_of_mem_left h' hm'
  refine ⟨r', hr', ?_, hsame'.followed_eq.trans hf', ?_⟩
  · rw [hsame'.id_eq, hid, hsame.id_eq]
  · -- back to what was built, over to the other survey, and on to its result
    have hback : List.Forall₂ Dependency.SameButFindings r.dependencies m.dependencies :=
      List.Forall₂.flip (hsame.dependencies.imp fun _ _ hsame => hsame.symm)
    have htrans : ∀ a b c : Dependency, a.SameButFindings b → b.SameButFindings c → a.SameButFindings c :=
      fun _ _ _ hab hbc => hab.trans hbc
    exact forall₂_comp htrans (forall₂_comp htrans hback hedges) hsame'.dependencies

end

end Survey

end ImportSurvey
