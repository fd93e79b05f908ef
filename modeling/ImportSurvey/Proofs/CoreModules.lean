import ImportSurvey.Survey.Basic
import ImportSurvey.Proofs.Analysis
import ImportSurvey.Proofs.Grave
import ImportSurvey.Proofs.RealNames
import ImportSurvey.Proofs.Tags
import ImportSurvey.Proofs.Writing

/-
  Whether an edge that is marked as one to a core module leads to a core module.

  The mark of an edge comes from the spelling of its reference, the mark of a module from the edge that brought
  it up first, or, if the module is a file of the survey, from that: files are no core modules.  Both are kept
  under ids, and a core module has no id but its name, which may be the id of a file as well: a file `fs/x.js`
  has the id that the reference `fs/x.js` to a core module has.

  So marks agree as long as no id stands for two things.  A leaf carries the mark of some edge that leads to it
  (`Marked`), hence of all of them if they agree with each other; and if they do not, one of them disagrees with
  the leaf.  `Graph.coreAgrees_build_iff` says so for any resolver, and `Survey.coreAgrees_run_iff` for surveys:
  the edges to core modules lead to core modules iff no name of a core module is taken by a file
  (`Survey.CoreNameTaken`).
-/
namespace ImportSurvey

/-- What an edge says about core modules is true of its target. -/
structure Dependency.AgreesWith (e : Dependency) (t : Module) : Prop where
  mark : e.coreModule = t.coreModule
  /-- an edge to a core module does not end in a file of the survey -/
  cruised : e.coreModule = true → t.followed = false
  /-- an edge to a core module is not tagged as one to a file -/
  tagged : t.coreModule = true → e.dependencyTypes.has .localFile = false

/-- Core edges lead to core modules, and no others do. -/
def CoreAgrees (modules : List Module) : Prop :=
  ∀ m ∈ modules, ∀ e ∈ m.dependencies, ∀ t ∈ modules, e.to = some t.id → e.AgreesWith t

/-- Passes that leave alone what is asked for do not matter. -/
theorem coreAgrees_map (f : Module → Module) (edge : Module → Dependency → Dependency)
    (hid : ∀ m, (f m).id = m.id) (hedges : ∀ m, (f m).dependencies = m.dependencies.map (edge m))
    (hto : ∀ m e, (edge m e).to = e.to)
    (hagrees : ∀ m e t, (edge m e).AgreesWith (f t) ↔ e.AgreesWith t) (modules : List Module) :
    CoreAgrees (modules.map f) ↔ CoreAgrees modules := by
  simp only [CoreAgrees, List.forall_mem_map, hid, hedges, hto, hagrees]

namespace Graph

/-! ## Marks of modules -/

/-- A followed module is no core module, and any other is marked like some edge that leads to it. -/
structure Marked (g : Graph) : Prop where
  followed : ∀ m ∈ g.modules, m.followed = true → m.coreModule = false
  leaf : ∀ m ∈ g.modules, m.followed = false →
    ∃ n ∈ g.modules, ∃ d ∈ n.dependencies, d.to = some m.id ∧ d.coreModule = m.coreModule

section

variable {resolve : Resolver} {includeOnly : Option Regex} {g g' : Graph} {id : String}
  {references : List Reference}

/-- **One more module keeps the marks.**  The edge that a leaf is marked like stays, since its owner has edges and
so is not the module that changes. -/
theorem Marked.of_added (hg : Marked g) (h : Added resolve includeOnly g id references g')
    (hbare : ∀ m ∈ g.modules, m.id = id → m.dependencies = []) : Marked g' where
  followed := by
    intro m hm hf
    by_cases hid : m.id = id
    · exact (h.owner m hm hid).2.1
    · rcases h.others m hm hid with hm | ⟨-, _, -, hc, -⟩
      · exact hg.followed m hm hf
      · rw [hc] at hf
        cases hf
  leaf := by
    intro m hm hf
    have hid : m.id ≠ id := by
      intro hid
      rw [(h.owner m hm hid).1] at hf
      cases hf
    rcases h.others m hm hid with hm | ⟨-, d, hd, hc, hto⟩
    · obtain ⟨n, hn, d, hd, hto, hmark⟩ := hg.leaf m hm hf
      have hne : n.id ≠ id := by
        intro hnid
        rw [hbare n hn hnid] at hd
        exact absurd hd List.not_mem_nil
      exact ⟨n, h.kept n hn hne, d, hd, hto, hmark⟩
    · obtain ⟨n, hn, -, hdeps⟩ := h.exists_owner
      exact ⟨n, hn, d, hdeps ▸ hd, hto, by rw [hc]; rfl⟩

end

theorem marked_addAll (resolve : Resolver) (includeOnly : Option Regex)
    (files : List (String × List Reference)) : Marked (addAll resolve includeOnly files) := by
  induction files using List.reverseRecOn with
  | nil => exact ⟨fun _ hm => absurd hm List.not_mem_nil, fun _ hm => absurd hm List.not_mem_nil⟩
  | append_singleton files f ih =>
    have hbuilding := building_addAll resolve includeOnly files
    rw [addAll_concat]
    by_cases hf : ((addAll resolve includeOnly files).get? f.1).any (·.followed) = true
    · rw [addModule, if_pos hf]
      exact ih
    · have hnew := Bool.eq_false_iff.mpr hf
      refine ih.of_added (added_addModule resolve includeOnly hbuilding.indexed hnew f.2) fun m hm hid => ?_
      rw [hbuilding.indexed.get?_eq_some.mpr ⟨hm, hid⟩] at hnew
      exact (hbuilding.leaf m hm hnew).1

theorem marked_build (resolve : Resolver) (includeOnly : Option Regex)
    (files : List (String × List Reference)) : Marked (build resolve includeOnly files) where
  followed := fun m hm => (marked_addAll resolve includeOnly files).followed m ((mem_sortById _ m).mp hm)
  leaf := by
    intro m hm hf
    obtain ⟨n, hn, h⟩ := (marked_addAll resolve includeOnly files).leaf m ((mem_sortById _ m).mp hm) hf
    exact ⟨n, (mem_sortById _ n).mpr hn, h⟩

/-! ## Ids that stand for two things -/

section

variable (resolve : Resolver) (includeOnly : Option Regex)

/-- Some reference of the file made an edge to `id`, with that mark. -/
def MakesEdge (f : String × List Reference) (id : String) (coreModule : Bool) : Prop :=
  ∃ r, Makes resolve includeOnly f.1 f.2 r ∧ resolve.outcome f.1 r = .resolved id ∧
    (resolve r.moduleName f.1).coreModule = coreModule

theorem makesEdge_iff (f : String × List Reference) (id : String) (coreModule : Bool) :
    MakesEdge resolve includeOnly f id coreModule ↔
      ∃ e ∈ edgesOf resolve includeOnly f.1 f.2, e.to = some id ∧ e.coreModule = coreModule := by
  constructor
  · rintro ⟨r, hmakes, houtcome, rfl⟩
    obtain ⟨e, he, hresolved⟩ := exists_edge_of_included hmakes.mem_included
    obtain ⟨r', hmakes', hmerged⟩ := exists_maker he
    -- an edge has one maker
    have hsame : r' = r := by
      have htext : (resolve.outcome f.1 r').text = (resolve.outcome f.1 r).text :=
        hmerged.outcome.resolved_eq.symm.trans hresolved
      rw [Makes, htext] at hmakes'
      exact Option.some.inj (hmakes'.symm.trans hmakes)
    subst hsame
    have hto := hmerged.outcome
    rw [houtcome] at hto
    exact ⟨e, he, hto.1, (hmerged.of_maker hmakes).1⟩
  · rintro ⟨e, he, hto, rfl⟩
    obtain ⟨r, hmakes, hmerged⟩ := exists_maker he
    refine ⟨r, hmakes, ?_, ((hmerged.of_maker hmakes).1).symm⟩
    have hout := hmerged.outcome
    cases houtcome : resolve.outcome f.1 r with
    | resolved id' =>
      rw [houtcome] at hout
      rw [Option.some.inj (hout.1.symm.trans hto)]
    | unresolved reference =>
      rw [houtcome] at hout
      cases hout.1.symm.trans hto

/-- Some id is that of a core module, to which an edge leads, and that of a file, which is read or to which an
edge leads. -/
def IdClash (files : List (String × List Reference)) : Prop :=
  ∃ f ∈ files, ∃ id, MakesEdge resolve includeOnly f id true ∧
    (id ∈ files.map (·.1) ∨ ∃ f' ∈ files, MakesEdge resolve includeOnly f' id false)

/-- An edge to a core module is not tagged as one to a file. -/
theorem localFile_of_core {f : String × List Reference} {exotic : List String}
    (hf : ∀ r ∈ f.2, r.Consistent exotic) {e : Dependency} (he : e ∈ edgesOf resolve includeOnly f.1 f.2)
    (hcore : e.coreModule = true) : e.dependencyTypes.has .localFile = false := by
  obtain ⟨r, hmakes, hmerged⟩ := exists_maker he
  have hgroup := hmerged.tag_iff hmakes
    (fun r' hr' => hf r' (List.mem_of_mem_filter (List.mem_of_mem_filter hr'))) (t := .localFile) (by decide)
  rw [Bool.eq_false_iff, ne_eq, hgroup, Dependency.targetTag, hcore]
  split
  · intro h
    cases h
  · intro h
    cases h

section

variable {files : List (String × List Reference)} {m t : Module} {e : Dependency} {id : String}

theorem exists_makesEdge (hm : m ∈ (build resolve includeOnly files).modules) (he : e ∈ m.dependencies)
    (hto : e.to = some id) : ∃ f ∈ files, MakesEdge resolve includeOnly f id e.coreModule := by
  obtain ⟨f, hf, -, he⟩ := exists_file_of_edge resolve includeOnly files hm he
  exact ⟨f, hf, (makesEdge_iff resolve includeOnly f id _).mpr ⟨e, he, hto, rfl⟩⟩

theorem exists_edge_of_makesEdge (hids : (files.map (·.1)).Nodup) {f : String × List Reference} (hf : f ∈ files)
    {coreModule : Bool} (h : MakesEdge resolve includeOnly f id coreModule) :
    ∃ m ∈ (build resolve includeOnly files).modules, ∃ e ∈ m.dependencies, e.to = some id ∧
      e.coreModule = coreModule := by
  obtain ⟨m, hm, -, hdeps⟩ := exists_module_of_file resolve includeOnly hids hf
  obtain ⟨e, he, h⟩ := (makesEdge_iff resolve includeOnly f id coreModule).mp h
  exact ⟨m, hm, e, hdeps ▸ he, h⟩

/-- Without a clash, edges to one id have one mark. -/
theorem mark_unique (hclash : ¬ IdClash resolve includeOnly files) {f f' : String × List Reference} (hf : f ∈ files)
    (hf' : f' ∈ files) {c c' : Bool} (h : MakesEdge resolve includeOnly f id c)
    (h' : MakesEdge resolve includeOnly f' id c') : c = c' := by
  cases c with
  | true =>
    cases c' with
    | true => rfl
    | false => exact absurd ⟨f, hf, id, h, Or.inr ⟨f', hf', h'⟩⟩ hclash
  | false =>
    cases c' with
    | true => exact absurd ⟨f', hf', id, h', Or.inr ⟨f, hf, h⟩⟩ hclash
    | false => rfl

/-- Without a clash, no file is read under an id that a core edge leads to. -/
theorem not_followed_of_core (hclash : ¬ IdClash resolve includeOnly files)
    (hm : m ∈ (build resolve includeOnly files).modules) (he : e ∈ m.dependencies)
    (ht : t ∈ (build resolve includeOnly files).modules) (hto : e.to = some t.id) (hcore : e.coreModule = true) :
    t.followed = false := by
  obtain ⟨f, hf, hmake⟩ := exists_makesEdge resolve includeOnly hm he hto
  refine Bool.eq_false_iff.mpr fun hfollowed => hclash ⟨f, hf, t.id, hcore ▸ hmake, Or.inl ?_⟩
  exact (followed_build_iff resolve includeOnly files t.id).mp ⟨t, ht, rfl, hfollowed⟩

/-- Without a clash, an edge has the mark of the module that it leads to. -/
theorem mark_eq_of_not_clash (hclash : ¬ IdClash resolve includeOnly files)
    (hm : m ∈ (build resolve includeOnly files).modules) (he : e ∈ m.dependencies)
    (ht : t ∈ (build resolve includeOnly files).modules) (hto : e.to = some t.id) :
    e.coreModule = t.coreModule := by
  have hmarked := marked_build resolve includeOnly files
  cases hfollowed : t.followed with
  | true =>
    rw [hmarked.followed t ht hfollowed, Bool.eq_false_iff]
    intro hcore
    rw [not_followed_of_core resolve includeOnly hclash hm he ht hto hcore] at hfollowed
    cases hfollowed
  | false =>
    -- a leaf has its mark from the edge that made it
    obtain ⟨n, hn, d, hd, hdto, hdmark⟩ := hmarked.leaf t ht hfollowed
    obtain ⟨f, hf, hmake⟩ := exists_makesEdge resolve includeOnly hm he hto
    obtain ⟨f', hf', hmake'⟩ := exists_makesEdge resolve includeOnly hn hd hdto
    exact (mark_unique resolve includeOnly hclash hf hf' hmake hmake').trans hdmark

/-- **Core edges lead to core modules iff no id stands for a core module and for a file.** -/
theorem coreAgrees_build_iff {exotic : List String} (hids : (files.map (·.1)).Nodup)
    (hfiles : ∀ f ∈ files, ∀ r ∈ f.2, r.Consistent exotic) :
    CoreAgrees (build resolve includeOnly files).modules ↔ ¬ IdClash resolve includeOnly files := by
  constructor
  · rintro hagrees ⟨f, hf, id, hcore, hfile⟩
    obtain ⟨m, hm, e, he, hto, hmark⟩ := exists_edge_of_makesEdge resolve includeOnly hids hf hcore
    -- the module of the id has one mark and is followed or not, so it cannot serve both
    rcases hfile with hid | ⟨f', hf', hother⟩
    · obtain ⟨t, ht, rfl, hfollowed⟩ := (followed_build_iff resolve includeOnly files id).mpr hid
      rw [(hagrees m hm e he t ht hto).cruised hmark] at hfollowed
      cases hfollowed
    · obtain ⟨m', hm', e', he', hto', hmark'⟩ := exists_edge_of_makesEdge resolve includeOnly hids hf' hother
      obtain ⟨t, ht, rfl⟩ := List.mem_map.mp (mem_ids_of_edge resolve includeOnly files hm he hto)
      have h := (hagrees m hm e he t ht hto).mark
      rw [hmark, ← (hagrees m' hm' e' he' t ht hto').mark, hmark'] at h
      cases h
  · intro hclash m hm e he t ht hto
    have hmark := mark_eq_of_not_clash resolve includeOnly hclash hm he ht hto
    refine ⟨hmark, not_followed_of_core resolve includeOnly hclash hm he ht hto, fun hcore => ?_⟩
    obtain ⟨f, hf, -, he⟩ := exists_file_of_edge resolve includeOnly files hm he
    exact localFile_of_core resolve includeOnly (hfiles f hf) he (hmark.trans hcore)

end

end

end Graph

/-! ## Surveys -/

namespace ModuleSpace

/-- A reference leads to a core module iff it is spelled like one; otherwise it leads to a file or nowhere. -/
theorem resolver_cases (s : ModuleSpace) (d : Disk) (reference origin : String) :
    (Resolve.isCoreModule reference = true ∧ s.resolver d reference origin = .core reference) ∨
      (Resolve.isCoreModule reference = false ∧ ((∃ id, s.resolver d reference origin = .module id) ∨
        s.resolver d reference origin = .unresolved)) := by
  cases hcore : Resolve.isCoreModule reference with
  | true =>
    refine Or.inl ⟨rfl, ?_⟩
    rw [resolver, resolve, if_pos hcore]
    rfl
  | false =>
    refine Or.inr ⟨rfl, ?_⟩
    rw [resolver, resolve, if_neg (by rw [hcore]; exact Bool.false_ne_true)]
    rw [StateT.run_bind]
    generalize (Resolve.resolvePath d reference (s.modulePath origin)).run {} = found
    obtain ⟨found, memory⟩ := found
    rcases found with f | (_ | path)
    · exact Or.inr rfl
    · exact Or.inr rfl
    · exact Or.inl ⟨_, rfl⟩

end ModuleSpace

namespace Survey

/-- Puts what came of a file under its id, if it could be read. -/
def fileOutcome (space : ModuleSpace) (acc : List (String × List Reference)) (f : Path × FileOutcome) :
    List (String × List Reference) :=
  match f.2.references with
  | some refs => fileUnder (space.moduleId f.1) refs acc
  | none => acc

/-- The files of a survey under their ids, each with its references. -/
def filesOf (d : Disk) (s : Settings) (p : Plan) : List (String × List Reference) :=
  let files := (discover d p.globs s.maxDepth p.baseName p.listable).files.filter fun f =>
    p.takes (p.space.moduleId f)
  (files.map fun f => (f, readFile d ⟨s.effectiveModuleSystems, s.exoticRequireStrings⟩ f)).foldl
    (fileOutcome p.space) []

variable {d : Disk} {s : Settings} {p : Plan}

/-- The modules of a survey are those of the graph that is built from its files, analyzed and judged. -/
theorem modules_of_run {rules : RuleSet} {time : Timestamp} {outcome : Outcome}
    (h : run d s rules time = .ok outcome) : ∃ p, plan d s = .ok p ∧ outcome.result.modules =
      (((Graph.build (p.space.resolver d) p.includeOnly (filesOf d s p)).analyze rules).validate rules
        s.validate).modules := by
  obtain ⟨p, hp⟩ := plan_of_run h
  rw [run_eq hp] at h
  obtain rfl := Except.ok.inj h
  exact ⟨p, hp, rfl⟩

theorem run_of_plan (h : plan d s = .ok p) (rules : RuleSet) (time : Timestamp) :
    ∃ outcome, run d s rules time = .ok outcome := ⟨_, run_eq h rules time⟩

/-! ### The files -/

theorem ids_fileUnder (id : String) (refs : List Reference) (acc : List (String × List Reference)) (x : String) :
    x ∈ (fileUnder id refs acc).map (·.1) ↔ x = id ∨ x ∈ acc.map (·.1) := by
  induction acc with
  | nil => simp [fileUnder]
  | cons f acc ih =>
    obtain ⟨k, r⟩ := f
    rw [fileUnder]
    split
    · rename_i hk
      subst hk
      simp
    · split
      · simp
      · rw [List.map_cons, List.mem_cons, ih, List.map_cons, List.mem_cons]
        exact or_left_comm

/-- Files are kept in the order of their ids, so no two of them have one id. -/
theorem ascending_fileUnder (id : String) (refs : List Reference) {acc : List (String × List Reference)}
    (h : (acc.map (·.1)).Pairwise (· < ·)) : ((fileUnder id refs acc).map (·.1)).Pairwise (· < ·) := by
  induction acc with
  | nil => simp [fileUnder]
  | cons f acc ih =>
    obtain ⟨k, r⟩ := f
    rw [List.map_cons, List.pairwise_cons] at h
    rw [fileUnder]
    split
    · rename_i hk
      subst hk
      rw [List.map_cons, List.pairwise_cons]
      exact h
    · rename_i hk
      split
      · rename_i hlt
        rw [List.map_cons, List.pairwise_cons, List.map_cons, List.pairwise_cons]
        refine ⟨fun x hx => ?_, h⟩
        rcases List.mem_cons.mp hx with rfl | hx
        · exact hlt
        · exact lt_trans hlt (h.1 x hx)
      · rename_i hlt
        rw [List.map_cons, List.pairwise_cons]
        refine ⟨fun x hx => ?_, ih h.2⟩
        rcases (ids_fileUnder id refs acc x).mp hx with rfl | hx
        · exact lt_of_le_of_ne (not_lt.mp hlt) (Ne.symm hk)
        · exact h.1 x hx

theorem mem_fileUnder {id : String} {refs : List Reference} {acc : List (String × List Reference)}
    {f : String × List Reference} (hf : f ∈ fileUnder id refs acc) : f.2 = refs ∨ f ∈ acc := by
  induction acc with
  | nil =>
    rw [fileUnder, List.mem_singleton] at hf
    exact Or.inl (by rw [hf])
  | cons g acc ih =>
    obtain ⟨k, r⟩ := g
    rw [fileUnder] at hf
    split at hf
    · rcases List.mem_cons.mp hf with rfl | hf
      · exact Or.inl rfl
      · exact Or.inr (List.mem_cons_of_mem _ hf)
    · split at hf
      · rcases List.mem_cons.mp hf with rfl | hf
        · exact Or.inl rfl
        · exact Or.inr hf
      · rcases List.mem_cons.mp hf with rfl | hf
        · exact Or.inr (List.mem_cons_self ..)
        · exact (ih hf).imp_right (List.mem_cons_of_mem _)

/-- What is read from a file are references as they are extracted. -/
theorem consistent_readFile {q : Script.Request} {file : Path} {refs : List Reference}
    (h : (readFile d q file).references = some refs) : ∀ r ∈ refs, r.Consistent q.exotic := by
  rw [readFile] at h
  split at h
  · cases h
  · obtain rfl := Option.some.inj h
    intro r hr
    rw [Script.extract] at hr
    split at hr
    · exact Script.consistent_of_mem_references hr
    · exact absurd hr List.not_mem_nil

/-- **The files of a survey have ids that differ, and references as they are extracted.** -/
theorem filesOf_spec (d : Disk) (s : Settings) (p : Plan) : ((filesOf d s p).map (·.1)).Nodup ∧
    ∀ f ∈ filesOf d s p, ∀ r ∈ f.2, r.Consistent s.exoticRequireStrings := by
  suffices h : ((filesOf d s p).map (·.1)).Pairwise (· < ·) ∧
      ∀ f ∈ filesOf d s p, ∀ r ∈ f.2, r.Consistent s.exoticRequireStrings from
    ⟨h.1.imp fun hlt => ne_of_lt hlt, h.2⟩
  rw [filesOf]
  generalize (discover d p.globs s.maxDepth p.baseName p.listable).files.filter _ = files
  induction files using List.reverseRecOn with
  | nil => exact ⟨.nil, fun f hf => absurd hf List.not_mem_nil⟩
  | append_singleton files file ih =>
    rw [List.map_append, List.foldl_append, List.map_singleton, List.foldl_cons, List.foldl_nil, fileOutcome]
    cases hrefs : (readFile d ⟨s.effectiveModuleSystems, s.exoticRequireStrings⟩ file).references with
    | none => exact ih
    | some refs =>
      refine ⟨ascending_fileUnder _ refs ih.1, fun f hf => ?_⟩
      rcases mem_fileUnder hf with hf | hf
      · rw [hf]
        exact consistent_readFile hrefs
      · exact ih.2 f hf

/-! ### Names of core modules -/

/-- A reference that is the first to its target is spelled like one to a core module, and its text is the id of a
file too: one of the survey, or one that another such reference leads to. -/
def CoreNameTaken (d : Disk) (s : Settings) : Prop :=
  ∃ p, plan d s = .ok p ∧ ∃ f ∈ filesOf d s p, ∃ r,
    Makes (p.space.resolver d) p.includeOnly f.1 f.2 r ∧ Resolve.isCoreModule r.moduleName = true ∧
      (r.moduleName ∈ (filesOf d s p).map (·.1) ∨ ∃ f' ∈ filesOf d s p, ∃ r',
        Makes (p.space.resolver d) p.includeOnly f'.1 f'.2 r' ∧
          p.space.resolver d r'.moduleName f'.1 = .module r.moduleName)

theorem makesEdge_true_iff (f : String × List Reference) (id : String) :
    Graph.MakesEdge (p.space.resolver d) p.includeOnly f id true ↔
      ∃ r, Makes (p.space.resolver d) p.includeOnly f.1 f.2 r ∧ Resolve.isCoreModule r.moduleName = true ∧
        r.moduleName = id := by
  refine exists_congr fun r => and_congr_right fun _ => ?_
  rcases p.space.resolver_cases d r.moduleName f.1 with ⟨hcore, hres⟩ | ⟨hcore, ⟨id', hres⟩ | hres⟩
  · simp [Resolver.outcome, Resolution.outcome, hres, hcore, Resolution.core]
  · simp [Resolver.outcome, Resolution.outcome, hres, hcore, Resolution.module]
  · simp [Resolver.outcome, Resolution.outcome, hres, hcore, Resolution.unresolved]

theorem makesEdge_false_iff (f : String × List Reference) (id : String) :
    Graph.MakesEdge (p.space.resolver d) p.includeOnly f id false ↔
      ∃ r, Makes (p.space.resolver d) p.includeOnly f.1 f.2 r ∧
        p.space.resolver d r.moduleName f.1 = .module id := by
  refine exists_congr fun r => and_congr_right fun _ => ?_
  rcases p.space.resolver_cases d r.moduleName f.1 with ⟨hcore, hres⟩ | ⟨hcore, ⟨id', hres⟩ | hres⟩
  · simp [Resolver.outcome, Resolution.outcome, hres, Resolution.core, Resolution.module]
  · simp [Resolver.outcome, Resolution.outcome, hres, Resolution.module]
  · simp [Resolver.outcome, Resolution.outcome, hres, Resolution.unresolved, Resolution.module]

theorem coreNameTaken_iff (hp : plan d s = .ok p) :
    CoreNameTaken d s ↔ Graph.IdClash (p.space.resolver d) p.includeOnly (filesOf d s p) := by
  constructor
  · rintro ⟨p', hp', f, hf, r, hmakes, hcore, htaken⟩
    obtain rfl := Except.ok.inj (hp.symm.trans hp')
    refine ⟨f, hf, r.moduleName, (makesEdge_true_iff f _).mpr ⟨r, hmakes, hcore, rfl⟩, ?_⟩
    refine htaken.imp_right fun ⟨f', hf', h⟩ => ⟨f', hf', (makesEdge_false_iff f' _).mpr h⟩
  · rintro ⟨f, hf, id, hedge, htaken⟩
    obtain ⟨r, hmakes, hcore, rfl⟩ := (makesEdge_true_iff f id).mp hedge
    refine ⟨p, hp, f, hf, r, hmakes, hcore, ?_⟩
    exact htaken.imp_right fun ⟨f', hf', h⟩ => ⟨f', hf', (makesEdge_false_iff f' _).mp h⟩

/-- What a survey says about core modules is what the graph said that was built. -/
theorem coreAgrees_of_run {rules : RuleSet} {time : Timestamp} {outcome : Outcome}
    (h : run d s rules time = .ok outcome) : ∃ p, plan d s = .ok p ∧ (CoreAgrees outcome.result.modules ↔
      CoreAgrees (Graph.build (p.space.resolver d) p.includeOnly (filesOf d s p)).modules) := by
  obtain ⟨p, hp, hmodules⟩ := modules_of_run h
  refine ⟨p, hp, ?_⟩
  have hcleared := coreAgrees_map Module.clearDerived (fun _ e => { e with circular := false })
    (fun _ => rfl) (fun _ => rfl) (fun _ _ => rfl) fun _ _ _ =>
      ⟨fun h => ⟨h.mark, h.cruised, h.tagged⟩, fun h => ⟨h.mark, h.cruised, h.tagged⟩⟩
  have hjudged := coreAgrees_map (rules.judge s.validate)
    (fun m e => e.applyVerdict (rules.judgeDependency s.validate m e))
    (fun _ => rfl) (fun _ => rfl) (fun _ _ => rfl) fun _ _ _ =>
      ⟨fun h => ⟨h.mark, h.cruised, h.tagged⟩, fun h => ⟨h.mark, h.cruised, h.tagged⟩⟩
  rw [hmodules, Graph.validate, hjudged, ← hcleared, Graph.analyze, Graph.clearDerived_analyzeWith, hcleared]

/-! ### A name that is taken -/

/-- Two files, one of them in a directory that is named like a core module. -/
def sharedName : Disk where
  entries := [(["a.js"], .file (.text "require('fs/x.js')")), (["fs"], .dir 0o755 true),
    (["fs", "x.js"], .file (.text ""))]
  workingDir := []

/-- A survey of the whole disk. -/
def ofRoot : Settings where
  baseDir := ⟨"/"⟩
  excludePatterns := []

def planOfRoot : Plan where
  base := ⟨"/"⟩
  baseName := []
  listable := true
  globs := []
  doNotFollow := none
  includeOnly := none

/-- The walk through a directory of which nothing is left out. -/
theorem searchDir_whole (d : Disk) {here : Place} (hfits : Disk.fits here.name = true) (fuel : Nat) :
    searchDir d [] none here true (fuel + 1) = (d.children here.name).foldl (fun found (name, entry) =>
      let place := here.enter name
      match entry with
      | .file .. => if Script.isSourceFile place.path then found ++ { files := [place.path] } else found
      | .link _ => found
      | .dir _ listable => found ++ searchDir d [] none place listable fuel) {} := by
  have hkeep : (d.children here.name).filter (fun (name, _) => !isExcluded [] (here.enter name).relative) =
      d.children here.name := List.filter_eq_self.mpr fun _ _ => rfl
  rw [searchDir, hkeep, if_neg (by simp), if_neg (by simp [hfits])]
  rfl

/-- A file that can be read has the references that are extracted from its text. -/
theorem references_readFile {q : Script.Request} {file : Path} {text : String}
    (h : d.readText file = .ok text) :
    (readFile d q file).references = some (Script.extract q (.ofPath file) text).references := by
  rw [readFile, h]

theorem plan_ofRoot (d : Disk) : plan d ofRoot = .ok planOfRoot := by
  rw [plan, ofRoot, baseOf, Disk.canonicalize_root]
  simp only [Disk.find_root]
  rfl

theorem plan_sharedName : plan sharedName ofRoot = .ok planOfRoot := plan_ofRoot sharedName

theorem children_sharedName :
    sharedName.children [] = [("a.js", .file (.text "require('fs/x.js')")), ("fs", .dir 0o755 true)] ∧
      sharedName.children ["fs"] = [("x.js", .file (.text ""))] :=
  ⟨List.mergeSort_of_pairwise (by decide), List.mergeSort_singleton _⟩

theorem discover_sharedName : (discover sharedName [] none [] true).files = [⟨"/a.js"⟩, ⟨"/fs/x.js"⟩] := by
  obtain ⟨hroot, hfs⟩ := children_sharedName
  have hbelow : searchDir sharedName [] none ((⟨[], []⟩ : Place).enter "fs") true 2 =
      { files := [⟨"/fs/x.js"⟩] } := by
    have hname : ((⟨[], []⟩ : Place).enter "fs").name = ["fs"] := rfl
    rw [searchDir_whole _ (by decide), hname, hfs, List.foldl_cons, List.foldl_nil]
    exact if_pos (by decide)
  have hdepth : longestName sharedName + 1 = 3 := by decide
  rw [discover, hdepth, searchDir_whole _ (by decide), hroot]
  simp only [List.foldl_cons, List.foldl_nil, hbelow]
  rw [if_pos (by decide)]
  rfl

theorem proper_sharedName : Disk.Proper "a.js" ∧ Disk.Proper "fs" ∧ Disk.Proper "x.js" := by
  refine ⟨⟨?_, ?_, ?_⟩, ⟨?_, ?_, ?_⟩, ⟨?_, ?_, ?_⟩⟩
  all_goals decide

theorem readText_requires : sharedName.readText ⟨"/a.js"⟩ = .ok "require('fs/x.js')" := by
  have hfind : sharedName.find ⟨"/a.js"⟩ true = .ok (["a.js"], .file (.text "require('fs/x.js')")) := by
    refine Disk.find_of_walk ⟨by decide, by decide, by decide⟩ rfl (show _ = ["", "a.js"] by decide) ?_
    exact .stay rfl (.inl rfl) (.enter rfl proper_sharedName.1 rfl (fun _ h => by cases h) (.stop rfl))
  rw [Disk.readText, hfind]

theorem readText_required : sharedName.readText ⟨"/fs/x.js"⟩ = .ok "" := by
  have hfind : sharedName.find ⟨"/fs/x.js"⟩ true = .ok (["fs", "x.js"], .file (.text "")) := by
    refine Disk.find_of_walk ⟨by decide, by decide, by decide⟩ rfl (show _ = ["", "fs", "x.js"] by decide) ?_
    refine .stay rfl (.inl rfl) (.enter rfl proper_sharedName.2.1 rfl (fun _ h => by cases h) ?_)
    exact .enter rfl proper_sharedName.2.2 rfl (fun _ h => by cases h) (.stop rfl)
  rw [Disk.readText, hfind]

theorem references_requires : (Script.extract ⟨ofRoot.effectiveModuleSystems, ofRoot.exoticRequireStrings⟩
    (.ofPath ⟨"/a.js"⟩) "require('fs/x.js')").references = [.plain "fs/x.js" .cjs] := by decide +kernel

theorem references_required : (Script.extract ⟨ofRoot.effectiveModuleSystems, ofRoot.exoticRequireStrings⟩
    (.ofPath ⟨"/fs/x.js"⟩) "").references = [] := by decide

/-- The file has the id that the reference has. -/
theorem filesOf_sharedName :
    filesOf sharedName ofRoot planOfRoot = [("a.js", [.plain "fs/x.js" .cjs]), ("fs/x.js", [])] := by
  have hida : planOfRoot.space.moduleId ⟨"/a.js"⟩ = "a.js" := by decide
  have hidx : planOfRoot.space.moduleId ⟨"/fs/x.js"⟩ = "fs/x.js" := by decide
  have ha := (references_readFile (q := ⟨ofRoot.effectiveModuleSystems, ofRoot.exoticRequireStrings⟩)
    readText_requires).trans (congrArg some references_requires)
  have hx := (references_readFile (q := ⟨ofRoot.effectiveModuleSystems, ofRoot.exoticRequireStrings⟩)
    readText_required).trans (congrArg some references_required)
  have hfound : (discover sharedName planOfRoot.globs ofRoot.maxDepth planOfRoot.baseName
      planOfRoot.listable).files = [⟨"/a.js"⟩, ⟨"/fs/x.js"⟩] := discover_sharedName
  have htakes (id : String) : planOfRoot.takes id = true := rfl
  rw [filesOf, hfound]
  simp only [htakes, List.filter_cons_of_pos, List.filter_nil, List.map_cons, List.map_nil, List.foldl_cons,
    List.foldl_nil, fileOutcome, ha, hx, hida, hidx]
  decide

theorem coreNameTaken_sharedName : CoreNameTaken sharedName ofRoot := by
  refine ⟨planOfRoot, plan_sharedName, ("a.js", [.plain "fs/x.js" .cjs]), ?_, .plain "fs/x.js" .cjs, ?_,
    by decide, ?_⟩
  · rw [filesOf_sharedName]
    exact List.mem_cons_self
  · exact makes_first _ _ _ _
  · rw [filesOf_sharedName]
    exact .inl (List.mem_cons_of_mem _ List.mem_cons_self)

/-- **A file takes the name of a core module**: the edge says that it leads to the core module and ends in the
file. -/
theorem not_coreAgrees_of_shared_name :
    ∃ outcome, run sharedName ofRoot {} default = .ok outcome ∧ ¬ CoreAgrees outcome.result.modules := by
  obtain ⟨outcome, hrun⟩ := run_of_plan plan_sharedName {} default
  obtain ⟨p, hp, hagrees⟩ := coreAgrees_of_run hrun
  obtain ⟨hids, hfiles⟩ := filesOf_spec sharedName ofRoot p
  refine ⟨outcome, hrun, fun h => ?_⟩
  exact (Graph.coreAgrees_build_iff _ _ hids hfiles).mp (hagrees.mp h)
    ((coreNameTaken_iff hp).mp coreNameTaken_sharedName)

/-- **In a survey, core edges lead to core modules iff no name of a core module is taken by a file.** -/
theorem coreAgrees_run_iff {rules : RuleSet} {time : Timestamp} {outcome : Outcome}
    (h : run d s rules time = .ok outcome) : CoreAgrees outcome.result.modules ↔ ¬ CoreNameTaken d s := by
  obtain ⟨p, hp, hagrees⟩ := coreAgrees_of_run h
  obtain ⟨hids, hfiles⟩ := filesOf_spec d s p
  rw [hagrees, Graph.coreAgrees_build_iff _ _ hids hfiles, coreNameTaken_iff hp]

/-- Where a name is taken. -/
theorem coreAgrees_run_of_shared_name : ∃ outcome, run sharedName ofRoot {} default = .ok outcome ∧
    (CoreAgrees outcome.result.modules ↔ ¬ CoreNameTaken sharedName ofRoot) := by
  obtain ⟨outcome, hrun⟩ := run_of_plan plan_sharedName {} default
  exact ⟨outcome, hrun, coreAgrees_run_iff hrun⟩

end Survey

end ImportSurvey
