import ImportSurvey.Proofs.CoreModules
import ImportSurvey.Proofs.Discovery
import ImportSurvey.Proofs.ExitStatus
import ImportSurvey.Proofs.History
import ImportSurvey.Proofs.RealNames
import ImportSurvey.Proofs.Spelling

/-
  What becomes of every file of a survey.

  A survey should not be ended by a file, nor should a file drop out of it unseen.  So each file that is taken is
  accounted for (`Survey.Accounted`): it is a followed module if its text could be read, there is one issue about it
  if the text could not be read or not be understood, and there is none otherwise.

  1. **Once it is planned, a survey comes to its end** (`Survey.run_eq`), and accounts for every file
     (`Survey.accounted_run`).  The issues hang on the files being told apart by their paths, which they are on a
     tree: no file is found twice, and none is a directory that something is said about.  Together with what a walk
     finds, no source file drops out unseen (`Survey.source_file_seen`).

  2. **Settings that pass their check can be planned**, but for one thing (`Survey.exists_plan_iff`).  The check asks
     whether the path of the directory leads to a directory; the plan asks for the canonical path of the directory
     and goes on with that.  It may be longer than the path, and too long for the system.
-/
namespace ImportSurvey

/-! ## Lists -/

section

variable {α β : Type}

/-- What is found in one of two lists that match is found in the other. -/
theorem exists_mem_iff_of_forall₂ {R : α → β → Prop} {P : α → Prop} {Q : β → Prop} {l : List α} {l' : List β}
    (h : List.Forall₂ R l l') (hR : ∀ a b, R a b → (P a ↔ Q b)) : (∃ a ∈ l, P a) ↔ ∃ b ∈ l', Q b := by
  induction h with
  | nil => exact ⟨fun ⟨a, ha, _⟩ => absurd ha List.not_mem_nil, fun ⟨b, hb, _⟩ => absurd hb List.not_mem_nil⟩
  | cons hab _ ih => rw [List.exists_mem_cons_iff, List.exists_mem_cons_iff, hR _ _ hab, ih]

/-- What is kept of the parts of a list that only one of its members has a say in. -/
theorem filter_flatMap_of_nodup {f : α → List β} {keep : β → Bool} {l : List α} (hl : l.Nodup) {a : α} (ha : a ∈ l)
    (hself : ∀ b ∈ f a, keep b = true) (hother : ∀ a' ∈ l, a' ≠ a → ∀ b ∈ f a', keep b = false) :
    (l.flatMap f).filter keep = f a := by
  induction l with
  | nil => exact absurd ha List.not_mem_nil
  | cons x l ih =>
    obtain ⟨hx, hl⟩ := List.nodup_cons.mp hl
    rw [List.flatMap_cons, List.filter_append]
    by_cases hxa : x = a
    · subst hxa
      have hnone : (l.flatMap f).filter keep = [] := by
        rw [List.filter_eq_nil_iff]
        intro b hb
        obtain ⟨a', ha', hb⟩ := List.mem_flatMap.mp hb
        have hne : a' ≠ x := fun heq => hx (heq ▸ ha')
        exact Bool.eq_false_iff.mp (hother a' (List.mem_cons_of_mem x ha') hne b hb)
      rw [hnone, List.append_nil, List.filter_eq_self.mpr hself]
    · have hnone : (f x).filter keep = [] :=
        List.filter_eq_nil_iff.mpr fun b hb => Bool.eq_false_iff.mp (hother x List.mem_cons_self hxa b hb)
      have hmem : a ∈ l := (List.mem_cons.mp ha).resolve_left fun h => hxa h.symm
      rw [hnone, List.nil_append]
      exact ih hl hmem fun a' ha' => hother a' (List.mem_cons_of_mem x ha')

end

/-! ## From settings to a plan -/

/-- What the check of settings finds in order. -/
theorem Settings.of_check {d : Disk} {s : Settings} (h : s.check d = .ok ()) :
    d.isDir s.baseDir = true ∧ (∀ pattern ∈ s.excludePatterns, ∃ g, Glob.read? pattern = .ok g) ∧
      SettingsLayer.checkFilter "do_not_follow" none s.doNotFollow = .ok () ∧
      SettingsLayer.checkFilter "include_only" none s.includeOnly = .ok () := by
  rw [check] at h
  split at h
  · cases h
  · rename_i hdir
    obtain ⟨_, hglobs, h⟩ := exists_of_bind_eq_ok h
    obtain ⟨_, hskip, h⟩ := exists_of_bind_eq_ok h
    obtain ⟨_, honly, -⟩ := exists_of_bind_eq_ok h
    refine ⟨by simpa using hdir, fun pattern hpattern => ?_, hskip, honly⟩
    have hglob := forall_of_forM_eq_ok hglobs pattern hpattern
    split at hglob
    · rename_i g hg
      exact ⟨g, hg⟩
    · cases hglob

/-- The path leads to a directory that the system knows by its canonical path. -/
def Disk.HasPath (d : Disk) (dir : Path) : Prop := ∃ real, d.canonicalize dir = .ok real ∧ d.isDir real = true

namespace Survey

theorem baseOf_eq_ok_iff {d : Disk} {dir : Path} {name : Disk.Name} {listable : Bool} :
    baseOf d dir = .ok (name, listable) ↔ ∃ real mode, d.canonicalize dir = .ok real ∧
      d.find real true = .ok (name, .dir mode listable) := by
  constructor
  · intro h
    rw [baseOf] at h
    split at h
    · cases h
    · rename_i real hreal
      split at h
      · rename_i name' mode listable' hfind
        obtain ⟨rfl, rfl⟩ := Prod.mk.inj (Except.ok.inj h)
        exact ⟨real, mode, hreal, hfind⟩
      · cases h
  · rintro ⟨real, mode, hreal, hfind⟩
    rw [baseOf, hreal]
    simp only [hfind]

theorem exists_baseOf_iff (d : Disk) (dir : Path) : (∃ base, baseOf d dir = .ok base) ↔ d.HasPath dir := by
  constructor
  · rintro ⟨⟨name, listable⟩, h⟩
    obtain ⟨real, mode, hreal, hfind⟩ := baseOf_eq_ok_iff.mp h
    exact ⟨real, hreal, Disk.isDir_iff.mpr ⟨name, mode, listable, hfind⟩⟩
  · rintro ⟨real, hreal, hdir⟩
    obtain ⟨name, mode, listable, hfind⟩ := Disk.isDir_iff.mp hdir
    exact ⟨(name, listable), baseOf_eq_ok_iff.mpr ⟨real, mode, hreal, hfind⟩⟩

theorem exists_readFilter {field field' : String} {file : Option Path} {pattern : Option String}
    (h : SettingsLayer.checkFilter field file pattern = .ok ()) : ∃ r, readFilter field' pattern = .ok r := by
  cases pattern with
  | none => exact ⟨none, rfl⟩
  | some pattern =>
    cases hread : Regex.read? pattern with
    | error f =>
      rw [SettingsLayer.checkFilter, hread] at h
      cases h
    | ok r => exact ⟨some r, by rw [readFilter, hread]⟩

/-- **Settings that pass their check can be planned iff the directory has a canonical path.** -/
theorem exists_plan_iff {d : Disk} {s : Settings} (h : s.check d = .ok ()) :
    (∃ p, plan d s = .ok p) ↔ d.HasPath s.baseDir := by
  obtain ⟨-, hglobs, hskip, honly⟩ := Settings.of_check h
  rw [← exists_baseOf_iff]
  constructor
  · rintro ⟨p, hp⟩
    obtain ⟨base, hbase, -⟩ := exists_of_bind_eq_ok hp
    exact ⟨base, hbase⟩
  · rintro ⟨⟨name, listable⟩, hbase⟩
    obtain ⟨globs, hglobs⟩ : ∃ globs, readGlobs s.excludePatterns = .ok globs := by
      refine exists_mapM_of_forall fun pattern hpattern => ?_
      obtain ⟨g, hg⟩ := hglobs pattern hpattern
      exact ⟨g, by rw [hg]⟩
    obtain ⟨skip, hskip⟩ := exists_readFilter hskip
    obtain ⟨only, honly⟩ := exists_readFilter honly
    refine ⟨⟨Disk.nameText name, name, listable, globs, skip, only⟩, ?_⟩
    rw [plan, hbase, hglobs, hskip, honly]
    rfl

/-- The base directory of a plan is a directory. -/
theorem isDirName_baseName {d : Disk} {s : Settings} {p : Plan} (h : plan d s = .ok p) :
    d.isDirName p.baseName = true := by
  obtain ⟨⟨name, listable⟩, hbase, h⟩ := exists_of_bind_eq_ok h
  obtain ⟨globs, -, h⟩ := exists_of_bind_eq_ok h
  obtain ⟨skip, -, h⟩ := exists_of_bind_eq_ok h
  obtain ⟨only, -, h⟩ := exists_of_bind_eq_ok h
  obtain rfl := Except.ok.inj h
  obtain ⟨real, mode, -, hfind⟩ := baseOf_eq_ok_iff.mp hbase
  have hentry := (Disk.locate_eq_ok_iff.mp (Disk.find_eq_ok_iff.mp hfind)).2.entry_eq
  exact (Disk.isDirName_iff d name).mpr ⟨mode, listable, hentry⟩

/-! ## Files and what becomes of them -/

/-- The files that a survey takes: those that are discovered and that its filters let through. -/
def takenFiles (d : Disk) (s : Settings) (p : Plan) : List Path :=
  p.taken (discover d p.globs s.maxDepth p.baseName p.listable)

/-- What a result says about a path. -/
def issuesAbout (result : SurveyResult) (f : Path) : List Issue := result.issues.filter (·.path = f)

/-- Every file that is taken is accounted for. -/
structure Accounted (d : Disk) (s : Settings) (p : Plan) (result : SurveyResult) : Prop where
  /-- the followed modules are those whose files could be read -/
  followed : ∀ id, (∃ m ∈ result.modules, m.id = id ∧ m.followed = true) ↔
    ∃ f ∈ takenFiles d s p, p.space.moduleId f = id ∧ ∃ text, d.readText f = .ok text
  /-- there is one issue about a file that could not be read -/
  unread : ∀ f ∈ takenFiles d s p, ∀ fault, d.readText f = .error fault →
    issuesAbout result f = [.ofFailure f (.ofFile f fault)]
  /-- a file that was read but has faults is followed all the same, and there is one warning about it -/
  faulty : ∀ f ∈ takenFiles d s p, ∀ text, d.readText f = .ok text →
    (Script.extract (request s) (.ofPath f) text).hasErrors = true →
      (∃ m ∈ result.modules, m.id = p.space.moduleId f ∧ m.followed = true) ∧
        ∃ message, issuesAbout result f = [.warning f message]
  /-- there is nothing to say about any other file -/
  sound : ∀ f ∈ takenFiles d s p, ∀ text, d.readText f = .ok text →
    (Script.extract (request s) (.ofPath f) text).hasErrors = false → issuesAbout result f = []

variable {d : Disk} {s : Settings} {p : Plan}

/-! ### Modules -/

theorem references_readFile_isSome (q : Script.Request) (f : Path) :
    (∃ refs, (readFile d q f).references = some refs) ↔ ∃ text, d.readText f = .ok text := by
  rw [readFile]
  cases d.readText f with
  | error fault =>
    constructor
    · rintro ⟨refs, h⟩
      cases h
    · rintro ⟨text, h⟩
      cases h
  | ok text => exact ⟨fun _ => ⟨text, rfl⟩, fun _ => ⟨_, rfl⟩⟩

/-- **The files that the graph is built from are those that could be read.** -/
theorem mem_ids_filesOf_iff (id : String) : id ∈ (filesOf d s p).map (·.1) ↔
    ∃ f ∈ takenFiles d s p, p.space.moduleId f = id ∧ ∃ text, d.readText f = .ok text := by
  show id ∈ (((takenFiles d s p).map fun f => (f, readFile d (request s) f)).foldl (fileOutcome p.space) []).map
    (·.1) ↔ _
  induction takenFiles d s p using List.reverseRecOn with
  | nil => exact ⟨fun h => absurd h List.not_mem_nil, fun ⟨_, h, _⟩ => absurd h List.not_mem_nil⟩
  | append_singleton files file ih =>
    have hsplit : (∃ f ∈ files ++ [file], p.space.moduleId f = id ∧ ∃ text, d.readText f = .ok text) ↔
        (∃ f ∈ files, p.space.moduleId f = id ∧ ∃ text, d.readText f = .ok text) ∨
          (p.space.moduleId file = id ∧ ∃ text, d.readText file = .ok text) := by
      simp only [List.mem_append, List.mem_singleton, or_and_right, exists_or, exists_eq_left]
    rw [List.map_append, List.foldl_append, List.map_singleton, List.foldl_cons, List.foldl_nil, fileOutcome, hsplit,
      ← ih, ← references_readFile_isSome (request s)]
    cases (readFile d (request s) file).references with
    | none => simp
    | some refs =>
      rw [ids_fileUnder, or_comm, eq_comm]
      simp

/-- Analysis and validation leave alone whether a module is followed. -/
theorem followed_analyze_validate_iff (g : Graph) (rules : RuleSet) (validate : Bool) (id : String) :
    (∃ m ∈ ((g.analyze rules).validate rules validate).modules, m.id = id ∧ m.followed = true) ↔
      ∃ m ∈ g.modules, m.id = id ∧ m.followed = true := by
  have hanalyze : (∃ m ∈ g.modules, m.id = id ∧ m.followed = true) ↔
      ∃ m ∈ (g.analyze rules).modules, m.id = id ∧ m.followed = true := by
    refine exists_mem_iff_of_forall₂ (Graph.sameBut_analyzeWith _ g rules).2 ?_
    rintro m m' ⟨orphan, reachable, reaches, dependencies, rfl, -⟩
    rfl
  rw [hanalyze]
  refine (exists_mem_iff_of_forall₂ (Graph.sameBut_validate (g.analyze rules) rules validate).2 ?_).symm
  rintro m m' ⟨valid, rules, dependencies, rfl, -⟩
  rfl

/-! ### Issues -/

/-- What is said about a file when it is read names the file. -/
theorem path_of_mem_issues {q : Script.Request} {f : Path} {i : Issue} (h : i ∈ (readFile d q f).issues) :
    i.path = f := by
  rw [readFile] at h
  split at h
  · rw [List.mem_singleton.mp h]
    rfl
  · dsimp only at h
    split at h
    · rw [List.mem_singleton.mp h]
      rfl
    · split at h
      · rw [List.mem_singleton.mp h]
        rfl
      · exact absurd h List.not_mem_nil

theorem issues_of_faulty {q : Script.Request} {f : Path} {text : String} (h : d.readText f = .ok text)
    (hfaulty : (Script.extract q (.ofPath f) text).hasErrors = true) :
    ∃ message, (readFile d q f).issues = [.warning f message] := by
  rw [readFile, h]
  dsimp only
  split
  · exact ⟨_, rfl⟩
  · rename_i hread
    rw [Script.Extraction.hasErrors, Bool.eq_false_iff.mpr hread, Bool.false_or, decide_eq_true_eq] at hfaulty
    rw [if_pos hfaulty]
    exact ⟨_, rfl⟩

theorem issues_of_sound {q : Script.Request} {f : Path} {text : String} (h : d.readText f = .ok text)
    (hsound : (Script.extract q (.ofPath f) text).hasErrors = false) : (readFile d q f).issues = [] := by
  obtain ⟨hread, hfaults⟩ := Bool.or_eq_false_iff.mp hsound
  rw [readFile, h]
  dsimp only
  rw [if_neg (Bool.eq_false_iff.mp hread), if_neg (of_decide_eq_false hfaults)]

/-- **All that is said about a file is what was said when it was read.** -/
theorem issuesAbout_conclude (hd : d.Tree) (hp : plan d s = .ok p) (rules : RuleSet) (time : Timestamp) {f : Path}
    (hf : f ∈ takenFiles d s p) :
    let found := discover d p.globs s.maxDepth p.baseName p.listable
    issuesAbout (conclude d s rules time p found
      ((p.taken found).map fun f => (f, readFile d (request s) f))).result f = (readFile d (request s) f).issues := by
  intro found
  have hbase := isDirName_baseName hp
  have hfound : f ∈ found.files := List.mem_of_mem_filter hf
  have hwalk : found.issues.filter (·.path = f) = [] := by
    refine List.filter_eq_nil_iff.mpr fun i hi => ?_
    simpa using path_ne_of_mem_searchDir hd _ _ _ _ hbase f hfound i hi
  have hnodup : (p.taken found).Nodup := (nodup_searchDir hd _ _ _ _ _).filter _
  show (found.issues ++ ((p.taken found).map fun f => (f, readFile d (request s) f)).flatMap fun o => o.2.issues).filter
    (·.path = f) = _
  rw [List.filter_append, hwalk, List.nil_append, List.flatMap_map]
  refine filter_flatMap_of_nodup hnodup hf (fun i hi => ?_) fun f' _ hne i hi => ?_
  · exact decide_eq_true (path_of_mem_issues hi)
  · exact decide_eq_false fun hpath => hne ((path_of_mem_issues hi).symm.trans hpath)

/-! ## Surveys -/

/-- **A survey that is made accounts for every file.** -/
theorem accounted_run (hd : d.Tree) (hp : plan d s = .ok p) (rules : RuleSet) (time : Timestamp) :
    ∃ outcome, run d s rules time = .ok outcome ∧ Accounted d s p outcome.result := by
  have hrun := run_eq hp rules time
  refine ⟨_, hrun, ?_⟩
  have habout := fun f => @issuesAbout_conclude d s p hd hp rules time f
  have hfollowed : ∀ id, _ := fun id => (followed_analyze_validate_iff _ rules s.validate id).trans
    ((Graph.followed_build_iff (p.space.resolver d) p.includeOnly (filesOf d s p) id).trans (mem_ids_filesOf_iff id))
  refine ⟨hfollowed, fun f hf fault hfault => ?_, fun f hf text htext hfaulty => ⟨?_, ?_⟩,
    fun f hf text htext hsound => ?_⟩
  · rw [habout f hf, readFile, hfault]
  · exact (hfollowed _).mpr ⟨f, hf, rfl, text, htext⟩
  · rw [habout f hf]
    exact issues_of_faulty htext hfaulty
  · rw [habout f hf]
    exact issues_of_sound htext hsound

/-- **No source file below the base directory drops out unseen**: it is followed or there is an issue about it, unless
the filters of the settings, a glob, the depth, or what is said about a directory above it tells why not. -/
theorem source_file_seen (hd : d.Rooted) (hp : plan d s = .ok p) (rules : RuleSet) (time : Timestamp)
    {rest : Disk.Name} (hrest : rest ≠ []) {content : Disk.Content} {mode : Nat}
    (hentry : d.entry? (p.baseName ++ rest) = some (.file content mode))
    (hsource : Script.isSourceFile (Disk.nameText (p.baseName ++ rest)) = true) :
    let f := Disk.nameText (p.baseName ++ rest)
    let found := discover d p.globs s.maxDepth p.baseName p.listable
    ∃ outcome, run d s rules time = .ok outcome ∧
      ((∃ m ∈ outcome.result.modules, m.id = p.space.moduleId f ∧ m.followed = true) ∨
        (∃ i ∈ outcome.result.issues, i.path = f) ∨ p.takes (p.space.moduleId f) = false ∨
          LeftOut p.globs s.maxDepth ⟨p.baseName, []⟩ rest found) := by
  intro f found
  obtain ⟨outcome, hrun, haccounted⟩ := accounted_run hd.toTree hp rules time
  refine ⟨outcome, hrun, ?_⟩
  have hwalk : f ∈ found.files ∨ LeftOut p.globs s.maxDepth ⟨p.baseName, []⟩ rest found :=
    @mem_searchDir_or d hd p.globs content mode rest (longestName d) s.maxDepth ⟨p.baseName, []⟩ p.listable hrest
      hentry hsource (Nat.le_add_left _ _)
  rcases hwalk with hfile | hout
  · by_cases htakes : p.takes (p.space.moduleId f) = true
    · have htaken : f ∈ takenFiles d s p := List.mem_filter.mpr ⟨hfile, htakes⟩
      cases hread : d.readText f with
      | ok text => exact .inl ((haccounted.followed _).mpr ⟨f, htaken, rfl, text, hread⟩)
      | error fault =>
        have hissue : Issue.ofFailure f (.ofFile f fault) ∈ issuesAbout outcome.result f := by
          rw [haccounted.unread f htaken fault hread]
          exact List.mem_singleton_self _
        exact .inr (.inl ⟨_, List.mem_of_mem_filter hissue, rfl⟩)
    · exact .inr (.inr (.inl (Bool.eq_false_iff.mpr htakes)))
  · exact .inr (.inr (.inr hout))

/-- A survey comes to its end and accounts for every file. -/
def Resilient (d : Disk) (s : Settings) (rules : RuleSet) (time : Timestamp) : Prop :=
  ∃ p outcome, plan d s = .ok p ∧ run d s rules time = .ok outcome ∧ Accounted d s p outcome.result

/-- A survey that comes to its end has a base directory. -/
theorem hasPath_of_resilient {rules : RuleSet} {time : Timestamp} (h : Resilient d s rules time) :
    d.HasPath s.baseDir := by
  obtain ⟨p, outcome, hp, -⟩ := h
  obtain ⟨base, hbase, -⟩ := exists_of_bind_eq_ok hp
  exact (exists_baseOf_iff d _).mp ⟨base, hbase⟩

theorem resilient_of_hasPath (hd : d.Tree) (hcheck : s.check d = .ok ()) (hpath : d.HasPath s.baseDir) (rules : RuleSet)
    (time : Timestamp) : Resilient d s rules time := by
  obtain ⟨p, hp⟩ := (exists_plan_iff hcheck).mpr hpath
  obtain ⟨outcome, hrun, haccounted⟩ := accounted_run hd hp rules time
  exact ⟨p, outcome, hp, hrun, haccounted⟩

/-- **Settings that pass their check make a survey that accounts for every file, iff the directory has a path.** -/
theorem resilient_iff (hd : d.Tree) (hcheck : s.check d = .ok ()) (rules : RuleSet) (time : Timestamp) :
    Resilient d s rules time ↔ d.HasPath s.baseDir :=
  ⟨hasPath_of_resilient, fun hpath => resilient_of_hasPath hd hcheck hpath rules time⟩

/-- Where the system takes every name as a path, each directory has one. -/
theorem hasPath_of_fits (hd : d.Rooted) (hfits : ∀ r ∈ d.entries, Disk.fits r.1 = true) {dir : Path}
    (hdir : d.isDir dir = true) : d.HasPath dir := by
  obtain ⟨name, mode, listable, hfind⟩ := Disk.isDir_iff.mp hdir
  have hentry := (Disk.locate_eq_ok_iff.mp (Disk.find_eq_ok_iff.mp hfind)).2.entry_eq
  have hreal := hd.find_nameText (Disk.fits_of_entry hfits hentry) hentry fun _ => nofun
  exact ⟨_, Disk.canonicalize_of_find hfits hfind, Disk.isDir_iff.mpr ⟨_, _, _, hreal⟩⟩

/-- **Where no name is too long, all settings that pass their check make a survey that accounts for every file.** -/
theorem resilient_of_fits (hd : d.Rooted) (hfits : ∀ r ∈ d.entries, Disk.fits r.1 = true)
    (hcheck : s.check d = .ok ()) (rules : RuleSet) (time : Timestamp) : Resilient d s rules time :=
  resilient_of_hasPath hd.toTree hcheck (hasPath_of_fits hd hfits (Settings.of_check hcheck).1) rules time

/-! ### Files in trouble -/

/-- A file that may not be read, one that is no script, one that is, and a directory that may not be listed. -/
def troubled : Disk where
  entries := [(["a.js"], .file .locked), (["b.js"], .file (.text "(")), (["c.js"], .file (.text "import './b.js'")),
    (["d"], .dir 0o755 false)]
  workingDir := []

example : (Script.extract (request ofRoot) (.ofPath ⟨"/b.js"⟩) "(").hasErrors = true := by decide

theorem check_troubled : ofRoot.check troubled = .ok () := by
  have hdir : troubled.isDir ofRoot.baseDir = true := Disk.isDir_iff.mpr ⟨_, _, _, Disk.find_root troubled⟩
  rw [Settings.check, hdir]
  exact eq_ok_of_toOption (by decide)

/-- None of them ends the survey. -/
theorem resilient_of_troubled_files : troubled.Tree ∧ ofRoot.check troubled = .ok () ∧
    Resilient troubled ofRoot {} default := by
  have hpath : troubled.HasPath ofRoot.baseDir :=
    ⟨⟨"/"⟩, Disk.canonicalize_root troubled, Disk.isDir_iff.mpr ⟨_, _, _, Disk.find_root troubled⟩⟩
  have htree : troubled.Tree := ⟨by decide, by decide⟩
  exact ⟨htree, check_troubled, (resilient_iff htree check_troubled {} default).mpr hpath⟩

/-! ### A directory without a path -/

/-- A name of 250 bytes. -/
def longName : String := .ofList (List.replicate 250 'd')

/-- Directories of that name, one in the other. -/
def down (n : Nat) : Disk.Name := List.replicate n longName

/-- Seventeen directories one in the other, and a link to the third of them. -/
def burrow : Disk where
  entries := (["zL"], .link ⟨"/".intercalate (down 3)⟩) ::
    (List.range 17).map fun n => (down (n + 1), .dir 0o755 true)
  workingDir := []

/-- A survey of the innermost directory, which is reached through the link. -/
def ofInnermost : Settings where
  baseDir := ⟨"/".intercalate ("zL" :: down 14)⟩

theorem proper_longName : Disk.Proper longName := by
  refine ⟨?_, ?_, ?_⟩
  all_goals decide +kernel

theorem eq_of_mem_longName {c : Char} (h : c ∈ longName.toList) : c = 'd' := by
  have hlist : longName.toList = List.replicate 250 'd' := String.toList_ofList
  rw [hlist] at h
  exact List.eq_of_mem_replicate h

theorem plain_longName : longName ≠ "" ∧ '/' ∉ longName.toList ∧ '\x00' ∉ longName.toList :=
  ⟨fun h => proper_longName.1 (.inl h), fun h => absurd (eq_of_mem_longName h) (by decide),
    fun h => absurd (eq_of_mem_longName h) (by decide)⟩

theorem plainName_down (n : Nat) : Disk.PlainName (down n) := by
  intro s hs
  rw [List.eq_of_mem_replicate hs]
  exact plain_longName

theorem tree_burrow : burrow.Tree where
  named := by
    intro r hr
    rcases List.mem_cons.mp hr with rfl | hr
    · exact ⟨by decide, by decide⟩
    · obtain ⟨n, -, rfl⟩ := List.mem_map.mp hr
      exact ⟨List.cons_ne_nil _ _, plainName_down (n + 1)⟩
  unique := by
    have hlengths : ((List.range 17).map fun n => down (n + 1)).Nodup := by
      refine List.Nodup.map (fun n n' h => ?_) List.nodup_range
      have hlength := congrArg List.length h
      rw [down, down, List.length_replicate, List.length_replicate] at hlength
      exact Nat.succ.inj hlength
    have hlink : ["zL"] ∉ (List.range 17).map fun n => down (n + 1) := by
      intro h
      obtain ⟨n, -, h⟩ := List.mem_map.mp h
      have hz : 'z' ∈ longName.toList := (List.cons.inj h).1 ▸ (by decide : 'z' ∈ "zL".toList)
      exact absurd (eq_of_mem_longName hz) (by decide)
    rw [burrow, List.map_cons, List.map_map]
    exact List.nodup_cons.mpr ⟨hlink, hlengths⟩

theorem entry?_down {n : Nat} (hn : n ≤ 17) : burrow.entry? (down n) = some (.dir 0o755 true) := by
  cases n with
  | zero => rfl
  | succ n =>
    refine tree_burrow.entry?_of_mem (List.mem_cons_of_mem _ (List.mem_map.mpr ⟨n, ?_, rfl⟩))
    exact List.mem_range.mpr hn

theorem isDirName_down {n : Nat} (hn : n ≤ 17) : burrow.isDirName (down n) = true :=
  (Disk.isDirName_iff _ _).mpr ⟨_, _, entry?_down hn⟩

theorem rooted_burrow : burrow.Rooted where
  toTree := tree_burrow
  proper := by
    intro r hr s hs
    rcases List.mem_cons.mp hr with rfl | hr
    · rw [List.mem_singleton.mp hs]
      exact ⟨by decide, by decide, by decide⟩
    · obtain ⟨n, -, rfl⟩ := List.mem_map.mp hr
      rw [List.eq_of_mem_replicate hs]
      exact proper_longName
  inside := by
    intro r hr
    rcases List.mem_cons.mp hr with rfl | hr
    · exact isDirName_down (Nat.zero_le 17)
    · obtain ⟨n, hn, rfl⟩ := List.mem_map.mp hr
      have habove : (down (n + 1)).dropLast = down n := List.dropLast_replicate
      rw [habove]
      exact isDirName_down (Nat.le_of_lt (List.mem_range.mp hn))

/-- The way down, step by step. -/
theorem walk_down (links : Nat) {n k : Nat} (hn : k + n ≤ 17) :
    Disk.Walk burrow links (down k) (down n) (.found (down (k + n)) (.dir 0o755 true)) := by
  induction n generalizing k with
  | zero => exact .stop (entry?_down hn)
  | succ n ih =>
    have hnext : down k ++ [longName] = down (k + 1) := List.replicate_succ'.symm
    have hwalk := ih (k := k + 1) (by omega)
    rw [Nat.add_right_comm] at hwalk
    have hentry : burrow.entry? (down k ++ [longName]) = some (.dir 0o755 true) := hnext ▸ entry?_down (by omega)
    refine .enter (isDirName_down (by omega)) proper_longName hentry (fun _ => nofun) ?_
    rw [hnext]
    exact hwalk

/-- How long a path down is. -/
theorem size_down (n : Nat) : ("/".intercalate (down (n + 1))).utf8ByteSize = 250 + 251 * n := by
  have hname : longName.utf8ByteSize = 250 := by decide +kernel
  induction n with
  | zero =>
    rw [down, List.replicate_one, String.intercalate_singleton]
    exact hname
  | succ n ih =>
    rw [down, List.replicate_succ] at ih
    rw [down, List.replicate_succ, List.replicate_succ, String.intercalate_cons_cons, String.utf8ByteSize_append,
      String.utf8ByteSize_append, ih, hname]
    have hsep : "/".utf8ByteSize = 1 := by decide
    omega

theorem find_innermost : burrow.find ofInnermost.baseDir true = .ok (down 17, .dir 0o755 true) := by
  have hplain : Disk.PlainName ("zL" :: down 14) := by
    intro s hs
    rcases List.mem_cons.mp hs with rfl | hs
    · decide
    · exact plainName_down 14 s hs
  have hsize : ("/".intercalate ("zL" :: down 14)).utf8ByteSize = 3516 := by
    have hdown : down 14 = longName :: down 13 := List.replicate_succ
    have hlink : "zL".utf8ByteSize = 2 := by decide
    have hsep : "/".utf8ByteSize = 1 := by decide
    rw [hdown, String.intercalate_cons_cons, String.utf8ByteSize_append, String.utf8ByteSize_append, ← hdown, size_down,
      hlink, hsep]
  have hadm : Disk.Admissible ofInnermost.baseDir :=
    Disk.admissible_intercalate hplain (List.cons_ne_nil _ _) (hsize.trans_le (by decide))
  obtain ⟨hsteps, habs⟩ := Disk.steps_intercalate hplain (List.cons_ne_nil _ _)
  obtain ⟨htarget, hrelative⟩ := Disk.steps_intercalate (plainName_down 3) (by decide)
  refine Disk.find_eq_ok_iff.mpr (Disk.locate_eq_ok_iff.mpr ⟨hadm, ?_⟩)
  rw [ofInnermost, hsteps, habs]
  have hlink : burrow.entry? ([] ++ ["zL"]) = some (.link ⟨"/".intercalate (down 3)⟩) :=
    tree_burrow.entry?_of_mem List.mem_cons_self
  refine .link rfl ⟨by decide, by decide, by decide⟩ hlink ?_
  have hall : down 3 ++ down 14 = down 17 := List.replicate_append_replicate
  rw [htarget, hrelative, hall]
  exact walk_down 39 (n := 17) (k := 0) (Nat.le_refl 17)

/-- The check sees a directory. -/
theorem check_burrow : ofInnermost.check burrow = .ok () := by
  have hdir : burrow.isDir ofInnermost.baseDir = true := Disk.isDir_iff.mpr ⟨_, _, _, find_innermost⟩
  rw [Settings.check, hdir]
  exact eq_ok_of_toOption (by decide)

/-- The canonical path is one that the system does not take. -/
theorem not_hasPath_innermost : ¬ burrow.HasPath ofInnermost.baseDir := by
  rintro ⟨real, hreal, hdir⟩
  have hname : burrow.realPath ofInnermost.baseDir = .ok (Disk.nameText (down 17)) := by
    rw [Disk.realPath, Disk.realName_of_find find_innermost]
    rfl
  obtain rfl := Except.ok.inj ((Disk.realPath_of_canonicalize hreal).symm.trans hname)
  obtain ⟨_, _, _, hfind⟩ := Disk.isDir_iff.mp hdir
  obtain ⟨⟨-, -, hsize⟩, -⟩ := Disk.locate_eq_ok_iff.mp (Disk.find_eq_ok_iff.mp hfind)
  have htext (name : Disk.Name) : (Disk.nameText name).text = "/" ++ "/".intercalate name := rfl
  have hdown : ("/".intercalate (down 17)).utf8ByteSize = 4266 := size_down 16
  rw [htext, String.utf8ByteSize_append, hdown] at hsize
  omega

/-- **A directory that passes the check and cannot be surveyed.** -/
theorem not_resilient_of_deep_directory : burrow.Rooted ∧ ofInnermost.check burrow = .ok () ∧
    ∀ rules time, ¬ Resilient burrow ofInnermost rules time :=
  ⟨rooted_burrow, check_burrow, fun _ _ h => not_hasPath_innermost (hasPath_of_resilient h)⟩

end Survey

end ImportSurvey
