import Mathlib.Data.List.TakeWhile
import ImportSurvey.Resolve.Search
import ImportSurvey.Proofs.Respelling

/-
  What a search answers from a memory that agrees with the disk.

  A resolver remembers answers of the disk under the components of a path, and asks the disk with the text of the
  path.  So all hangs on one thing: that a path leads where the path leads that its components spell
  (`Faithful`).  As long as it does for all paths that are asked for, every entry agrees with the disk
  (`Recalls`), whatever was asked before and whatever was dropped since, and a search answers from any such memory
  what it would find on the disk alone (`Answers`): for each search that answer is a value that no memory occurs in
  (`describe`, `locatePackage`, `meaning`, `inside`).

  Tidy paths are faithful, and so are all paths that end in a name and are not too long for the system.
-/
namespace ImportSurvey.Resolve

/-! ## Faithful paths -/

/-- The path leads where the path leads that its components spell. -/
def Faithful (d : Disk) (p : Path) : Prop := d.find p true = d.find (.ofComponents p.components) true

theorem Faithful.of_tidy {p : Path} (h : p.Tidy) (d : Disk) : Faithful d p := by
  rw [Faithful, h.ofComponents_components]

/-- The description in a file, as it is found without memory. -/
def describe (d : Disk) (file : Path) : Except Failure (Option PackageEntry) :=
  if d.isFile file then
    match d.readText file with
    | .error f => .error (.ofFile file f)
    | .ok text =>
      match PackageEntry.ofText text with
      | .error f => .error (.jsonParse file f)
      | .ok entry => .ok (some entry)
  else .ok none

/-- The directory of a package, as it is found without memory. -/
def locatePackage (d : Disk) (start : Path) (name : String) : Option Path :=
  (start.ancestors.map fun a => (a.join "node_modules").join name).find? d.isDir

theorem Faithful.isFile_eq {d : Disk} {p : Path} (h : Faithful d p) :
    d.isFile p = d.isFile (.ofComponents p.components) := by
  rw [Disk.isFile, h, Disk.isFile]

/-- A description that can be read is the same, however its path is spelled. -/
theorem Faithful.describe_iff {d : Disk} {p : Path} (h : Faithful d p) (known : Option PackageEntry) :
    describe d p = .ok known ↔ describe d (.ofComponents p.components) = .ok known := by
  have hread : d.readText p = d.readText (.ofComponents p.components) := by
    rw [Disk.readText, h, Disk.readText]
  rw [describe, describe, h.isFile_eq, hread]
  by_cases hfile : d.isFile (.ofComponents p.components) = true
  · rw [if_pos hfile, if_pos hfile]
    cases d.readText (.ofComponents p.components) with
    | error f => exact ⟨fun hf => (by cases hf), fun hf => (by cases hf)⟩
    | ok text =>
      dsimp only
      cases PackageEntry.ofText text with
      | error f => exact ⟨fun hf => (by cases hf), fun hf => (by cases hf)⟩
      | ok entry => exact Iff.rfl
  · rw [if_neg hfile, if_neg hfile]

/-! ## Memories that agree with the disk -/

/-- All that is remembered is what would be found again, and the directories of packages are such as `trusted`
says. -/
structure Recalls (d : Disk) (trusted : (Key × String) × Option Path → Prop) (m : Memory) : Prop where
  files : ∀ e ∈ m.files, d.isFile (.ofComponents e.1) = e.2
  packageDirs : ∀ e ∈ m.packageDirs, trusted e
  descriptions : ∀ e ∈ m.descriptions, describe d (.ofComponents e.1) = .ok e.2

variable {d : Disk} {trusted : (Key × String) × Option Path → Prop}

theorem recalls_empty (d : Disk) (trusted : (Key × String) × Option Path → Prop) : Recalls d trusted {} where
  files _ he := absurd he List.not_mem_nil
  packageDirs _ he := absurd he List.not_mem_nil
  descriptions _ he := absurd he List.not_mem_nil

theorem mem_of_lookup {α β : Type} [BEq α] [LawfulBEq α] {l : List (α × β)} {k : α} {v : β}
    (h : l.lookup k = some v) : (k, v) ∈ l := by
  obtain ⟨before, after, hl, -⟩ := List.lookup_eq_some_iff.mp h
  exact hl ▸ List.mem_append_right before (List.mem_cons_self ..)

/-- Using a description may drop others. -/
theorem Recalls.touch {m : Memory} (h : Recalls d trusted m) {key : Key} {known : Option PackageEntry}
    (hknown : describe d (.ofComponents key) = .ok known) : Recalls d trusted (touch key known m) where
  files := h.files
  packageDirs := h.packageDirs
  descriptions e he := by
    rcases List.mem_cons.mp (List.mem_of_mem_take he) with rfl | he
    · exact hknown
    · exact h.descriptions e (List.mem_of_mem_filter he)

/-- The search answers so from every memory that agrees with the disk, and leaves such a memory behind. -/
def Answers {α : Type} (d : Disk) (trusted : (Key × String) × Option Path → Prop) (x : Search α) (a : α) : Prop :=
  ∀ m, Recalls d trusted m → ∃ m', x m = (a, m') ∧ Recalls d trusted m'

section

variable {α β : Type}

theorem answers_pure (a : α) : Answers d trusted (pure a) a := fun m hm => ⟨m, rfl, hm⟩

theorem Answers.bind {x : Search α} {a : α} (hx : Answers d trusted x a) {f : α → Search β} {b : β}
    (hf : Answers d trusted (f a) b) : Answers d trusted (x >>= f) b := by
  intro m hm
  obtain ⟨m', hxm, hm'⟩ := hx m hm
  obtain ⟨m'', hfm, hm''⟩ := hf m' hm'
  refine ⟨m'', ?_, hm''⟩
  show (match x m with | (a, m) => f a m) = _
  rw [hxm]
  exact hfm

theorem get_bind (f : Memory → Search α) (m : Memory) : (get >>= f) m = f m m := rfl

theorem modify_bind (f : Memory → Memory) (a : α) (m : Memory) :
    (do modify f; return a : Search α) m = (a, f m) := rfl

/-- Using a description that is as it would be found. -/
theorem answers_touch {file : Path} (h : Faithful d file) {known : Option PackageEntry}
    (hknown : describe d file = .ok known) (a : α) :
    Answers d trusted (do modify (touch file.components known); return a) a :=
  fun m hm => ⟨touch file.components known m, modify_bind _ a m, hm.touch ((h.describe_iff known).mp hknown)⟩

end

/-! ## Files -/

theorem answers_isFile {p : Path} (h : Faithful d p) : Answers d trusted (isFile d p) (d.isFile p) := by
  intro m hm
  rw [isFile]
  split
  · rename_i known hknown
    refine ⟨m, ?_, hm⟩
    rw [h.isFile_eq, hm.files _ (mem_of_lookup hknown)]
  · refine ⟨_, rfl, ⟨fun e he => ?_, hm.packageDirs, hm.descriptions⟩⟩
    rcases List.mem_cons.mp he with rfl | he
    · exact h.isFile_eq.symm
    · exact hm.files e he

theorem answers_firstFile {ps : List Path} (h : ∀ p ∈ ps, Faithful d p) :
    Answers d trusted (firstFile d ps) (ps.find? d.isFile) := by
  induction ps with
  | nil => exact answers_pure none
  | cons p ps ih =>
    rw [firstFile]
    refine (answers_isFile (h p List.mem_cons_self)).bind ?_
    cases hp : d.isFile p with
    | true =>
      rw [List.find?_cons_of_pos hp]
      exact answers_pure (some p)
    | false =>
      rw [List.find?_cons_of_neg (by rw [hp]; exact Bool.false_ne_true)]
      exact ih fun q hq => h q (List.mem_cons_of_mem p hq)

/-- The paths that are tried for a path: as it is, with each extension, and as a directory with an index. -/
def tries (p : Path) : List Path := p :: withExtensions p ++ indexFiles p

theorem tidy_of_mem_tries {p q : Path} (h : p.Tidy) (hq : q ∈ tries p) : q.Tidy := by
  have hextensions : ∀ e ∈ probeExtensions,
      e.toList ≠ [] ∧ '/' ∉ e.toList ∧ Path.Names ("index." ++ e) := by decide
  rcases List.mem_append.mp hq with hq | hq
  · rcases List.mem_cons.mp hq with rfl | hq
    · exact h
    · obtain ⟨e, he, rfl⟩ := List.mem_map.mp hq
      exact h.withExtension (hextensions e he).1 (hextensions e he).2.1
  · obtain ⟨e, he, rfl⟩ := List.mem_map.mp hq
    exact h.join (hextensions e he).2.2

/-- The file that a path means, as it is found without memory. -/
def meaning (d : Disk) (p : Path) : Option Path :=
  match (p :: withExtensions p).find? d.isFile with
  | some found => some found
  | none => if d.isDir p then (indexFiles p).find? d.isFile else none

/-- All paths that are asked for when `p` is probed are faithful. -/
def Probable (d : Disk) (p : Path) : Prop := ∀ q ∈ tries p, Faithful d q

theorem Probable.answers {p : Path} (h : Probable d p) : Answers d trusted (probe d p) (meaning d p) := by
  rw [probe, meaning]
  refine (answers_firstFile fun q hq => h q (List.mem_append_left _ hq)).bind ?_
  cases (p :: withExtensions p).find? d.isFile with
  | some found => exact answers_pure (some found)
  | none =>
    dsimp only
    split
    · exact answers_firstFile fun q hq => h q (List.mem_append_right _ hq)
    · exact answers_pure none

theorem answers_firstProbe {ps : List Path} (h : ∀ p ∈ ps, Probable d p) :
    Answers d trusted (firstProbe d ps) (ps.findSome? (meaning d)) := by
  induction ps with
  | nil => exact answers_pure none
  | cons p ps ih =>
    rw [firstProbe, List.findSome?_cons]
    refine (h p List.mem_cons_self).answers.bind ?_
    cases meaning d p with
    | some found => exact answers_pure (some found)
    | none => exact ih fun q hq => h q (List.mem_cons_of_mem p hq)

/-! ## Packages -/

theorem answers_description {file : Path} (h : Faithful d file) :
    Answers d trusted (description d file) (describe d file) := by
  intro m hm
  rw [description, get_bind]
  cases hlookup : m.descriptions.lookup file.components with
  | some known =>
    have hremembered := hm.descriptions (file.components, known) (mem_of_lookup hlookup)
    have hknown := (h.describe_iff known).mpr hremembered
    rw [hknown]
    exact answers_touch h hknown _ m hm
  | none =>
    dsimp only
    refine (answers_isFile h).bind ?_ m hm
    by_cases hfile : d.isFile file = true
    · rw [if_pos hfile]
      cases hread : d.readText file with
      | error f =>
        -- failures are not remembered, so there is nothing to be kept right
        have hdescribe : describe d file = .error (.ofFile file f) := by rw [describe, if_pos hfile, hread]
        rw [hdescribe]
        exact answers_pure _
      | ok text =>
        dsimp only
        cases hentry : PackageEntry.ofText text with
        | error f =>
          have hdescribe : describe d file = .error (.jsonParse file f) := by
            rw [describe, if_pos hfile, hread]
            dsimp only
            rw [hentry]
          rw [hdescribe]
          exact answers_pure _
        | ok entry =>
          have hdescribe : describe d file = .ok (some entry) := by
            rw [describe, if_pos hfile, hread]
            dsimp only
            rw [hentry]
          rw [hdescribe]
          exact answers_touch h hdescribe _
    · have hdescribe : describe d file = .ok none := by rw [describe, if_neg hfile]
      rw [if_neg hfile, hdescribe]
      exact answers_touch h hdescribe _

/-- What is asked for in the directory of a package is faithful. -/
structure Reliable (d : Disk) (dir : Path) : Prop where
  description : Faithful d (dir.join "package.json")
  index : Probable d (dir.join "index")

theorem Probable.of_tidy {p : Path} (h : p.Tidy) : Probable d p :=
  fun _ hq => .of_tidy (tidy_of_mem_tries h hq) d

theorem Probable.normalize (p : Path) : Probable d p.normalize := .of_tidy (Path.tidy_normalize p)

/-- The targets of exports in a package. -/
def exactIn (dir : Path) (entry : PackageEntry) (subpath : Option String) : List Path :=
  let targets := match entry.exports with
    | some e => targetsFor e subpath
    | none => []
  targets.map fun t => (dir.join t).normalize

/-- What is probed in a package if its exports lead to no file. -/
def probedIn (dir : Path) (entry : PackageEntry) : Option String → List Path
  | some s => [(dir.join s).normalize]
  | none => (entry.module.toList ++ entry.main.toList).map (fun f => (dir.join f).normalize) ++ [dir.join "index"]

/-- The file that a reference into a package means, as it is found without memory. -/
def inside (d : Disk) (dir : Path) (subpath : Option String) : Except Failure (Option Path) :=
  match describe d (dir.join "package.json") with
  | .error f => .error f
  | .ok found =>
    let entry := found.getD {}
    .ok (((exactIn dir entry subpath).find? d.isFile).or ((probedIn dir entry subpath).findSome? (meaning d)))

theorem Reliable.probable {dir : Path} (h : Reliable d dir) (entry : PackageEntry) (subpath : Option String) :
    ∀ p ∈ probedIn dir entry subpath, Probable d p := by
  intro p hp
  cases subpath with
  | some s =>
    rw [List.mem_singleton.mp hp]
    exact Probable.normalize _
  | none =>
    rcases List.mem_append.mp hp with hp | hp
    · obtain ⟨f, -, rfl⟩ := List.mem_map.mp hp
      exact Probable.normalize _
    · rw [List.mem_singleton.mp hp]
      exact h.index

theorem Reliable.answers {dir : Path} (h : Reliable d dir) (subpath : Option String) :
    Answers d trusted (inPackage d dir subpath) (inside d dir subpath) := by
  rw [inPackage, inside]
  refine (answers_description h.description).bind ?_
  cases describe d (dir.join "package.json") with
  | error f => exact answers_pure _
  | ok found =>
    have hexact : ∀ p ∈ exactIn dir (found.getD {}) subpath, Faithful d p := by
      intro p hp
      obtain ⟨t, -, rfl⟩ := List.mem_map.mp hp
      exact .of_tidy (Path.tidy_normalize _) d
    have hprobed := h.probable (found.getD {}) subpath
    refine (answers_firstFile hexact).bind ?_
    dsimp only
    cases (exactIn dir (found.getD {}) subpath).find? d.isFile with
    | some p => exact answers_pure _
    | none =>
      rw [Option.none_or]
      cases subpath with
      | some s =>
        rw [probedIn, List.findSome?_singleton]
        exact (hprobed _ List.mem_cons_self).answers.bind (answers_pure _)
      | none => exact (answers_firstProbe hprobed).bind (answers_pure _)

theorem Reliable.of_tidy {dir : Path} (h : dir.Tidy) : Reliable d dir where
  description := .of_tidy (h.join (by decide)) d
  index := .of_tidy (h.join (by decide))

/-! ## References -/

/-- The file that a reference means, as it is found without memory. -/
def destination (d : Disk) (reference : String) (file : Path) : Except Failure (Option Path) :=
  if reference.isEmpty then .ok none
  else if isPathReference reference then .ok (meaning d ((directoryOf file).join reference).normalize)
  else
    let r := PackageReference.ofText reference
    match locatePackage d (directoryOf file) r.name with
    | some dir => inside d dir r.subpath
    | none => .ok none

/-- A reference to a package is followed up in the directory of the package. -/
theorem resolvePath_of_package {reference : String} (hne : reference.isEmpty = false)
    (hpath : isPathReference reference = false) (file : Path) (m : Memory) :
    resolvePath d reference file m =
      match packageDir d (directoryOf file) (PackageReference.ofText reference).name m with
      | (found, m) => (match found with
        | some dir => inPackage d dir (PackageReference.ofText reference).subpath
        | none => return .ok none : Search (Except Failure (Option Path))) m := by
  rw [resolvePath, hne, hpath, if_neg Bool.false_ne_true, if_neg Bool.false_ne_true]
  rfl

/-- **A reference leads where it leads without memory**, if the directory of a package is found where it is without
memory. -/
theorem resolvePath_eq {reference : String} {file : Path} {m : Memory} (hm : Recalls d trusted m)
    (hdir : ∃ m', packageDir d (directoryOf file) (PackageReference.ofText reference).name m =
      (locatePackage d (directoryOf file) (PackageReference.ofText reference).name, m') ∧ Recalls d trusted m')
    (hreliable : reference.isEmpty = false → isPathReference reference = false → ∀ dir,
      locatePackage d (directoryOf file) (PackageReference.ofText reference).name = some dir → Reliable d dir) :
    ∃ m', resolvePath d reference file m = (destination d reference file, m') ∧ Recalls d trusted m' := by
  by_cases hempty : reference.isEmpty = true
  · rw [resolvePath, destination, if_pos hempty, if_pos hempty]
    exact answers_pure _ m hm
  by_cases hpath : isPathReference reference = true
  · rw [resolvePath, destination, if_neg hempty, if_neg hempty, if_pos hpath, if_pos hpath]
    generalize hc : ((directoryOf file).join reference).normalize = c
    have hprobe : Answers d trusted (probe d c) (meaning d c) := (hc ▸ Probable.normalize _ : Probable d c).answers
    have hanswer : Answers d trusted (do return .ok (← probe d c) : Search (Except Failure (Option Path)))
        (.ok (meaning d c)) := hprobe.bind (answers_pure (Except.ok (meaning d c)))
    exact hanswer m hm
  have hin := hreliable (Bool.eq_false_iff.mpr hempty) (Bool.eq_false_iff.mpr hpath)
  obtain ⟨m', hrun, hm'⟩ := hdir
  rw [resolvePath_of_package (Bool.eq_false_iff.mpr hempty) (Bool.eq_false_iff.mpr hpath), destination, if_neg hempty,
    if_neg hpath, hrun]
  dsimp only
  cases hfound : locatePackage d (directoryOf file) (PackageReference.ofText reference).name with
  | some dir => exact (hin dir hfound).answers _ m' hm'
  | none => exact answers_pure (Except.ok none) m' hm'

end ImportSurvey.Resolve
