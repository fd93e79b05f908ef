import ImportSurvey.Proofs.ExportTargets
import ImportSurvey.Proofs.PackageNames
import ImportSurvey.Proofs.Joining
import ImportSurvey.Proofs.Remembering

/-
  Where a reference leads is the first file of a list.

  For every reference there is a list of paths, fixed by the disk's directories and package descriptions, and the
  reference leads to the first of them that is a file (`firstHit_of_searchable`).  The search itself asks for index
  files only where it sees a directory; the list leaves that out, for whatever holds a file is a directory
  (`isDir_of_isFile_join`).  The one path for which this fails is the empty one: it is not there for the system, but
  what is joined to it stands in the working directory.
-/
namespace ImportSurvey

namespace Disk

/-! ## What holds a file is a directory -/

variable {d : Disk}

theorem isFile_iff {p : Path} :
    d.isFile p = true ↔ ∃ name content mode, d.find p true = .ok (name, .file content mode) := by
  rw [isFile]
  split
  · rename_i name content mode h
    exact ⟨fun _ => ⟨name, content, mode, h⟩, fun _ => rfl⟩
  · rename_i hno
    refine ⟨fun h => (by cases h), ?_⟩
    rintro ⟨name, content, mode, h⟩
    exact absurd h (hno name content mode)

/-- A separator behind a directory changes nothing. -/
theorem Walk.of_isDirName {links : Nat} {here : Name} (h : d.isDirName here = true) {junk : List String}
    (hjunk : junk = [] ∨ junk = [""]) : ∃ name mode listable, Walk d links here junk (.found name (.dir mode listable)) := by
  obtain ⟨mode, listable, he⟩ := (isDirName_iff d here).mp h
  refine ⟨here, mode, listable, ?_⟩
  rcases hjunk with rfl | rfl
  · exact .stop he
  · exact .stay h (.inl rfl) (.stop he)

/-- Wherever a walk goes on, it is in a directory. -/
theorem Walk.dir_of_append {links : Nat} {here name : Name} {e : Entry} {before : List String} {s : String}
    {rest junk : List String} (h : Walk d links here (before ++ s :: rest) (.found name e))
    (hjunk : junk = [] ∨ junk = [""]) :
    ∃ name mode listable, Walk d links here (before ++ junk) (.found name (.dir mode listable)) := by
  generalize htodo : before ++ s :: rest = todo at h
  generalize hplace : Place.found name e = place at h
  induction h generalizing before with
  | stop => exact absurd htodo (List.append_ne_nil_of_right_ne_nil _ (List.cons_ne_nil s rest))
  | stay hdir hs _ ih =>
    cases before with
    | nil => exact Walk.of_isDirName hdir hjunk
    | cons b before =>
      obtain ⟨rfl, hrest⟩ := List.cons.inj htodo
      obtain ⟨name, mode, listable, hwalk⟩ := ih hrest hplace
      exact ⟨name, mode, listable, .stay hdir hs hwalk⟩
  | up hdir _ ih =>
    cases before with
    | nil => exact Walk.of_isDirName hdir hjunk
    | cons b before =>
      obtain ⟨rfl, hrest⟩ := List.cons.inj htodo
      obtain ⟨name, mode, listable, hwalk⟩ := ih hrest hplace
      exact ⟨name, mode, listable, .up hdir hwalk⟩
  | missing => cases hplace
  | @link links here t rest' target place hdir hs he _ ih =>
    cases before with
    | nil => exact Walk.of_isDirName hdir hjunk
    | cons b before =>
      obtain ⟨rfl, rfl⟩ := List.cons.inj htodo
      obtain ⟨name, mode, listable, hwalk⟩ := ih (List.append_assoc ..) hplace
      rw [List.append_assoc] at hwalk
      exact ⟨name, mode, listable, .link hdir hs he hwalk⟩
  | enter hdir hs he hlink _ ih =>
    cases before with
    | nil => exact Walk.of_isDirName hdir hjunk
    | cons b before =>
      obtain ⟨rfl, hrest⟩ := List.cons.inj htodo
      obtain ⟨name, mode, listable, hwalk⟩ := ih hrest hplace
      exact ⟨name, mode, listable, .enter hdir hs he hlink hwalk⟩

/-- **Whatever holds a file is a directory**, but for the empty path. -/
theorem isDir_of_isFile_join {p : Path} (hp : p.text ≠ "") {q : String} (hq : Path.isAbsolute ⟨q⟩ = false)
    (h : d.isFile (p.join q) = true) : d.isDir p = true := by
  obtain ⟨name, content, mode, hfind⟩ := isFile_iff.mp h
  obtain ⟨⟨-, hnul, hsize⟩, hwalk⟩ := locate_eq_ok_iff.mp (find_eq_ok_iff.mp hfind)
  obtain ⟨t, ht⟩ := Path.text_join hp hq
  have hadmissible : Admissible p := by
    refine ⟨Bool.eq_false_iff.mpr fun hempty => hp (String.isEmpty_iff.mp hempty), ?_, ?_⟩
    · rw [Bool.eq_false_iff, ne_eq, List.contains_iff_mem] at hnul ⊢
      intro hin
      rw [ht, String.toList_append] at hnul
      exact hnul (List.mem_append_left _ hin)
    · rw [ht, String.utf8ByteSize_append] at hsize
      omega
  -- the walk to the file passes the place where the walk to `p` ends
  obtain ⟨s, ss, junk, hjunk, hsegments, hjoin⟩ := Path.segments_join hp hq
  obtain ⟨u, us, hu⟩ := List.exists_cons_of_ne_nil (Path.segments_ne_nil q.toList)
  rw [hjoin, hu, Path.isAbsolute_join hp hq, List.map_cons, List.map_append, List.map_cons, ← List.cons_append] at hwalk
  have hjunk' : junk.map String.ofList = [] ∨ junk.map String.ofList = [""] := by
    rcases hjunk with rfl | rfl
    · exact .inl rfl
    · exact .inr rfl
  obtain ⟨name', mode', listable, hdir⟩ := hwalk.dir_of_append hjunk'
  refine isDir_iff.mpr ⟨name', mode', listable, find_eq_ok_iff.mpr (locate_eq_ok_iff.mpr ⟨hadmissible, ?_⟩)⟩
  rw [hsegments, List.map_cons, List.map_append, ← List.cons_append]
  exact hdir

end Disk

namespace Resolve

variable {d : Disk}

/-! ## What is looked at -/

/-- What a path means is the first file among those that are tried. -/
theorem meaning_eq {p : Path} (h : p.text = "" → ∀ i ∈ indexFiles p, d.isFile i = false) :
    meaning d p = (tries p).find? d.isFile := by
  rw [meaning, tries, List.find?_append]
  cases (p :: withExtensions p).find? d.isFile with
  | some found => rfl
  | none =>
    rw [Option.none_or]
    cases hdir : d.isDir p with
    | true => rfl
    | false =>
      -- what is no directory holds no file
      have hnone : ∀ i ∈ indexFiles p, ¬ d.isFile i = true := by
        intro i hi hfile
        by_cases hempty : p.text = ""
        · rw [h hempty i hi] at hfile
          cases hfile
        · have hrelative : ∀ e ∈ probeExtensions, Path.isAbsolute ⟨"index." ++ e⟩ = false := by decide
          obtain ⟨e, he, rfl⟩ := List.mem_map.mp hi
          rw [Disk.isDir_of_isFile_join hempty (hrelative e he) hfile] at hdir
          cases hdir
      exact (List.find?_eq_none.mpr hnone).symm

/-- What the description of a package says; without a file it says nothing. -/
inductive Describes (d : Disk) (file : Path) : PackageEntry → Prop where
  | missing : d.isFile file = false → Describes d file {}
  | read {text : String} {entry : PackageEntry} : d.isFile file = true → d.readText file = .ok text →
      PackageEntry.ofText text = .ok entry → Describes d file entry

/-- A description that is there and cannot be read. -/
def Unreadable (d : Disk) (file : Path) : Prop :=
  d.isFile file = true ∧ ∀ text, d.readText file = .ok text → ∃ f, PackageEntry.ofText text = .error f

/-- The targets that a package exports for a subpath. -/
def Exports (entry : PackageEntry) (subpath : Option String) (targets : List String) : Prop :=
  match entry.exports with
  | some e => Applies e subpath targets
  | none => targets = []

/-- A reference that starts as a path does. -/
def NamesPath (reference : String) : Prop :=
  reference.toList.head? = some '.' ∨ reference.toList.head? = some '/'

/-- The package that a reference names, by the directory in which it is found, and the subpath. -/
structure NamesPackage (d : Disk) (reference : String) (file dir : Path) (subpath : Option String) : Prop where
  not_empty : reference ≠ ""
  not_path : ¬ NamesPath reference
  found : ∃ name, Splits reference name subpath ∧ locatePackage d (directoryOf file) name = some dir

/-- What is looked at for a reference: paths that are asked for as they are, and then paths that are tried. -/
inductive LooksAt (d : Disk) (reference : String) (file : Path) : List Path → List Path → Prop where
  | path : NamesPath reference → LooksAt d reference file [] [((directoryOf file).join reference).normalize]
  | nothing : ¬ NamesPath reference → (∀ dir subpath, ¬ NamesPackage d reference file dir subpath) →
      LooksAt d reference file [] []
  | package {dir : Path} {subpath : Option String} {entry : PackageEntry} {targets : List String} :
      NamesPackage d reference file dir subpath → Describes d (dir.join "package.json") entry →
        Exports entry subpath targets →
          LooksAt d reference file (targets.map fun t => (dir.join t).normalize) (probedIn dir entry subpath)

/-- What a resolver answers that remembers nothing. -/
def answer (d : Disk) (reference : String) (file : Path) : Except Failure (Option Path) :=
  ((resolvePath d reference file).run {}).1

/-- The answer is the first file of what is looked at, and it fails only where the description of the package
cannot be read. -/
structure FirstHit (d : Disk) (reference : String) (file : Path) : Prop where
  found : ∀ r, answer d reference file = .ok r ↔ ∃ exact probed, LooksAt d reference file exact probed ∧
    (exact ++ probed.flatMap tries).find? d.isFile = r
  fails : (∃ f, answer d reference file = .error f) ↔ ∃ dir subpath, NamesPackage d reference file dir subpath ∧
    Unreadable d (dir.join "package.json")

/-! ## What is found -/

theorem isPathReference_iff {reference : String} : isPathReference reference = true ↔ NamesPath reference := by
  rw [isPathReference, NamesPath]
  cases reference.toList with
  | nil => simp
  | cons c cs => simp

theorem describes_iff {file : Path} {entry : PackageEntry} :
    Describes d file entry ↔ ∃ found, describe d file = .ok found ∧ found.getD {} = entry := by
  rw [describe]
  constructor
  · intro h
    cases h with
    | missing hfile => exact ⟨none, by rw [if_neg (by rw [hfile]; exact Bool.false_ne_true)], rfl⟩
    | read hfile hread hentry =>
      refine ⟨some entry, ?_, rfl⟩
      rw [if_pos hfile, hread]
      dsimp only
      rw [hentry]
  · rintro ⟨found, hfound, rfl⟩
    by_cases hfile : d.isFile file = true
    · rw [if_pos hfile] at hfound
      cases hread : d.readText file with
      | error f =>
        rw [hread] at hfound
        cases hfound
      | ok text =>
        rw [hread] at hfound
        dsimp only at hfound
        cases hentry : PackageEntry.ofText text with
        | error f =>
          rw [hentry] at hfound
          cases hfound
        | ok entry =>
          rw [hentry] at hfound
          obtain rfl := Except.ok.inj hfound
          exact .read hfile hread hentry
    · rw [if_neg hfile] at hfound
      obtain rfl := Except.ok.inj hfound
      exact .missing (Bool.eq_false_iff.mpr hfile)

theorem unreadable_iff {file : Path} : Unreadable d file ↔ ∃ f, describe d file = .error f := by
  rw [describe, Unreadable]
  by_cases hfile : d.isFile file = true
  · rw [if_pos hfile, and_iff_right hfile]
    cases hread : d.readText file with
    | error f => exact ⟨fun _ => ⟨_, rfl⟩, fun _ text htext => by cases htext⟩
    | ok text =>
      dsimp only
      cases hentry : PackageEntry.ofText text with
      | error f =>
        refine ⟨fun _ => ⟨_, rfl⟩, fun _ text' htext => ⟨f, ?_⟩⟩
        rw [← Except.ok.inj htext, hentry]
      | ok entry =>
        constructor
        · intro h
          obtain ⟨f, hf⟩ := h text rfl
          rw [hentry] at hf
          cases hf
        · rintro ⟨f, hf⟩
          cases hf
  · rw [if_neg hfile]
    refine ⟨fun h => absurd h.1 hfile, ?_⟩
    rintro ⟨f, hf⟩
    cases hf

theorem namesPackage_iff {reference : String} {file dir : Path} {subpath : Option String} :
    NamesPackage d reference file dir subpath ↔ reference.isEmpty = false ∧ isPathReference reference = false ∧
      locatePackage d (directoryOf file) (PackageReference.ofText reference).name = some dir ∧
        (PackageReference.ofText reference).subpath = subpath := by
  have hempty : reference.isEmpty = false ↔ reference ≠ "" := by rw [Bool.eq_false_iff, ne_eq, String.isEmpty_iff]
  have hpath : isPathReference reference = false ↔ ¬ NamesPath reference := by
    rw [Bool.eq_false_iff, ne_eq, isPathReference_iff]
  rw [hempty, hpath]
  constructor
  · rintro ⟨hne, hnot, name, hsplits, hfound⟩
    rw [hsplits.ofText_eq]
    exact ⟨hne, hnot, hfound, rfl⟩
  · rintro ⟨hne, hnot, hfound, rfl⟩
    exact ⟨hne, hnot, _, splits_iff.mpr rfl, hfound⟩

/-- In a package the search goes on inside. -/
theorem NamesPackage.destination_eq {reference : String} {file dir : Path} {subpath : Option String}
    (h : NamesPackage d reference file dir subpath) : destination d reference file = inside d dir subpath := by
  obtain ⟨hne, hpath, hfound, rfl⟩ := namesPackage_iff.mp h
  rw [destination, hne, hpath, if_neg Bool.false_ne_true, if_neg Bool.false_ne_true]
  dsimp only
  rw [hfound]

/-- All that is not a path and names no package that is there leads nowhere. -/
theorem destination_of_nothing {reference : String} {file : Path} (hpath : ¬ NamesPath reference)
    (hno : ∀ dir subpath, ¬ NamesPackage d reference file dir subpath) : destination d reference file = .ok none := by
  have hnot : isPathReference reference = false := Bool.eq_false_iff.mpr (mt isPathReference_iff.mp hpath)
  rw [destination, hnot, if_neg Bool.false_ne_true]
  cases hne : reference.isEmpty with
  | true => exact if_pos rfl
  | false =>
    rw [if_neg Bool.false_ne_true]
    dsimp only
    cases hfound : locatePackage d (directoryOf file) (PackageReference.ofText reference).name with
    | none => rfl
    | some dir => exact absurd (namesPackage_iff.mpr ⟨hne, hnot, hfound, rfl⟩) (hno dir _)

theorem exports_iff {entry : PackageEntry} {subpath : Option String} {targets : List String} :
    Exports entry subpath targets ↔
      (match entry.exports with
        | some e => targetsFor e subpath
        | none => []) = targets := by
  rw [Exports]
  cases entry.exports with
  | some e => exact applies_iff
  | none => exact eq_comm

/-- What is probed has no index where the search does not look for one. -/
def Indexed (d : Disk) (probed : List Path) : Prop := ⟨""⟩ ∈ probed → ∀ i ∈ indexFiles ⟨""⟩, d.isFile i = false

theorem findSome?_meaning {probed : List Path} (h : Indexed d probed) :
    probed.findSome? (meaning d) = (probed.flatMap tries).find? d.isFile := by
  induction probed with
  | nil => rfl
  | cons p probed ih =>
    have hp : p.text = "" → ∀ i ∈ indexFiles p, d.isFile i = false := by
      intro hempty
      obtain rfl : p = ⟨""⟩ := by rw [← hempty]
      exact h List.mem_cons_self
    rw [List.findSome?_cons, List.flatMap_cons, List.find?_append, meaning_eq hp,
      ih fun hin => h (List.mem_cons_of_mem p hin)]
    cases (tries p).find? d.isFile with
    | some found => rfl
    | none => rfl

theorem destination_of_looksAt {reference : String} {file : Path} {exact probed : List Path}
    (h : LooksAt d reference file exact probed) (hindexed : Indexed d probed) :
    destination d reference file = .ok ((exact ++ probed.flatMap tries).find? d.isFile) := by
  rw [List.find?_append, ← findSome?_meaning hindexed]
  cases h with
  | path hpath =>
    have hne : ¬ reference.isEmpty = true := by
      intro hempty
      rw [NamesPath, String.isEmpty_iff.mp hempty] at hpath
      simp at hpath
    rw [destination, if_neg hne, if_pos (isPathReference_iff.mpr hpath), List.findSome?_singleton]
    rfl
  | nothing hpath hno => exact destination_of_nothing hpath hno
  | package hpackage hdescribes hexports =>
    obtain ⟨found, hdescribe, rfl⟩ := describes_iff.mp hdescribes
    obtain rfl := exports_iff.mp hexports
    rw [hpackage.destination_eq, inside, hdescribe]
    rfl

theorem looksAt_or_unreadable (d : Disk) (reference : String) (file : Path) :
    (∃ exact probed, LooksAt d reference file exact probed) ∨
      ∃ dir subpath, NamesPackage d reference file dir subpath ∧ Unreadable d (dir.join "package.json") := by
  by_cases hpath : NamesPath reference
  · exact .inl ⟨_, _, .path hpath⟩
  by_cases hpackage : ∃ dir subpath, NamesPackage d reference file dir subpath
  · obtain ⟨dir, subpath, hpackage⟩ := hpackage
    cases hdescribe : describe d (dir.join "package.json") with
    | error f => exact .inr ⟨dir, subpath, hpackage, unreadable_iff.mpr ⟨f, hdescribe⟩⟩
    | ok found =>
      exact .inl ⟨_, _, .package hpackage (describes_iff.mpr ⟨found, hdescribe, rfl⟩) (exports_iff.mpr rfl)⟩
  · exact .inl ⟨[], [], .nothing hpath fun dir subpath h => hpackage ⟨dir, subpath, h⟩⟩

theorem destination_of_unreadable {reference : String} {file dir : Path} {subpath : Option String}
    (h : NamesPackage d reference file dir subpath) (hunreadable : Unreadable d (dir.join "package.json")) :
    ∃ f, destination d reference file = .error f := by
  obtain ⟨f, hf⟩ := unreadable_iff.mp hunreadable
  refine ⟨f, ?_⟩
  rw [h.destination_eq, inside, hf]

/-- A search without memory finds what is there, if the files of a package can be asked for as they are spelled. -/
theorem answer_eq {reference : String} {file : Path} (hreach : ∀ dir subpath,
      NamesPackage d reference file dir subpath → dir.Tidy ∨ dir.text.utf8ByteSize + 17 ≤ 4095) :
    answer d reference file = destination d reference file := by
  have hpackageDir (start : Path) (name : String) : ∃ m', packageDir d start name {} = (locatePackage d start name, m') ∧
      Recalls d (fun _ => True) m' := by
    refine ⟨_, rfl, ?_⟩
    have hnew := recalls_empty d fun _ => True
    exact ⟨hnew.files, fun _ _ => trivial, hnew.descriptions⟩
  have hreliable : reference.isEmpty = false → isPathReference reference = false → ∀ dir,
      locatePackage d (directoryOf file) (PackageReference.ofText reference).name = some dir → Reliable d dir := by
    intro hne hpath dir hdir
    rcases hreach dir _ (namesPackage_iff.mpr ⟨hne, hpath, hdir, rfl⟩) with htidy | hshort
    · exact .of_tidy htidy
    · exact .of_short hshort
  obtain ⟨m, hrun, -⟩ := resolvePath_eq (recalls_empty d fun _ => True) (hpackageDir _ _) hreliable
  exact congrArg Prod.fst hrun

/-- What a search without memory needs: an empty path is not tried where there is an index in the working
directory, and the files of a package can be asked for as they are spelled. -/
structure Searchable (d : Disk) (reference : String) (file : Path) : Prop where
  indexed : ∀ exact probed, LooksAt d reference file exact probed → Indexed d probed
  in_reach : ∀ dir subpath, NamesPackage d reference file dir subpath →
    dir.Tidy ∨ dir.text.utf8ByteSize + 17 ≤ 4095

/-- **A reference leads to the first file of a fixed list of paths.** -/
theorem firstHit_of_searchable {reference : String} {file : Path} (h : Searchable d reference file) :
    FirstHit d reference file where
  found r := by
    rw [answer_eq h.in_reach]
    constructor
    · intro hr
      rcases looksAt_or_unreadable d reference file with ⟨exact, probed, hlooks⟩ | ⟨dir, subpath, hpackage, hbroken⟩
      · rw [destination_of_looksAt hlooks (h.indexed exact probed hlooks)] at hr
        exact ⟨exact, probed, hlooks, Except.ok.inj hr⟩
      · obtain ⟨f, hf⟩ := destination_of_unreadable hpackage hbroken
        rw [hf] at hr
        cases hr
    · rintro ⟨exact, probed, hlooks, rfl⟩
      exact destination_of_looksAt hlooks (h.indexed exact probed hlooks)
  fails := by
    rw [answer_eq h.in_reach]
    constructor
    · rintro ⟨f, hf⟩
      refine (looksAt_or_unreadable d reference file).resolve_left fun ⟨exact, probed, hlooks⟩ => ?_
      rw [destination_of_looksAt hlooks (h.indexed exact probed hlooks)] at hf
      cases hf
    · rintro ⟨dir, subpath, hpackage, hbroken⟩
      exact destination_of_unreadable hpackage hbroken

/-- Nothing is above a relative path without directories, so there is one place for a package. -/
theorem NamesPackage.dir_of_bare {reference : String} {dir : Path} {subpath : Option String}
    (h : NamesPackage d reference ⟨"a.js"⟩ dir subpath) :
    dir = (⟨"node_modules"⟩ : Path).join (PackageReference.ofText reference).name := by
  have hancestors : (directoryOf ⟨"a.js"⟩).ancestors = [⟨""⟩] := by decide
  obtain ⟨-, -, hfound, -⟩ := namesPackage_iff.mp h
  rw [locatePackage, hancestors] at hfound
  exact List.mem_singleton.mp (List.mem_of_find?_eq_some hfound)

/-- A package without a description, but with an index. -/
def barePackage : Disk where
  entries := [(["node_modules"], .dir 0o755 true), (["node_modules", "x"], .dir 0o755 true),
    (["node_modules", "x", "index.js"], .file (.text ""))]
  workingDir := []

/-- Its index is found. -/
theorem firstHit_of_barePackage : FirstHit barePackage "x" ⟨"a.js"⟩ := by
  have hnames : ∀ i ∈ indexFiles ⟨""⟩, Disk.IsName i.text ∧ barePackage.entry? (barePackage.workingDir ++ [i.text]) = none := by
    decide
  refine firstHit_of_searchable ⟨fun exact probed _ _ i hi => ?_, fun dir subpath hpackage => .inl ?_⟩
  · exact Disk.isFile_of_no_name (hnames i hi).1 rfl (hnames i hi).2
  · rw [hpackage.dir_of_bare]
    exact .inr (by decide)

/-- An index in the working directory. -/
def bareIndex : Disk where
  entries := [(["index.ts"], .file (.text ""))]
  workingDir := []

/-- The working directory itself, referred to by a dot, has an index that is not found. -/
theorem not_firstHit_of_bareIndex : ¬ FirstHit bareIndex "." ⟨"a.js"⟩ := by
  intro h
  have htried : ((directoryOf ⟨"a.js"⟩).join ".").normalize = ⟨""⟩ := by decide
  have hnames : ∀ p ∈ withExtensions ⟨""⟩, Disk.IsName p.text ∧ bareIndex.entry? (bareIndex.workingDir ++ [p.text]) = none := by
    decide
  have hnofile : ∀ p ∈ (⟨""⟩ : Path) :: withExtensions ⟨""⟩, ¬ bareIndex.isFile p = true := by
    intro p hp
    rcases List.mem_cons.mp hp with rfl | hp
    · exact Bool.false_ne_true
    · exact Bool.eq_false_iff.mp (Disk.isFile_of_no_name (hnames p hp).1 rfl (hnames p hp).2)
  have hfile : bareIndex.isFile ⟨"index.ts"⟩ = true := by
    have hname : Disk.IsName "index.ts" := by decide
    rw [Disk.isFile, Disk.find_of_name (e := .file (.text "")) hname rfl rfl fun _ h => by cases h]
  have hanswer : answer bareIndex "." ⟨"a.js"⟩ = .ok none := by
    rw [answer_eq fun _ _ hpackage => absurd (.inl rfl) hpackage.not_path]
    show Except.ok (meaning bareIndex ((directoryOf ⟨"a.js"⟩).join ".").normalize) = _
    rw [htried, meaning, List.find?_eq_none.mpr hnofile]
    rfl
  obtain ⟨exact, probed, hlooks, hnone⟩ := (h.found none).mp hanswer
  cases hlooks with
  | path =>
    rw [htried] at hnone
    exact List.find?_eq_none.mp hnone ⟨"index.ts"⟩ (by decide) hfile
  | nothing hpath => exact hpath (.inl rfl)
  | package hpackage => exact hpackage.not_path (.inl rfl)

end Resolve

end ImportSurvey
