import ImportSurvey.Proofs.FirstHit

/-
  References into a package stay inside the package.

  Whatever a search finds is one of the paths it asks for, and some spelling of it is a file on the disk
  (`Yields`, `mem_of_answer`).  All paths that are asked for in a package are its directory with a text behind it, and
  if the text is relative and never steps up, the path keeps the components of the directory and has names behind
  them (`Tame.components_normalize_join`).  Two kinds of paths get out: an absolute subpath, which takes the place of
  the directory, and the path of the directory itself with an extension, which is tried for a text without any name.
  `staysInside_of_guarded` says that nothing else does.
-/
namespace ImportSurvey.Resolve

/-! ## What is found was asked for -/

variable {d : Disk} {S : Path → Prop}

/-- Every answer that is remembered was given for a path of `S`. -/
def Logged (d : Disk) (S : Path → Prop) (m : Memory) : Prop :=
  ∀ e ∈ m.files, ∃ q, S q ∧ e = (q.components, d.isFile q)

/-- A path of `S` is a file and is `p`, perhaps in another spelling. -/
def Backed (d : Disk) (S : Path → Prop) (p : Path) : Prop := ∃ q, S q ∧ q.components = p.components ∧ d.isFile q = true

/-- What the search answers satisfies `Q`, and it asks for paths of `S` only. -/
def Yields {α : Type} (d : Disk) (S : Path → Prop) (x : Search α) (Q : α → Prop) : Prop :=
  ∀ m, Logged d S m → Q (x m).1 ∧ Logged d S (x m).2

section

variable {α β : Type}

theorem yields_pure {Q : α → Prop} {a : α} (h : Q a) : Yields d S (pure a) Q := fun _ hm => ⟨h, hm⟩

theorem Yields.bind {x : Search α} {P : α → Prop} (hx : Yields d S x P) {f : α → Search β} {Q : β → Prop}
    (hf : ∀ a, P a → Yields d S (f a) Q) : Yields d S (x >>= f) Q := by
  intro m hm
  obtain ⟨ha, hm'⟩ := hx m hm
  exact hf _ ha _ hm'

end

theorem yields_isFile {p : Path} (hp : S p) : Yields d S (isFile d p) fun b => b = true → Backed d S p := by
  intro m hm
  rw [isFile]
  split
  · rename_i known hknown
    obtain ⟨q, hq, he⟩ := hm _ (mem_of_lookup hknown)
    obtain ⟨hcomponents, hfile⟩ := Prod.mk.inj he
    exact ⟨fun htrue => ⟨q, hq, hcomponents.symm, hfile.symm.trans htrue⟩, hm⟩
  · refine ⟨fun hfile => ⟨p, hp, rfl, hfile⟩, fun e he => ?_⟩
    rcases List.mem_cons.mp he with rfl | he
    · exact ⟨p, hp, rfl⟩
    · exact hm e he

/-- What the search finds is one of the paths, and a file. -/
def Finds (d : Disk) (S : Path → Prop) (ps : List Path) (x : Search (Option Path)) : Prop :=
  Yields d S x fun r => ∀ p, r = some p → p ∈ ps ∧ Backed d S p

theorem Finds.mono {ps qs : List Path} {x : Search (Option Path)} (h : Finds d S ps x) (hsub : ps ⊆ qs) :
    Finds d S qs x := by
  intro m hm
  obtain ⟨hfound, hm'⟩ := h m hm
  exact ⟨fun p hp => ⟨hsub (hfound p hp).1, (hfound p hp).2⟩, hm'⟩

/-- One search and, if it finds nothing, another one. -/
theorem Finds.orElse {ps qs : List Path} {x y : Search (Option Path)} (hx : Finds d S ps x) (hy : Finds d S qs y) :
    Finds d S (ps ++ qs) (x >>= fun r => match r with
      | some found => return some found
      | none => y) := by
  refine Yields.bind hx fun r hr => ?_
  cases r with
  | some found =>
    refine yields_pure fun p hp => ?_
    obtain ⟨hin, hbacked⟩ := hr p hp
    exact ⟨List.mem_append_left qs hin, hbacked⟩
  | none => exact hy.mono (List.subset_append_right ps qs)

theorem finds_none {ps : List Path} : Finds d S ps (pure none) := yields_pure fun _ hp => (by cases hp)

theorem finds_firstFile {ps : List Path} (h : ∀ p ∈ ps, S p) : Finds d S ps (firstFile d ps) := by
  induction ps with
  | nil => exact finds_none
  | cons p ps ih =>
    rw [firstFile]
    refine Yields.bind (yields_isFile (h p List.mem_cons_self)) fun b hb => ?_
    cases b with
    | true =>
      refine yields_pure fun q hq => ?_
      obtain rfl := Option.some.inj hq
      exact ⟨List.mem_cons_self, hb rfl⟩
    | false => exact (ih fun q hq => h q (List.mem_cons_of_mem p hq)).mono (List.subset_cons_self p ps)

theorem finds_probe {p : Path} (h : ∀ q ∈ tries p, S q) : Finds d S (tries p) (probe d p) := by
  rw [probe]
  refine (finds_firstFile fun q hq => h q (List.mem_append_left _ hq)).orElse ?_
  split
  · exact finds_firstFile fun q hq => h q (List.mem_append_right _ hq)
  · exact finds_none

theorem finds_firstProbe {ps : List Path} (h : ∀ p ∈ ps, ∀ q ∈ tries p, S q) :
    Finds d S (ps.flatMap tries) (firstProbe d ps) := by
  induction ps with
  | nil => exact finds_none
  | cons p ps ih =>
    rw [firstProbe, List.flatMap_cons]
    exact (finds_probe (h p List.mem_cons_self)).orElse (ih fun q hq => h q (List.mem_cons_of_mem p hq))

/-- The first description that is asked for is the one on the disk. -/
theorem description_fresh {file : Path} (hfile : S file) {m : Memory} (hfiles : m.files = [])
    (hdescriptions : m.descriptions = []) :
    (description d file m).1 = describe d file ∧ Logged d S (description d file m).2 := by
  obtain ⟨m', hask, hm'⟩ : ∃ m', isFile d file m = (d.isFile file, m') ∧ Logged d S m' := by
    refine ⟨{ m with files := [(file.components, d.isFile file)] }, ?_, fun e he => ?_⟩
    · rw [isFile, hfiles]
      rfl
    · exact ⟨file, hfile, List.mem_singleton.mp he⟩
  have hbind {β : Type} (f : Bool → Search β) : (isFile d file >>= f) m = f (d.isFile file) m' := by
    show f (isFile d file m).1 (isFile d file m).2 = _
    rw [hask]
  rw [description, get_bind, hdescriptions, List.lookup_nil, describe]
  dsimp only
  rw [hbind]
  by_cases hthere : d.isFile file = true
  · rw [if_pos hthere, if_pos hthere]
    cases d.readText file with
    | error f => exact ⟨rfl, hm'⟩
    | ok text =>
      dsimp only
      cases PackageEntry.ofText text with
      | error f => exact ⟨rfl, hm'⟩
      | ok entry => exact ⟨rfl, hm'⟩
  · rw [if_neg hthere, if_neg hthere]
    exact ⟨rfl, hm'⟩

/-- What is looked for in a package once its description is known. -/
def searchInside (d : Disk) (dir : Path) (entry : PackageEntry) (subpath : Option String) : Search (Option Path) := do
  match ← firstFile d (exactIn dir entry subpath) with
  | some p => return some p
  | none => firstProbe d (probedIn dir entry subpath)

theorem finds_searchInside {dir : Path} {entry : PackageEntry} {subpath : Option String}
    (h : ∀ q ∈ exactIn dir entry subpath ++ (probedIn dir entry subpath).flatMap tries, S q) :
    Finds d S (exactIn dir entry subpath ++ (probedIn dir entry subpath).flatMap tries)
      (searchInside d dir entry subpath) := by
  have hexact : ∀ q ∈ exactIn dir entry subpath, S q := fun q hq => h q (List.mem_append_left _ hq)
  have hprobed : ∀ p ∈ probedIn dir entry subpath, ∀ q ∈ tries p, S q :=
    fun p hp q hq => h q (List.mem_append_right _ (List.mem_flatMap.mpr ⟨p, hp, hq⟩))
  exact (finds_firstFile hexact).orElse (finds_firstProbe hprobed)

theorem firstProbe_singleton (d : Disk) (p : Path) : firstProbe d [p] = probe d p := by
  have hpure : ∀ r : Option Path, (match r with
      | some found => return some found
      | none => firstProbe d [] : Search (Option Path)) = pure r := by
    intro r
    cases r with
    | some found => rfl
    | none => rfl
  rw [firstProbe]
  exact (congrArg (probe d p >>= ·) (funext hpure)).trans (bind_pure _)

theorem inPackage_eq (d : Disk) (dir : Path) (subpath : Option String) : inPackage d dir subpath = (do
    match ← description d (dir.join "package.json") with
    | .error f => return .error f
    | .ok found => return .ok (← searchInside d dir (found.getD {}) subpath)) := by
  rw [inPackage]
  refine congrArg (description d (dir.join "package.json") >>= ·) (funext fun r => ?_)
  cases r with
  | error f => rfl
  | ok found =>
    dsimp only
    rw [searchInside, bind_assoc]
    refine congrArg (firstFile d (exactIn dir (found.getD {}) subpath) >>= ·) (funext fun r => ?_)
    cases r with
    | some p => rfl
    | none =>
      cases subpath with
      | some s =>
        dsimp only
        rw [probedIn, firstProbe_singleton]
      | none => rfl

/-- **What is found in a package is one of the paths that are looked at there.** -/
theorem mem_of_answer {reference : String} {file dir p : Path} {subpath : Option String}
    (hpackage : NamesPackage d reference file dir subpath) (hanswer : answer d reference file = .ok (some p))
    (hdescription : S (dir.join "package.json"))
    (hasked : ∀ entry, ∀ q ∈ exactIn dir entry subpath ++ (probedIn dir entry subpath).flatMap tries, S q) :
    ∃ entry, Describes d (dir.join "package.json") entry ∧
      p ∈ exactIn dir entry subpath ++ (probedIn dir entry subpath).flatMap tries ∧ Backed d S p := by
  obtain ⟨hne, hpath, hfound, rfl⟩ := namesPackage_iff.mp hpackage
  -- the search in the package starts with an answer about its directory, and nothing else
  have hstart : ∃ m : Memory, m.files = [] ∧ m.descriptions = [] ∧
      answer d reference file = (inPackage d dir (PackageReference.ofText reference).subpath m).1 := by
    obtain ⟨m, hfirst, hfiles, hdescriptions⟩ : ∃ m, packageDir d (directoryOf file)
        (PackageReference.ofText reference).name {} = (locatePackage d (directoryOf file)
          (PackageReference.ofText reference).name, m) ∧ m.files = [] ∧ m.descriptions = [] := ⟨_, rfl, rfl, rfl⟩
    refine ⟨m, hfiles, hdescriptions, ?_⟩
    have hrun := resolvePath_of_package (d := d) hne hpath file {}
    rw [hfirst, hfound] at hrun
    exact congrArg Prod.fst hrun
  obtain ⟨m, hfiles, hdescriptions, hstart⟩ := hstart
  obtain ⟨hread, hlogged⟩ := description_fresh hdescription hfiles hdescriptions
  rw [hstart, inPackage_eq] at hanswer
  obtain ⟨r, hr⟩ : ∃ r, r = description d (dir.join "package.json") m := ⟨_, rfl⟩
  change ((match description d (dir.join "package.json") m with
    | (r, m) => (match r with
      | .error f => return .error f
      | .ok found => return .ok (← searchInside d dir (found.getD {}) (PackageReference.ofText reference).subpath) :
        Search (Except Failure (Option Path))) m)).1 = _ at hanswer
  rw [← hr] at hanswer hread hlogged
  obtain ⟨_ | found, m'⟩ := r
  · cases hanswer
  · obtain ⟨hall, -⟩ := finds_searchInside (hasked (found.getD {})) m' hlogged
    obtain ⟨hin, hbacked⟩ := hall p (Except.ok.inj hanswer)
    exact ⟨found.getD {}, describes_iff.mpr ⟨found, hread.symm, rfl⟩, hin, hbacked⟩

/-! ## Paths with names behind a directory -/

/-- The components are those of `base`, and names behind them. -/
def Behind (base : List Path.Component) (p : Path) : Prop :=
  ∃ names : List String, names ≠ [] ∧ p.components = base ++ names.map .name

/-- What is tried for a path with names behind a directory has names behind it, too. -/
theorem Behind.tries {base : List Path.Component} {p q : Path} (h : Behind base p.normalize)
    (hq : q ∈ tries p.normalize) : Behind base q := by
  have hextensions : ∀ e ∈ probeExtensions, e.toList ≠ [] ∧ '/' ∉ e.toList ∧ Path.Tame ("index." ++ e) ∧
      Path.namesOf ("index." ++ e) = ["index." ++ e] := by decide
  obtain ⟨names, hne, hp⟩ := h
  rcases List.mem_append.mp hq with hq | hq
  · rcases List.mem_cons.mp hq with rfl | hq
    · exact ⟨names, hne, hp⟩
    · obtain ⟨e, he, rfl⟩ := List.mem_map.mp hq
      obtain ⟨init, last, rfl⟩ := (List.eq_nil_or_concat names).resolve_left hne
      rw [List.concat_eq_append, List.map_append, ← List.append_assoc] at hp
      refine ⟨init ++ [last ++ ("." ++ e)], List.append_ne_nil_of_right_ne_nil _ (List.cons_ne_nil _ _), ?_⟩
      rw [Path.components_withExtension hp (hextensions e he).1 (hextensions e he).2.1, List.map_append,
        List.append_assoc]
      rfl
  · obtain ⟨e, he, rfl⟩ := List.mem_map.mp hq
    obtain ⟨-, -, htame, hindex⟩ := hextensions e he
    have htext : p.normalize.text ≠ "" := by
      intro hempty
      have hnil : p.normalize.components = [] := by
        rw [show p.normalize = ⟨""⟩ by rw [← hempty]]
        rfl
      rw [hp, List.append_eq_nil_iff, List.map_eq_nil_iff] at hnil
      exact hne hnil.2
    refine ⟨names ++ ["index." ++ e], List.append_ne_nil_of_right_ne_nil _ (List.cons_ne_nil _ _), ?_⟩
    rw [htame.components_join htext, hindex, hp, List.map_append, List.append_assoc]

theorem behind_of_mem_tries_index {dir q : Path} (hdir : dir.text ≠ "") (hq : q ∈ tries (dir.join "index")) :
    Behind dir.components q := by
  have hindex : Path.Tame "index" ∧ Path.namesOf "index" = ["index"] := by decide
  have hextensions : ∀ e ∈ probeExtensions,
      (Path.Tame ("index" ++ ("." ++ e)) ∧ Path.namesOf ("index" ++ ("." ++ e)) = ["index" ++ ("." ++ e)]) ∧
      Path.Tame ("index." ++ e) ∧ Path.namesOf ("index." ++ e) = ["index." ++ e] := by decide
  have hcomponents := hindex.1.components_join hdir
  rw [hindex.2] at hcomponents
  rcases List.mem_append.mp hq with hq | hq
  · rcases List.mem_cons.mp hq with rfl | hq
    · exact ⟨["index"], List.cons_ne_nil _ _, hcomponents⟩
    · obtain ⟨e, he, rfl⟩ := List.mem_map.mp hq
      obtain ⟨⟨htame, hname⟩, -⟩ := hextensions e he
      refine ⟨["index" ++ ("." ++ e)], List.cons_ne_nil _ _, ?_⟩
      rw [String.append_assoc, dir.join_append (by decide), htame.components_join hdir, hname]
  · obtain ⟨e, he, rfl⟩ := List.mem_map.mp hq
    obtain ⟨-, htame, hname⟩ := hextensions e he
    have htext : (dir.join "index").text ≠ "" := (open_join dir (by decide)).1
    refine ⟨["index", "index." ++ e], List.cons_ne_nil _ _, ?_⟩
    rw [htame.components_join htext, hname, hcomponents, List.append_assoc]
    rfl

/-! ## The directory of a package -/

theorem text_ne_of_isDir {p : Path} (h : d.isDir p = true) : p.text ≠ "" := by
  intro hempty
  have hnot : d.isDir ⟨""⟩ = false := rfl
  rw [show p = ⟨""⟩ by rw [← hempty], hnot] at h
  cases h

/-- The parts of a reference are made of its segments. -/
theorem Splits.segments {reference name : String} {subpath : Option String} (h : Splits reference name subpath) :
    Path.segments name.toList ⊆ Path.segments reference.toList ∧
      ∀ s, subpath = some s → Path.segments s.toList ⊆ Path.segments reference.toList := by
  have hcut (s t : String) : Path.segments (s ++ "/" ++ t).toList = Path.segments s.toList ++ Path.segments t.toList := by
    obtain ⟨u, us, hs, happ⟩ := Path.tail_segments_append_sep s.toList t.toList
    rw [toList_append_sep, happ, hs]
    rfl
  cases h with
  | name hname => exact ⟨List.Subset.refl _, fun _ hs => by cases hs⟩
  | scope hscope hsep => exact ⟨List.Subset.refl _, fun _ hs => by cases hs⟩
  | slash hname =>
    refine ⟨?_, fun _ hs => by cases hs⟩
    have hempty := hcut name ""
    rw [String.append_empty] at hempty
    rw [hempty]
    exact List.subset_append_left _ _
  | subpath hname hne =>
    rw [hcut]
    refine ⟨List.subset_append_left _ _, fun s hs => ?_⟩
    obtain rfl := Option.some.inj hs
    exact List.subset_append_right _ _

/-- The name of a package starts as the reference does. -/
theorem Splits.head? {reference name : String} {subpath : Option String} (h : Splits reference name subpath)
    (hne : reference ≠ "") (hpath : ¬ NamesPath reference) : name.toList.head? = reference.toList.head? := by
  have hstart : ∃ rest, reference = name ++ rest ∧ (rest = "" ∨ rest.toList.head? = some '/') := by
    cases h with
    | name hname => exact ⟨"", String.append_empty.symm, .inl rfl⟩
    | scope hscope hsep => exact ⟨"", String.append_empty.symm, .inl rfl⟩
    | slash hname => exact ⟨"/", rfl, .inr (by decide)⟩
    | @subpath name s hname hs =>
      refine ⟨"/" ++ s, String.append_assoc, .inr ?_⟩
      rw [String.toList_append]
      rfl
  obtain ⟨rest, rfl, hrest⟩ := hstart
  cases hname : name.toList with
  | nil =>
    -- without a name the reference would be empty or a path
    rw [NamesPath, String.toList_append, hname, List.nil_append] at hpath
    rcases hrest with rfl | hrest
    · rw [String.append_empty] at hne
      exact absurd (String.toList_eq_nil_iff.mp hname) hne
    · exact absurd (.inr hrest) hpath
  | cons c cs => rw [String.toList_append, hname]; rfl

/-- What is found by a reference without steps up is the path of an ancestor with names behind it. -/
theorem NamesPackage.dir_eq {reference : String} {file dir : Path} {subpath : Option String}
    (h : NamesPackage d reference file dir subpath) (hup : ['.', '.'] ∉ Path.segments reference.toList) :
    d.isDir dir = true ∧ ∃ (above : Path) (name : String), dir = above.join name ∧ above.text ≠ "" ∧ Path.Tame name ∧
      Path.namesOf name ≠ [] := by
  obtain ⟨hne, hpath, name, hsplits, hfound⟩ := h
  have hhead := hsplits.head? hne hpath
  rw [locatePackage] at hfound
  obtain ⟨a, -, hdir⟩ := List.mem_map.mp (List.mem_of_find?_eq_some hfound)
  have habove : (a.join "node_modules").text ≠ "" := (open_join a (by decide)).1
  rw [NamesPath, not_or, ← hhead] at hpath
  have htame : Path.Tame name := by
    refine ⟨?_, fun hin => hup (hsplits.segments.1 hin)⟩
    rw [Path.isAbsolute, Bool.eq_false_iff, ne_eq, beq_iff_eq]
    exact hpath.2
  refine ⟨List.find?_some hfound, _, name, hdir.symm, habove, htame, ?_⟩
  -- the first segment starts with neither a dot nor a separator
  cases hname : name.toList with
  | nil =>
    rw [hname, List.head?_nil, eq_comm, List.head?_eq_none_iff] at hhead
    exact absurd (String.toList_eq_nil_iff.mp hhead) hne
  | cons c cs =>
    rw [hname, List.head?_cons, Option.some.injEq, Option.some.injEq] at hpath
    obtain ⟨t, ts, ht⟩ := List.exists_cons_of_ne_nil (Path.segments_ne_nil cs)
    have hsolid : Path.Solid (c :: t) := solid_of_head hpath.1 t
    rw [Path.namesOf, hname, Path.segments_cons hpath.2 ht, List.filter_cons_of_pos (by simpa using hsolid)]
    exact List.cons_ne_nil _ _

/-- All that is asked for in a package is spelled without junk or goes deeper than the directory of the package. -/
def AskedIn (dir q : Path) : Prop := q.Tidy ∨ dir.components.length < q.components.length

/-- What does not go deeper than the directory is a file if it is found. -/
theorem Backed.isFile {dir p : Path} (h : Backed d (AskedIn dir) p) (htidy : p.Tidy)
    (hlength : p.components.length ≤ dir.components.length) : d.isFile p = true := by
  obtain ⟨q, hq | hdeep, hcomponents, hfile⟩ := h
  · rw [← htidy.ofComponents_components, ← hcomponents, hq.ofComponents_components]
    exact hfile
  · rw [hcomponents] at hdeep
    omega

/-! ## Staying inside -/

/-- The components of the path are those of the directory, as it is written or simplified, and names behind them. -/
def LiesIn (d : Disk) (dir p : Path) : Prop :=
  ∃ dir' ∈ [dir, dir.normalize], d.find dir' true = d.find dir true ∧ Behind dir'.components p

/-- All entry points and all exported targets are relative and never step up. -/
structure PackageEntry.Tame (entry : PackageEntry) : Prop where
  module : ∀ t ∈ entry.module, Path.Tame t
  main : ∀ t ∈ entry.main, Path.Tame t
  «exports» : ∀ subpath targets, Exports entry subpath targets → ∀ t ∈ targets, Path.Tame t

/-- Where nothing is described, nothing leads out. -/
theorem tame_nothing : PackageEntry.Tame {} where
  module _ ht := (by cases ht)
  main _ ht := (by cases ht)
  «exports» _ targets htargets t ht := by
    rw [show targets = [] from htargets] at ht
    cases ht

/-- A reference to a package without steps up leads to a file inside the package, if it leads to one. -/
def StaysInside (d : Disk) (reference : String) (file : Path) : Prop :=
  ∀ dir subpath, NamesPackage d reference file dir subpath → ['.', '.'] ∉ Path.segments reference.toList →
    (∀ entry, Describes d (dir.join "package.json") entry → entry.Tame) →
      ∀ p, answer d reference file = .ok (some p) → LiesIn d dir p

/-- The texts that are probed in a package, but for its index. -/
def wanted (entry : PackageEntry) : Option String → List String
  | some s => [s]
  | none => entry.module.toList ++ entry.main.toList

/-- Nothing leads out of the package: its directory is the same one when simplified, the subpath does not start at
the root, and no file stands beside the directory under its name with an extension if a text means the directory
itself. -/
structure Guarded (d : Disk) (reference : String) (file : Path) : Prop where
  steady : ∀ dir subpath, NamesPackage d reference file dir subpath → d.find dir.normalize true = d.find dir true
  relative : ∀ dir s, NamesPackage d reference file dir (some s) → Path.isAbsolute ⟨s⟩ = false
  beside : ∀ dir subpath entry, NamesPackage d reference file dir subpath →
    Describes d (dir.join "package.json") entry → ∀ t ∈ wanted entry subpath, Path.namesOf t = [] →
      ∀ p ∈ withExtensions dir.normalize, d.isFile p = false

theorem mem_probedIn {dir p : Path} {entry : PackageEntry} {subpath : Option String}
    (hp : p ∈ probedIn dir entry subpath) :
    (∃ t ∈ wanted entry subpath, p = (dir.join t).normalize) ∨ p = dir.join "index" := by
  cases subpath with
  | some s => exact .inl ⟨s, List.mem_singleton.mpr rfl, List.mem_singleton.mp hp⟩
  | none =>
    rcases List.mem_append.mp hp with hp | hp
    · obtain ⟨t, ht, rfl⟩ := List.mem_map.mp hp
      exact .inl ⟨t, ht, rfl⟩
    · exact .inr (List.mem_singleton.mp hp)

/-- All that is looked at in a package is asked for in it. -/
theorem askedIn {dir q : Path} (hdir : dir.text ≠ "") {entry : PackageEntry} {subpath : Option String}
    (hq : q ∈ exactIn dir entry subpath ++ (probedIn dir entry subpath).flatMap tries) : AskedIn dir q := by
  rcases List.mem_append.mp hq with hq | hq
  · obtain ⟨t, -, rfl⟩ := List.mem_map.mp hq
    exact .inl (Path.tidy_normalize _)
  · obtain ⟨p, hp, hq⟩ := List.mem_flatMap.mp hq
    rcases mem_probedIn hp with ⟨t, -, rfl⟩ | rfl
    · exact .inl (tidy_of_mem_tries (Path.tidy_normalize _) hq)
    · obtain ⟨names, hne, hcomponents⟩ := behind_of_mem_tries_index hdir hq
      have hpos := List.length_pos_of_ne_nil hne
      refine .inr ?_
      rw [hcomponents, List.length_append, List.length_map]
      omega

/-- What is known of the directory of a package. -/
structure Lodged (d : Disk) (dir : Path) : Prop where
  isDir : d.isDir dir = true
  steady : d.find dir.normalize true = d.find dir true
  ends : ∃ cs n, dir.normalize.components = cs ++ [.name n]

namespace Lodged

variable {dir : Path} (h : Lodged d dir)
include h

theorem isDir_normalize : d.isDir dir.normalize = true := by
  rw [Disk.isDir, h.steady]
  exact h.isDir

theorem not_backed : ¬ Backed d (AskedIn dir) dir.normalize := by
  intro hbacked
  have hfile := hbacked.isFile (Path.tidy_normalize dir) (Path.length_components_normalize dir)
  obtain ⟨name, content, mode, hfound⟩ := Disk.isFile_iff.mp hfile
  obtain ⟨name', mode', listable, hfound'⟩ := Disk.isDir_iff.mp h.isDir_normalize
  cases hfound.symm.trans hfound'

theorem liesIn_of_behind {p : Path} (hp : Behind dir.normalize.components p) : LiesIn d dir p :=
  ⟨dir.normalize, List.mem_cons_of_mem _ List.mem_cons_self, h.steady, hp⟩

theorem behind_join {t : String} (ht : Path.Tame t) (hnames : Path.namesOf t ≠ []) :
    Behind dir.normalize.components (dir.join t).normalize :=
  ⟨_, hnames, ht.components_normalize_join (text_ne_of_isDir h.isDir)⟩

/-- A text without any name means the directory itself. -/
theorem join_eq {t : String} (ht : Path.Tame t) (hnames : Path.namesOf t = []) :
    (dir.join t).normalize = dir.normalize := by
  have hcomponents := ht.components_normalize_join (text_ne_of_isDir h.isDir)
  rw [hnames, List.map_nil, List.append_nil] at hcomponents
  rw [← (Path.tidy_normalize (dir.join t)).ofComponents_components, hcomponents,
    (Path.tidy_normalize dir).ofComponents_components]

/-- A target that is a file is inside. -/
theorem liesIn_join {t : String} (ht : Path.Tame t) (hbacked : Backed d (AskedIn dir) (dir.join t).normalize) :
    LiesIn d dir (dir.join t).normalize := by
  by_cases hnames : Path.namesOf t = []
  · rw [h.join_eq ht hnames] at hbacked
    exact absurd hbacked h.not_backed
  · exact h.liesIn_of_behind (h.behind_join ht hnames)

/-- The directory with an extension goes no deeper than the directory. -/
theorem isFile_withExtension {p : Path} (hp : p ∈ withExtensions dir.normalize) (hbacked : Backed d (AskedIn dir) p) :
    d.isFile p = true := by
  have hextensions : ∀ e ∈ probeExtensions, e.toList ≠ [] ∧ '/' ∉ e.toList := by decide
  have htidy := tidy_of_mem_tries (Path.tidy_normalize dir) (List.mem_append_left _ (List.mem_cons_of_mem _ hp))
  obtain ⟨cs, n, hends⟩ := h.ends
  have hlength := Path.length_components_normalize dir
  refine hbacked.isFile htidy ?_
  obtain ⟨e, he, rfl⟩ := List.mem_map.mp hp
  rw [Path.components_withExtension hends (hextensions e he).1 (hextensions e he).2]
  rw [hends] at hlength
  rw [List.length_append, List.length_singleton] at hlength ⊢
  exact hlength

/-- What is tried for a text is inside, if no file stands beside the directory where that would count. -/
theorem liesIn_tries {t : String} (ht : Path.Tame t) (hbeside : Path.namesOf t = [] →
      ∀ p ∈ withExtensions dir.normalize, d.isFile p = false) {q : Path} (hq : q ∈ tries (dir.join t).normalize)
    (hbacked : Backed d (AskedIn dir) q) : LiesIn d dir q := by
  by_cases hnames : Path.namesOf t = []
  · -- the directory itself: what carries its name and an extension stands beside it, its index is inside
    rw [h.join_eq ht hnames] at hq
    rcases List.mem_append.mp hq with hq | hq
    · rcases List.mem_cons.mp hq with rfl | hq
      · exact absurd hbacked h.not_backed
      · have hfile := h.isFile_withExtension hq hbacked
        rw [hbeside hnames q hq] at hfile
        cases hfile
    · have hindex : ∀ e ∈ probeExtensions, Path.Tame ("index." ++ e) ∧ Path.namesOf ("index." ++ e) ≠ [] := by decide
      obtain ⟨e, he, rfl⟩ := List.mem_map.mp hq
      obtain ⟨htame, hne⟩ := hindex e he
      exact h.liesIn_of_behind ⟨_, hne, htame.components_join (text_ne_of_isDir h.isDir_normalize)⟩
  · exact h.liesIn_of_behind ((h.behind_join ht hnames).tries hq)

end Lodged

theorem Guarded.lodged {reference : String} {file dir : Path} {subpath : Option String}
    (h : Guarded d reference file) (hpackage : NamesPackage d reference file dir subpath)
    (hup : ['.', '.'] ∉ Path.segments reference.toList) : Lodged d dir := by
  obtain ⟨hdir, above, name, rfl, habove, hname, hnames⟩ := hpackage.dir_eq hup
  refine ⟨hdir, h.steady _ _ hpackage, ?_⟩
  obtain ⟨init, last, hlast⟩ := (List.eq_nil_or_concat (Path.namesOf name)).resolve_left hnames
  refine ⟨above.normalize.components ++ init.map .name, last, ?_⟩
  rw [hname.components_normalize_join habove, hlast, List.concat_eq_append, List.map_append, List.append_assoc]
  rfl

/-- All texts that are probed are relative and never step up. -/
theorem Guarded.tame {reference : String} {file dir : Path} {subpath : Option String} (h : Guarded d reference file)
    (hpackage : NamesPackage d reference file dir subpath) (hup : ['.', '.'] ∉ Path.segments reference.toList)
    {entry : PackageEntry} (hentry : entry.Tame) : ∀ t ∈ wanted entry subpath, Path.Tame t := by
  intro t ht
  cases subpath with
  | some s =>
    obtain ⟨name, hsplits, -⟩ := hpackage.found
    rw [List.mem_singleton.mp ht]
    exact ⟨h.relative dir s hpackage, fun hin => hup (hsplits.segments.2 s rfl hin)⟩
  | none =>
    rcases List.mem_append.mp ht with ht | ht
    · exact hentry.module t (Option.mem_toList.mp ht)
    · exact hentry.main t (Option.mem_toList.mp ht)

/-- **A reference into a package stays inside, unless it starts at the root behind the name of the package, or a text
that means the directory itself meets a file beside it.** -/
theorem staysInside_of_guarded {reference : String} {file : Path} (h : Guarded d reference file) :
    StaysInside d reference file := by
  intro dir subpath hpackage hup hall p hanswer
  have hlodged := h.lodged hpackage hup
  have htext := text_ne_of_isDir hlodged.isDir
  have hdescription : AskedIn dir (dir.join "package.json") := by
    have htame : Path.Tame "package.json" ∧ Path.namesOf "package.json" = ["package.json"] := by decide
    refine .inr ?_
    rw [htame.1.components_join htext, htame.2, List.length_append]
    exact Nat.lt_succ_self _
  obtain ⟨entry, hentry, hin, hbacked⟩ := mem_of_answer hpackage hanswer hdescription fun entry q hq => askedIn htext hq
  have htame := hall entry hentry
  rcases List.mem_append.mp hin with hin | hin
  · obtain ⟨t, ht, rfl⟩ := List.mem_map.mp hin
    exact hlodged.liesIn_join (htame.exports subpath _ (exports_iff.mpr rfl) t ht) hbacked
  · obtain ⟨c, hc, hp⟩ := List.mem_flatMap.mp hin
    rcases mem_probedIn hc with ⟨t, ht, rfl⟩ | rfl
    · exact hlodged.liesIn_tries (h.tame hpackage hup htame t ht) (h.beside dir subpath entry hpackage hentry t ht) hp
        hbacked
    · exact ⟨dir, List.mem_cons_self, rfl, behind_of_mem_tries_index htext hp⟩

/-- The index of a package may be asked for by its name. -/
theorem staysInside_of_barePackage : StaysInside barePackage "x/index" ⟨"a.js"⟩ := by
  have hread : PackageReference.ofText "x/index" = ⟨"x", some "index"⟩ := by decide
  refine staysInside_of_guarded ⟨fun dir subpath h => ?_, fun dir s h => ?_, fun dir subpath entry h _ t ht hnone => ?_⟩
  · have hnormal : dir.normalize = dir := by
      rw [h.dir_of_bare, hread]
      decide
    rw [hnormal]
  · obtain ⟨-, -, -, hs⟩ := namesPackage_iff.mp h
    rw [hread] at hs
    obtain rfl := Option.some.inj hs
    decide
  · obtain ⟨-, -, -, rfl⟩ := namesPackage_iff.mp h
    rw [hread, wanted, List.mem_singleton] at ht
    rw [ht] at hnone
    exact absurd hnone (by decide)

/-- A package, and a file that is none of its business. -/
def secretBeside : Disk where
  entries := [(["node_modules"], .dir 0o755 true), (["node_modules", "x"], .dir 0o755 true),
    (["secret.js"], .file (.text ""))]
  workingDir := []

theorem walk_secretBeside {rest : List String} {place : Disk.Place}
    (h : Disk.Walk secretBeside Disk.maxLinks ["node_modules", "x"] rest place) :
    Disk.Walk secretBeside Disk.maxLinks [] ("node_modules" :: "x" :: rest) place := by
  have hmodules : Disk.Proper "node_modules" ∧ Disk.Proper "x" := by decide
  have hentry : secretBeside.entry? ["node_modules"] = some (.dir 0o755 true) ∧
      secretBeside.entry? ["node_modules", "x"] = some (.dir 0o755 true) := by decide
  exact .enter rfl hmodules.1 hentry.1 (fun _ h => by cases h) (.enter rfl hmodules.2 hentry.2 (fun _ h => by cases h) h)

theorem isDir_secretBeside : secretBeside.isDir ⟨"node_modules/x"⟩ = true := by
  have hadmissible : Disk.Admissible ⟨"node_modules/x"⟩ := by decide
  have hsteps : (Path.segments "node_modules/x".toList).map String.ofList = ["node_modules", "x"] := by decide
  refine Disk.isDir_iff.mpr ⟨["node_modules", "x"], 0o755, true, Disk.find_eq_ok_iff.mpr ?_⟩
  refine Disk.locate_eq_ok_iff.mpr ⟨hadmissible, ?_⟩
  rw [hsteps]
  exact walk_secretBeside (.stop (by decide))

theorem isFile_secretBeside : secretBeside.isFile ⟨"/secret.js"⟩ = true := by
  have hadmissible : Disk.Admissible ⟨"/secret.js"⟩ := by decide
  have hsteps : (Path.segments "/secret.js".toList).map String.ofList = ["", "secret.js"] := by decide
  have hproper : Disk.Proper "secret.js" := by decide
  have hentry : secretBeside.entry? ["secret.js"] = some (.file (.text "")) := by decide
  refine Disk.isFile_iff.mpr ⟨["secret.js"], .text "", 0o644, ?_⟩
  refine Disk.find_of_walk hadmissible (by decide) hsteps (.stay rfl (.inl rfl) ?_)
  exact .enter rfl hproper hentry (fun _ h => by cases h) (.stop hentry)

/-- The package has no description. -/
theorem describe_secretBeside : describe secretBeside ((⟨"node_modules/x"⟩ : Path).join "package.json") = .ok none := by
  have hadmissible : Disk.Admissible ⟨"node_modules/x/package.json"⟩ := by decide
  have hsteps : (Path.segments "node_modules/x/package.json".toList).map String.ofList =
      ["node_modules", "x", "package.json"] := by decide
  have hproper : Disk.Proper "package.json" := by decide
  have hmissing : secretBeside.locate true ⟨"node_modules/x/package.json"⟩ =
      .ok (.missing ["node_modules", "x", "package.json"] false) := by
    refine Disk.locate_eq_ok_iff.mpr ⟨hadmissible, ?_⟩
    rw [hsteps]
    exact walk_secretBeside (.missing rfl hproper (by decide) rfl)
  have hnone : secretBeside.isFile ⟨"node_modules/x/package.json"⟩ = false := by
    rw [Disk.isFile, Disk.find, hmissing]
  have hjoin : (⟨"node_modules/x"⟩ : Path).join "package.json" = ⟨"node_modules/x/package.json"⟩ := by decide
  rw [describe, hjoin, hnone]
  rfl

theorem namesPackage_secretBeside :
    NamesPackage secretBeside "x//secret.js" ⟨"a.js"⟩ ⟨"node_modules/x"⟩ (some "/secret.js") := by
  have hread : PackageReference.ofText "x//secret.js" = ⟨"x", some "/secret.js"⟩ := by decide
  have hancestors : (directoryOf ⟨"a.js"⟩).ancestors = [⟨""⟩] := by decide
  refine namesPackage_iff.mpr ⟨by decide, by decide, ?_, by rw [hread]⟩
  rw [hread, locatePackage, hancestors]
  exact List.find?_cons_of_pos isDir_secretBeside

theorem answer_secretBeside : answer secretBeside "x//secret.js" ⟨"a.js"⟩ = .ok (some ⟨"/secret.js"⟩) := by
  have hread : PackageReference.ofText "x//secret.js" = ⟨"x", some "/secret.js"⟩ := by decide
  have hexact : exactIn ⟨"node_modules/x"⟩ {} (some "/secret.js") = [] := rfl
  have hprobed : ((⟨"node_modules/x"⟩ : Path).join "/secret.js").normalize = ⟨"/secret.js"⟩ := by decide
  rw [answer_eq fun dir _ h => .inl ?_, namesPackage_secretBeside.destination_eq, inside, describe_secretBeside]
  · dsimp only
    rw [Option.getD_none, hexact, List.find?_nil, Option.none_or, probedIn, hprobed, List.findSome?_singleton, meaning,
      List.find?_cons_of_pos isFile_secretBeside]
  · rw [h.dir_of_bare, hread]
    exact .inr (by decide)

/-- Behind two separators, the subpath starts at the root. -/
theorem not_staysInside_of_secretBeside : ¬ StaysInside secretBeside "x//secret.js" ⟨"a.js"⟩ := by
  intro h
  have htame : ∀ entry, Describes secretBeside ((⟨"node_modules/x"⟩ : Path).join "package.json") entry → entry.Tame := by
    intro entry hentry
    obtain ⟨found, hfound, rfl⟩ := describes_iff.mp hentry
    obtain rfl := Except.ok.inj (describe_secretBeside.symm.trans hfound)
    exact tame_nothing
  obtain ⟨dir', hdir', -, names, -, hcomponents⟩ := h _ _ namesPackage_secretBeside (by decide) htame _ answer_secretBeside
  have hsame : dir'.components = [.name "node_modules", .name "x"] := by
    rcases List.mem_cons.mp hdir' with rfl | hdir'
    · decide
    · rw [List.mem_singleton.mp hdir']
      decide
  have hroot : (⟨"/secret.js"⟩ : Path).components = [.root, .name "secret.js"] := by decide
  rw [hsame, hroot] at hcomponents
  cases hcomponents

end ImportSurvey.Resolve
