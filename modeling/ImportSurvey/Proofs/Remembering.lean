import ImportSurvey.Proofs.Searching

/-
  Whether what a resolver remembers changes its answers.

  A search answers the same from every memory that agrees with the disk, as long as it asks for faithful paths only.
  Nearly all paths that a search asks for are tidy and so faithful.  The exception are the files of a package that
  is named by a scope and a dot: they are spelled with a dot inside, and that counts for the length that the system
  allows for a path.  `ModuleSpace.answers_eq` says that memory is invisible for all references that stay within
  this length.
-/
namespace ImportSurvey

namespace Resolve

variable {d : Disk}

/-- A directory of a package that would be found again. -/
def Located (d : Disk) (e : (Key × String) × Option Path) : Prop :=
  locatePackage d (.ofComponents e.1.1) e.1.2 = e.2

theorem answers_packageDir {start : Path} (h : start.Tidy) (name : String) :
    Answers d (Located d) (packageDir d start name) (locatePackage d start name) := by
  intro m hm
  rw [packageDir]
  split
  · rename_i known hknown
    refine ⟨m, ?_, hm⟩
    rw [← show _ = known from hm.packageDirs _ (mem_of_lookup hknown), h.ofComponents_components]
  · refine ⟨_, rfl, ⟨hm.files, fun e he => ?_, hm.descriptions⟩⟩
    rcases List.mem_cons.mp he with rfl | he
    · rw [Located, h.ofComponents_components, locatePackage]
    · exact hm.packageDirs e he

/-! ## Directories of packages -/

/-- A path that is not empty and does not end in a separator. -/
def Open (p : Path) : Prop := p.text ≠ "" ∧ p.text.toList.getLast? ≠ some '/'

theorem Open.join_eq {p : Path} (h : Open p) {q : String} (hq : Path.isAbsolute ⟨q⟩ = false) :
    p.join q = ⟨p.text ++ "/" ++ q⟩ := by
  rw [Path.join, hq, Bool.false_or, if_neg (by simpa using h.1), if_neg (by simpa using h.2)]

theorem getLast?_of_names {q : String} (hq : Path.Names q) : ∃ c, q.toList.getLast? = some c ∧ c ≠ '/' := by
  cases hlast : q.toList.getLast? with
  | none =>
    have hempty : q.toList = [] := List.getLast?_eq_none_iff.mp hlast
    exact absurd rfl (hq [] (by rw [hempty]; exact List.mem_singleton.mpr rfl)).1
  | some c =>
    refine ⟨c, rfl, fun hc => ?_⟩
    subst hc
    obtain ⟨cs, hcs⟩ := List.getLast?_eq_some_iff.mp hlast
    obtain ⟨s, ss, -, happ⟩ := Path.tail_segments_append_sep cs []
    refine absurd rfl (hq [] ?_).1
    rw [hcs, happ]
    exact List.mem_cons_of_mem s (List.mem_append_right ss (List.mem_singleton.mpr rfl))

/-- Names behind a path leave it open. -/
theorem open_join (p : Path) {q : String} (hq : Path.Names q) : Open (p.join q) := by
  obtain ⟨c, hlast, hc⟩ := getLast?_of_names hq
  have hends : ∃ t, (p.join q).text = t ++ q := by
    rw [Path.join, hq.not_absolute, Bool.false_or]
    split
    · exact ⟨"", String.empty_append.symm⟩
    · split
      · exact ⟨p.text, rfl⟩
      · exact ⟨p.text ++ "/", rfl⟩
  obtain ⟨t, ht⟩ := hends
  have hlast' : (p.join q).text.toList.getLast? = some c := by
    rw [ht, String.toList_append, List.getLast?_append, hlast]
    rfl
  refine ⟨fun hempty => ?_, by rw [hlast']; simpa using hc⟩
  rw [hempty] at hlast'
  cases hlast'

/-- A separator behind the directory of a package does not show in what is asked for. -/
theorem join_slash {p : Path} (h : Open p) {q : String} (hq : Path.Names q) :
    (⟨p.text ++ "/"⟩ : Path).join q = p.join q := by
  have hends : (p.text ++ "/").toList.getLast? = some '/' := by
    rw [String.toList_append]
    exact List.getLast?_concat
  have hne : (p.text ++ "/").isEmpty = false := by
    refine Bool.eq_false_iff.mpr fun hempty => ?_
    rw [String.isEmpty_iff.mp hempty] at hends
    cases hends
  rw [h.join_eq hq.not_absolute, Path.join, hq.not_absolute, Bool.false_or, hne, if_neg Bool.false_ne_true, hends]
  rfl

theorem Reliable.of_slash {p : Path} (h : p.Tidy) (hopen : Open p) : Reliable d ⟨p.text ++ "/"⟩ where
  description := by
    rw [join_slash hopen (by decide)]
    exact (Reliable.of_tidy h).description
  index := by
    rw [join_slash hopen (by decide)]
    exact (Reliable.of_tidy h).index

/-- If a path in a directory is not too long for the system, it is faithful. -/
theorem Faithful.of_short {dir : Path} {q : String} (hq : Path.Names q)
    (hsize : dir.text.utf8ByteSize + q.utf8ByteSize + 1 ≤ 4095) : Faithful d (dir.join q) :=
  (d.find_tidied (hq.endsInName_join dir) ((dir.size_join q).trans hsize)).symm

theorem Reliable.of_short {dir : Path} (h : dir.text.utf8ByteSize + 17 ≤ 4095) : Reliable d dir where
  description := by
    have hsize : "package.json".utf8ByteSize = 12 := by decide
    refine .of_short (by decide) ?_
    omega
  index := by
    have hindex : "index".utf8ByteSize = 5 := by decide
    have hextensions : ∀ e ∈ probeExtensions, Path.Names ("index" ++ ("." ++ e)) ∧ Path.Names ("index." ++ e) ∧
        ("index" ++ ("." ++ e)).utf8ByteSize ≤ 10 ∧ ("index." ++ e).utf8ByteSize ≤ 10 := by decide
    intro q hq
    rcases List.mem_append.mp hq with hq | hq
    · rcases List.mem_cons.mp hq with rfl | hq
      · refine .of_short (by decide) ?_
        omega
      · obtain ⟨e, he, rfl⟩ := List.mem_map.mp hq
        obtain ⟨hname, -, hsize, -⟩ := hextensions e he
        have htext : (⟨(dir.join "index").text ++ "." ++ e⟩ : Path) = dir.join ("index" ++ ("." ++ e)) := by
          rw [← dir.join_append (by decide), String.append_assoc]
        rw [htext]
        refine .of_short hname ?_
        omega
    · obtain ⟨e, he, rfl⟩ := List.mem_map.mp hq
      obtain ⟨-, hname, -, hsize⟩ := hextensions e he
      have hdir := dir.size_join "index"
      refine .of_short hname ?_
      omega

/-! ## References -/

theorem solid_of_head {c : Char} (hdot : c ≠ '.') (cs : List Char) : Path.Solid (c :: cs) :=
  ⟨List.cons_ne_nil c cs, fun h => hdot (List.cons.inj h).1⟩

/-- The name of a package is made of names, but behind a scope there may be nothing or a dot. -/
theorem name_cases {reference : String} (hne : reference.isEmpty = false)
    (hpackage : isPathReference reference = false) :
    Path.Names (PackageReference.ofText reference).name ∨ ∃ scope, Path.Names scope ∧
      ((PackageReference.ofText reference).name = scope ++ "/" ∨
        (PackageReference.ofText reference).name = scope ++ "/.") := by
  have hnosep (cs : List Char) : '/' ∉ cs.takeWhile (· ≠ '/') := fun h => by
    simpa using List.mem_takeWhile_imp h
  have hnames {cs : List Char} (hsep : '/' ∉ cs) (hsolid : Path.Solid cs) : Path.Names (.ofList cs) := by
    intro s hs
    rw [String.toList_ofList, Path.segments_of_not_mem hsep, List.mem_singleton] at hs
    exact hs ▸ hsolid
  rw [isPathReference] at hpackage
  rw [PackageReference.ofText]
  cases hcs : reference.toList with
  | nil => rw [String.toList_eq_nil_iff.mp hcs] at hne; cases hne
  | cons c cs =>
    rw [hcs, Bool.or_eq_false_iff] at hpackage
    obtain ⟨hdot, hsep⟩ : c ≠ '.' ∧ c ≠ '/' := by simpa using hpackage
    have hfirst : (c :: cs).takeWhile (· ≠ '/') = c :: cs.takeWhile (· ≠ '/') :=
      List.takeWhile_cons_of_pos (by simpa using hsep)
    have hfirstsep := hnosep (c :: cs)
    have hfirstsolid := solid_of_head hdot (cs.takeWhile (· ≠ '/'))
    dsimp only
    rw [hfirst] at hfirstsep ⊢
    generalize c :: cs.takeWhile (· ≠ '/') = first at hfirstsep hfirstsolid ⊢
    split
    -- a scope takes what stands behind its separator into the name, be it nothing or a dot
    · have hsecondsep := hnosep ((c :: cs).drop (first.length + 1))
      generalize ((c :: cs).drop (first.length + 1)).takeWhile (· ≠ '/') = second at hsecondsep ⊢
      dsimp only
      have hscope := hnames hfirstsep hfirstsolid
      by_cases hempty : second = []
      · exact .inr ⟨.ofList first, hscope, .inl (by rw [hempty, String.ofList_append])⟩
      · by_cases hone : second = ['.']
        · exact .inr ⟨.ofList first, hscope, .inr (by rw [hone, String.ofList_append])⟩
        · refine .inl fun s hs => ?_
          rw [String.toList_ofList, Path.segments_append_sep hfirstsep, Path.segments_of_not_mem hsecondsep] at hs
          rcases List.mem_cons.mp hs with rfl | hs
          · exact hfirstsolid
          · exact List.mem_singleton.mp hs ▸ ⟨hempty, hone⟩
    · exact .inl (hnames hfirstsep hfirstsolid)

/-- If the reference names a package by a scope and a dot, the paths of the files that are asked for in it are not
too long for the system. -/
def InReach (reference : String) (start : Path) : Prop :=
  ∀ scope, (PackageReference.ofText reference).name = scope ++ "/." → ∀ a ∈ start.ancestors,
    ((a.join "node_modules").join (scope ++ "/.")).text.utf8ByteSize + 17 ≤ 4095

theorem Reliable.of_located {reference : String} {start dir : Path} (hne : reference.isEmpty = false)
    (hpackage : isPathReference reference = false) (hstart : start.Tidy) (hreach : InReach reference start)
    (h : locatePackage d start (PackageReference.ofText reference).name = some dir) : Reliable d dir := by
  obtain ⟨a, ha, rfl⟩ := List.mem_map.mp (List.mem_of_find?_eq_some h)
  have hmodules : Path.Names "node_modules" := by decide
  have htidy := (hstart.ancestors ha).join hmodules
  rcases name_cases hne hpackage with hname | ⟨scope, hscope, hname | hname⟩
  · exact .of_tidy (htidy.join hname)
  · rw [hname, ← Path.join_append _ (mt String.toList_eq_nil_iff.mpr hscope.ne_nil)]
    exact .of_slash (htidy.join hscope) (open_join _ hscope)
  · rw [hname]
    exact .of_short (hreach scope hname a ha)

end Resolve

namespace ModuleSpace

open Resolve

variable {s : ModuleSpace} {d : Disk}

theorem tidy_directoryOf (s : ModuleSpace) (origin : String) : (directoryOf (s.modulePath origin)).Tidy := by
  have hfile : (s.modulePath origin).Tidy := Path.tidy_normalize _
  rw [directoryOf]
  cases hparent : (s.modulePath origin).parent with
  | none => exact hfile
  | some dir => exact hfile.parent hparent

/-- What does not depend on what is remembered is what a resolver answers that remembers nothing. -/
theorem answers_resolve {reference origin : String}
    (hreach : InReach reference (directoryOf (s.modulePath origin))) :
    Answers d (Located d) (s.resolve d reference origin) (s.resolver d reference origin) := by
  have hall : ∃ a, Answers d (Located d) (s.resolve d reference origin) a := by
    have htidy := s.tidy_directoryOf origin
    have hpath : Answers d (Located d) (resolvePath d reference (s.modulePath origin))
        (destination d reference (s.modulePath origin)) := by
      intro m hm
      refine resolvePath_eq hm (answers_packageDir htidy _ m hm) fun hne hpackage dir hdir => ?_
      exact .of_located hne hpackage htidy hreach hdir
    rw [resolve]
    split
    · exact ⟨_, answers_pure _⟩
    · rcases hfound : destination d reference (s.modulePath origin) with f | (_ | p)
      · exact ⟨.unresolved, hpath.bind (by rw [hfound]; exact answers_pure _)⟩
      · exact ⟨.unresolved, hpath.bind (by rw [hfound]; exact answers_pure _)⟩
      · exact ⟨.module (s.moduleId p), hpath.bind (by rw [hfound]; exact answers_pure _)⟩
  obtain ⟨a, ha⟩ := hall
  obtain ⟨m, hfresh, -⟩ := ha {} (recalls_empty d _)
  have hresolver : s.resolver d reference origin = a := congrArg Prod.fst hfresh
  exact hresolver ▸ ha

/-- The answers of one resolver to questions that are asked one after the other. -/
def answers (s : ModuleSpace) (d : Disk) (calls : List (String × String)) : List Resolution :=
  ((calls.mapM fun c => s.resolve d c.1 c.2 : Search (List Resolution)).run {}).1

/-- **What a resolver remembers does not show in its answers.** -/
theorem answers_eq {calls : List (String × String)}
    (hreach : ∀ c ∈ calls, InReach c.1 (directoryOf (s.modulePath c.2))) :
    s.answers d calls = calls.map fun c => s.resolver d c.1 c.2 := by
  have hall : Answers d (Located d) (calls.mapM fun c => s.resolve d c.1 c.2 : Search (List Resolution))
      (calls.map fun c => s.resolver d c.1 c.2) := by
    induction calls with
    | nil => exact answers_pure []
    | cons c calls ih =>
      rw [List.mapM_cons]
      refine (answers_resolve (hreach c (List.mem_cons_self ..))).bind ?_
      exact (ih fun c' hc' => hreach c' (List.mem_cons_of_mem c hc')).bind (answers_pure _)
  obtain ⟨m, hrun, -⟩ := hall {} (recalls_empty d _)
  exact congrArg Prod.fst hrun

/-- A package in a scope, with an index file of its own in the scope. -/
def scopedPackage : Disk where
  entries := [(["node_modules"], .dir 0o755 true), (["node_modules", "@s"], .dir 0o755 true),
    (["node_modules", "@s", "index.ts"], .file (.text ""))]
  workingDir := []

/-- The scope is asked for, and then in the other spelling. -/
theorem answers_of_two_spellings :
    (ofDir ⟨"."⟩).answers scopedPackage [("@s", "a.js"), ("@s/.", "a.js")] =
      [("@s", "a.js"), ("@s/.", "a.js")].map fun c => (ofDir ⟨"."⟩).resolver scopedPackage c.1 c.2 := by
  have hancestors : (directoryOf ((ofDir ⟨"."⟩).modulePath "a.js")).ancestors = [⟨""⟩] := by decide
  refine answers_eq fun c hc => ?_
  rcases List.mem_cons.mp hc with rfl | hc
  · intro scope hname
    have hdot := congrArg (·.toList.getLast?) hname
    simp [PackageReference.ofText] at hdot
  · obtain rfl := List.mem_singleton.mp hc
    intro scope hname a ha
    rw [← hname]
    rw [hancestors, List.mem_singleton] at ha
    rw [ha]
    decide

end ModuleSpace

end ImportSurvey
