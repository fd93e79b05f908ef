import ImportSurvey.Proofs.Writing

/-
  Real names.

  A path leads to an entry in one step (`Disk.find`), where only its own text has to be one that the system
  takes.  Its real name is found by asking for one name after the other (`Disk.realName`), and each of these has
  to be one that the system takes.  Both go the same way, so an entry that a path leads to has a real name
  (`realName_of_find`), and it is the one that the walk ends at; what can come between is only that a name on
  the way is too long (`realName_of_entries`).
-/
namespace ImportSurvey.Disk

section

variable {d : Disk} {askable : Name → Bool}

section

variable {here : Name} {s : String} {rest : List String} (hdir : d.isDirName here = true) (hs : Proper s)
  (hask : askable (here ++ [s]) = true)
include hdir hs hask

theorem realWalk_of_link {links : Nat} {target : Path} (he : d.entry? (here ++ [s]) = some (.link target)) :
    d.realWalk askable (links + 1) here (s :: rest) =
      d.realWalk askable links (if target.isAbsolute then [] else here)
        ((Path.segments target.text.toList).map String.ofList ++ rest) := by
  obtain ⟨hdots, hup, hlong⟩ := hs
  rw [realWalk, if_neg (by simp [hdir]), if_neg hdots, if_neg hup, if_neg (by simp [hask, Nat.le_of_not_gt hlong]), he]

theorem realWalk_of_entry {links : Nat} {e : Entry} (he : d.entry? (here ++ [s]) = some e)
    (hlink : ∀ target, e ≠ .link target) :
    d.realWalk askable links here (s :: rest) = d.realWalk askable links (here ++ [s]) rest := by
  obtain ⟨hdots, hup, hlong⟩ := hs
  rw [realWalk, if_neg (by simp [hdir]), if_neg hdots, if_neg hup, if_neg (by simp [hask, Nat.le_of_not_gt hlong]), he]
  cases e with
  | link target => exact absurd rfl (hlink target)
  | file content mode => rfl
  | dir mode listable => rfl

end

/-- **The real name of a path is where the walk along it ends**, if every entry can be asked for. -/
theorem Walk.realWalk_eq {links : Nat} {here : Name} {todo : List String} {place : Place} {name : Name} {e : Entry}
    (h : Walk d links here todo place) (hask : ∀ n e, d.entry? n = some e → askable n = true)
    (hplace : place = .found name e) : d.realWalk askable links here todo = .ok name := by
  induction h with
  | stop _ =>
    obtain ⟨rfl, rfl⟩ := Place.found.inj hplace
    rw [realWalk]
  | stay hdir hs _ ih => rw [realWalk, if_neg (by simp [hdir]), if_pos hs, ih hplace]
  | up hdir _ ih => rw [realWalk, if_neg (by simp [hdir]), if_neg (by decide), if_pos rfl, ih hplace]
  | missing _ _ _ _ => cases hplace
  | link hdir hs he _ ih => rw [realWalk_of_link hdir hs (hask _ _ he) he, ih hplace]
  | enter hdir hs he hlink _ ih => rw [realWalk_of_entry hdir hs (hask _ _ he) he hlink, ih hplace]

/-- The more names can be asked for, the more paths have a real name; none changes. -/
theorem realWalk_mono {askable' : Name → Bool} (hmore : ∀ n, askable n = true → askable' n = true)
    (links : Nat) (here : Name) (todo : List String) {name : Name}
    (h : d.realWalk askable links here todo = .ok name) : d.realWalk askable' links here todo = .ok name := by
  induction links, here, todo using Disk.realWalk.induct d askable with
  | case1 links here =>
    rw [realWalk] at h ⊢
    exact h
  | case2 links here s rest hdir =>
    rw [realWalk, if_pos hdir] at h
    cases h
  | case3 links here s rest hdir hs ih =>
    rw [realWalk, if_neg hdir, if_pos hs] at h ⊢
    exact ih h
  | case4 links here rest hdir hs ih =>
    rw [realWalk, if_neg hdir, if_neg hs, if_pos rfl] at h ⊢
    exact ih h
  | case5 links here s rest hdir hs hup hrefused =>
    rw [realWalk, if_neg hdir, if_neg hs, if_neg hup, if_pos hrefused] at h
    cases h
  | case6 links here s rest hdir hs hup hasked hnone =>
    rw [realWalk, if_neg hdir, if_neg hs, if_neg hup, if_neg hasked, hnone] at h
    cases h
  | case7 here s rest hdir hs hup hasked target hlink =>
    rw [realWalk, if_neg hdir, if_neg hs, if_neg hup, if_neg hasked, hlink] at h
    cases h
  | case8 here s rest hdir hs hup hasked target hlink n steps ih =>
    obtain ⟨hlong, hask⟩ : s.utf8ByteSize ≤ 255 ∧ askable (here ++ [s]) = true := by simpa using hasked
    have hproper : Proper s := ⟨hs, hup, Nat.not_lt.mpr hlong⟩
    rw [realWalk_of_link (by simpa using hdir) hproper hask hlink] at h
    rw [realWalk_of_link (by simpa using hdir) hproper (hmore _ hask) hlink]
    exact ih h
  | case9 links here s rest hdir hs hup hasked e hnolink he ih =>
    obtain ⟨hlong, hask⟩ : s.utf8ByteSize ≤ 255 ∧ askable (here ++ [s]) = true := by simpa using hasked
    have hproper : Proper s := ⟨hs, hup, Nat.not_lt.mpr hlong⟩
    rw [realWalk_of_entry (by simpa using hdir) hproper hask he hnolink] at h
    rw [realWalk_of_entry (by simpa using hdir) hproper (hmore _ hask) he hnolink]
    exact ih h

end

/-! ## Paths and their real names -/

/-- The real path of a path, however long. -/
def realPath (d : Disk) (p : Path) : Except Fault Path := (d.realName (fun _ => true) p).map nameText

/-- What a path leads to can be found by asking, if every entry can be asked for. -/
theorem realName_of_entries {d : Disk} {askable : Name → Bool} (hask : ∀ n e, d.entry? n = some e → askable n = true)
    {p : Path} {name : Name} {e : Entry} (h : d.find p true = .ok (name, e)) :
    d.realName askable p = .ok name := by
  obtain ⟨⟨hempty, hnul, -⟩, hwalk⟩ := locate_eq_ok_iff.mp (find_eq_ok_iff.mp h)
  rw [realName, if_neg (Bool.eq_false_iff.mp hempty), if_neg (Bool.eq_false_iff.mp hnul)]
  exact hwalk.realWalk_eq hask rfl

theorem realName_of_find {d : Disk} {p : Path} {name : Name} {e : Entry} (h : d.find p true = .ok (name, e)) :
    d.realName (fun _ => true) p = .ok name := realName_of_entries (fun _ _ _ => rfl) h

theorem realName_mono {d : Disk} {askable askable' : Name → Bool} (hmore : ∀ n, askable n = true → askable' n = true)
    {p : Path} {name : Name} (h : d.realName askable p = .ok name) : d.realName askable' p = .ok name := by
  rw [realName] at h ⊢
  split at h
  · cases h
  · rename_i hempty
    split at h
    · cases h
    · rename_i hnul
      rw [if_neg hempty, if_neg hnul]
      exact realWalk_mono hmore _ _ _ h

/-- Every entry has a name that is one of the entries' or that of the root. -/
theorem fits_of_entry {d : Disk} (hfits : ∀ r ∈ d.entries, fits r.1 = true) {name : Name} {e : Entry}
    (h : d.entry? name = some e) : fits name = true := by
  by_cases hroot : name = []
  · subst hroot
    decide
  · rw [entry?_of_ne_nil d hroot] at h
    obtain ⟨r, hr, -⟩ := Option.map_eq_some_iff.mp h
    obtain rfl : r.1 = name := by simpa using List.find?_some hr
    exact hfits r (List.mem_of_find?_eq_some hr)

/-- On a disk whose names are all taken as paths, what a path leads to has a canonical path. -/
theorem canonicalize_of_find {d : Disk} (hfits : ∀ r ∈ d.entries, fits r.1 = true) {p : Path} {name : Name} {e : Entry}
    (h : d.find p true = .ok (name, e)) : d.canonicalize p = .ok (nameText name) := by
  rw [canonicalize, realName_of_entries (fun _ _ he => fits_of_entry hfits he) h]
  rfl

theorem canonicalize_root (d : Disk) : d.canonicalize ⟨"/"⟩ = .ok ⟨"/"⟩ := by
  have hsteps : (Path.segments (⟨"/"⟩ : Path).text.toList).map String.ofList = ["", ""] := by decide
  rw [canonicalize, realName, if_neg (by decide), if_neg (by decide), hsteps]
  simp only [realWalk]
  rfl

/-- The canonical path, where there is one, is the real path. -/
theorem realPath_of_canonicalize {d : Disk} {p real : Path} (h : d.canonicalize p = .ok real) :
    d.realPath p = .ok real := by
  rw [canonicalize] at h
  cases hname : d.realName fits p with
  | error f =>
    rw [hname] at h
    cases h
  | ok name =>
    rw [realPath, realName_mono (fun _ _ => rfl) hname, ← h, hname]

end ImportSurvey.Disk
