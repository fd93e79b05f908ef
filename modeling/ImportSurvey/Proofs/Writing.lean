import Mathlib.Data.List.Basic
import ImportSurvey.Disk.Basic

/-
  What is written to a path is read back from it.

  Writing changes the entry of one name.  What has to be shown is that the path still leads to that name
  afterwards: it is resolved on the changed disk, and the entry that changed might have been one on the way.
  It was none.  Before, the name was a file or missing, and neither is a directory to go through or a link to
  follow, so the walk takes the same steps and only ends differently (`Walk.written`).
-/
namespace ImportSurvey.Disk

/-! ## Entries -/

theorem entry?_of_ne_nil (d : Disk) {name : Name} (h : name ≠ []) :
    d.entry? name = (d.entries.find? (·.1 = name)).map (·.2) := if_neg h

/-- Only the entry that was put changes. -/
theorem entry?_put (d : Disk) {name : Name} (hname : name ≠ []) (e : Entry) (n : Name) :
    Disk.entry? (d.put name e) n = if n = name then some e else d.entry? n := by
  by_cases hroot : n = []
  · subst hroot
    rw [if_neg hname.symm]
    rfl
  · rw [entry?_of_ne_nil _ hroot, entry?_of_ne_nil _ hroot, put]
    by_cases hany : d.entries.any (·.1 = name)
    · rw [if_pos hany, List.find?_map]
      have hkeep : (fun r : Name × Entry => decide (r.1 = n)) ∘
          (fun r => if r.1 = name then (name, e) else r) = fun r => decide (r.1 = n) := by
        funext r
        by_cases hr : r.1 = name
        · simp [hr]
        · simp [hr]
      rw [hkeep]
      by_cases hn : n = name
      · subst hn
        obtain ⟨r, hr, hrn⟩ := List.any_eq_true.mp hany
        have hsome : (d.entries.find? (·.1 = n)).isSome := List.find?_isSome.mpr ⟨r, hr, hrn⟩
        obtain ⟨q, hq⟩ := Option.isSome_iff_exists.mp hsome
        have hqn : q.1 = n := by simpa using List.find?_some hq
        rw [hq, Option.map_some, Option.map_some, if_pos hqn, if_pos rfl]
      · rw [if_neg hn, Option.map_map]
        cases hq : d.entries.find? (·.1 = n) with
        | none => rfl
        | some q =>
          have hqn : q.1 = n := by simpa using List.find?_some hq
          rw [Option.map_some, Option.map_some, Function.comp_apply, if_neg (hqn ▸ hn)]
    · rw [if_neg hany, List.find?_append]
      have hnone : d.entries.find? (·.1 = name) = none := by
        rw [List.find?_eq_none]
        intro r hr hrn
        exact hany (List.any_eq_true.mpr ⟨r, hr, hrn⟩)
      by_cases hn : n = name
      · subst hn
        rw [hnone, if_pos rfl]
        simp
      · rw [if_neg hn]
        have hlast : [(name, e)].find? (·.1 = n) = none := by simp [Ne.symm hn]
        rw [hlast, Option.or_none]

theorem isDirName_iff (d : Disk) (name : Name) :
    d.isDirName name = true ↔ ∃ mode listable, d.entry? name = some (.dir mode listable) := by
  rw [isDirName]
  split
  · rename_i mode listable h
    exact ⟨fun _ => ⟨mode, listable, h⟩, fun _ => rfl⟩
  · rename_i h
    exact ⟨fun hf => (by cases hf), fun ⟨mode, listable, he⟩ => absurd he (h mode listable)⟩

/-! ## Walks -/

/-- A segment that names an entry. -/
def Proper (s : String) : Prop := ¬ (s = "" ∨ s = ".") ∧ ¬ s = ".." ∧ ¬ s.utf8ByteSize > 255

/-- The walks that end somewhere, links followed. -/
inductive Walk (d : Disk) : Nat → Name → List String → Place → Prop where
  | stop {links : Nat} {here : Name} {e : Entry} :
      d.entry? here = some e → Walk d links here [] (.found here e)
  | stay {links : Nat} {here : Name} {s : String} {rest : List String} {place : Place} :
      d.isDirName here = true → s = "" ∨ s = "." → Walk d links here rest place →
        Walk d links here (s :: rest) place
  | up {links : Nat} {here : Name} {rest : List String} {place : Place} :
      d.isDirName here = true → Walk d links here.dropLast rest place → Walk d links here (".." :: rest) place
  | missing {links : Nat} {here : Name} {s : String} {rest : List String} :
      d.isDirName here = true → Proper s → d.entry? (here ++ [s]) = none → rest.all (· = "") = true →
        Walk d links here (s :: rest) (.missing (here ++ [s]) !rest.isEmpty)
  | link {links : Nat} {here : Name} {s : String} {rest : List String} {target : Path} {place : Place} :
      d.isDirName here = true → Proper s → d.entry? (here ++ [s]) = some (.link target) →
        Walk d links (if target.isAbsolute then [] else here)
          ((Path.segments target.text.toList).map String.ofList ++ rest) place →
        Walk d (links + 1) here (s :: rest) place
  | enter {links : Nat} {here : Name} {s : String} {rest : List String} {e : Entry} {place : Place} :
      d.isDirName here = true → Proper s → d.entry? (here ++ [s]) = some e → (∀ target, e ≠ .link target) →
        Walk d links (here ++ [s]) rest place → Walk d links here (s :: rest) place

/-- What `walk` computes where a segment names an entry. -/
theorem walk_proper {d : Disk} {links : Nat} {here : Name} {s : String} {rest : List String}
    (hdir : d.isDirName here = true) (hs : Proper s) :
    d.walk true links here (s :: rest) =
      match d.entry? (here ++ [s]) with
      | none => if rest.all (· = "") then .ok (.missing (here ++ [s]) !rest.isEmpty) else .error .notFound
      | some (.link target) =>
        match links with
        | 0 => .error .linkLoop
        | n + 1 => d.walk true n (if target.isAbsolute then [] else here)
            ((Path.segments target.text.toList).map String.ofList ++ rest)
      | some _ => d.walk true links (here ++ [s]) rest := by
  obtain ⟨hdots, hup, hlong⟩ := hs
  rw [walk, if_neg (by simp [hdir]), if_neg hdots, if_neg hup, if_neg hlong]
  cases d.entry? (here ++ [s]) with
  | none => rfl
  | some e =>
    cases e with
    | link target =>
      cases links with
      | zero => simp
      | succ n => simp
    | file content mode => rfl
    | dir mode listable => rfl

theorem Walk.walk_eq {d : Disk} {links : Nat} {here : Name} {todo : List String} {place : Place}
    (h : Walk d links here todo place) : d.walk true links here todo = .ok place := by
  induction h with
  | stop he => rw [walk, he]
  | stay hdir hs _ ih => rw [walk, if_neg (by simp [hdir]), if_pos hs, ih]
  | up hdir _ ih => rw [walk, if_neg (by simp [hdir]), if_neg (by decide), if_pos rfl, ih]
  | missing hdir hs hnone hrest => rw [walk_proper hdir hs, hnone, if_pos hrest]
  | link hdir hs he _ ih =>
    rw [walk_proper hdir hs, he]
    exact ih
  | @enter links here s rest e place hdir hs he hlink _ ih =>
    rw [walk_proper hdir hs, he]
    cases e with
    | link target => exact absurd rfl (hlink target)
    | file content mode => exact ih
    | dir mode listable => exact ih

theorem Walk.of_walk_eq {d : Disk} (links : Nat) (here : Name) (todo : List String) {place : Place}
    (h : d.walk true links here todo = .ok place) : Walk d links here todo place := by
  induction links, here, todo using Disk.walk.induct d true with
  | case1 links here e he =>
    rw [walk, he] at h
    obtain rfl := Except.ok.inj h
    exact .stop he
  | case2 links here hnone =>
    rw [walk, hnone] at h
    cases h
  | case3 links here s rest hdir =>
    rw [walk, if_pos hdir] at h
    cases h
  | case4 links here s rest hdir hs ih =>
    rw [walk, if_neg hdir, if_pos hs] at h
    exact .stay (by simpa using hdir) hs (ih h)
  | case5 links here rest hdir hs ih =>
    rw [walk, if_neg hdir, if_neg hs, if_pos rfl] at h
    exact .up (by simpa using hdir) (ih h)
  | case6 links here s rest hdir hs hup hlong =>
    rw [walk, if_neg hdir, if_neg hs, if_neg hup, if_pos hlong] at h
    cases h
  | case7 links here s rest hdir hs hup hlong hnone hrest =>
    have hdir' : d.isDirName here = true := by simpa using hdir
    rw [walk_proper hdir' ⟨hs, hup, hlong⟩, hnone, if_pos hrest] at h
    obtain rfl := Except.ok.inj h
    exact .missing hdir' ⟨hs, hup, hlong⟩ hnone hrest
  | case8 links here s rest hdir hs hup hlong hnone hrest =>
    rw [walk_proper (by simpa using hdir) ⟨hs, hup, hlong⟩, hnone, if_neg hrest] at h
    cases h
  | case9 links here s rest hdir hs hup hlong target hlink hlast => simp at hlast
  | case10 here s rest hdir hs hup hlong target hlink hlast =>
    rw [walk_proper (by simpa using hdir) ⟨hs, hup, hlong⟩, hlink] at h
    cases h
  | case11 here s rest hdir hs hup hlong target hlink hlast n steps ih =>
    have hdir' : d.isDirName here = true := by simpa using hdir
    rw [walk_proper hdir' ⟨hs, hup, hlong⟩, hlink] at h
    exact .link hdir' ⟨hs, hup, hlong⟩ hlink (ih h)
  | case12 links here s rest hdir hs hup hlong e hnolink he ih =>
    have hdir' : d.isDirName here = true := by simpa using hdir
    have hlink : ∀ target, e ≠ .link target := fun target heq => hnolink target heq
    rw [walk_proper hdir' ⟨hs, hup, hlong⟩, he] at h
    cases e with
    | link target => exact absurd rfl (hlink target)
    | file content mode => exact .enter hdir' ⟨hs, hup, hlong⟩ he hlink (ih h)
    | dir mode listable => exact .enter hdir' ⟨hs, hup, hlong⟩ he hlink (ih h)

/-- What stands at the place where a walk ends. -/
def Place.standing : Place → Option Entry
  | .found _ e => some e
  | .missing .. => none

def Place.name : Place → Name
  | .found name _ => name
  | .missing name _ => name

theorem Walk.entry_eq {d : Disk} {links : Nat} {here : Name} {todo : List String} {place : Place}
    (h : Walk d links here todo place) : d.entry? place.name = place.standing := by
  induction h with
  | stop he => exact he
  | stay _ _ _ ih => exact ih
  | up _ _ ih => exact ih
  | missing _ _ hnone _ => exact hnone
  | link _ _ _ _ ih => exact ih
  | enter _ _ _ _ _ ih => exact ih

/-! ## The same walk on the changed disk -/

/-- The second disk has a file under a name that was a file on the first disk or was missing there, and the
same entries otherwise. -/
structure Written (d d' : Disk) (name : Name) (content : Content) (mode : Nat) : Prop where
  before : ∀ e, d.entry? name = some e → ∃ content mode, e = .file content mode
  after : d'.entry? name = some (.file content mode)
  other : ∀ n, n ≠ name → d'.entry? n = d.entry? n

section

variable {d d' : Disk} {name : Name} {content : Content} {mode : Nat} (h : Written d d' name content mode)
include h

theorem Written.isDirName {n : Name} (hn : d.isDirName n = true) : d'.isDirName n = true := by
  rw [isDirName_iff] at hn ⊢
  obtain ⟨m, listable, hentry⟩ := hn
  have hne : n ≠ name := by
    rintro rfl
    obtain ⟨_, _, he⟩ := h.before _ hentry
    cases he
  exact ⟨m, listable, (h.other n hne).trans hentry⟩

/-- **The same walk ends at the file**, unless separators followed the name that was missing. -/
theorem Walk.written {links : Nat} {here : Name} {todo : List String} {place : Place}
    (hwalk : Walk d links here todo place) (hname : place.name = name)
    (hslash : ∀ n, place ≠ .missing n true) :
    Walk d' links here todo (.found name (.file content mode)) := by
  induction hwalk with
  | stop he =>
    obtain rfl : _ = name := hname
    exact .stop h.after
  | stay hdir hs _ ih => exact .stay (h.isDirName hdir) hs (ih hname hslash)
  | up hdir _ ih => exact .up (h.isDirName hdir) (ih hname hslash)
  | @missing links here s rest hdir hs _ _ =>
    obtain rfl : here ++ [s] = name := hname
    -- what was missing is now a file, and a walk does not go on from a file
    cases rest with
    | nil => exact .enter (h.isDirName hdir) hs h.after (fun _ => nofun) (.stop h.after)
    | cons t rest => exact absurd rfl (hslash _)
  | @link links here s rest target place hdir hs he _ ih =>
    -- a link is followed before anything is written, so it is not what was written to
    have hne : here ++ [s] ≠ name := by
      rintro rfl
      obtain ⟨_, _, hfile⟩ := h.before _ he
      cases hfile
    exact .link (h.isDirName hdir) hs ((h.other _ hne).trans he) (ih hname hslash)
  | @enter links here s rest e place hdir hs he hlink _ ih =>
    by_cases heq : here ++ [s] = name
    · have hfile : d'.entry? (here ++ [s]) = some (.file content mode) := heq ▸ h.after
      exact .enter (h.isDirName hdir) hs hfile (fun _ => nofun) (ih hname hslash)
    · exact .enter (h.isDirName hdir) hs ((h.other _ heq).trans he) hlink (ih hname hslash)

end

/-! ## Reading back -/

/-- A path that is looked up at all. -/
def Admissible (p : Path) : Prop :=
  p.text.isEmpty = false ∧ p.text.toList.contains '\x00' = false ∧ p.text.utf8ByteSize ≤ 4095

theorem locate_eq_ok_iff {d : Disk} {p : Path} {place : Place} :
    d.locate true p = .ok place ↔ Admissible p ∧ Walk d maxLinks (if p.isAbsolute then [] else d.workingDir)
      ((Path.segments p.text.toList).map String.ofList) place := by
  constructor
  · intro h
    rw [locate] at h
    split at h
    · cases h
    · rename_i hempty
      split at h
      · cases h
      · rename_i hnul
        split at h
        · cases h
        · rename_i hlong
          have hadm : Admissible p :=
            ⟨Bool.eq_false_iff.mpr hempty, Bool.eq_false_iff.mpr hnul, Nat.le_of_not_lt hlong⟩
          exact ⟨hadm, .of_walk_eq _ _ _ h⟩
  · rintro ⟨⟨hempty, hnul, hlong⟩, hwalk⟩
    rw [locate, if_neg (Bool.eq_false_iff.mp hempty), if_neg (Bool.eq_false_iff.mp hnul),
      if_neg (Nat.not_lt.mpr hlong)]
    exact hwalk.walk_eq

theorem find_eq_ok_iff {d : Disk} {p : Path} {name : Name} {e : Entry} :
    d.find p true = .ok (name, e) ↔ d.locate true p = .ok (.found name e) := by
  rw [find]
  cases d.locate true p with
  | error f => exact ⟨nofun, nofun⟩
  | ok place =>
    cases place with
    | missing name' slash => exact ⟨nofun, nofun⟩
    | found name' e' =>
      constructor
      · intro h
        obtain ⟨rfl, rfl⟩ := Prod.mk.inj (Except.ok.inj h)
        rfl
      · intro h
        obtain ⟨rfl, rfl⟩ := Place.found.inj (Except.ok.inj h)
        rfl

theorem isDir_iff {d : Disk} {p : Path} :
    d.isDir p = true ↔ ∃ name mode listable, d.find p true = .ok (name, .dir mode listable) := by
  rw [isDir]
  split
  · rename_i name mode listable h
    exact ⟨fun _ => ⟨name, mode, listable, h⟩, fun _ => rfl⟩
  · rename_i hno
    exact ⟨fun h => (by cases h), fun ⟨name, mode, listable, h⟩ => absurd h (hno name mode listable)⟩

/-- An absolute path leads to what a walk along its segments finds. -/
theorem find_of_walk {d : Disk} {p : Path} {steps : List String} {name : Name} {e : Entry} (hp : Admissible p)
    (habs : p.isAbsolute = true) (hsteps : (Path.segments p.text.toList).map String.ofList = steps)
    (hwalk : Walk d maxLinks [] steps (.found name e)) : d.find p true = .ok (name, e) := by
  refine find_eq_ok_iff.mpr (locate_eq_ok_iff.mpr ⟨hp, ?_⟩)
  rw [habs, hsteps]
  exact hwalk

theorem find_root (d : Disk) : d.find ⟨"/"⟩ true = .ok ([], rootDir) := by
  refine find_of_walk ⟨by decide, by decide, by decide⟩ rfl (show _ = ["", ""] by decide) ?_
  exact .stay rfl (.inl rfl) (.stay rfl (.inl rfl) (.stop rfl))

/-! ### Names in the working directory -/

/-- A text that is one name, to be looked up in the working directory. -/
structure IsName (s : String) : Prop where
  admissible : Admissible ⟨s⟩
  segments : (Path.segments s.toList).map String.ofList = [s]
  proper : Proper s
  relative : (⟨s⟩ : Path).isAbsolute = false

instance (p : Path) : Decidable (Admissible p) := inferInstanceAs (Decidable (_ ∧ _))

instance (s : String) : Decidable (Proper s) := inferInstanceAs (Decidable (_ ∧ _))

instance (s : String) : Decidable (IsName s) :=
  decidable_of_iff (Admissible ⟨s⟩ ∧ (Path.segments s.toList).map String.ofList = [s] ∧ Proper s ∧
      (⟨s⟩ : Path).isAbsolute = false)
    ⟨fun ⟨hadmissible, hsegments, hproper, hrelative⟩ => ⟨hadmissible, hsegments, hproper, hrelative⟩,
      fun h => ⟨h.admissible, h.segments, h.proper, h.relative⟩⟩

section

variable {d : Disk} {s : String} (hs : IsName s) (hdir : d.isDirName d.workingDir = true)
include hs hdir

theorem find_of_name {e : Entry} (he : d.entry? (d.workingDir ++ [s]) = some e)
    (hlink : ∀ target, e ≠ .link target) : d.find ⟨s⟩ true = .ok (d.workingDir ++ [s], e) := by
  have hat : d.locate true ⟨s⟩ = .ok (.found (d.workingDir ++ [s]) e) := by
    refine locate_eq_ok_iff.mpr ⟨hs.admissible, ?_⟩
    rw [hs.relative, hs.segments]
    exact .enter hdir hs.proper he hlink (.stop he)
  rw [find, hat]

theorem find_of_no_name (hnone : d.entry? (d.workingDir ++ [s]) = none) :
    d.find ⟨s⟩ true = .error .notFound := by
  have hat : d.locate true ⟨s⟩ = .ok (.missing (d.workingDir ++ [s]) false) := by
    refine locate_eq_ok_iff.mpr ⟨hs.admissible, ?_⟩
    rw [hs.relative, hs.segments]
    exact .missing hdir hs.proper hnone rfl
  rw [find, hat]

theorem isFile_of_no_name (hnone : d.entry? (d.workingDir ++ [s]) = none) : d.isFile ⟨s⟩ = false := by
  rw [isFile, find_of_no_name hs hdir hnone]

end

/-! ### The changed disk -/

theorem put_workingDir (d : Disk) (name : Name) (e : Entry) : (d.put name e).workingDir = d.workingDir := by
  rw [put]
  split <;> rfl

/-- The root is a directory on every disk. -/
theorem ne_nil_of_before {d : Disk} {name : Name}
    (h : ∀ e, d.entry? name = some e → ∃ content mode, e = .file content mode) : name ≠ [] := by
  rintro rfl
  obtain ⟨_, _, he⟩ := h rootDir rfl
  cases he

theorem readText_put {d : Disk} {p : Path} {place : Place} (hp : d.locate true p = .ok place)
    (hfile : ∀ e, place.standing = some e → ∃ content mode, e = .file content mode)
    (hslash : ∀ n, place ≠ .missing n true) (s : String) (mode : Nat) :
    (d.put place.name (.file (.text s) mode)).readText p = .ok s := by
  obtain ⟨hadm, hwalk⟩ := locate_eq_ok_iff.mp hp
  have hbefore : ∀ e, d.entry? place.name = some e → ∃ content mode, e = .file content mode :=
    fun e he => hfile e (hwalk.entry_eq.symm.trans he)
  have hroot := ne_nil_of_before hbefore
  have hwritten : Written d (d.put place.name (.file (.text s) mode)) place.name (.text s) mode := by
    refine ⟨hbefore, ?_, fun n hn => ?_⟩
    · rw [entry?_put d hroot, if_pos rfl]
    · rw [entry?_put d hroot, if_neg hn]
  have hafter : (d.put place.name (.file (.text s) mode)).locate true p =
      .ok (.found place.name (.file (.text s) mode)) := by
    rw [locate_eq_ok_iff, put_workingDir]
    exact ⟨hadm, hwalk.written hwritten rfl hslash⟩
  rw [readText, find, hafter]

/-- **What was written to a path is read back from it.** -/
theorem readText_writeText {d d' : Disk} {p : Path} {s : String} (h : d.writeText p s = .ok d') :
    d'.readText p = .ok s := by
  rw [writeText] at h
  split at h
  · cases h
  · rename_i name slash hp
    split at h
    · cases h
    · rename_i hslash
      obtain rfl := Except.ok.inj h
      refine readText_put hp nofun (fun n hn => ?_) s _
      obtain ⟨-, rfl⟩ := Place.missing.inj hn
      exact hslash rfl
  · cases h
  · cases h
  · rename_i name content mode _ hp
    obtain rfl := Except.ok.inj h
    refine readText_put hp (fun e he => ?_) nofun s _
    exact ⟨content, mode, (Option.some.inj he).symm⟩
  · cases h

end ImportSurvey.Disk
