import Mathlib.Data.List.Nodup
import ImportSurvey.Proofs.Spelling
import ImportSurvey.Proofs.Writing

/-
  Disks that are trees.

  Every entry of a disk has one name, and a path can be made of the name.  If the parts of the name can be told
  apart in the path, then the path tells the name (`nameText_inj`); and if what an entry stands in is always a
  directory, then the path leads to the entry (`find_nameText`), as long as the system takes a path of that length.
-/
namespace ImportSurvey.Disk

/-! ## Names, and the paths made of them -/

/-- A name that a path can be made of: its parts are not empty and hold neither separators nor zero bytes. -/
def PlainName (name : Name) : Prop := ∀ s ∈ name, s ≠ "" ∧ '/' ∉ s.toList ∧ '\x00' ∉ s.toList

instance (name : Name) : Decidable (PlainName name) :=
  inferInstanceAs (Decidable (∀ s ∈ name, s ≠ "" ∧ '/' ∉ s.toList ∧ '\x00' ∉ s.toList))

section

variable {name : Name} (hplain : PlainName name)
include hplain

theorem segments_intercalate (hne : name ≠ []) :
    Path.segments ("/".intercalate name).toList = name.map String.toList := by
  rw [String.toList_intercalate]
  refine Path.segments_intercalate (mt List.map_eq_nil_iff.mp hne) fun s hs => ?_
  obtain ⟨t, ht, rfl⟩ := List.mem_map.mp hs
  exact (hplain t ht).2.1

theorem nul_not_mem_intercalate : '\x00' ∉ ("/".intercalate name).toList := by
  intro hnul
  rw [String.toList_intercalate] at hnul
  rcases Path.mem_intercalate hnul with h | ⟨s, hs, hc⟩
  · exact absurd h (by decide)
  · obtain ⟨t, ht, rfl⟩ := List.mem_map.mp hs
    exact (hplain t ht).2.2 hc

/-- A path made of names leads along these names. -/
theorem steps_intercalate (hne : name ≠ []) :
    (Path.segments ("/".intercalate name).toList).map String.ofList = name ∧
      (⟨"/".intercalate name⟩ : Path).isAbsolute = false := by
  have hsegments := segments_intercalate hplain hne
  constructor
  · have hsame : String.ofList ∘ String.toList = id := funext fun _ => String.ofList_toList
    rw [hsegments, List.map_map, hsame, List.map_id]
  · obtain ⟨s, rest, rfl⟩ := List.exists_cons_of_ne_nil hne
    rw [Bool.eq_false_iff]
    intro habs
    have hnil := ((Path.isAbsolute_iff hsegments).mp habs).1
    exact (hplain s List.mem_cons_self).1 (String.toList_eq_nil_iff.mp hnil)

theorem admissible_intercalate (hne : name ≠ []) (hsize : ("/".intercalate name).utf8ByteSize ≤ 4095) :
    Admissible ⟨"/".intercalate name⟩ := by
  refine ⟨String.isEmpty_eq_false_iff.mpr fun hempty => ?_, ?_, hsize⟩
  · have hsegments := segments_intercalate hplain hne
    rw [show "/".intercalate name = "" from hempty] at hsegments
    obtain ⟨s, rest, rfl⟩ := List.exists_cons_of_ne_nil hne
    exact (hplain s List.mem_cons_self).1 (String.toList_eq_nil_iff.mp (List.cons.inj hsegments).1.symm)
  · exact Bool.eq_false_iff.mpr fun hnul => nul_not_mem_intercalate hplain (List.contains_iff_mem.mp hnul)

/-- The path of an entry leads along its name, from the root. -/
theorem steps_nameText :
    (Path.segments (nameText name).text.toList).map String.ofList = "" :: if name = [] then [""] else name := by
  have hroot : (nameText name).text.toList = '/' :: ("/".intercalate name).toList := String.toList_append
  rw [hroot, Path.segments_sep, List.map_cons]
  split
  · rename_i hnil
    subst hnil
    rfl
  · rename_i hne
    rw [(steps_intercalate hplain hne).1]

theorem admissible_nameText (hfits : fits name = true) : Admissible (nameText name) := by
  have hroot : (nameText name).text.toList = '/' :: ("/".intercalate name).toList := String.toList_append
  refine ⟨String.isEmpty_eq_false_iff.mpr fun hempty => ?_, Bool.eq_false_iff.mpr fun hnul => ?_,
    of_decide_eq_true hfits⟩
  · rw [hempty] at hroot
    cases hroot
  · rw [List.contains_iff_mem, hroot] at hnul
    rcases List.mem_cons.mp hnul with h | h
    · exact absurd h (by decide)
    · exact nul_not_mem_intercalate hplain h

end

/-- **The path of an entry tells its name.** -/
theorem nameText_inj {name name' : Name} (hplain : PlainName name) (hplain' : PlainName name')
    (h : nameText name = nameText name') : name = name' := by
  have hsteps := congrArg (fun p : Path => (Path.segments p.text.toList).map String.ofList) h
  rw [steps_nameText hplain, steps_nameText hplain'] at hsteps
  replace hsteps := (List.cons.inj hsteps).2
  -- no part of a name is empty, so the path of the root is that of no other entry
  have hempty : ∀ {n : Name}, PlainName n → n ≠ [""] := fun hn heq => (hn "" (heq ▸ List.mem_cons_self)).1 rfl
  split at hsteps
  · rename_i hnil
    split at hsteps
    · rename_i hnil'
      rw [hnil, hnil']
    · exact absurd hsteps.symm (hempty hplain')
  · split at hsteps
    · exact absurd hsteps (hempty hplain)
    · exact hsteps

/-! ## Trees -/

/-- Every entry but the root has a name, and no two have the same. -/
structure Tree (d : Disk) : Prop where
  named : ∀ r ∈ d.entries, r.1 ≠ [] ∧ PlainName r.1
  unique : (d.entries.map (·.1)).Nodup

theorem mem_entries_of_eq_some {d : Disk} {name : Name} {e : Entry} (hne : name ≠ []) (h : d.entry? name = some e) :
    (name, e) ∈ d.entries := by
  rw [entry?_of_ne_nil d hne] at h
  obtain ⟨r, hr, rfl⟩ := Option.map_eq_some_iff.mp h
  obtain rfl : r.1 = name := by simpa using List.find?_some hr
  exact List.mem_of_find?_eq_some hr

namespace Tree

variable {d : Disk}

/-- On a tree, a name stands for the entry that it stands beside. -/
theorem entry?_of_mem (hd : d.Tree) {name : Name} {e : Entry} (h : (name, e) ∈ d.entries) :
    d.entry? name = some e := by
  rw [entry?_of_ne_nil d (hd.named _ h).1]
  have hsome : (d.entries.find? (·.1 = name)).isSome := List.find?_isSome.mpr ⟨_, h, decide_eq_true rfl⟩
  obtain ⟨r, hr⟩ := Option.isSome_iff_exists.mp hsome
  have hname : r.1 = name := by simpa using List.find?_some hr
  obtain rfl := List.inj_on_of_nodup_map hd.unique (List.mem_of_find?_eq_some hr) h hname
  rw [hr]
  rfl

theorem plainName_of_eq_some (hd : d.Tree) {name : Name} {e : Entry} (h : d.entry? name = some e) :
    PlainName name := by
  by_cases hroot : name = []
  · rw [hroot]
    exact fun s hs => absurd hs List.not_mem_nil
  · exact (hd.named _ (mem_entries_of_eq_some hroot h)).2

end Tree

/-! ## Ways from the root -/

/-- What an entry stands in is a directory, and every part of a name can be asked for. -/
structure Rooted (d : Disk) : Prop extends d.Tree where
  proper : ∀ r ∈ d.entries, ∀ s ∈ r.1, Proper s
  inside : ∀ r ∈ d.entries, d.isDirName r.1.dropLast = true

namespace Rooted

variable {d : Disk} (hd : d.Rooted)
include hd

theorem isDirName_of_below {here rest : Name} {e : Entry} (h : d.entry? (here ++ rest) = some e) (hrest : rest ≠ []) :
    d.isDirName here = true := by
  induction rest using List.reverseRecOn generalizing e with
  | nil => exact absurd rfl hrest
  | append_singleton rest s ih =>
    rw [← List.append_assoc] at h
    have hne : here ++ rest ++ [s] ≠ [] := List.append_ne_nil_of_right_ne_nil _ (List.cons_ne_nil _ _)
    have hdir := hd.inside _ (mem_entries_of_eq_some hne h)
    rw [List.dropLast_concat] at hdir
    by_cases hnil : rest = []
    · rw [hnil, List.append_nil] at hdir
      exact hdir
    · obtain ⟨mode, listable, hentry⟩ := (isDirName_iff d _).mp hdir
      exact ih hentry hnil

/-- **A walk along the rest of a name ends at the entry**, unless that is a link. -/
theorem walk_below (links : Nat) {here rest : Name} {e : Entry} (h : d.entry? (here ++ rest) = some e)
    (hlink : ∀ target, e ≠ .link target) : Walk d links here rest (.found (here ++ rest) e) := by
  induction rest generalizing here with
  | nil =>
    rw [List.append_nil] at h ⊢
    exact .stop h
  | cons s rest ih =>
    have hdir := hd.isDirName_of_below h (List.cons_ne_nil s rest)
    have hmem := mem_entries_of_eq_some (List.append_ne_nil_of_right_ne_nil here (List.cons_ne_nil s rest)) h
    have hs := hd.proper _ hmem s (List.mem_append_right here List.mem_cons_self)
    rw [List.append_cons] at h ⊢
    -- what is entered is the entry itself or a directory above it
    by_cases hnil : rest = []
    · subst hnil
      rw [List.append_nil] at h
      refine .enter hdir hs h hlink ?_
      rw [List.append_nil]
      exact .stop h
    · obtain ⟨mode, listable, hentry⟩ := (isDirName_iff d _).mp (hd.isDirName_of_below h hnil)
      exact .enter hdir hs hentry (fun _ => nofun) (ih h)

/-- **The path of an entry leads to it.** -/
theorem find_nameText {name : Name} {e : Entry} (hfits : fits name = true) (h : d.entry? name = some e)
    (hlink : ∀ target, e ≠ .link target) : d.find (nameText name) true = .ok (name, e) := by
  have hplain := hd.plainName_of_eq_some h
  have habs : (nameText name).isAbsolute = true := by
    have hroot : (nameText name).text.toList = '/' :: ("/".intercalate name).toList := String.toList_append
    rw [Path.isAbsolute, hroot]
    rfl
  refine find_of_walk (admissible_nameText hplain hfits) habs (steps_nameText hplain) (.stay rfl (.inl rfl) ?_)
  split
  · rename_i hnil
    subst hnil
    exact .stay rfl (.inl rfl) (.stop h)
  · exact hd.walk_below maxLinks h hlink

end Rooted

end ImportSurvey.Disk
