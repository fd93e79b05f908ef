import Mathlib.Data.String.Basic
import ImportSurvey.Proofs.Discovery
import ImportSurvey.Proofs.Folding

/-
  Which files a walk through directories lists, and in which order.

  1. **The filter.**  A walk leaves out an entry when it comes upon it, with all that stands below it, and counts how
     many levels it may still go down.  `Wanted` says of a file alone whether it is to be found: by its own name, by
     its depth, and by the paths of all that stands on the way down to it.

  2. **The order.**  What stands in a directory is walked in the order of its names, each entry to its end.  So of
     two files the one comes first whose way goes on under the lesser name where the two ways part (`Precedes`).

  3. **The crux** (`lists_searchDir`): what a walk lists from a directory on is what its entries add, by induction on
     how far down the walk may go; what an entry adds starts with its name, so that the lists of two entries neither
     overlap nor mix.
-/
namespace ImportSurvey

namespace Path

theorem map_text_name (names : List String) : (names.map Component.name).map Component.text = names := by
  have hsame : Component.text ∘ Component.name = id := rfl
  rw [List.map_map, hsame, List.map_id]

/-- The last of the components that a path is made of is its file name, if it is a name. -/
theorem fileName_ofComponents {cs : List Component} {n : String} (h : Folded (cs ++ [.name n])) :
    (ofComponents (cs ++ [.name n])).fileName = some n := by
  rw [fileName, h.components_ofComponents, List.getLast?_concat]

end Path

namespace Disk

/-- What stands in a directory is in the order of its names. -/
theorem sorted_children {d : Disk} (hd : d.Tree) (name : Name) :
    (d.children name).Pairwise fun a b => a.1 < b.1 := by
  have hle : (d.children name).Pairwise fun a b => a.1 ≤ b.1 := by
    rw [children]
    refine (List.pairwise_mergeSort (fun a b c hab hbc => ?_) (fun a b => ?_) _).imp of_decide_eq_true
    · exact decide_eq_true (le_trans (of_decide_eq_true hab) (of_decide_eq_true hbc))
    · rw [Bool.or_eq_true, decide_eq_true_eq, decide_eq_true_eq]
      exact le_total _ _
  exact (hle.and (pairwise_children hd name)).imp fun h => lt_of_le_of_ne h.1 h.2

/-! ## Names and their paths -/

/-- A name whose parts are taken for names in a path. -/
def Tellable (name : Name) : Prop := ∀ s ∈ name, (Path.Component.name s).Ordinary

theorem Rooted.tellable {d : Disk} (hd : d.Rooted) {name : Name} {e : Entry} (h : d.entry? name = some e) :
    Tellable name := by
  intro s hs
  by_cases hroot : name = []
  · rw [hroot] at hs
    exact absurd hs List.not_mem_nil
  have hmem := mem_entries_of_eq_some hroot h
  obtain ⟨hjunk, hup, -⟩ := hd.proper _ hmem s hs
  obtain ⟨hempty, hdot⟩ := not_or.mp hjunk
  have hne {cs : List Char} (hst : s ≠ .ofList cs) : s.toList ≠ cs := by
    rintro rfl
    exact hst String.ofList_toList.symm
  have hjunk' : ¬ (s.toList = [] ∨ s.toList = ['.']) := not_or.mpr ⟨hne hempty, hne hdot⟩
  have hup' : s.toList ≠ ['.', '.'] := hne hup
  refine ⟨?_, ((hd.named _ hmem).2 s hs).2.1⟩
  rw [Path.Component.text, Path.Component.ofSegment?, if_neg hjunk', if_neg hup', String.ofList_toList]

section

variable {name : Name} (h : Tellable name)
include h

theorem Tellable.ordinary : ∀ c ∈ name.map Path.Component.name, c.Ordinary := by
  intro c hc
  obtain ⟨s, hs, rfl⟩ := List.mem_map.mp hc
  exact h s hs

variable {front : Name} {n : String} (hn : name = front ++ [n])
include hn

/-- The path of an entry ends in its own name. -/
theorem fileName_nameText : (nameText name).fileName = some n := by
  have htext : nameText name = Path.ofComponents ((.root :: front.map .name) ++ [.name n]) := by
    rw [nameText, List.cons_append, Path.ofComponents, ← List.map_singleton (f := Path.Component.name), ← List.map_append,
      Path.map_text_name, hn]
  have hfolded : Path.Folded ((.root :: front.map .name) ++ [.name n]) := by
    refine .inr ⟨name.map .name, ?_, h.ordinary⟩
    rw [hn, List.map_append]
    rfl
  rw [htext, Path.fileName_ofComponents hfolded]

/-- So does its path below a directory. -/
theorem fileName_intercalate : (⟨"/".intercalate name⟩ : Path).fileName = some n := by
  have htext : (⟨"/".intercalate name⟩ : Path) = Path.ofComponents (front.map .name ++ [.name n]) := by
    rw [← List.map_singleton (f := Path.Component.name), ← List.map_append, ← hn, Path.ofComponents, Path.map_text_name]
    intro rest hroot
    have hin : Path.Component.root ∈ name.map Path.Component.name := hroot ▸ List.mem_cons_self
    exact (h.ordinary _ hin).ne_root rfl
  have hfolded : Path.Folded (front.map .name ++ [.name n]) := by
    refine .inl fun c hc => h.ordinary c ?_
    rw [hn, List.map_append]
    exact hc
  rw [htext, Path.fileName_ofComponents hfolded]

end

end Disk

/-! ## Source files by their names -/

/-- An extension is what stands behind the last dot, if something stands before that dot. -/
theorem Path.extension_eq_some_iff {p : Path} {n ext : String} (hp : p.fileName = some n) :
    p.extension = some ext ↔ ∃ stem : String, n = stem ++ "." ++ ext ∧ stem ≠ "" ∧ '.' ∉ ext.toList := by
  rw [Path.extension, hp]
  simp only [Option.bind_eq_bind, Option.bind_some]
  constructor
  · intro h
    have hcut := List.takeWhile_append_dropWhile (p := fun c => decide (c ≠ '.')) (l := n.toList.reverse)
    have hhead := List.head?_dropWhile_not (fun c => decide (c ≠ '.')) n.toList.reverse
    rcases hdrop : n.toList.reverse.dropWhile (· ≠ '.') with _ | ⟨c, _ | ⟨b, stem⟩⟩
    · rw [hdrop] at h
      cases h
    · rw [hdrop] at h
      cases h
    · rw [hdrop] at h hcut hhead
      obtain rfl := Option.some.inj h
      obtain rfl : c = '.' := by simpa using hhead
      have hn := congrArg List.reverse hcut
      rw [List.reverse_reverse, List.reverse_append, List.reverse_cons] at hn
      refine ⟨.ofList (b :: stem).reverse, ?_, ?_, ?_⟩
      · rw [← String.toList_inj, String.toList_append, String.toList_append, String.toList_ofList, String.toList_ofList,
          String.toList_ofList]
        exact hn.symm
      · intro hempty
        have hlist := congrArg String.toList hempty
        rw [String.toList_ofList] at hlist
        simp at hlist
      · intro hdot
        rw [String.toList_ofList] at hdot
        have hall := List.all_eq_true.mp List.all_takeWhile '.' (List.mem_reverse.mp hdot)
        exact of_decide_eq_true hall rfl
  · rintro ⟨stem, rfl, hstem, hnodot⟩
    have hreverse : (stem ++ "." ++ ext).toList.reverse = ext.toList.reverse ++ '.' :: stem.toList.reverse := by
      rw [String.toList_append, String.toList_append]
      simp
    have hall : ∀ c ∈ ext.toList.reverse, decide (c ≠ '.') = true := by
      intro c hc
      refine decide_eq_true ?_
      rintro rfl
      exact hnodot (List.mem_reverse.mp hc)
    obtain ⟨b, bs, hb⟩ := List.exists_cons_of_ne_nil (mt List.reverse_eq_nil_iff.mp (mt String.toList_eq_nil_iff.mp hstem))
    rw [hreverse, List.dropWhile_append_of_pos hall, List.takeWhile_append_of_pos hall,
      List.dropWhile_cons_of_neg (by decide), List.takeWhile_cons_of_neg (by decide), hb, List.append_nil,
      List.reverse_reverse, String.ofList_toList]

namespace Script

/-- Something, a dot, and one of the known extensions. -/
def SourceName (n : String) : Prop :=
  ∃ stem ext : String, n = stem ++ "." ++ ext ∧ stem ≠ "" ∧ ext ∈ Dialect.extensions

theorem isSourceFile_iff {p : Path} {n : String} (hp : p.fileName = some n) : isSourceFile p = true ↔ SourceName n := by
  rw [isSourceFile, Option.any_eq_true]
  constructor
  · rintro ⟨ext, hext, hknown⟩
    obtain ⟨stem, hn, hstem, -⟩ := (Path.extension_eq_some_iff hp).mp hext
    exact ⟨stem, ext, hn, hstem, List.contains_iff_mem.mp hknown⟩
  · rintro ⟨stem, ext, hn, hstem, hknown⟩
    have hnodot : ∀ e ∈ Dialect.extensions, '.' ∉ e.toList := by decide
    have hext := (Path.extension_eq_some_iff hp).mpr ⟨stem, hn, hstem, hnodot ext hknown⟩
    exact ⟨ext, hext, List.contains_iff_mem.mpr hknown⟩

end Script

namespace Survey

open Disk (Name Tellable)

/-! ## What is wanted -/

/-- A glob matches the last of the names, or all of them as a path with slashes for backslashes. -/
def Excluded (globs : List Glob) (names : List String) : Prop :=
  ∃ g ∈ globs, (∃ n ∈ names.getLast?, g.admits n = true) ∨
    g.admits (.ofList (("/".intercalate names).toList.map fun c => if c = '\\' then '/' else c)) = true

/-- A file to be found from `here` on: a source file by its name, not too deep, and with nothing excluded on the way
down to it, itself included. -/
structure Wanted (d : Disk) (globs : List Glob) (left : Option Nat) (here : Place) (rest : Name) : Prop where
  file : ∃ content mode, d.entry? (here.name ++ rest) = some (.file content mode)
  source : ∃ front n, rest = front ++ [n] ∧ Script.SourceName n
  depth : ∀ levels, left = some levels → rest.length ≤ levels
  admitted : ∀ front, front ≠ [] → front <+: rest → ¬ Excluded globs (here.below ++ front)

/-- Where the ways to the two names part, the first one goes on under the lesser name. -/
def Precedes (a b : Name) : Prop :=
  ∃ front s rest s' rest', a = front ++ s :: rest ∧ b = front ++ s' :: rest' ∧ s < s'

/-- Nothing is found but the files of the given names below `top`, in order, each once. -/
def Lists (top : Name) (found : Discovery) (wanted : Name → Prop) : Prop :=
  ∃ rests : List Name, found = { files := rests.map fun rest => Disk.nameText (top ++ rest) } ∧
    rests.Pairwise Precedes ∧ ∀ rest, rest ∈ rests ↔ wanted rest

/-! ## Lists of entries -/

theorem lists_nothing {top : Name} {wanted : Name → Prop} (h : ∀ rest, ¬ wanted rest) : Lists top {} wanted :=
  ⟨[], rfl, .nil, fun rest => ⟨fun hin => absurd hin List.not_mem_nil, fun hw => absurd hw (h rest)⟩⟩

theorem Lists.congr {top : Name} {found : Discovery} {wanted wanted' : Name → Prop} (h : Lists top found wanted)
    (hsame : ∀ rest, wanted rest ↔ wanted' rest) : Lists top found wanted' := by
  obtain ⟨rests, hfound, horder, hmem⟩ := h
  exact ⟨rests, hfound, horder, fun rest => (hmem rest).trans (hsame rest)⟩

/-- What is listed below an entry is listed from the directory on that it stands in. -/
theorem Lists.above {top : Name} {s : String} {found : Discovery} {wanted : Name → Prop}
    (h : Lists (top ++ [s]) found wanted) : Lists top found fun rest => ∃ t, rest = s :: t ∧ wanted t := by
  obtain ⟨rests, rfl, horder, hmem⟩ := h
  refine ⟨rests.map (s :: ·), ?_, ?_, fun rest => ?_⟩
  · rw [List.map_map]
    refine congrArg (fun files => ({ files := files } : Discovery)) (List.map_congr_left fun rest _ => ?_)
    exact congrArg Disk.nameText (List.append_cons top s rest).symm
  · refine List.pairwise_map.mpr (horder.imp fun {a b} hab => ?_)
    obtain ⟨front, t, rest, t', rest', rfl, rfl, hlt⟩ := hab
    exact ⟨s :: front, t, rest, t', rest', rfl, rfl, hlt⟩
  · rw [List.mem_map]
    constructor
    · rintro ⟨t, ht, rfl⟩
      exact ⟨t, rfl, (hmem t).mp ht⟩
    · rintro ⟨t, rfl, ht⟩
      exact ⟨t, (hmem t).mpr ht, rfl⟩

/-- **What the entries of a directory list, one after the other, is in order**, if the entries are. -/
theorem lists_flatMap {α : Type} {top : Name} {key : α → String} {adds : α → Discovery} {wanted : Name → Prop} {l : List α}
    (hl : l.Pairwise fun a b => key a < key b)
    (h : ∀ a ∈ l, Lists top (adds a) fun rest => ∃ t, rest = key a :: t ∧ wanted rest) :
    Lists top ⟨l.flatMap fun a => (adds a).files, l.flatMap fun a => (adds a).issues⟩
      fun rest => ∃ a ∈ l, ∃ t, rest = key a :: t ∧ wanted rest := by
  induction l with
  | nil => exact lists_nothing fun rest ⟨a, ha, _⟩ => absurd ha List.not_mem_nil
  | cons a l ih =>
    obtain ⟨hfirst, hl⟩ := List.pairwise_cons.mp hl
    obtain ⟨rests, hadds, horder, hmem⟩ := h a List.mem_cons_self
    obtain ⟨rests', hrest, horder', hmem'⟩ := ih hl fun b hb => h b (List.mem_cons_of_mem a hb)
    obtain ⟨hfiles, hissues⟩ := Discovery.mk.inj hrest
    refine ⟨rests ++ rests', ?_, ?_, fun rest => ?_⟩
    · rw [List.flatMap_cons, List.flatMap_cons, hfiles, hissues, hadds, List.map_append, List.append_nil]
    · refine List.pairwise_append.mpr ⟨horder, horder', fun x hx y hy => ?_⟩
      obtain ⟨t, rfl, -⟩ := (hmem x).mp hx
      obtain ⟨b, hb, t', rfl, -⟩ := (hmem' y).mp hy
      exact ⟨[], key a, t, key b, t', rfl, rfl, hfirst b hb⟩
    · rw [List.mem_append, hmem, hmem']
      constructor
      · rintro (⟨t, ht⟩ | ⟨b, hb, t, ht⟩)
        · exact ⟨a, List.mem_cons_self, t, ht⟩
        · exact ⟨b, List.mem_cons_of_mem a hb, t, ht⟩
      · rintro ⟨b, hb, t, ht⟩
        rcases List.mem_cons.mp hb with rfl | hb
        · exact .inl ⟨t, ht⟩
        · exact .inr ⟨b, hb, t, ht⟩

/-! ## Entries of a directory -/

section

variable {d : Disk} (hd : d.Rooted) {globs : List Glob} {here : Place} (hbelow : here.below <:+ here.name)
include hd hbelow

/-- An entry is excluded when it is come upon, by its name or by its path. -/
theorem isExcluded_iff {s : String} {e : Disk.Entry} (he : d.entry? (here.name ++ [s]) = some e) :
    isExcluded globs (here.enter s).relative = true ↔ Excluded globs (here.below ++ [s]) := by
  have htellable : Tellable (here.below ++ [s]) := by
    intro t ht
    refine hd.tellable he t ?_
    obtain ⟨above, habove⟩ := hbelow
    rw [← habove, List.append_assoc]
    exact List.mem_append_right above ht
  have hname : (here.enter s).relative.fileName = some s := Disk.fileName_intercalate htellable rfl
  rw [isExcluded, hname, Excluded, List.any_eq_true]
  refine exists_congr fun g => and_congr_right fun _ => ?_
  rw [Bool.or_eq_true, List.getLast?_concat]
  refine or_congr ?_ Iff.rfl
  simp

/-- What is wanted below a directory is wanted from the directory on. -/
theorem wanted_enter_iff {left : Option Nat} {s : String} {mode : Nat} {listable : Bool}
    (he : d.entry? (here.name ++ [s]) = some (.dir mode listable))
    (hkept : ¬ isExcluded globs (here.enter s).relative = true) (hleft : left ≠ some 0) (rest : Name) :
    Wanted d globs left here (s :: rest) ↔ Wanted d globs (left.map (· - 1)) (here.enter s) rest := by
  have hname : here.name ++ s :: rest = (here.enter s).name ++ rest := List.append_cons here.name s rest
  have hpath (front : Name) : here.below ++ s :: front = (here.enter s).below ++ front := List.append_cons here.below s front
  constructor
  · intro h
    obtain ⟨content, mode', hfile⟩ := h.file
    obtain ⟨front, n, hsplit, hsource⟩ := h.source
    refine ⟨⟨content, mode', hname ▸ hfile⟩, ?_, fun levels hlevels => ?_, fun front' hne hprefix => ?_⟩
    · cases front with
      | nil =>
        -- the entry itself is a directory
        obtain ⟨rfl, rfl⟩ := List.cons.inj hsplit
        cases he.symm.trans hfile
      | cons t front =>
        obtain ⟨rfl, rfl⟩ := List.cons.inj hsplit
        exact ⟨front, n, rfl, hsource⟩
    · obtain ⟨more, rfl, rfl⟩ := Option.map_eq_some_iff.mp hlevels
      have hdepth := h.depth more rfl
      rw [List.length_cons] at hdepth
      omega
    · rw [← hpath]
      exact h.admitted _ (List.cons_ne_nil s front') (List.cons_prefix_cons.mpr ⟨rfl, hprefix⟩)
  · intro h
    obtain ⟨content, mode', hfile⟩ := h.file
    obtain ⟨front, n, rfl, hsource⟩ := h.source
    refine ⟨⟨content, mode', hname ▸ hfile⟩, ⟨s :: front, n, rfl, hsource⟩, fun levels hlevels => ?_,
      fun front' hne hprefix => ?_⟩
    · have hdepth := h.depth (levels - 1) (by rw [hlevels]; rfl)
      have hsome : levels ≠ 0 := fun hzero => hleft (hzero ▸ hlevels)
      rw [List.length_cons]
      omega
    · obtain ⟨t, front', rfl⟩ := List.exists_cons_of_ne_nil hne
      obtain ⟨rfl, hfront⟩ := List.cons_prefix_cons.mp hprefix
      by_cases hnil : front' = []
      · rw [hnil, ← isExcluded_iff hd hbelow he]
        exact hkept
      · rw [hpath]
        exact h.admitted front' hnil hfront

/-- A file is wanted for its name. -/
theorem wanted_file_iff {left : Option Nat} {s : String} {content : Disk.Content} {mode : Nat}
    (he : d.entry? (here.name ++ [s]) = some (.file content mode))
    (hkept : ¬ isExcluded globs (here.enter s).relative = true) (hleft : left ≠ some 0) (rest : Name) :
    Wanted d globs left here (s :: rest) ↔ rest = [] ∧ Script.SourceName s := by
  constructor
  · intro h
    obtain ⟨content', mode', hfile⟩ := h.file
    obtain ⟨front, n, hsplit, hsource⟩ := h.source
    have hnil : rest = [] := by
      by_contra hne
      rw [List.append_cons] at hfile
      obtain ⟨_, _, hdir⟩ := (Disk.isDirName_iff d _).mp (hd.isDirName_of_below hfile hne)
      cases he.symm.trans hdir
    subst hnil
    obtain ⟨rfl, hn⟩ | hlong : front = [] ∧ [s] = [n] ∨ front ≠ [] := by
      by_cases hfront : front = []
      · exact .inl ⟨hfront, by rw [hsplit, hfront]; rfl⟩
      · exact .inr hfront
    · exact ⟨rfl, List.singleton_inj.mp hn ▸ hsource⟩
    · have hlength := congrArg List.length hsplit
      have hpos := List.length_pos_of_ne_nil hlong
      rw [List.length_append, List.length_singleton, List.length_singleton] at hlength
      omega
  · rintro ⟨rfl, hsource⟩
    refine ⟨⟨content, mode, he⟩, ⟨[], s, rfl, hsource⟩, fun levels hlevels => ?_, fun front hne hprefix => ?_⟩
    · exact Nat.one_le_iff_ne_zero.mpr fun hzero => hleft (hzero ▸ hlevels)
    · obtain ⟨t, front, rfl⟩ := List.exists_cons_of_ne_nil hne
      obtain ⟨rfl, hfront⟩ := List.cons_prefix_cons.mp hprefix
      rw [List.prefix_nil.mp hfront, ← isExcluded_iff hd hbelow he]
      exact hkept

/-- What is wanted is wanted by way of an entry that is not excluded. -/
theorem wanted_iff_entry {left : Option Nat} (rest : Name) :
    Wanted d globs left here rest ↔ ∃ c ∈ keptIn d globs here, ∃ t, rest = c.1 :: t ∧ Wanted d globs left here rest := by
  refine ⟨fun h => ?_, fun ⟨_, _, _, _, h⟩ => h⟩
  obtain ⟨content, mode, hfile⟩ := h.file
  obtain ⟨s, t, rfl⟩ := List.exists_cons_of_ne_nil (l := rest) (by
    obtain ⟨front, n, rfl, -⟩ := h.source
    exact List.append_ne_nil_of_right_ne_nil front (List.cons_ne_nil n []))
  -- the first step is to the file itself or to a directory above it
  obtain ⟨e, he⟩ : ∃ e, d.entry? (here.name ++ [s]) = some e := by
    by_cases hnil : t = []
    · exact ⟨_, hnil ▸ hfile⟩
    · rw [List.append_cons] at hfile
      obtain ⟨_, _, hdir⟩ := (Disk.isDirName_iff d _).mp (hd.isDirName_of_below hfile hnil)
      exact ⟨_, hdir⟩
  have hchild : (s, e) ∈ d.children here.name :=
    Disk.mem_children_iff.mpr (Disk.mem_entries_of_eq_some (List.append_ne_nil_of_right_ne_nil _ (List.cons_ne_nil s [])) he)
  have hadmitted := h.admitted [s] (List.cons_ne_nil s []) (List.cons_prefix_cons.mpr ⟨rfl, List.nil_prefix⟩)
  rw [← isExcluded_iff hd hbelow he] at hadmitted
  exact ⟨(s, e), List.mem_filter.mpr ⟨hchild, by simpa using hadmitted⟩, t, rfl, h⟩

/-! ## Walks -/

/-- What an entry adds is what is wanted of it, if that holds of the directory that it is. -/
theorem lists_findingsIn {left : Option Nat} {fuel : Nat} (hleft : left ≠ some 0) {c : String × Disk.Entry}
    (hc : c ∈ keptIn d globs here)
    (hwalk : ∀ mode listable, d.entry? (here.name ++ [c.1]) = some (.dir mode listable) →
      Lists (here.enter c.1).name (searchDir d globs (left.map (· - 1)) (here.enter c.1) listable fuel)
        (Wanted d globs (left.map (· - 1)) (here.enter c.1))) :
    Lists here.name (findingsIn d globs left here fuel c) fun rest => ∃ t, rest = c.1 :: t ∧ Wanted d globs left here rest := by
  obtain ⟨s, e⟩ := c
  obtain ⟨hchild, hadmitted⟩ := List.mem_filter.mp hc
  have hkept : ¬ isExcluded globs (here.enter s).relative = true := by simpa using hadmitted
  have he := hd.entry?_of_mem (Disk.mem_children_iff.mp hchild)
  cases e with
  | file content mode =>
    have hwanted := wanted_file_iff hd hbelow he hkept hleft
    have hname : (here.enter s).path.fileName = some s := Disk.fileName_nameText (hd.tellable he) rfl
    rw [findingsIn]
    dsimp only
    split
    · rename_i hsource
      refine ⟨[[s]], rfl, List.pairwise_singleton _ _, fun rest => ?_⟩
      rw [List.mem_singleton]
      constructor
      · rintro rfl
        exact ⟨[], rfl, (hwanted []).mpr ⟨rfl, (Script.isSourceFile_iff hname).mp hsource⟩⟩
      · rintro ⟨t, rfl, h⟩
        rw [((hwanted t).mp h).1]
    · rename_i hno
      refine lists_nothing ?_
      rintro _ ⟨t, rfl, h⟩
      exact hno ((Script.isSourceFile_iff hname).mpr ((hwanted t).mp h).2)
  | link target =>
    -- a link is no file, and nothing stands below it
    refine lists_nothing ?_
    rintro _ ⟨t, rfl, h⟩
    obtain ⟨content, mode, hfile⟩ := h.file
    by_cases hnil : t = []
    · rw [hnil] at hfile
      cases he.symm.trans hfile
    · rw [List.append_cons] at hfile
      obtain ⟨_, _, hdir⟩ := (Disk.isDirName_iff d _).mp (hd.isDirName_of_below hfile hnil)
      cases he.symm.trans hdir
  | dir mode listable =>
    refine (hwalk mode listable he).above.congr fun rest => ?_
    constructor
    · rintro ⟨t, rfl, h⟩
      exact ⟨t, rfl, (wanted_enter_iff hd hbelow he hkept hleft t).mpr h⟩
    · rintro ⟨t, rfl, h⟩
      exact ⟨t, rfl, (wanted_enter_iff hd hbelow he hkept hleft t).mp h⟩

/-- A walk lists what is wanted, if its entries do. -/
theorem lists_of_entries {left : Option Nat} {fuel : Nat} {listable : Bool} (hfits : Disk.fits here.name = true)
    (hlistable : listable = true) (hentries : left ≠ some 0 → ∀ c ∈ keptIn d globs here,
      Lists here.name (findingsIn d globs left here fuel c) fun rest => ∃ t, rest = c.1 :: t ∧ Wanted d globs left here rest) :
    Lists here.name (searchDir d globs left here listable (fuel + 1)) (Wanted d globs left here) := by
  rw [searchDir_succ]
  by_cases hleft : left = some 0
  · rw [if_pos hleft]
    refine lists_nothing fun rest h => ?_
    obtain ⟨front, n, rfl, -⟩ := h.source
    have hdepth := h.depth 0 hleft
    rw [List.length_append, List.length_singleton] at hdepth
    omega
  · rw [if_neg hleft, if_neg (by rw [hfits]; decide), if_neg (by rw [hlistable]; decide)]
    refine (lists_flatMap ((Disk.sorted_children hd.toTree here.name).filter _) (hentries hleft)).congr fun rest => ?_
    exact (wanted_iff_entry hd hbelow rest).symm

end

/-- Every directory from there on can be listed, and the system takes its path. -/
def Readable (d : Disk) (top : Name) : Prop :=
  ∀ rest mode listable, d.entry? (top ++ rest) = some (.dir mode listable) →
    listable = true ∧ Disk.fits (top ++ rest) = true

theorem Readable.here {d : Disk} {top : Name} (h : Readable d top) {mode : Nat} {listable : Bool}
    (he : d.entry? top = some (.dir mode listable)) : listable = true ∧ Disk.fits top = true := by
  have hhere := h [] mode listable
  rw [List.append_nil] at hhere
  exact hhere he

theorem Readable.below {d : Disk} {top : Name} (h : Readable d top) (s : String) : Readable d (top ++ [s]) := by
  intro rest mode listable he
  rw [← List.append_cons] at he ⊢
  exact h (s :: rest) mode listable he

/-- **A walk lists what is wanted**, by induction on how far down it may go. -/
theorem lists_searchDir {d : Disk} (hd : d.Rooted) (globs : List Glob) (fuel : Nat) {left : Option Nat} {here : Place}
    (hbelow : here.below <:+ here.name) {mode : Nat} {listable : Bool}
    (hhere : d.entry? here.name = some (.dir mode listable)) (hreadable : Readable d here.name)
    (hfuel : longestName d ≤ here.name.length + fuel) :
    Lists here.name (searchDir d globs left here listable (fuel + 1)) (Wanted d globs left here) := by
  have hroom {here : Place} {c : String × Disk.Entry} (hc : c ∈ keptIn d globs here) : here.name.length < longestName d :=
    length_lt_longestName (List.mem_of_mem_filter hc)
  induction fuel generalizing left here mode listable with
  | zero =>
    obtain ⟨hlistable, hfits⟩ := hreadable.here hhere
    exact lists_of_entries hd hbelow hfits hlistable fun _ c hc => absurd hfuel (Nat.not_le.mpr (hroom hc))
  | succ fuel ih =>
    obtain ⟨hlistable, hfits⟩ := hreadable.here hhere
    refine lists_of_entries hd hbelow hfits hlistable fun hleft c hc => ?_
    refine lists_findingsIn hd hbelow hleft hc fun mode listable he => ?_
    have hlength : (here.enter c.1).name.length = here.name.length + 1 := List.length_append
    have hfuel' : longestName d ≤ (here.enter c.1).name.length + fuel := by omega
    have hbelow' : (here.enter c.1).below <:+ (here.enter c.1).name := by
      obtain ⟨above, habove⟩ := hbelow
      refine ⟨above, ?_⟩
      rw [Place.enter, ← habove, List.append_assoc]
    exact ih hbelow' he (hreadable.below c.1) hfuel'

/-- **Discovery lists the wanted files, each once and in the order of the walk.** -/
theorem lists_discover {d : Disk} (hd : d.Rooted) (globs : List Glob) (maxDepth : Option Nat) {base : Name} {mode : Nat}
    {listable : Bool} (hbase : d.entry? base = some (.dir mode listable)) (hreadable : Readable d base) :
    Lists base (discover d globs maxDepth base listable) (Wanted d globs maxDepth ⟨base, []⟩) ∧
      (discover d globs maxDepth base listable).files.Nodup := by
  refine ⟨?_, nodup_searchDir hd.toTree globs _ _ _ _⟩
  exact lists_searchDir hd globs (longestName d) (List.nil_suffix) hbase hreadable (Nat.le_add_left _ _)

/-- A directory with a source file and with one in a directory below, and another file. -/
def sources : Disk where
  entries := [(["p"], .dir 0o755 true), (["p", "b.js"], .file (.text "")), (["p", "a"], .dir 0o755 true),
    (["p", "a", "c.ts"], .file (.text "")), (["p", "notes.md"], .file (.text ""))]
  workingDir := []

/-- Files of all names but those that start with an `n` are discovered, down to the second level. -/
theorem lists_discover_sources :
    Lists ["p"] (discover sources [⟨[.char 'n', .anySequence]⟩] (some 2) ["p"] true)
        (Wanted sources [⟨[.char 'n', .anySequence]⟩] (some 2) ⟨["p"], []⟩) ∧
      (discover sources [⟨[.char 'n', .anySequence]⟩] (some 2) ["p"] true).files.Nodup := by
  have hrooted : sources.Rooted := by
    refine { named := ?_, unique := ?_, proper := ?_, inside := ?_ }
    all_goals decide
  have hentries : ∀ r ∈ sources.entries, Disk.fits r.1 = true ∧ (r.2 = .dir 0o755 true ∨ r.2 = .file (.text "")) := by
    decide
  have hreadable : Readable sources ["p"] := by
    intro rest mode listable he
    obtain ⟨hfits, hdir | hfile⟩ := hentries _ (Disk.mem_entries_of_eq_some (List.cons_ne_nil "p" rest) he)
    · obtain ⟨-, rfl⟩ := Disk.Entry.dir.inj hdir
      exact ⟨rfl, hfits⟩
    · cases hfile
  exact lists_discover hrooted _ _ rfl hreadable

end Survey

end ImportSurvey
