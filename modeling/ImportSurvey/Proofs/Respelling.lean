import Mathlib.Data.List.Flatten
import Mathlib.Data.String.Basic
import ImportSurvey.Proofs.Spelling
import ImportSurvey.Proofs.Writing

/-
  Spellings of one path lead to one place.

  Segments that stand for nothing, empty ones and dots, change no walk as long as a name follows somewhere
  (`Disk.walk_junk`).  So a path that ends in a name leads where the path leads that its components spell, which is
  no longer than it (`Disk.find_tidied`).  Only the length that the system allows for a path tells the two
  apart.
-/
namespace ImportSurvey

namespace Disk

/-! ## Segments that stand for nothing -/

theorem walk_of_not_dir {d : Disk} {here : Name} (h : d.isDirName here = false) (links : Nat) (s : String)
    (rest : List String) : d.walk true links here (s :: rest) = .error .notDirectory := by
  rw [walk, if_pos (by rw [h]; rfl)]

section

variable (d : Disk) {junk : String} (hjunk : junk = "" ∨ junk = ".") {rest : List String} (hrest : ∃ s ∈ rest, s ≠ "")
include hjunk hrest

/-- A segment that stands for nothing changes nothing, if it changes nothing behind a link. -/
theorem walk_junk_of_fewer {links : Nat} (hfewer : ∀ n, n + 1 = links → ∀ here before,
      d.walk true n here (before ++ junk :: rest) = d.walk true n here (before ++ rest))
    (here : Name) (before : List String) :
    d.walk true links here (before ++ junk :: rest) = d.walk true links here (before ++ rest) := by
  induction before generalizing here with
  | nil =>
    obtain ⟨t, ts, rfl⟩ := List.exists_cons_of_ne_nil (List.ne_nil_of_mem hrest.choose_spec.1)
    rw [List.nil_append, List.nil_append]
    cases hdir : d.isDirName here with
    | false => rw [walk_of_not_dir hdir, walk_of_not_dir hdir]
    | true => rw [walk, if_neg (by simp [hdir]), if_pos hjunk]
  | cons s before ih =>
    rw [List.cons_append, List.cons_append]
    cases hdir : d.isDirName here with
    | false => rw [walk_of_not_dir hdir, walk_of_not_dir hdir]
    | true =>
      by_cases hproper : Proper s
      · rw [walk_proper hdir hproper, walk_proper hdir hproper]
        -- a name follows, so neither way ends in separators only
        have hnamed (front : List String) : ¬ (front ++ rest).all (· = "") = true := by
          obtain ⟨t, ht, hne⟩ := hrest
          intro hall
          exact hne (of_decide_eq_true (List.all_eq_true.mp hall t (List.mem_append_right front ht)))
        have hwith : ¬ (before ++ junk :: rest).all (· = "") = true := by
          rw [List.append_cons]
          exact hnamed (before ++ [junk])
        cases hentry : d.entry? (here ++ [s]) with
        | none =>
          dsimp only
          rw [if_neg hwith, if_neg (hnamed before)]
        | some e =>
          cases e with
          | file content mode => exact ih _
          | dir mode listable => exact ih _
          | link target =>
            cases links with
            | zero => rfl
            | succ n =>
              dsimp only
              rw [← List.append_assoc, ← List.append_assoc]
              exact hfewer n rfl _ _
      · have hn : ¬ (!d.isDirName here) = true := by simp [hdir]
        rw [walk, walk.eq_def d true links here (s :: (before ++ rest)), if_neg hn]
        dsimp only
        rw [if_neg hn]
        by_cases hs : s = "" ∨ s = "."
        · rw [if_pos hs, if_pos hs, ih]
        · rw [if_neg hs, if_neg hs]
          by_cases hup : s = ".."
          · rw [if_pos hup, if_pos hup, ih]
          · have hlong : s.utf8ByteSize > 255 := not_not.mp fun hlong => hproper ⟨hs, hup, hlong⟩
            rw [if_neg hup, if_neg hup, if_pos hlong, if_pos hlong]

/-- **A segment that stands for nothing changes no walk if a name follows.** -/
theorem walk_junk (links : Nat) (here : Name) (before : List String) :
    d.walk true links here (before ++ junk :: rest) = d.walk true links here (before ++ rest) := by
  induction links generalizing here before with
  | zero => exact walk_junk_of_fewer d hjunk hrest (fun n hn => absurd hn (Nat.succ_ne_zero n)) here before
  | succ links ih =>
    exact walk_junk_of_fewer d hjunk hrest (fun n hn => Nat.succ.inj hn ▸ ih) here before

end

end Disk

namespace Path

/-! ## Paths that end in a name -/

/-- The last segment, if there is more than one, is a name. -/
def EndsInName (p : Path) : Prop := ∀ s ∈ (segments p.text.toList).tail.getLast?, Solid s

/-- The segments of a join are those of its parts, but for an empty one at the end of the first. -/
theorem segments_join {p : Path} (hp : p.text ≠ "") {q : String} (hq : isAbsolute ⟨q⟩ = false) :
    ∃ s ss junk, (junk = [] ∨ junk = [[]]) ∧ segments p.text.toList = s :: (ss ++ junk) ∧
      segments (p.join q).text.toList = s :: (ss ++ segments q.toList) := by
  have hempty : p.text.isEmpty = false := Bool.eq_false_iff.mpr fun h => hp (String.isEmpty_iff.mp h)
  rw [join, hq, hempty, Bool.false_or, if_neg Bool.false_ne_true]
  split
  · rename_i hsep
    obtain ⟨cs, hcs⟩ := List.getLast?_eq_some_iff.mp (by simpa using hsep)
    obtain ⟨s, ss, hs, hends⟩ := tail_segments_append_sep cs []
    obtain ⟨s', ss', hs', hjoin⟩ := tail_segments_append_sep cs q.toList
    obtain ⟨rfl, rfl⟩ := List.cons.inj (hs.symm.trans hs')
    refine ⟨s, ss, [[]], .inr rfl, by rw [hcs, hends]; rfl, ?_⟩
    rw [String.toList_append, hcs, List.append_assoc, List.singleton_append, hjoin]
  · obtain ⟨s, ss, hs, hjoin⟩ := tail_segments_append_sep p.text.toList q.toList
    refine ⟨s, ss, [], .inl rfl, by rw [hs, List.append_nil], ?_⟩
    rw [String.toList_append, String.toList_append, List.append_assoc]
    exact hjoin

/-- Names behind any path make it end in a name. -/
theorem Names.endsInName_join {q : String} (hq : Names q) (p : Path) : EndsInName (p.join q) := by
  intro s hs
  by_cases hp : p.text = ""
  · have hjoin : p.join q = ⟨q⟩ := by rw [join, hq.not_absolute, hp]; rfl
    rw [hjoin] at hs
    exact hq s (List.mem_of_mem_tail (List.mem_of_getLast? hs))
  · obtain ⟨t, ts, junk, -, -, hjoin⟩ := segments_join hp hq.not_absolute
    rw [hjoin, List.tail_cons, List.getLast?_append_of_ne_nil _ (segments_ne_nil q.toList)] at hs
    exact hq s (List.mem_of_getLast? hs)

/-- A join is at most one separator longer than its parts. -/
theorem size_join (p : Path) (q : String) :
    (p.join q).text.utf8ByteSize ≤ p.text.utf8ByteSize + q.utf8ByteSize + 1 := by
  have hsep : "/".utf8ByteSize = 1 := by decide
  rw [join]
  split
  · show q.utf8ByteSize ≤ _
    omega
  · split
    · rw [String.utf8ByteSize_append]
      omega
    · rw [String.utf8ByteSize_append, String.utf8ByteSize_append]
      omega

/-- What is written behind a join is written behind its second part. -/
theorem join_append (p : Path) {q : String} (hq : q ≠ "") (r : String) : ⟨(p.join q).text ++ r⟩ = p.join (q ++ r) := by
  have habs : isAbsolute ⟨q ++ r⟩ = isAbsolute ⟨q⟩ := by
    obtain ⟨c, cs, hcs⟩ := List.exists_cons_of_ne_nil (mt String.toList_eq_nil_iff.mp hq)
    rw [isAbsolute, isAbsolute, String.toList_append, hcs]
    rfl
  rw [join, join, habs]
  split
  · rfl
  · split
    · rw [String.append_assoc]
    · rw [String.append_assoc]

/-- The characters of segments behind each other. -/
theorem intercalate_cons (s : List Char) (ss : List (List Char)) :
    ['/'].intercalate (s :: ss) = s ++ ss.flatMap ('/' :: ·) := by
  induction ss generalizing s with
  | nil => rw [List.intercalate_singleton, List.flatMap_nil, List.append_nil]
  | cons t ss ih => rw [List.intercalate_cons_cons, ih, List.flatMap_cons, List.append_assoc, List.singleton_append,
      List.cons_append]

/-- The path without the segments that stand for nothing. -/
def tidied (p : Path) : Path := ofComponents p.components

theorem filter_solid_eq_nil_iff {ss : List (List Char)} (hlast : ∀ t ∈ ss.getLast?, Solid t) :
    ss.filter (Solid ·) = [] ↔ ss = [] := by
  constructor
  · intro hnone
    by_contra hne
    have hsolid := hlast _ (List.getLast?_eq_some_getLast hne)
    have hmem : ss.getLast hne ∈ ss.filter (Solid ·) :=
      List.mem_filter.mpr ⟨List.getLast_mem hne, decide_eq_true hsolid⟩
    rw [hnone] at hmem
    exact absurd hmem List.not_mem_nil
  · intro hnil
    rw [hnil]
    rfl

section

variable {p : Path} {s : List Char} {ss : List (List Char)} (hp : segments p.text.toList = s :: ss)
  (hlast : ∀ t ∈ ss.getLast?, Solid t)
include hp hlast

/-- What is left out stands for no component. -/
theorem text_tidied : p.tidied.text.toList = ['/'].intercalate (s :: ss.filter (Solid ·)) ∧
    segments p.tidied.text.toList = s :: ss.filter (Solid ·) := by
  have hsep : ∀ t ∈ s :: ss.filter (Solid ·), '/' ∉ t := by
    intro t ht
    have hmem : t ∈ segments p.text.toList := by
      rw [hp]
      exact List.cons_subset_cons s (List.filter_subset_self ss) ht
    exact not_mem_of_mem_segments hmem
  obtain ⟨q, hq⟩ : ∃ q : Path, q.text.toList = ['/'].intercalate (s :: ss.filter (Solid ·)) :=
    ⟨⟨.ofList _⟩, String.toList_ofList⟩
  have hsegments : segments q.text.toList = s :: ss.filter (Solid ·) := by
    rw [hq]
    exact segments_intercalate (List.cons_ne_nil _ _) hsep
  have htidy : Tidy q := by
    refine .inr fun t ht => ?_
    rw [hsegments, List.tail_cons] at ht
    exact of_decide_eq_true (List.mem_filter.mp ht).2
  have hfilter : (ss.filter (Solid ·)).filterMap Component.ofSegment? = ss.filterMap Component.ofSegment? := by
    rw [List.filterMap_filter]
    refine List.filterMap_congr fun t _ => ?_
    by_cases hsolid : Solid t
    · rw [if_pos (decide_eq_true hsolid)]
    · have hjunk : t = [] ∨ t = ['.'] := by
        rw [Solid, not_and_or, not_not, not_not] at hsolid
        exact hsolid
      rw [if_neg (by simpa using hsolid), Component.ofSegment?, if_pos hjunk]
  have habs : q.isAbsolute = p.isAbsolute := by
    rw [Bool.eq_iff_iff, isAbsolute_iff hsegments, isAbsolute_iff hp, ne_eq, ne_eq, filter_solid_eq_nil_iff hlast]
  have hsame : q.components = p.components := by
    rw [components, components, hsegments, hp, habs]
    dsimp only
    rw [hfilter]
  have htidied : p.tidied = q := by rw [tidied, ← hsame, htidy.ofComponents_components]
  exact ⟨htidied ▸ hq, htidied ▸ hsegments⟩

theorem sublist_tidied : p.tidied.text.toList.Sublist p.text.toList := by
  have htext := intercalate_segments p.text.toList
  rw [hp] at htext
  rw [(text_tidied hp hlast).1, ← htext, intercalate_cons, intercalate_cons]
  exact (List.Sublist.refl s).append (List.filter_sublist.flatMap _)

/-- Every character but separators and dots stays. -/
theorem mem_tidied {c : Char} (hsep : c ≠ '/') (hdot : c ≠ '.') :
    c ∈ p.tidied.text.toList ↔ c ∈ p.text.toList := by
  refine ⟨fun hc => (sublist_tidied hp hlast).subset hc, fun hc => ?_⟩
  have htext := intercalate_segments p.text.toList
  rw [hp] at htext
  rw [← htext, intercalate_cons, List.mem_append, List.mem_flatMap] at hc
  rw [(text_tidied hp hlast).1, intercalate_cons, List.mem_append, List.mem_flatMap]
  refine hc.imp_right fun ⟨t, ht, hct⟩ => ⟨t, ?_, hct⟩
  have hcin : c ∈ t := (List.mem_cons.mp hct).resolve_left hsep
  refine List.mem_filter.mpr ⟨ht, decide_eq_true ⟨List.ne_nil_of_mem hcin, ?_⟩⟩
  rintro rfl
  exact hdot (List.mem_singleton.mp hcin)

theorem isAbsolute_tidied : p.tidied.isAbsolute = p.isAbsolute := by
  rw [Bool.eq_iff_iff, isAbsolute_iff (text_tidied hp hlast).2, isAbsolute_iff hp, ne_eq, ne_eq,
    filter_solid_eq_nil_iff hlast]

theorem isEmpty_tidied : p.tidied.text.isEmpty = p.text.isEmpty := by
  have hempty (q : Path) : q.text.isEmpty = true ↔ segments q.text.toList = [[]] := by
    rw [String.isEmpty_iff, ← String.toList_eq_nil_iff]
    constructor
    · intro hnil
      rw [hnil]
      rfl
    · intro hone
      rw [← intercalate_segments q.text.toList, hone]
      rfl
  rw [Bool.eq_iff_iff, hempty, hempty, (text_tidied hp hlast).2, hp, List.cons.injEq, List.cons.injEq,
    filter_solid_eq_nil_iff hlast]

end

end Path

namespace Disk

open ImportSurvey.Path (segments Solid)

/-- All segments that stand for nothing may be left out of a walk to a name. -/
theorem walk_filter (d : Disk) (links : Nat) (here : Name) (before : List String) {rest : List (List Char)}
    (hlast : ∀ t ∈ rest.getLast?, Solid t) :
    d.walk true links here (before ++ (rest.filter (Solid ·)).map String.ofList) =
      d.walk true links here (before ++ rest.map String.ofList) := by
  induction rest generalizing before with
  | nil => rfl
  | cons t rest ih =>
    cases rest with
    | nil =>
      have hsolid : Solid t := hlast t rfl
      rw [List.filter_cons_of_pos (by simpa using hsolid), List.filter_nil]
    | cons u rest =>
      have hlast' : ∀ t ∈ (u :: rest).getLast?, Solid t := by
        intro v hv
        exact hlast v (by rw [List.getLast?_cons_cons]; exact hv)
      by_cases hsolid : Solid t
      · have hstep := ih (before ++ [String.ofList t]) hlast'
        rw [List.append_assoc, List.append_assoc] at hstep
        rw [List.filter_cons_of_pos (by simpa using hsolid)]
        exact hstep
      · have hjunk : String.ofList t = "" ∨ String.ofList t = "." := by
          rw [Solid, not_and_or, not_not, not_not] at hsolid
          rcases hsolid with rfl | rfl
          · exact .inl rfl
          · exact .inr rfl
        have hname : ∃ v ∈ (u :: rest).map String.ofList, v ≠ "" := by
          have hne := List.cons_ne_nil u rest
          have hv := hlast' _ (List.getLast?_eq_some_getLast hne)
          refine ⟨_, List.mem_map_of_mem (List.getLast_mem hne), fun hempty => hv.1 ?_⟩
          rw [← String.toList_ofList (l := (u :: rest).getLast hne), hempty]
          rfl
        rw [List.filter_cons_of_neg (by simpa using hsolid), List.map_cons (l := u :: rest),
          walk_junk d hjunk hname, ih before hlast']

/-- **A path that ends in a name leads where the path leads that its components spell**, if the system takes it. -/
theorem find_tidied (d : Disk) {p : Path} (hname : p.EndsInName) (hsize : p.text.utf8ByteSize ≤ 4095) :
    d.find p.tidied true = d.find p true := by
  obtain ⟨s, ss, hp⟩ := List.exists_cons_of_ne_nil (Path.segments_ne_nil p.text.toList)
  have hlast : ∀ t ∈ ss.getLast?, Solid t := by
    rw [Path.EndsInName, hp] at hname
    exact hname
  have hshort : p.tidied.text.utf8ByteSize ≤ 4095 := by
    have hle := String.utf8Len_le_of_sublist (Path.sublist_tidied hp hlast)
    rw [← String.utf8ByteSize_ofList, ← String.utf8ByteSize_ofList, String.ofList_toList, String.ofList_toList] at hle
    exact Nat.le_trans hle hsize
  have hnul : p.tidied.text.toList.contains '\x00' = p.text.toList.contains '\x00' := by
    rw [Bool.eq_iff_iff, List.contains_iff_mem, List.contains_iff_mem]
    exact Path.mem_tidied hp hlast (by decide) (by decide)
  have hwalk (here : Name) := walk_filter d maxLinks here [String.ofList s] hlast
  rw [find, find, locate, locate, Path.isEmpty_tidied hp hlast, hnul, Path.isAbsolute_tidied hp hlast,
    if_neg (Nat.not_lt.mpr hshort), if_neg (Nat.not_lt.mpr hsize), (Path.text_tidied hp hlast).2, hp]
  simp only [List.map_cons]
  rw [← List.singleton_append, hwalk, List.singleton_append]

end Disk

end ImportSurvey
