import Mathlib.Data.List.Nodup
import ImportSurvey.Survey.Discover
import ImportSurvey.Proofs.Trees

/-
  What a walk through directories comes upon.

  A walk is cut off at a depth, but at none that the names of the disk reach, so it finds all that it would find
  without (`discover_eq`).

  1. **Nothing is found that is not there.**  Every file that is found, and every directory that something is said
     about, stands on the disk below the directory where the walk began (`finds_searchDir`), and is known by the
     path made of its name.  On a tree the path tells the name (`Disk.nameText_inj`), so no file is found twice
     (`nodup_searchDir`): the names of two entries of one directory never go on to the same name.

  2. **Nothing that is there is missed.**  A source file below the directory is found, unless a glob excludes it or
     a directory above it, it lies too deep, or something is said about a directory above it (`mem_searchDir_or`).
-/
namespace ImportSurvey

namespace Disk

/-! ## Directories -/

theorem mem_children_iff {d : Disk} {name : Name} {s : String} {e : Entry} :
    (s, e) ∈ d.children name ↔ (name ++ [s], e) ∈ d.entries := by
  rw [children, List.mem_mergeSort, List.mem_filterMap]
  constructor
  · rintro ⟨⟨n, e'⟩, hn, hin⟩
    dsimp only at hin
    split at hin
    · rename_i last hlast
      split at hin
      · rename_i hdir
        obtain ⟨rfl, rfl⟩ := Prod.mk.inj (Option.some.inj hin)
        rw [← hdir, List.dropLast_append_getLast? last hlast]
        exact hn
      · cases hin
    · cases hin
  · intro h
    refine ⟨(name ++ [s], e), h, ?_⟩
    simp

/-- The names in one directory differ. -/
theorem pairwise_children {d : Disk} (hd : d.Tree) (name : Name) :
    (d.children name).Pairwise fun a b => a.1 ≠ b.1 := by
  have hentries : d.entries.Pairwise fun r r' => r.1 ≠ r'.1 := List.pairwise_map.mp hd.unique
  rw [children, (List.mergeSort_perm _ _).pairwise_iff fun h => h.symm]
  refine List.Pairwise.filterMap _ (fun r r' hne a ha b hb => ?_) hentries
  dsimp only at ha hb
  split at ha
  · rename_i last hlast
    split at ha
    · rename_i hdir
      split at hb
      · rename_i last' hlast'
        split at hb
        · rename_i hdir'
          obtain rfl := Option.some.inj ha
          obtain rfl := Option.some.inj hb
          intro hsame
          refine hne ?_
          rw [← List.dropLast_append_getLast? last hlast, ← List.dropLast_append_getLast? last' hlast', hdir, hdir']
          exact congrArg (name ++ [·]) hsame
        · cases hb
      · cases hb
    · cases ha
  · cases ha

end Disk

namespace Survey

open Disk (Name)

/-! ## Findings -/

/-- Findings put together one after the other. -/
theorem foldl_append {α : Type} {step : Discovery → α → Discovery} {adds : α → Discovery}
    (hstep : ∀ found a, step found a = found ++ adds a) (l : List α) (start : Discovery) :
    l.foldl step start = ⟨start.files ++ l.flatMap fun a => (adds a).files,
      start.issues ++ l.flatMap fun a => (adds a).issues⟩ := by
  induction l generalizing start with
  | nil => rw [List.foldl_nil, List.flatMap_nil, List.flatMap_nil, List.append_nil, List.append_nil]
  | cons a l ih =>
    rw [List.foldl_cons, ih, hstep, List.flatMap_cons, List.flatMap_cons, ← List.append_assoc, ← List.append_assoc]
    rfl

/-- What an entry adds to the findings. -/
def findingsIn (d : Disk) (globs : List Glob) (left : Option Nat) (here : Place) (fuel : Nat)
    (entry : String × Disk.Entry) : Discovery :=
  match entry.2 with
  | .file .. =>
    if Script.isSourceFile (here.enter entry.1).path then { files := [(here.enter entry.1).path] } else {}
  | .link _ => {}
  | .dir _ listable => searchDir d globs (left.map (· - 1)) (here.enter entry.1) listable fuel

/-- What stands in a directory and is not excluded. -/
def keptIn (d : Disk) (globs : List Glob) (here : Place) : List (String × Disk.Entry) :=
  (d.children here.name).filter fun c => !isExcluded globs (here.enter c.1).relative

/-- What is found from a directory on is what its entries add. -/
theorem searchDir_succ (d : Disk) (globs : List Glob) (left : Option Nat) (here : Place) (listable : Bool)
    (fuel : Nat) : searchDir d globs left here listable (fuel + 1) =
      if left = some 0 then {}
      else if !Disk.fits here.name then { issues := [.ofFailure here.path (tooDeep here.path)] }
      else if !listable then { issues := [.ofFailure here.path (.permissionDenied here.path)] }
      else ⟨(keptIn d globs here).flatMap fun c => (findingsIn d globs left here fuel c).files,
        (keptIn d globs here).flatMap fun c => (findingsIn d globs left here fuel c).issues⟩ := by
  rw [searchDir]
  split
  · rfl
  · split
    · rfl
    · split
      · rfl
      · refine foldl_append ?_ (keptIn d globs here) {}
        rintro found ⟨name, entry⟩
        have hnothing : found ++ ({} : Discovery) = found :=
          congrArg₂ Discovery.mk (List.append_nil _) (List.append_nil _)
        cases entry with
        | file content mode =>
          rw [findingsIn]
          dsimp only
          split
          · rfl
          · exact hnothing.symm
        | link target => exact hnothing.symm
        | dir mode listable => rfl

/-- A walk says one thing about a directory that it does not enter, or puts together what the entries add. -/
theorem searchDir_cases (d : Disk) (globs : List Glob) (left : Option Nat) (here : Place) (listable : Bool)
    (fuel : Nat) :
    let found := searchDir d globs left here listable (fuel + 1)
    found = {} ∨ (∃ f, found = { issues := [.ofFailure here.path f] }) ∨
      found = ⟨(keptIn d globs here).flatMap fun c => (findingsIn d globs left here fuel c).files,
        (keptIn d globs here).flatMap fun c => (findingsIn d globs left here fuel c).issues⟩ := by
  rw [searchDir_succ]
  split
  · exact .inl rfl
  · split
    · exact .inr (.inl ⟨_, rfl⟩)
    · split
      · exact .inr (.inl ⟨_, rfl⟩)
      · exact .inr (.inr rfl)

/-! ## Depth -/

/-- What stands in a directory has a name that is longer than that of the directory. -/
theorem length_lt_longestName {d : Disk} {here : Name} {c : String × Disk.Entry} (hc : c ∈ d.children here) :
    here.length < longestName d := by
  have hmem : (here ++ [c.1]).length ∈ d.entries.map (·.1.length) :=
    List.mem_map.mpr ⟨_, Disk.mem_children_iff.mp hc, rfl⟩
  rw [List.length_append, List.length_singleton] at hmem
  rw [longestName, List.foldl_max]
  exact Nat.le_trans (List.le_max?_getD_of_mem hmem) (Nat.le_max_right 0 _)

/-- **A walk that may go down as far as names go finds all**, however much farther it may go. -/
theorem searchDir_of_enough {d : Disk} {globs : List Glob} {fuel fuel' : Nat} {left : Option Nat} {here : Place}
    {listable : Bool} (h : longestName d ≤ here.name.length + fuel) (h' : longestName d ≤ here.name.length + fuel') :
    searchDir d globs left here listable (fuel + 1) = searchDir d globs left here listable (fuel' + 1) := by
  induction fuel generalizing fuel' left here listable with
  | zero =>
    have hnone : keptIn d globs here = [] :=
      List.eq_nil_iff_forall_not_mem.mpr fun c hc =>
        Nat.not_lt.mpr h (length_lt_longestName (List.mem_of_mem_filter hc))
    rw [searchDir_succ, searchDir_succ, hnone]
    rfl
  | succ fuel ih =>
    have hsame : ∀ c ∈ keptIn d globs here,
        findingsIn d globs left here (fuel + 1) c = findingsIn d globs left here fuel' c := by
      intro c hc
      have hbelow := length_lt_longestName (List.mem_of_mem_filter hc)
      obtain ⟨fuel', rfl⟩ : ∃ n, fuel' = n + 1 := Nat.exists_eq_succ_of_ne_zero fun hzero => by omega
      obtain ⟨name, entry⟩ := c
      cases entry with
      | file content mode => rfl
      | link target => rfl
      | dir mode listable =>
        have hlength : (here.enter name).name.length = here.name.length + 1 := List.length_append
        have henough : longestName d ≤ (here.enter name).name.length + fuel := by omega
        have henough' : longestName d ≤ (here.enter name).name.length + fuel' := by omega
        exact ih henough henough'
    rw [searchDir_succ, searchDir_succ, List.flatMap_congr fun c hc => congrArg Discovery.files (hsame c hc),
      List.flatMap_congr fun c hc => congrArg Discovery.issues (hsame c hc)]

/-- The bound on the depth of a tree cuts nothing off. -/
theorem discover_eq (d : Disk) (globs : List Glob) (maxDepth : Option Nat) (base : Name) (listable : Bool) {fuel : Nat}
    (h : longestName d ≤ fuel) :
    discover d globs maxDepth base listable = searchDir d globs maxDepth ⟨base, []⟩ listable (fuel + 1) :=
  searchDir_of_enough (Nat.le_add_left _ _) (Nat.le_trans h (Nat.le_add_left _ _))

/-! ## What is found -/

/-- What is found stands below a name: files and directories, each known by the path made of its name. -/
structure Finds (d : Disk) (top : Name) (found : Discovery) : Prop where
  files : ∀ f ∈ found.files, ∃ name content mode, top <+: name ∧ f = Disk.nameText name ∧
    d.entry? name = some (.file content mode)
  issues : ∀ i ∈ found.issues, ∃ name, top <+: name ∧ i.path = Disk.nameText name ∧ d.isDirName name = true

section

variable {d : Disk} {top : Name}

theorem finds_nothing : Finds d top {} :=
  ⟨fun _ h => absurd h List.not_mem_nil, fun _ h => absurd h List.not_mem_nil⟩

theorem Finds.mono {found : Discovery} (h : Finds d top found) {top' : Name} (hle : top' <+: top) :
    Finds d top' found where
  files := by
    intro f hf
    obtain ⟨name, content, mode, hbelow, hfile⟩ := h.files f hf
    exact ⟨name, content, mode, hle.trans hbelow, hfile⟩
  issues := by
    intro i hi
    obtain ⟨name, hbelow, hdir⟩ := h.issues i hi
    exact ⟨name, hle.trans hbelow, hdir⟩

theorem finds_flatMap {α : Type} {adds : α → Discovery} {l : List α} (h : ∀ a ∈ l, Finds d top (adds a)) :
    Finds d top ⟨l.flatMap fun a => (adds a).files, l.flatMap fun a => (adds a).issues⟩ where
  files := by
    intro f hf
    obtain ⟨a, ha, hf⟩ := List.mem_flatMap.mp hf
    exact (h a ha).files f hf
  issues := by
    intro i hi
    obtain ⟨a, ha, hi⟩ := List.mem_flatMap.mp hi
    exact (h a ha).issues i hi

end

section

variable {d : Disk} (hd : d.Tree) (globs : List Glob)
include hd

/-- **What an entry adds stands below it**, if what a walk finds stands below where it began. -/
theorem finds_findingsIn {fuel : Nat} (hwalk : ∀ left (here : Place) listable, d.isDirName here.name = true →
    Finds d here.name (searchDir d globs left here listable fuel)) (left : Option Nat) {here : Place}
    {c : String × Disk.Entry} (hc : c ∈ d.children here.name) :
    Finds d (here.name ++ [c.1]) (findingsIn d globs left here fuel c) := by
  obtain ⟨s, e⟩ := c
  have hentry := hd.entry?_of_mem (Disk.mem_children_iff.mp hc)
  cases e with
  | file content mode =>
    rw [findingsIn]
    dsimp only
    split
    · refine ⟨fun f hf => ?_, fun _ h => absurd h List.not_mem_nil⟩
      rw [List.mem_singleton.mp hf]
      exact ⟨_, content, mode, List.prefix_rfl, rfl, hentry⟩
    · exact finds_nothing
  | link target => exact finds_nothing
  | dir mode listable =>
    exact hwalk _ (here.enter s) listable ((Disk.isDirName_iff d _).mpr ⟨mode, listable, hentry⟩)

/-- **Whatever is found stands on the disk below the directory**, by induction on how far the walk may go. -/
theorem finds_searchDir (fuel : Nat) (left : Option Nat) (here : Place) (listable : Bool)
    (hdir : d.isDirName here.name = true) : Finds d here.name (searchDir d globs left here listable fuel) := by
  induction fuel generalizing left here listable with
  | zero => exact finds_nothing
  | succ fuel ih =>
    rcases searchDir_cases d globs left here listable fuel with h | ⟨f, h⟩ | h
    · rw [h]
      exact finds_nothing
    · rw [h]
      refine ⟨fun _ h => absurd h List.not_mem_nil, fun i hi => ?_⟩
      rw [List.mem_singleton.mp hi]
      exact ⟨here.name, List.prefix_rfl, rfl, hdir⟩
    · rw [h]
      refine finds_flatMap fun c hc => ?_
      exact (finds_findingsIn hd globs ih left (List.mem_of_mem_filter hc)).mono (List.prefix_append _ _)

/-- Two entries of one directory add no file in common. -/
theorem disjoint_findingsIn (fuel : Nat) (left : Option Nat) {here : Place} {a b : String × Disk.Entry}
    (ha : a ∈ d.children here.name) (hb : b ∈ d.children here.name) (hne : a.1 ≠ b.1) :
    (findingsIn d globs left here fuel a).files.Disjoint (findingsIn d globs left here fuel b).files := by
  refine List.disjoint_left.mpr fun f hfa hfb => hne ?_
  have hbelow {c : String × Disk.Entry} (hc : c ∈ d.children here.name) :=
    finds_findingsIn hd globs (finds_searchDir hd globs fuel) left hc
  obtain ⟨name, _, _, hprefix, hf, hentry⟩ := (hbelow ha).files f hfa
  obtain ⟨name', _, _, hprefix', hf', hentry'⟩ := (hbelow hb).files f hfb
  -- the file has one name, and that goes on from one entry of the directory only
  obtain rfl :=
    Disk.nameText_inj (hd.plainName_of_eq_some hentry) (hd.plainName_of_eq_some hentry') (hf.symm.trans hf')
  have hlength : (here.name ++ [a.1]).length = (here.name ++ [b.1]).length := by
    rw [List.length_append, List.length_append, List.length_singleton, List.length_singleton]
  have heq := List.prefix_of_prefix_length_le hprefix hprefix' (Nat.le_of_eq hlength)
  exact List.singleton_inj.mp (List.append_cancel_left (heq.eq_of_length hlength))

/-- **No file is found twice.** -/
theorem nodup_searchDir (fuel : Nat) (left : Option Nat) (here : Place) (listable : Bool) :
    (searchDir d globs left here listable fuel).files.Nodup := by
  induction fuel generalizing left here listable with
  | zero => exact .nil
  | succ fuel ih =>
    have hnodup : ∀ c : String × Disk.Entry, (findingsIn d globs left here fuel c).files.Nodup := by
      rintro ⟨s, e⟩
      cases e with
      | file content mode =>
        rw [findingsIn]
        dsimp only
        split
        · exact List.nodup_singleton _
        · exact .nil
      | link target => exact .nil
      | dir mode listable => exact ih _ _ listable
    rcases searchDir_cases d globs left here listable fuel with h | ⟨f, h⟩ | h
    · rw [h]
      exact .nil
    · rw [h]
      exact .nil
    · rw [h]
      refine List.nodup_flatMap.mpr ⟨fun c _ => hnodup c, ?_⟩
      have hapart := (Disk.pairwise_children hd here.name).filter fun c => !isExcluded globs (here.enter c.1).relative
      refine hapart.imp_of_mem fun {a b} ha hb hne => ?_
      exact disjoint_findingsIn hd globs fuel left (List.mem_of_mem_filter ha) (List.mem_of_mem_filter hb) hne

/-- **No file that is found is a directory that something is said about.** -/
theorem path_ne_of_mem_searchDir (fuel : Nat) (left : Option Nat) {here : Place} (listable : Bool)
    (hdir : d.isDirName here.name = true) :
    ∀ f ∈ (searchDir d globs left here listable fuel).files,
      ∀ i ∈ (searchDir d globs left here listable fuel).issues, i.path ≠ f := by
  intro f hf i hi hsame
  have hfinds := finds_searchDir hd globs fuel left here listable hdir
  obtain ⟨name, _, _, -, rfl, hfile⟩ := hfinds.files f hf
  obtain ⟨name', -, hpath, hname'⟩ := hfinds.issues i hi
  obtain ⟨_, _, hentry⟩ := (Disk.isDirName_iff d name').mp hname'
  obtain rfl := Disk.nameText_inj (hd.plainName_of_eq_some hentry) (hd.plainName_of_eq_some hfile)
    (hpath.symm.trans hsame)
  cases hfile.symm.trans hentry

end

/-! ## What is left out -/

/-- Why a walk from `here` on may not come upon what stands below under the name `rest`. -/
inductive LeftOut (globs : List Glob) (left : Option Nat) (here : Place) (rest : Name) (found : Discovery) : Prop where
  /-- it is excluded, or a directory above it is -/
  | excluded {front : Name} : front ≠ [] → front <+: rest →
      isExcluded globs (Place.relative ⟨here.name ++ front, here.below ++ front⟩) = true →
        LeftOut globs left here rest found
  | tooDeep {levels : Nat} : left = some levels → levels < rest.length → LeftOut globs left here rest found
  /-- something is said about a directory above it -/
  | noted {i : Issue} {dir : Name} : i ∈ found.issues → here.name <+: dir → dir <+: here.name ++ rest →
      i.path = Disk.nameText dir → LeftOut globs left here rest found

/-- What is left out from a directory on is left out from the directory above it. -/
theorem LeftOut.above {globs : List Glob} {left : Option Nat} {here : Place} {s : String} {rest : Name}
    {found found' : Discovery} (h : LeftOut globs (left.map (· - 1)) (here.enter s) rest found)
    (hissues : ∀ i ∈ found.issues, i ∈ found'.issues) : LeftOut globs left here (s :: rest) found' := by
  have hbelow (l : List String) (front : Name) : l ++ [s] ++ front = l ++ s :: front := (List.append_cons l s front).symm
  cases h with
  | @excluded front hne hfront hexcluded =>
    refine .excluded (List.cons_ne_nil s front) (List.cons_prefix_cons.mpr ⟨rfl, hfront⟩) ?_
    rw [Place.enter, hbelow, hbelow] at hexcluded
    exact hexcluded
  | @tooDeep levels hleft hlevels =>
    obtain ⟨n, rfl, hn⟩ := Option.map_eq_some_iff.mp hleft
    refine .tooDeep rfl ?_
    rw [List.length_cons]
    omega
  | @noted i dir hi hhere hdir hpath =>
    refine .noted (hissues i hi) ((List.prefix_append _ _).trans hhere) ?_ hpath
    rw [Place.enter, hbelow] at hdir
    exact hdir

theorem leftOut_of_noted {globs : List Glob} {left : Option Nat} {here : Place} {found : Discovery} {f : Failure}
    (h : found = { issues := [.ofFailure here.path f] }) (rest : Name) : LeftOut globs left here rest found := by
  subst h
  exact .noted (List.mem_singleton_self _) List.prefix_rfl (List.prefix_append _ _) rfl

/-- A directory is entered, or there is a reason not to come upon anything below. -/
theorem leftOut_or_entered (d : Disk) (globs : List Glob) (left : Option Nat) (here : Place) (listable : Bool)
    (fuel : Nat) {rest : Name} (hrest : rest ≠ []) :
    let found := searchDir d globs left here listable (fuel + 1)
    LeftOut globs left here rest found ∨
      found = ⟨(keptIn d globs here).flatMap fun c => (findingsIn d globs left here fuel c).files,
        (keptIn d globs here).flatMap fun c => (findingsIn d globs left here fuel c).issues⟩ := by
  rw [searchDir_succ]
  split
  · rename_i hleft
    exact .inl (.tooDeep hleft (List.length_pos_iff.mpr hrest))
  · split
    · exact .inl (leftOut_of_noted rfl rest)
    · split
      · exact .inl (leftOut_of_noted rfl rest)
      · exact .inr rfl

/-- **A source file below a directory is found, unless there is a reason to leave it out**, by induction on the way
down to the file. -/
theorem mem_searchDir_or {d : Disk} (hd : d.Rooted) (globs : List Glob) {content : Disk.Content} {mode : Nat}
    {rest : Name} {fuel : Nat} {left : Option Nat} {here : Place} {listable : Bool} (hrest : rest ≠ [])
    (hentry : d.entry? (here.name ++ rest) = some (.file content mode))
    (hsource : Script.isSourceFile (Disk.nameText (here.name ++ rest)) = true)
    (hfuel : longestName d ≤ here.name.length + fuel) :
    Disk.nameText (here.name ++ rest) ∈ (searchDir d globs left here listable (fuel + 1)).files ∨
      LeftOut globs left here rest (searchDir d globs left here listable (fuel + 1)) := by
  induction rest generalizing fuel left here listable with
  | nil => exact absurd rfl hrest
  | cons s rest ih =>
    rcases leftOut_or_entered d globs left here listable fuel hrest with hout | hfound
    · exact .inr hout
    by_cases hexcluded : isExcluded globs (here.enter s).relative = true
    · exact .inr (.excluded (List.cons_ne_nil s []) (List.prefix_append [s] rest) hexcluded)
    have hkept {e : Disk.Entry} (he : d.entry? (here.name ++ [s]) = some e) : (s, e) ∈ keptIn d globs here := by
      have hmem := Disk.mem_entries_of_eq_some (List.append_ne_nil_of_right_ne_nil _ (List.cons_ne_nil s [])) he
      exact List.mem_filter.mpr ⟨Disk.mem_children_iff.mpr hmem, by simpa using hexcluded⟩
    by_cases hlast : rest = []
    · subst hlast
      have hpath : (here.enter s).path = Disk.nameText (here.name ++ [s]) := rfl
      refine .inl ?_
      rw [hfound]
      refine List.mem_flatMap.mpr ⟨_, hkept hentry, ?_⟩
      rw [findingsIn]
      dsimp only
      rw [hpath, if_pos hsource]
      exact List.mem_singleton_self _
    · -- the file stands below a directory that stands here, so the way down from there is one step shorter
      rw [List.append_cons] at hentry hsource ⊢
      obtain ⟨_, listable, hdir⟩ := (Disk.isDirName_iff d _).mp (hd.isDirName_of_below hentry hlast)
      have hmem := hkept hdir
      have hbelow := length_lt_longestName (List.mem_of_mem_filter hmem)
      obtain ⟨fuel, rfl⟩ : ∃ n, fuel = n + 1 := Nat.exists_eq_succ_of_ne_zero fun hzero => by omega
      have hlength : (here.enter s).name.length = here.name.length + 1 := List.length_append
      have henough : longestName d ≤ (here.enter s).name.length + fuel := by omega
      rcases @ih fuel (left.map (· - 1)) (here.enter s) listable hlast hentry hsource henough with hfile | hout
      · refine .inl ?_
        rw [hfound]
        exact List.mem_flatMap.mpr ⟨_, hmem, hfile⟩
      · refine .inr (hout.above fun i hi => ?_)
        rw [hfound]
        exact List.mem_flatMap.mpr ⟨_, hmem, hi⟩

end Survey

end ImportSurvey
