import Mathlib.Data.List.TakeWhile
import ImportSurvey.Resolve.Package

/-
  What a reference to a package consists of.

  `Splits` says how a reference is made of the name of a package and of what it asks for inside, with a rule for each
  way to write one, and `splits_iff` that a reference is read in just that way.
-/
namespace ImportSurvey.Resolve

/-- A segment, or a scope and a segment. -/
inductive PackageName : String → Prop where
  | plain {name : String} : name.toList.head? ≠ some '@' → '/' ∉ name.toList → PackageName name
  | inScope {scope name : String} : scope.toList.head? = some '@' → '/' ∉ scope.toList → '/' ∉ name.toList →
      PackageName (scope ++ "/" ++ name)

/-- What a reference to a package consists of: the name and what it asks for inside.  Nothing is asked for where
nothing follows a separator, and a scope alone is a name, too. -/
inductive Splits : String → String → Option String → Prop where
  | name {name : String} : PackageName name → Splits name name none
  | scope {scope : String} : scope.toList.head? = some '@' → '/' ∉ scope.toList → Splits scope scope none
  | slash {name : String} : PackageName name → Splits (name ++ "/") name none
  | subpath {name subpath : String} : PackageName name → subpath ≠ "" →
      Splits (name ++ "/" ++ subpath) name (some subpath)

/-- What stands before and behind the first separator. -/
theorem cut_iff {cs before behind : List Char} :
    cs.takeWhile (· ≠ '/') = before ∧ cs.drop (before.length + 1) = behind ↔
      '/' ∉ before ∧ (cs = before ∧ behind = [] ∨ cs = before ++ '/' :: behind) := by
  constructor
  · rintro ⟨rfl, rfl⟩
    refine ⟨fun h => by simpa using List.mem_takeWhile_imp h, ?_⟩
    have hcut := List.takeWhile_append_dropWhile (p := fun c => decide (c ≠ '/')) (l := cs)
    cases hrest : cs.dropWhile fun c => decide (c ≠ '/') with
    | nil =>
      rw [hrest, List.append_nil] at hcut
      refine .inl ⟨hcut.symm, ?_⟩
      rw [hcut]
      exact List.drop_eq_nil_of_le (Nat.le_succ _)
    | cons c rest =>
      have hsep : c = '/' := by
        have hnot := List.head?_dropWhile_not (fun c => decide (c ≠ '/')) cs
        rw [hrest] at hnot
        simpa using hnot
      rw [hrest, hsep] at hcut
      refine .inr ?_
      generalize cs.takeWhile (fun c => decide (c ≠ '/')) = before at hcut
      rw [← hcut]
      simp
  · rintro ⟨hsep, ⟨rfl, rfl⟩ | rfl⟩
    · refine ⟨List.takeWhile_eq_self_iff.mpr fun c hc => ?_, List.drop_eq_nil_of_le (Nat.le_succ _)⟩
      exact decide_eq_true fun h => hsep (h ▸ hc)
    · have hall : ∀ c ∈ before, decide (c ≠ '/') = true := fun c hc => decide_eq_true fun h => hsep (h ▸ hc)
      refine ⟨?_, by simp⟩
      rw [List.takeWhile_append_of_pos hall, List.takeWhile_cons_of_neg (by decide), List.append_nil]

theorem toList_append_sep (s t : String) : (s ++ "/" ++ t).toList = s.toList ++ '/' :: t.toList := by
  rw [String.toList_append, String.toList_append, List.append_assoc]
  rfl

/-- Without a scope the first segment is the name. -/
theorem ofText_of_plain {name reference : String} (hscope : name.toList.head? ≠ some '@') (hsep : '/' ∉ name.toList)
    {behind : List Char}
    (h : reference.toList = name.toList ∧ behind = [] ∨ reference.toList = name.toList ++ '/' :: behind) :
    PackageReference.ofText reference = ⟨name, if behind.isEmpty then none else some (.ofList behind)⟩ := by
  obtain ⟨hfirst, hrest⟩ := cut_iff.mpr ⟨hsep, h⟩
  have hhead : reference.toList.head? ≠ some '@' := by
    rcases h with ⟨h, -⟩ | h
    · rw [h]
      exact hscope
    · rw [h, List.head?_append]
      cases hname : name.toList.head? with
      | none => simp
      | some c =>
        rw [hname] at hscope
        exact hscope
  rw [PackageReference.ofText]
  dsimp only
  rw [hfirst, hrest, if_neg fun h => hhead h.1, String.ofList_toList]

/-- With a scope the first two segments are. -/
theorem ofText_of_scoped {scope name reference : String} (hscope : scope.toList.head? = some '@')
    (hsep : '/' ∉ scope.toList) (hsep' : '/' ∉ name.toList) {behind : List Char}
    (h : reference.toList = (scope ++ "/" ++ name).toList ∧ behind = [] ∨
      reference.toList = (scope ++ "/" ++ name).toList ++ '/' :: behind) :
    PackageReference.ofText reference =
      ⟨scope ++ "/" ++ name, if behind.isEmpty then none else some (.ofList behind)⟩ := by
  have hname := toList_append_sep scope name
  obtain ⟨rest, hcs, hsecond⟩ : ∃ rest, reference.toList = scope.toList ++ '/' :: rest ∧
      (rest = name.toList ∧ behind = [] ∨ rest = name.toList ++ '/' :: behind) := by
    rw [hname] at h
    rcases h with ⟨h, hbehind⟩ | h
    · exact ⟨name.toList, h, .inl ⟨rfl, hbehind⟩⟩
    · refine ⟨name.toList ++ '/' :: behind, ?_, .inr rfl⟩
      rw [h, List.append_assoc, List.cons_append]
  obtain ⟨hfirst, hrest⟩ := cut_iff.mpr ⟨hsep, .inr hcs⟩
  obtain ⟨hsecond, hbehind⟩ := cut_iff.mpr ⟨hsep', hsecond⟩
  have hcond : reference.toList.head? = some '@' ∧ scope.toList.length < reference.toList.length := by
    rw [hcs, List.head?_append, hscope]
    simp
  rw [PackageReference.ofText]
  dsimp only
  rw [hfirst, hrest, if_pos hcond]
  dsimp only
  rw [hsecond, hbehind, ← hname, String.ofList_toList]

theorem PackageName.ofText_eq {name reference : String} (hname : PackageName name) {behind : List Char}
    (h : reference.toList = name.toList ∧ behind = [] ∨ reference.toList = name.toList ++ '/' :: behind) :
    PackageReference.ofText reference = ⟨name, if behind.isEmpty then none else some (.ofList behind)⟩ := by
  cases hname with
  | plain hscope hsep => exact ofText_of_plain hscope hsep h
  | inScope hscope hsep hsep' => exact ofText_of_scoped hscope hsep hsep' h

/-- A reference is read as it is split. -/
theorem Splits.ofText_eq {reference name : String} {subpath : Option String} (h : Splits reference name subpath) :
    PackageReference.ofText reference = ⟨name, subpath⟩ := by
  cases h with
  | name hname => exact hname.ofText_eq (.inl ⟨rfl, rfl⟩)
  | scope hscope hsep =>
    obtain ⟨hfirst, hrest⟩ := cut_iff.mpr ⟨hsep, .inl ⟨rfl, rfl⟩⟩
    rw [PackageReference.ofText]
    dsimp only
    rw [hfirst, hrest, if_neg fun h => Nat.lt_irrefl _ h.2, String.ofList_toList]
    rfl
  | slash hname =>
    rw [hname.ofText_eq (.inr (String.toList_append ..))]
    rfl
  | @subpath name s hname hs =>
    have hbehind : s.toList.isEmpty = false := by
      rw [List.isEmpty_eq_false_iff]
      exact mt String.toList_eq_nil_iff.mp hs
    rw [hname.ofText_eq (.inr (toList_append_sep name s)), hbehind, if_neg Bool.false_ne_true, String.ofList_toList]

/-- Every reference is split. -/
theorem splits_of_name {name reference : String} (hname : PackageName name) {behind : List Char}
    (h : reference.toList = name.toList ∧ behind = [] ∨ reference.toList = name.toList ++ '/' :: behind) :
    ∃ subpath, Splits reference name subpath := by
  rcases h with ⟨h, -⟩ | h
  · rw [String.toList_inj.mp h]
    exact ⟨none, .name hname⟩
  · have htext : reference = name ++ "/" ++ String.ofList behind := by
      rw [← String.toList_inj, h, toList_append_sep, String.toList_ofList]
    by_cases hempty : String.ofList behind = ""
    · refine ⟨none, ?_⟩
      rw [htext, hempty, String.append_empty]
      exact .slash hname
    · rw [htext]
      exact ⟨_, .subpath hname hempty⟩

theorem exists_cut (cs : List Char) :
    ∃ before behind, '/' ∉ before ∧ (cs = before ∧ behind = [] ∨ cs = before ++ '/' :: behind) :=
  ⟨_, _, cut_iff.mp ⟨rfl, rfl⟩⟩

theorem exists_splits (reference : String) : ∃ name subpath, Splits reference name subpath := by
  obtain ⟨first, rest, hsep, h⟩ := exists_cut reference.toList
  obtain ⟨scope, rfl⟩ : ∃ scope : String, scope.toList = first := ⟨_, String.toList_ofList⟩
  by_cases hscope : scope.toList.head? = some '@'
  · rcases h with ⟨h, -⟩ | h
    · rw [String.toList_inj.mp h]
      exact ⟨scope, none, .scope hscope hsep⟩
    · obtain ⟨second, behind, hsep', h'⟩ := exists_cut rest
      obtain ⟨name, rfl⟩ : ∃ name : String, name.toList = second := ⟨_, String.toList_ofList⟩
      have h'' : reference.toList = (scope ++ "/" ++ name).toList ∧ behind = [] ∨
          reference.toList = (scope ++ "/" ++ name).toList ++ '/' :: behind := by
        rw [h, toList_append_sep]
        rcases h' with ⟨rfl, hbehind⟩ | rfl
        · exact .inl ⟨rfl, hbehind⟩
        · exact .inr (by rw [List.append_assoc, List.cons_append])
      exact ⟨scope ++ "/" ++ name, splits_of_name (.inScope hscope hsep hsep') h''⟩
  · exact ⟨scope, splits_of_name (.plain hscope hsep) h⟩

/-- **A reference is split in one way**, the one in which it is read. -/
theorem splits_iff {reference name : String} {subpath : Option String} :
    Splits reference name subpath ↔ PackageReference.ofText reference = ⟨name, subpath⟩ := by
  refine ⟨Splits.ofText_eq, fun h => ?_⟩
  obtain ⟨name', subpath', hsplits⟩ := exists_splits reference
  obtain ⟨rfl, rfl⟩ := PackageReference.mk.inj (hsplits.ofText_eq.symm.trans h)
  exact hsplits

end ImportSurvey.Resolve
