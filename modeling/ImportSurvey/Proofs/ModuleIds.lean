import ImportSurvey.Resolve.Search
import ImportSurvey.Proofs.Normalizing

/-
  Modules are named by ids, and an id leads back to its file.

  The graph holds ids only, so the directory that a reference starts from has to be read off the id of the module
  that it stands in.  An id is the text of the simplified path, below the base directory if the file lies there, and
  the path of an id is what it denotes from the base directory.

  The crux is that going to the id and back leaves the components as they were: below the base directory the id has
  what the path has behind the directory, and elsewhere it is absolute, so that the directory does not count
  (`ModuleSpace.modulePath_moduleId`).  Simplification does the rest, as it leaves a simplified path alone.  Slashes
  come in for backslashes on the way; where there is no backslash in the path, there is none in the id
  (`not_mem_text_ofComponents`), and nothing changes.
-/
namespace ImportSurvey

/-! ## Texts without backslash -/

/-- A text with slashes for backslashes. -/
def slashed (t : String) : String := .ofList (t.toList.map fun c => if c = '\\' then '/' else c)

theorem slashed_eq_self {t : String} (h : '\\' ∉ t.toList) : slashed t = t := by
  have hmap : t.toList.map (fun c => if c = '\\' then '/' else c) = t.toList := by
    conv_rhs => rw [← List.map_id t.toList]
    refine List.map_congr_left fun c hc => if_neg ?_
    rintro rfl
    exact h hc
  rw [slashed, hmap, String.ofList_toList]

namespace Path

theorem sublist_of_mem_segments {cs s : List Char} (h : s ∈ segments cs) : s.Sublist cs := by
  induction cs generalizing s with
  | nil => rw [List.mem_singleton.mp h]
  | cons c cs ih =>
    obtain ⟨t, ts, hts⟩ := List.exists_cons_of_ne_nil (segments_ne_nil cs)
    by_cases hc : c = '/'
    · rw [hc, segments_sep] at h
      rcases List.mem_cons.mp h with rfl | h
      · exact List.nil_sublist _
      · exact (ih h).cons c
    · rw [segments_cons hc hts] at h
      rcases List.mem_cons.mp h with rfl | h
      · exact (ih (hts ▸ List.mem_cons_self)).cons_cons c
      · exact (ih (hts ▸ List.mem_cons_of_mem t h)).cons c

theorem not_mem_text_of_ofSegment? {s : List Char} {c : Component} (h : Component.ofSegment? s = some c)
    {x : Char} (hx : x ∉ s) : x ∉ c.text.toList := by
  have hsolid : Solid s := by
    refine not_or.mp fun hjunk => ?_
    rw [Component.ofSegment?, if_pos hjunk] at h
    cases h
  obtain ⟨c', hc', -, htext⟩ := ofSegment?_of_solid hsolid
  obtain rfl := Option.some.inj (h.symm.trans hc')
  rw [htext]
  exact hx

theorem not_mem_text_of_mem_components {p : Path} (h : '\\' ∉ p.text.toList) :
    ∀ c ∈ p.components, '\\' ∉ c.text.toList := by
  obtain ⟨s, ss, hss⟩ := List.exists_cons_of_ne_nil (segments_ne_nil p.text.toList)
  have hsegment : ∀ t ∈ s :: ss, '\\' ∉ t := fun t ht hin =>
    h ((sublist_of_mem_segments (hss ▸ ht)).subset hin)
  intro c hc
  rw [components_eq_leading hss] at hc
  rcases List.mem_append.mp hc with hc | hc
  · rw [leading] at hc
    split at hc
    · rw [List.mem_singleton.mp hc]
      decide
    · split at hc
      · rw [List.mem_singleton.mp hc]
        decide
      · exact not_mem_text_of_ofSegment? (Option.mem_toList.mp hc) (hsegment s List.mem_cons_self)
  · obtain ⟨t, ht, hc⟩ := List.mem_filterMap.mp hc
    exact not_mem_text_of_ofSegment? hc (hsegment t (List.mem_cons_of_mem s ht))

/-- A character that components spell is a separator or stands in one of them. -/
theorem mem_text_ofComponents {cs : List Component} {x : Char} (h : x ∈ (ofComponents cs).text.toList) :
    x = '/' ∨ ∃ c ∈ cs, x ∈ c.text.toList := by
  have hspell {l : List Component} (hx : x ∈ spell l) : x = '/' ∨ ∃ c ∈ l, x ∈ c.text.toList :=
    (mem_intercalate hx).imp_right fun ⟨_, hs, hx⟩ =>
      let ⟨c, hc, hspelt⟩ := List.mem_map.mp hs
      ⟨c, hc, hspelt ▸ hx⟩
  by_cases hroot : ∃ rest, cs = .root :: rest
  · obtain ⟨rest, rfl⟩ := hroot
    rw [ofComponents_root] at h
    rcases List.mem_cons.mp h with rfl | h
    · exact .inl rfl
    · exact (hspell h).imp_right fun ⟨c, hc, hx⟩ => ⟨c, List.mem_cons_of_mem _ hc, hx⟩
  · rw [ofComponents_of_ne_root fun rest hrest => hroot ⟨rest, hrest⟩] at h
    exact hspell h

/-- **Simplification brings no backslash in**, and neither does what is below another path. -/
theorem not_mem_text_ofComponents {p : Path} (h : '\\' ∉ p.text.toList) {cs : List Component}
    (hcs : cs ⊆ p.normalize.components) : '\\' ∉ (ofComponents cs).text.toList := by
  intro hin
  rcases mem_text_ofComponents hin with habs | ⟨c, hc, hin⟩
  · exact absurd habs (by decide)
  · exact not_mem_text_of_mem_components h c (p.components_normalize_subset (hcs hc)) hin

end Path

/-! ## Ids and paths -/

namespace ModuleSpace

open ImportSurvey.Path ImportSurvey.Resolve

/-- The path of a file as its module is named by it: below the base directory if it lies there. -/
def inside (s : ModuleSpace) (p : Path) : Path := (p.normalize.below? s.baseDir).getD p.normalize

theorem moduleId_eq (s : ModuleSpace) (p : Path) : s.moduleId p = slashed (s.inside p).text := rfl

theorem inside_cases (s : ModuleSpace) (p : Path) :
    p.normalize.below? s.baseDir = some (s.inside p) ∨ s.inside p = p.normalize := by
  rw [inside]
  cases p.normalize.below? s.baseDir with
  | none => exact .inr rfl
  | some r => exact .inl rfl

variable {base p : Path}

theorem moduleId_of_no_backslash (s : ModuleSpace) (h : '\\' ∉ p.text.toList) :
    s.moduleId p = (s.inside p).text := by
  rw [moduleId_eq]
  refine slashed_eq_self ?_
  rcases s.inside_cases p with hinside | hinside
  · rw [below?] at hinside
    split at hinside
    · rw [← Option.some.inj hinside]
      exact not_mem_text_ofComponents h (List.drop_subset _ _)
    · cases hinside
  · rw [hinside, ← ofComponents_components_normalize]
    exact not_mem_text_ofComponents h (List.Subset.refl _)

/-- **An id leads back to its file.** -/
theorem modulePath_moduleId (hbase : base.isAbsolute = true) (hp : p.isAbsolute = true)
    (hslash : '\\' ∉ p.text.toList) : (ofDir base).modulePath ((ofDir base).moduleId p) = p.normalize := by
  rw [moduleId_of_no_backslash _ hslash, modulePath]
  refine normalize_of_components ?_
  rcases (ofDir base).inside_cases p with hinside | hinside
  · exact components_join_below hbase hinside
  · rw [hinside, join, isAbsolute_normalize hp, Bool.true_or, if_pos rfl]

/-- Files that are simplified alike have one id. -/
theorem moduleId_congr (s : ModuleSpace) {q : Path} (h : p.normalize = q.normalize) : s.moduleId p = s.moduleId q := by
  rw [moduleId_eq, moduleId_eq, inside, inside, h]

/-- What is to be said of a path, its id, and references that are written in the file. -/
structure Inverse (s : ModuleSpace) (p : Path) : Prop where
  path : s.modulePath (s.moduleId p) = p.normalize
  id : s.moduleId (s.modulePath (s.moduleId p)) = s.moduleId p
  directory : ∀ n, p.fileName = some n → directoryOf (s.modulePath (s.moduleId p)) = (directoryOf p).normalize
  /-- a reference by path starts from the directory that the file is in -/
  reference : ∀ n, p.fileName = some n → ∀ (d : Disk) (reference : String), isPathReference reference = true →
    s.resolve d reference (s.moduleId p) = do
      match ← probe d ((directoryOf p).join reference).normalize with
      | some q => return .module (s.moduleId q)
      | none => return .unresolved

/-- No module of the runtime is named by a path. -/
theorem isCoreModule_of_path {reference : String} (h : isPathReference reference = true) :
    isCoreModule reference = false := by
  have hnames : ∀ m ∈ coreModules, m.toList ≠ [] ∧ m.toList.head? ≠ some '.' := by decide
  rw [isPathReference] at h
  split at h
  · rename_i c rest htext
    have hfirst : c = '.' ∨ c = '/' := by simpa using h
    rw [isCoreModule, htext, Bool.or_eq_false_iff]
    refine ⟨?_, ?_⟩
    · rcases hfirst with rfl | rfl
      · rfl
      · rfl
    · refine Bool.eq_false_iff.mpr fun hcore => ?_
      obtain ⟨hne, hdot⟩ := hnames _ (List.contains_iff_mem.mp hcore)
      rw [String.toList_ofList] at hne hdot
      rcases hfirst with rfl | rfl
      · exact hdot rfl
      · exact hne rfl
  · cases h

/-- The directory of a file, simplified, is the directory of the simplified file. -/
theorem directoryOf_normalize {n : String} (h : p.fileName = some n) :
    directoryOf p.normalize = (directoryOf p).normalize ∧
      (p.isAbsolute = true → (directoryOf p).isAbsolute = true) := by
  obtain ⟨q, hq, hnormal, habs⟩ := parent_normalize h
  rw [directoryOf, directoryOf, hq, hnormal]
  exact ⟨rfl, habs⟩

/-- **Ids and paths are inverse to each other**, inside the base directory, outside and at it, so a reference by path
starts from the directory of the file that it is written in. -/
theorem inverse_of_absolute (hbase : base.isAbsolute = true) (hp : p.isAbsolute = true)
    (hslash : '\\' ∉ p.text.toList) : (ofDir base).Inverse p := by
  have hpath := modulePath_moduleId hbase hp hslash
  refine ⟨hpath, ?_, fun n hn => ?_, fun n hn d reference href => ?_⟩
  · rw [hpath]
    exact moduleId_congr _ p.normalize_normalize
  · rw [hpath]
    exact (directoryOf_normalize hn).1
  · obtain ⟨hdirectory, habs⟩ := directoryOf_normalize hn
    have hne : reference.isEmpty = false := by
      refine Bool.eq_false_iff.mpr fun hempty => ?_
      rw [String.isEmpty_iff.mp hempty] at href
      cases href
    rw [resolve, isCoreModule_of_path href, if_neg Bool.false_ne_true, hpath, resolvePath, hne,
      if_neg Bool.false_ne_true, if_pos href, hdirectory, normalize_join_normalize (habs hp), bind_assoc]
    refine bind_congr fun found => ?_
    rw [pure_bind]
    cases found with
    | none => rfl
    | some q => rfl

/-- A file below the base directory, with a step up on the way. -/
theorem inverse_of_step_up :
    let base : Path := ⟨"/work/app"⟩
    let p : Path := ⟨"/work/app/src/../lib/a.js"⟩
    base.isAbsolute = true ∧ p.isAbsolute = true ∧ '\\' ∉ p.text.toList ∧
      (ofDir base).moduleId p = "lib/a.js" ∧ (ofDir base).Inverse p :=
  ⟨by decide, by decide, by decide, by decide, inverse_of_absolute (by decide) (by decide) (by decide)⟩

end ModuleSpace

end ImportSurvey
