import ImportSurvey.Resolve.Search
import ImportSurvey.Proofs.Normalizing

/-
  It does not matter when a path is simplified.

  Ids, paths of modules and references are simplified at different moments: a base directory before anything is joined
  to it, a joined path afterwards, and the directory of a file perhaps both before and after.

  The crux is that simplification goes through the components from left to right on a stack, so that a text behind a
  path goes on from the stack that the path leaves (`foldl_components_join`).  A simplified path leaves its own
  components there, which is the stack that the path itself leaves; hence either may stand in front
  (`normalize_join`).  Nothing is asked of the parts: behind an absolute text the path does not count, a text with steps
  up goes on as far as they lead, and a dot in front of a text, which is a component of its own only where nothing
  stands before it, is dropped.
-/
namespace ImportSurvey.Path

/-- A relative text is folded like its segments, for a dot in front is dropped. -/
theorem foldl_components_relative {q : String} (hq : isAbsolute ⟨q⟩ = false) (stack : List Component) :
    (components ⟨q⟩).foldl fold stack = ((segments q.toList).filterMap Component.ofSegment?).foldl fold stack := by
  obtain ⟨s, ss, hss⟩ := List.exists_cons_of_ne_nil (segments_ne_nil q.toList)
  rw [components_eq_leading hss, hq, hss, leading, if_neg Bool.false_ne_true]
  split
  · rename_i hdot
    have hnone : Component.ofSegment? s = none := by rw [hdot]; rfl
    rw [List.filterMap_cons_none hnone]
    rfl
  · cases hs : Component.ofSegment? s with
    | none => rw [List.filterMap_cons_none hs]; rfl
    | some c => rw [List.filterMap_cons_some hs]; rfl

/-- **A relative text behind a path goes on from where the path leads.** -/
theorem foldl_components_join (p : Path) {q : String} (hq : isAbsolute ⟨q⟩ = false) :
    (p.join q).components.foldl fold [] = (components ⟨q⟩).foldl fold (p.components.foldl fold []) := by
  by_cases hp : p.text = ""
  · obtain rfl : p = ⟨""⟩ := by rw [← hp]
    have hjoin : join ⟨""⟩ q = ⟨q⟩ := by rw [join, Bool.or_comm]; rfl
    rw [hjoin]
    rfl
  · rw [components_join hp hq, List.foldl_append, foldl_components_relative hq]

/-- **A path may be simplified before a text is put behind it, or only afterwards.** -/
theorem normalize_join (p : Path) (q : String) : (p.normalize.join q).normalize = (p.join q).normalize := by
  cases hq : isAbsolute ⟨q⟩ with
  | true =>
    rw [join, join, hq, Bool.true_or, Bool.true_or]
    rfl
  | false =>
    rw [normalize, foldl_components_join _ hq, foldl_fold_components_normalize, components_normalize_eq,
      ← foldl_components_join _ hq]
    rfl

/-- Spellings that are simplified alike are alike in front of a text. -/
theorem normalize_join_congr {p p' : Path} (h : p.normalize = p'.normalize) (q : String) :
    (p.join q).normalize = (p'.join q).normalize := by
  rw [← normalize_join, h, normalize_join]

end ImportSurvey.Path

namespace ImportSurvey.Resolve

/-- A reference by path is looked for at one place, seen from the directory that it is written in. -/
theorem resolvePath_of_path (d : Disk) {reference : String} (h : isPathReference reference = true) (file : Path) :
    resolvePath d reference file = do return .ok (← probe d ((directoryOf file).join reference).normalize) := by
  have hne : ¬ reference.isEmpty = true := by
    intro hempty
    rw [String.isEmpty_iff.mp hempty] at h
    cases h
  rw [resolvePath, if_neg hne, if_pos h]

/-- **It does not matter when a path is simplified**: once or twice, before a text is put behind it or afterwards.  So a
reference by path is looked for at one place from all files whose directories are simplified alike. -/
theorem normalize_at_any_time :
    (∀ p : Path, p.normalize.normalize = p.normalize) ∧
    (∀ (p : Path) (q : String), (p.join q).normalize = (p.normalize.join q).normalize) ∧
    (∀ (base : Path) (id : String), (ModuleSpace.ofDir base).modulePath id = (base.join id).normalize) ∧
    ∀ (d : Disk) (reference : String) (file file' : Path), isPathReference reference = true →
      (directoryOf file).normalize = (directoryOf file').normalize →
        ∃ candidate, candidate = ((directoryOf file).join reference).normalize ∧
          candidate = ((directoryOf file').join reference).normalize ∧
          resolvePath d reference file = (do return .ok (← probe d candidate)) ∧
          resolvePath d reference file' = (do return .ok (← probe d candidate)) := by
  refine ⟨Path.normalize_normalize, fun p q => (p.normalize_join q).symm, Path.normalize_join, ?_⟩
  intro d reference file file' hpath hdirectories
  have hsame := Path.normalize_join_congr hdirectories reference
  refine ⟨_, rfl, hsame, resolvePath_of_path d hpath file, ?_⟩
  rw [hsame]
  exact resolvePath_of_path d hpath file'

/-- Two spellings of a directory, and a reference that steps out of it. -/
theorem normalize_at_any_time_of_two_spellings :
    let d : Disk := { entries := [(["lib"], .dir 0o755 true), (["lib", "b.ts"], .file (.text ""))], workingDir := [] }
    let file : Path := ⟨"./src/../app//a.ts"⟩
    let file' : Path := ⟨"lib/../app/./c.ts"⟩
    isPathReference "./../lib/b" = true ∧ (directoryOf file).normalize = (directoryOf file').normalize ∧
      ∃ candidate, candidate = ((directoryOf file).join "./../lib/b").normalize ∧
        candidate = ((directoryOf file').join "./../lib/b").normalize ∧
        resolvePath d "./../lib/b" file = (do return .ok (← probe d candidate)) ∧
        resolvePath d "./../lib/b" file' = (do return .ok (← probe d candidate)) := by
  intro d file file'
  have hsame : (directoryOf file).normalize = (directoryOf file').normalize := by decide
  exact ⟨by decide, hsame, normalize_at_any_time.2.2.2 d "./../lib/b" file file' (by decide) hsame⟩

end ImportSurvey.Resolve
