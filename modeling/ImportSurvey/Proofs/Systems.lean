import Mathlib.Data.List.Destutter
import ImportSurvey.Survey.Basic
import ImportSurvey.Proofs.SeenOnce

/-
  Which systems a survey asks for.

  The systems are given in a list with repetitions.  Those that do not count are left out, the system of the
  configured functions joins at the end if it is not there, and of equal neighbours the first is kept.  Each system
  ought to be asked for once then, in the order in which the systems first come up, so that no name is reported
  twice (`Settings.EachOnce`).

  The crux is what the last step misses.  Of a list whose equal members are all neighbours it keeps each once;
  if a system comes up, then another one, and then the first again, no step brings the two together, and both
  stay.  This is the only way to fail (`Settings.eachOnce_iff`): a list without equal neighbours in which a member
  stands twice has another one between the two (`exists_return_of_twice`), and what has no equal neighbours
  survives the last step (`sublist_dropEqualNeighbours_of_isChain`).

  Returns also decide the order: if `b` first comes up before `a` and is kept behind it, it comes up again
  behind `a` (`return_of_idxOf_lt`).
-/
namespace ImportSurvey

/-! ## Returns and equal neighbours -/

section

variable {α : Type} {a b : α}

/-- Between two equal members of a list without equal neighbours stands another one. -/
theorem exists_return_of_twice {l : List α} (h : [a, a].Sublist l) (hl : l.IsChain (· ≠ ·)) :
    ∃ b, a ≠ b ∧ [a, b, a].Sublist l := by
  induction l with
  | nil => cases h
  | cons c l ih =>
    cases h with
    | cons _ h =>
      obtain ⟨b, hab, hsub⟩ := ih h hl.tail
      exact ⟨b, hab, hsub.cons c⟩
    | cons_cons _ h =>
      cases l with
      | nil => cases h
      | cons b l =>
        have hab := (List.isChain_cons_cons.mp hl).1
        cases h with
        | cons _ h => exact ⟨b, hab, (h.cons_cons b).cons_cons a⟩
        | cons_cons _ h => exact absurd rfl hab

/-- No member comes up again behind another one. -/
def NoReturn (l : List α) : Prop := ∀ a b, a ≠ b → ¬ [a, b, a].Sublist l

/-- A new member at the end is no return. -/
theorem noReturn_concat_iff {l : List α} {c : α} (hc : c ∉ l) : NoReturn (l ++ [c]) ↔ NoReturn l := by
  refine ⟨fun h a b hab hsub => h a b hab (hsub.trans (List.sublist_append_left l [c])), fun h a b hab hsub => ?_⟩
  rw [← List.reverse_sublist, List.reverse_concat] at hsub
  cases hsub with
  | cons _ hsub => exact h a b hab (List.reverse_sublist.mp hsub)
  | cons_cons _ hsub => exact hc (List.mem_reverse.mp (hsub.subset (by simp)))

variable [DecidableEq α]

theorem dropEqualNeighbours_eq_destutter (l : List α) : dropEqualNeighbours l = l.destutter (· ≠ ·) := by
  fun_induction dropEqualNeighbours l with
  | case1 => rfl
  | case2 a => rfl
  | case3 a rest ih => rw [ih, List.destutter_cons_cons, if_neg (not_not_intro rfl), List.destutter_cons']
  | case4 a b rest hne ih => rw [ih, List.destutter_cons_cons, if_pos hne, List.destutter_cons']

theorem sublist_dropEqualNeighbours (l : List α) : (dropEqualNeighbours l).Sublist l := by
  rw [dropEqualNeighbours_eq_destutter]
  exact l.destutter_sublist (· ≠ ·)

theorem isChain_dropEqualNeighbours (l : List α) : (dropEqualNeighbours l).IsChain (· ≠ ·) := by
  rw [dropEqualNeighbours_eq_destutter]
  exact l.isChain_destutter (· ≠ ·)

/-- **What has no equal neighbours survives.** -/
theorem sublist_dropEqualNeighbours_of_isChain {l u : List α} (h : u.Sublist l) (hu : u.IsChain (· ≠ ·)) :
    u.Sublist (dropEqualNeighbours l) := by
  fun_induction dropEqualNeighbours l generalizing u with
  | case1 => exact h
  | case2 a => exact h
  | case3 a rest ih =>
    refine ih ?_ hu
    cases h with
    | cons _ h => exact h
    | cons_cons _ h =>
      cases h with
      | cons _ h => exact h.cons_cons a
      | cons_cons _ h => exact absurd rfl (List.isChain_cons_cons.mp hu).1
  | case4 a b rest hne ih =>
    cases h with
    | cons _ h => exact (ih h hu).cons a
    | cons_cons _ h => exact (ih h hu.tail).cons_cons a

theorem mem_dropEqualNeighbours_iff (l : List α) (a : α) : a ∈ dropEqualNeighbours l ↔ a ∈ l := by
  refine ⟨fun h => (sublist_dropEqualNeighbours l).subset h, fun h => ?_⟩
  have hsingle := sublist_dropEqualNeighbours_of_isChain (List.singleton_sublist.mpr h) (List.isChain_singleton a)
  exact List.singleton_sublist.mp hsingle

/-- **Of equal members one is kept iff none comes up again behind another one.** -/
theorem nodup_dropEqualNeighbours_iff (l : List α) : (dropEqualNeighbours l).Nodup ↔ NoReturn l := by
  constructor
  · intro h a b hab hsub
    have hkept := sublist_dropEqualNeighbours_of_isChain hsub (by simp [hab, hab.symm])
    have htwice := hkept.nodup h
    simp at htwice
  · intro h
    refine List.nodup_iff_sublist.mpr fun a ha => ?_
    obtain ⟨b, hab, hsub⟩ := exists_return_of_twice ha (isChain_dropEqualNeighbours l)
    exact h a b hab (hsub.trans (sublist_dropEqualNeighbours l))

/-- **What first comes up before `a` and also stands behind it returns behind it.** -/
theorem return_of_idxOf_lt {l : List α} (h : [a, b].Sublist l) (hlt : l.idxOf b < l.idxOf a) :
    [b, a, b].Sublist l := by
  induction l with
  | nil => cases h
  | cons c l ih =>
    by_cases hca : c = a
    · rw [hca, List.idxOf_cons_self] at hlt
      omega
    have hrest : [a, b].Sublist l := by
      cases h with
      | cons _ h => exact h
      | cons_cons _ h => exact absurd rfl hca
    by_cases hcb : c = b
    · rw [hcb]
      exact hrest.cons_cons b
    · rw [List.idxOf_cons_ne l hca, List.idxOf_cons_ne l hcb] at hlt
      exact (ih hrest (by omega)).cons c

end

/-! ## The systems of a survey -/

namespace Settings

/-- The systems that are given and count. -/
def keptSystems (s : Settings) : List ModuleSystem :=
  s.moduleSystems.filter fun m => s.tsPreCompilationDeps || m ≠ .tsType

/-- Each system is asked for once, those are asked for that ought to be, in the order in which they are first given,
and hence no system reports one name of a text twice. -/
structure EachOnce (s : Settings) : Prop where
  once : s.effectiveModuleSystems.Nodup
  members : ∀ m, m ∈ s.effectiveModuleSystems ↔
    m ∈ s.moduleSystems ∧ (m = .tsType → s.tsPreCompilationDeps = true) ∨
      m = .exoticRequire ∧ s.exoticRequireStrings ≠ []
  order : s.effectiveModuleSystems.Pairwise fun a b => s.moduleSystems.idxOf a < s.moduleSystems.idxOf b
  reports : ∀ d text p, Script.Program.read? d text = some p →
    (Script.extract (Survey.request s) d text).references =
        ((Survey.request s).sightings p.tree).map (·.reference) ∧
      (((Survey.request s).sightings p.tree).map (·.report)).Nodup

variable (s : Settings)

theorem mem_keptSystems_iff (m : ModuleSystem) :
    m ∈ s.keptSystems ↔ m ∈ s.moduleSystems ∧ (m = .tsType → s.tsPreCompilationDeps = true) := by
  rw [keptSystems, List.mem_filter, Bool.or_eq_true, decide_eq_true_eq, or_comm, ← imp_iff_not_or]

/-- The system of the configured functions joins at the end, or the systems are those that are kept. -/
theorem effectiveModuleSystems_cases :
    (s.exoticRequireStrings ≠ [] ∧ .exoticRequire ∉ s.keptSystems ∧
      s.effectiveModuleSystems = dropEqualNeighbours (s.keptSystems ++ [.exoticRequire])) ∨
    ((s.exoticRequireStrings ≠ [] → .exoticRequire ∈ s.keptSystems) ∧
      s.effectiveModuleSystems = dropEqualNeighbours s.keptSystems) := by
  have hdef : s.effectiveModuleSystems = dropEqualNeighbours
      (if !s.exoticRequireStrings.isEmpty && !s.keptSystems.contains .exoticRequire then
        s.keptSystems ++ [.exoticRequire] else s.keptSystems) := rfl
  rw [hdef]
  split
  · rename_i h
    refine .inl ⟨?_, ?_, rfl⟩
    · rintro hnone
      simp [hnone] at h
    · intro hmem
      simp [hmem] at h
  · rename_i h
    refine .inr ⟨fun hsome => ?_, rfl⟩
    by_contra hmem
    simp [hsome, hmem] at h

theorem mem_effectiveModuleSystems_iff (m : ModuleSystem) : m ∈ s.effectiveModuleSystems ↔
    m ∈ s.moduleSystems ∧ (m = .tsType → s.tsPreCompilationDeps = true) ∨
      m = .exoticRequire ∧ s.exoticRequireStrings ≠ [] := by
  rw [← mem_keptSystems_iff]
  rcases s.effectiveModuleSystems_cases with ⟨hsome, -, heq⟩ | ⟨hsome, heq⟩
  · rw [heq, mem_dropEqualNeighbours_iff, List.mem_append, List.mem_singleton]
    exact or_congr_right ⟨fun hm => ⟨hm, hsome⟩, And.left⟩
  · rw [heq, mem_dropEqualNeighbours_iff]
    refine ⟨.inl, fun hm => hm.elim id ?_⟩
    rintro ⟨rfl, hstrings⟩
    exact hsome hstrings

theorem nodup_effectiveModuleSystems_iff : s.effectiveModuleSystems.Nodup ↔ NoReturn s.keptSystems := by
  rcases s.effectiveModuleSystems_cases with ⟨-, hnew, heq⟩ | ⟨-, heq⟩
  · rw [heq, nodup_dropEqualNeighbours_iff, noReturn_concat_iff hnew]
  · rw [heq, nodup_dropEqualNeighbours_iff]

/-- Two systems that are asked for one after the other are given so, or the later one is not given. -/
theorem sublist_of_effectiveModuleSystems {a b : ModuleSystem} (h : [a, b].Sublist s.effectiveModuleSystems) :
    [a, b].Sublist s.keptSystems ∨ a ∈ s.keptSystems ∧ b = .exoticRequire ∧ b ∉ s.keptSystems := by
  rcases s.effectiveModuleSystems_cases with ⟨-, hnew, heq⟩ | ⟨-, heq⟩
  · rw [heq] at h
    have hsub := h.trans (sublist_dropEqualNeighbours _)
    rw [← List.reverse_sublist, List.reverse_concat] at hsub
    cases hsub with
    | cons _ hsub => exact .inl (List.reverse_sublist.mp hsub)
    | cons_cons _ hsub =>
      exact .inr ⟨List.mem_reverse.mp (List.singleton_sublist.mp hsub), rfl, hnew⟩
  · rw [heq] at h
    exact .inl (h.trans (sublist_dropEqualNeighbours _))

/-- **Without a return the systems are asked for in the order in which they are first given.** -/
theorem pairwise_idxOf_of_noReturn (h : NoReturn s.keptSystems) :
    s.effectiveModuleSystems.Pairwise fun a b => s.moduleSystems.idxOf a < s.moduleSystems.idxOf b := by
  have hnodup := s.nodup_effectiveModuleSystems_iff.mpr h
  refine List.pairwise_iff_forall_sublist.mpr fun {a b} hsub => ?_
  have hne : a ≠ b := by
    rintro rfl
    exact List.nodup_iff_sublist.mp hnodup a hsub
  rcases s.sublist_of_effectiveModuleSystems hsub with hkept | ⟨ha, rfl, hnew⟩
  · have hgiven : [a, b].Sublist s.moduleSystems := hkept.trans List.filter_sublist
    by_contra hle
    -- both are given, so the later one comes first and returns, and the two are kept as they are given
    have hinj : s.moduleSystems.idxOf a ≠ s.moduleSystems.idxOf b := fun heq =>
      hne ((List.idxOf_inj (hgiven.subset (by simp))).mp heq)
    have hreturn := (return_of_idxOf_lt hgiven (by omega)).filter fun m => s.tsPreCompilationDeps || m ≠ .tsType
    have hcounts : ∀ m ∈ [b, a, b], (s.tsPreCompilationDeps || m ≠ .tsType) = true := by
      intro m hm
      have hmem : m ∈ s.keptSystems := hkept.subset (by simp at hm ⊢; tauto)
      exact (List.mem_filter.mp hmem).2
    rw [List.filter_eq_self.mpr hcounts] at hreturn
    exact h b a hne.symm hreturn
  · -- the one that joins at the end is not given, as it counts
    have hmissing : .exoticRequire ∉ s.moduleSystems := fun hgiven =>
      hnew ((s.mem_keptSystems_iff _).mpr ⟨hgiven, nofun⟩)
    rw [List.idxOf_of_notMem hmissing]
    exact List.idxOf_lt_length_of_mem ((s.mem_keptSystems_iff a).mp ha).1

/-- **Each system is asked for once, and no name is reported twice, iff no system is given again behind another one**,
those that do not count left out. -/
theorem eachOnce_iff : s.EachOnce ↔ NoReturn s.keptSystems := by
  refine ⟨fun h => s.nodup_effectiveModuleSystems_iff.mp h.once, fun h => ?_⟩
  have honce := s.nodup_effectiveModuleSystems_iff.mpr h
  exact {
    once := honce
    members := s.mem_effectiveModuleSystems_iff
    order := s.pairwise_idxOf_of_noReturn h
    reports := fun d text p hread => by
      rw [Script.extract, hread]
      exact ⟨Script.references_eq_map _ _, Script.Program.nodup_sightings hread honce⟩ }

/-- **A system that is given twice, with another one between, is asked for twice**, and reports an import twice. -/
theorem not_eachOnce_of_return :
    let s : Settings := { moduleSystems := [.es6, .cjs, .es6] }
    s.effectiveModuleSystems = [.es6, .cjs, .es6] ∧
      (Script.extract (Survey.request s) { language := .plain } "import \"x\";").references =
        [.plain "x" .es6, .plain "x" .es6] ∧
      ¬ s.EachOnce := by
  refine ⟨by decide, by decide, fun h => ?_⟩
  have honce := h.once
  revert honce
  decide

end Settings

end ImportSurvey
