import Mathlib.Data.List.Nodup
import ImportSurvey.Rules.Basic

/-
  What is known of a rule set because it was accepted.

  What is reachable is noted under the name of the rule that asks, so an accepted set has no two rules of
  one name that ask.  Rules that do not ask may share their names with each other and with those that do.
-/
namespace ImportSurvey

/-! ## Steps that were taken -/

section

variable {α β : Type}

/-- Steps that succeeded together succeeded each. -/
theorem exists_of_bind_eq_ok {x : Except Failure α} {k : α → Except Failure β} {b : β}
    (h : x >>= k = .ok b) : ∃ a, x = .ok a ∧ k a = .ok b := by
  cases x with
  | error f => cases h
  | ok a => exact ⟨a, rfl, h⟩

theorem eq_ok_of_toOption {ε : Type} {x : Except ε α} {a : α} (h : x.toOption = some a) : x = .ok a := by
  cases x with
  | error e => cases h
  | ok b => exact congrArg Except.ok (Option.some.inj h)

/-- A check that was passed. -/
theorem of_check_eq_ok {c : Prop} [Decidable c] {f : Failure} {k : Unit → Except Failure β} {b : β}
    (h : (if c then throw f >>= k else k ()) = .ok b) : k () = .ok b := by
  split at h
  · cases h
  · exact h

/-- What a list of results was made of. -/
theorem exists_of_mem_mapM {f : α → Except Failure β} {l : List α} {l' : List β} (h : l.mapM f = .ok l')
    {b : β} (hb : b ∈ l') : ∃ a ∈ l, f a = .ok b := by
  induction l generalizing l' with
  | nil =>
    rw [List.mapM_nil] at h
    obtain rfl := Except.ok.inj h
    exact absurd hb List.not_mem_nil
  | cons a l ih =>
    rw [List.mapM_cons] at h
    obtain ⟨c, ha, h⟩ := exists_of_bind_eq_ok h
    obtain ⟨cs, hl, h⟩ := exists_of_bind_eq_ok h
    obtain rfl := Except.ok.inj h
    rcases List.mem_cons.mp hb with rfl | hb
    · exact ⟨a, List.mem_cons_self .., ha⟩
    · obtain ⟨a', ha', hf⟩ := ih hl hb
      exact ⟨a', List.mem_cons_of_mem a ha', hf⟩

/-- Checks that were passed together were passed each. -/
theorem forall_of_forM_eq_ok {f : α → Except Failure Unit} {l : List α} (h : l.forM f = .ok ()) :
    ∀ a ∈ l, f a = .ok () := by
  induction l with
  | nil => exact fun a ha => absurd ha List.not_mem_nil
  | cons a l ih =>
    obtain ⟨u, ha, hl⟩ := exists_of_bind_eq_ok (show f a >>= (fun _ => l.forM f) = .ok () from h)
    intro b hb
    rcases List.mem_cons.mp hb with rfl | hb
    · exact ha
    · exact ih hl b hb

/-- Steps that succeed each succeed together. -/
theorem exists_mapM_of_forall {f : α → Except Failure β} {l : List α} (h : ∀ a ∈ l, ∃ b, f a = .ok b) :
    ∃ bs, l.mapM f = .ok bs := by
  induction l with
  | nil => exact ⟨[], rfl⟩
  | cons a l ih =>
    obtain ⟨b, hb⟩ := h a List.mem_cons_self
    obtain ⟨bs, hbs⟩ := ih fun a' ha' => h a' (List.mem_cons_of_mem a ha')
    refine ⟨b :: bs, ?_⟩
    rw [List.mapM_cons, hb, hbs]
    rfl

end

/-! ## Rule sets -/

namespace RuleSet

/-- The scan for a name that occurs twice finds none iff the names differ from each other and from those
seen before. -/
theorem repeated?_eq_none_iff (names seen : List String) :
    repeated? seen names = none ↔ names.Nodup ∧ ∀ n ∈ names, n ∉ seen := by
  induction names generalizing seen with
  | nil => simp [repeated?]
  | cons n names ih =>
    rw [repeated?]
    by_cases hn : n ∈ seen
    · rw [if_pos (by simpa using hn)]
      exact ⟨fun h => (by cases h), fun h => absurd hn (h.2 n (List.mem_cons_self ..))⟩
    · rw [if_neg (by simpa using hn), ih, List.nodup_cons]
      constructor
      · rintro ⟨hnd, hnot⟩
        refine ⟨⟨fun hmem => hnot n hmem (List.mem_cons_self ..), hnd⟩, fun k hk => ?_⟩
        rcases List.mem_cons.mp hk with rfl | hk
        · exact hn
        · exact fun hs => hnot k hk (List.mem_cons_of_mem n hs)
      · rintro ⟨⟨hnot, hnd⟩, hseen⟩
        refine ⟨hnd, fun k hk hmem => ?_⟩
        rcases List.mem_cons.mp hmem with rfl | hmem
        · exact hnot hk
        · exact hseen k (List.mem_cons_of_mem n hk) hmem

/-- What an accepted rule set is made of. -/
theorem ofSpec?_eq_ok {spec : RuleSetSpec} {s : RuleSet} (h : ofSpec? spec = .ok s) :
    spec.forbidden.mapM Rule.ofSpec? = .ok s.forbidden ∧ spec.allowed.mapM Rule.ofSpec? = .ok s.allowed ∧
      s.allowedSeverity = spec.allowedSeverity ∧ repeated? [] (s.reachabilityRules.map (·.name)) = none := by
  obtain ⟨forbidden, hf, h⟩ := exists_of_bind_eq_ok h
  obtain ⟨allowed, ha, h⟩ := exists_of_bind_eq_ok h
  dsimp only at h
  split at h
  · cases h
  · rename_i hnone
    obtain rfl := Except.ok.inj h
    exact ⟨hf, ha, rfl, hnone⟩

/-- **In an accepted rule set, rules that ask what is reachable have different names.** -/
theorem nodup_names_of_ofSpec? {spec : RuleSetSpec} {s : RuleSet} (h : ofSpec? spec = .ok s) :
    (s.reachabilityRules.map (·.name)).Nodup :=
  ((repeated?_eq_none_iff _ _).mp (ofSpec?_eq_ok h).2.2.2).1

theorem mem_reachabilityRules {s : RuleSet} {r : Rule} (hr : r ∈ s.forbidden ∨ r ∈ s.allowed)
    {wanted : Bool} (hw : r.to.reachable = some wanted) : r ∈ s.reachabilityRules := by
  refine List.mem_filter.mpr ⟨List.mem_append.mpr hr, ?_⟩
  rw [Rule.isReachability, hw]
  rfl

end RuleSet

end ImportSurvey
