import ImportSurvey.Report.Basic
import ImportSurvey.Rules.Validate

/-
  What the summary of a survey says about the violations.

  A summary is made by a walk over the modules, their edges and the rules that these break, and each broken rule
  that the walk meets is recorded: it counts under its severity, and unless it is ignored it is listed.  The exit
  status, the line that closes a report and the lines of values all go by what was recorded.

  1. **What there is to record** is one list of entries (`Module.entries`), in the order of the walk: the modules
     in their order, what a module breaks itself before what its edges break, the edges in their order, and the
     rules in the order of the verdict.

  2. **What recording does** is told by `Summary.Grew`: the counts grow by the entries of each severity, and the
     list by those that are not ignored.  It holds for one entry (`grew_record`) and it adds up (`Grew.trans`), so
     it holds for any walk whose steps have it (`grew_foldl`); a summary is three such walks, one in the other.

  3. **What a verdict leaves behind**: a module or an edge that was judged is invalid iff its verdict names a rule,
     so iff there is an entry for it.
-/
namespace ImportSurvey

/-! ## What there is to record -/

/-- The rules that an edge breaks, each with both ends of the edge. -/
def Dependency.entries (d : Dependency) : List Violation := d.rules.map fun r => ⟨d.from, d.resolved, r⟩

namespace Module

/-- The rules that a module breaks itself; both ends are the module. -/
def ownEntries (m : Module) : List Violation := m.rules.map fun r => ⟨m.source, m.source, r⟩

/-- All rules that a module and its edges break. -/
def entries (m : Module) : List Violation := m.ownEntries ++ m.dependencies.flatMap Dependency.entries

end Module

namespace Violation

/-- How many of some entries are of one severity. -/
def countOf (severity : Severity) (entries : List Violation) : Nat :=
  entries.countP fun e => e.rule.severity = severity

/-- The entries that are not ignored. -/
def listed (entries : List Violation) : List Violation :=
  entries.filter fun e => e.rule.severity ≠ .ignore

theorem countOf_append (severity : Severity) (before after : List Violation) :
    countOf severity (before ++ after) = countOf severity before + countOf severity after :=
  List.countP_append

theorem listed_append (before after : List Violation) :
    listed (before ++ after) = listed before ++ listed after := List.filter_append ..

theorem countOf_cons (severity : Severity) (e : Violation) (entries : List Violation) :
    countOf severity (e :: entries) = countOf severity entries + if e.rule.severity = severity then 1 else 0 := by
  rw [countOf, List.countP_cons, countOf]
  simp

theorem length_listed_cons (e : Violation) (entries : List Violation) :
    (listed (e :: entries)).length =
      (listed entries).length + if e.rule.severity = .ignore then 0 else 1 := by
  rw [listed, List.filter_cons]
  by_cases h : e.rule.severity = .ignore
  · simp [h, listed]
  · simp [h, listed]

/-- What is listed is what counts under the three severities that are not ignored. -/
theorem length_listed (entries : List Violation) :
    countOf .error entries + countOf .warn entries + countOf .info entries = (listed entries).length := by
  induction entries with
  | nil => rfl
  | cons e entries ih =>
    rw [countOf_cons, countOf_cons, countOf_cons, length_listed_cons]
    cases hseverity : e.rule.severity with
    | error => simp; omega
    | warn => simp; omega
    | info => simp; omega
    | ignore => simpa using ih

/-- Every entry is of one severity. -/
theorem sum_countOf (entries : List Violation) :
    countOf .error entries + countOf .warn entries + countOf .info entries + countOf .ignore entries =
      entries.length := by
  induction entries with
  | nil => rfl
  | cons e entries ih =>
    rw [countOf_cons, countOf_cons, countOf_cons, countOf_cons, List.length_cons]
    cases hseverity : e.rule.severity with
    | error => simp; omega
    | warn => simp; omega
    | info => simp; omega
    | ignore => simp; omega

theorem countOf_pos_iff (severity : Severity) (entries : List Violation) :
    0 < countOf severity entries ↔ ∃ e ∈ entries, e.rule.severity = severity := by
  rw [countOf, List.countP_pos_iff]
  constructor
  · rintro ⟨e, he, h⟩
    exact ⟨e, he, of_decide_eq_true h⟩
  · rintro ⟨e, he, h⟩
    exact ⟨e, he, decide_eq_true h⟩

end Violation

/-! ## What recording does -/

namespace Summary

open Violation

/-- `after` is `before` with these entries recorded. -/
structure Grew (before : Summary) (entries : List Violation) (after : Summary) : Prop where
  error : after.error = before.error + countOf .error entries
  warn : after.warn = before.warn + countOf .warn entries
  info : after.info = before.info + countOf .info entries
  ignore : after.ignore = before.ignore + countOf .ignore entries
  violations : after.violations = before.violations ++ listed entries

theorem Grew.refl (s : Summary) : Grew s [] s where
  error := rfl
  warn := rfl
  info := rfl
  ignore := rfl
  violations := (List.append_nil _).symm

theorem Grew.trans {s t u : Summary} {entries entries' : List Violation} (h : Grew s entries t)
    (h' : Grew t entries' u) : Grew s (entries ++ entries') u where
  error := by rw [h'.error, h.error, countOf_append, Nat.add_assoc]
  warn := by rw [h'.warn, h.warn, countOf_append, Nat.add_assoc]
  info := by rw [h'.info, h.info, countOf_append, Nat.add_assoc]
  ignore := by rw [h'.ignore, h.ignore, countOf_append, Nat.add_assoc]
  violations := by rw [h'.violations, h.violations, listed_append, List.append_assoc]

/-- **One entry.**  The early end of the step for what is ignored is the only place where the counts and the list
part. -/
theorem grew_record (s : Summary) («from» «to» : String) (r : RuleViolation) :
    Grew s [⟨«from», «to», r⟩] (s.record «from» «to» r) := by
  have hcount (severity : Severity) : countOf severity [⟨«from», «to», r⟩] =
      if r.severity = severity then 1 else 0 := by
    rw [countOf_cons]
    simp [countOf]
  rw [record]
  cases hseverity : r.severity with
  | error => constructor <;> simp [hcount, hseverity, listed]
  | warn => constructor <;> simp [hcount, hseverity, listed]
  | info => constructor <;> simp [hcount, hseverity, listed]
  | ignore => constructor <;> simp [hcount, hseverity, listed]

/-- **A walk records what its steps record**, by induction on how far it has to go. -/
theorem grew_foldl {α : Type} {step : Summary → α → Summary} {brings : α → List Violation}
    (hstep : ∀ s x, Grew s (brings x) (step s x)) (l : List α) (s : Summary) :
    Grew s (l.flatMap brings) (l.foldl step s) := by
  induction l generalizing s with
  | nil => exact .refl s
  | cons x l ih =>
    rw [List.flatMap_cons, List.foldl_cons]
    exact (hstep s x).trans (ih (step s x))

theorem grew_recordDependency (s : Summary) (d : Dependency) : Grew s d.entries (s.recordDependency d) := by
  have hrules := grew_foldl (fun s r => grew_record s d.from d.resolved r) d.rules s
  rw [Dependency.entries, ← List.flatMap_singleton' (d.rules.map _), List.flatMap_map]
  exact hrules

theorem grew_recordModule (s : Summary) (m : Module) : Grew s m.entries (s.recordModule m) := by
  have hown := grew_foldl (fun s r => grew_record s m.source m.source r) m.rules s
  have hedges := grew_foldl grew_recordDependency m.dependencies
    (m.rules.foldl (fun s r => s.record m.source m.source r) s)
  rw [Module.entries, Module.ownEntries, ← List.flatMap_singleton' (m.rules.map _), List.flatMap_map]
  exact hown.trans hedges

/-- The summary counts every entry once, under its severity, and lists those that are not ignored. -/
structure AccountsFor (s : Summary) (entries : List Violation) : Prop where
  error : s.error = countOf .error entries
  warn : s.warn = countOf .warn entries
  info : s.info = countOf .info entries
  ignore : s.ignore = countOf .ignore entries
  violations : s.violations = listed entries
  /-- the three counts that a report shows add up to what it lists -/
  shown : s.error + s.warn + s.info = s.violations.length
  /-- and with the ignored ones to all that there is -/
  counted : s.error + s.warn + s.info + s.ignore = entries.length
  hasErrors : s.hasErrors = true ↔ ∃ e ∈ entries, e.rule.severity = .error

theorem Grew.accountsFor {before s : Summary} {entries : List Violation} (h : Grew before entries s)
    (hcounts : before.error = 0 ∧ before.warn = 0 ∧ before.info = 0 ∧ before.ignore = 0)
    (hlist : before.violations = []) : s.AccountsFor entries := by
  obtain ⟨herror, hwarn, hinfo, hignore⟩ := hcounts
  have error : s.error = countOf .error entries := by rw [h.error, herror, Nat.zero_add]
  have warn : s.warn = countOf .warn entries := by rw [h.warn, hwarn, Nat.zero_add]
  have info : s.info = countOf .info entries := by rw [h.info, hinfo, Nat.zero_add]
  have ignore : s.ignore = countOf .ignore entries := by rw [h.ignore, hignore, Nat.zero_add]
  have violations : s.violations = listed entries := by rw [h.violations, hlist, List.nil_append]
  refine ⟨error, warn, info, ignore, violations, ?_, ?_, ?_⟩
  · rw [error, warn, info, violations]
    exact length_listed entries
  · rw [error, warn, info, ignore]
    exact sum_countOf entries
  · show decide (s.error > 0) = true ↔ _
    rw [decide_eq_true_eq, error]
    exact countOf_pos_iff .error entries

/-- A summary is made by one walk from nothing. -/
theorem accounts_ofModules (modules : List Module) (options : SurveyOptions) :
    (ofModules modules options).AccountsFor (modules.flatMap Module.entries) :=
  (grew_foldl grew_recordModule modules _).accountsFor ⟨rfl, rfl, rfl, rfl⟩ rfl

end Summary

/-! ## What a verdict leaves behind -/

/-- A module or an edge is invalid iff there is an entry for it. -/
structure ToldByEntries (modules : List Module) : Prop where
  module : ∀ m ∈ modules, m.valid = false ↔ m.ownEntries ≠ []
  edge : ∀ m ∈ modules, ∀ d ∈ m.dependencies, d.valid = false ↔ d.entries ≠ []

/-- A verdict that names no rule is the verdict on what is valid. -/
structure Verdict.Sound (v : Verdict) : Prop where
  valid : v.valid = false ↔ v.rules ≠ []

theorem Verdict.sound_clean : clean.Sound := ⟨by decide⟩

theorem Verdict.sound_ofViolations (found : List RuleViolation) : (ofViolations found).Sound := by
  constructor
  show found.isEmpty = false ↔ found.mergeSort _ ≠ []
  have hlength : (found.mergeSort fun a b => a.severity.rank ≤ b.severity.rank).length = found.length :=
    List.length_mergeSort found
  rw [Bool.eq_false_iff, ne_eq, List.isEmpty_iff, ← List.length_eq_zero_iff, ← hlength, List.length_eq_zero_iff]

namespace RuleSet

theorem sound_judgeModule (s : RuleSet) (validate : Bool) (m : Module) : (s.judgeModule validate m).Sound := by
  rw [judgeModule]
  split
  · exact Verdict.sound_ofViolations _
  · exact Verdict.sound_clean

theorem sound_judgeDependency (s : RuleSet) (validate : Bool) (m : Module) (d : Dependency) :
    (s.judgeDependency validate m d).Sound := by
  rw [judgeDependency]
  split
  · exact Verdict.sound_ofViolations _
  · exact Verdict.sound_clean

end RuleSet

theorem toldByEntries_validate (g : Graph) (rules : RuleSet) (validate : Bool) :
    ToldByEntries (g.validate rules validate).modules where
  module := by
    intro m' hm'
    obtain ⟨m, -, rfl⟩ := List.mem_map.mp hm'
    have hverdict := (rules.sound_judgeModule validate m).valid
    rw [Module.ownEntries, ne_eq, List.map_eq_nil_iff]
    exact hverdict
  edge := by
    intro m' hm' d' hd'
    obtain ⟨m, -, rfl⟩ := List.mem_map.mp hm'
    obtain ⟨d, -, rfl⟩ := List.mem_map.mp hd'
    have hverdict := (rules.sound_judgeDependency validate m d).valid
    rw [Dependency.entries, ne_eq, List.map_eq_nil_iff]
    exact hverdict

/-- **A summary accounts for every violation once**, and where the modules were judged, those that bring one are
those that are invalid. -/
theorem Summary.accountsFor_ofModules (modules : List Module) (options : SurveyOptions) :
    (ofModules modules options).AccountsFor (modules.flatMap Module.entries) ∧
      ∀ (g : Graph) (rules : RuleSet) (validate : Bool), ToldByEntries (g.validate rules validate).modules :=
  ⟨accounts_ofModules modules options, toldByEntries_validate⟩

end ImportSurvey
