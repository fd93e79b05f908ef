import ImportSurvey.Proofs.Accepted
import ImportSurvey.Proofs.Accounting
import ImportSurvey.Proofs.Grave
import ImportSurvey.Proofs.Writing

/-
  What the exit status of a survey tells, and the one run in which it does not.

  Status zero should mean that the report is in its place and that the summary counts no error, status one
  that it is in its place and that something carries an error, or that the run failed, and every failure
  should show (`Command.TellsOutcome`).

  1. **What came to its end** (`Command.Completed`): settings and rules were loaded, the survey was made, and
     the report can be read back from the file it was written to, or was put out at the terminal.  Whether
     something carries an error is then read off the summary, which counts one iff a module or an edge has a
     violation of that severity (`Summary.hasErrors_ofModules`).

  2. **What failed** did so gravely, as was shown step by step for all that a run does, except that the check
     of the directory of the report may find that its owner has no permission to write there.  This failure is
     of the mild kind, made for files that a survey can do without, although a report cannot do without its
     directory.  The check comes after all others (`Settings.check_eq`), so the case is one of settings that
     are otherwise in order (`WriteProtected`).

  The two parts meet in `Command.tellsOutcome_run_iff`: the exit status tells the outcome iff this is not the
  case.
-/
namespace ImportSurvey

/-! ## Errors and their number -/

/-- Some module or some edge breaks a rule of error severity. -/
def CarriesError (modules : List Module) : Prop :=
  ∃ m ∈ modules, (∃ v ∈ m.rules, v.severity = .error) ∨
    ∃ d ∈ m.dependencies, ∃ v ∈ d.rules, v.severity = .error

/-- What carries an error is an entry of that severity. -/
theorem carriesError_iff (modules : List Module) :
    CarriesError modules ↔ ∃ e ∈ modules.flatMap Module.entries, e.rule.severity = .error := by
  constructor
  · rintro ⟨m, hm, ⟨v, hv, herror⟩ | ⟨d, hd, v, hv, herror⟩⟩
    · have hentry : ⟨m.source, m.source, v⟩ ∈ m.ownEntries := List.mem_map_of_mem hv
      exact ⟨_, List.mem_flatMap.mpr ⟨m, hm, List.mem_append_left _ hentry⟩, herror⟩
    · have hentry : ⟨d.from, d.resolved, v⟩ ∈ d.entries := List.mem_map_of_mem hv
      have hedges := List.mem_flatMap.mpr ⟨d, hd, hentry⟩
      exact ⟨_, List.mem_flatMap.mpr ⟨m, hm, List.mem_append_right _ hedges⟩, herror⟩
  · rintro ⟨e, he, herror⟩
    obtain ⟨m, hm, he⟩ := List.mem_flatMap.mp he
    refine ⟨m, hm, ?_⟩
    rcases List.mem_append.mp he with hown | hedges
    · obtain ⟨v, hv, rfl⟩ := List.mem_map.mp hown
      exact .inl ⟨v, hv, herror⟩
    · obtain ⟨d, hd, he⟩ := List.mem_flatMap.mp hedges
      obtain ⟨v, hv, rfl⟩ := List.mem_map.mp he
      exact .inr ⟨d, hd, v, hv, herror⟩

namespace Summary

/-- **The summary of some modules counts an error iff one of them carries one.** -/
theorem hasErrors_ofModules (modules : List Module) (options : SurveyOptions) :
    (ofModules modules options).hasErrors = true ↔ CarriesError modules := by
  rw [(accounts_ofModules modules options).hasErrors, carriesError_iff]

end Summary

theorem Survey.hasErrors_run {d : Disk} {s : Settings} {rules : RuleSet} {time : Timestamp}
    {outcome : Outcome} (h : run d s rules time = .ok outcome) :
    outcome.result.summary.hasErrors = true ↔ CarriesError outcome.result.modules := by
  obtain ⟨p, hp⟩ := plan_of_run h
  rw [run_eq hp] at h
  obtain rfl := Except.ok.inj h
  exact Summary.hasErrors_ofModules _ _

/-! ## The check of the directory of the report -/

/-- The directory of a file to write has no write permission for its owner. -/
def Disk.ProtectsPlaceOf (d : Disk) (file : Path) : Prop :=
  ∃ dir mode, file.parent = some dir ∧ dir.text.isEmpty = false ∧ d.mode? dir = some mode ∧ mode &&& 0o200 = 0

theorem Disk.pathExists_of_mode? {d : Disk} {p : Path} {mode : Nat} (h : d.mode? p = some mode) :
    d.pathExists p = true := by
  rw [mode?] at h
  rw [pathExists]
  cases hf : d.find p true with
  | error f =>
    rw [hf] at h
    cases h
  | ok r => rfl

namespace Settings

theorem checkOutput_of_protects {d : Disk} {file : Path} (h : d.ProtectsPlaceOf file) :
    ∃ dir, checkOutput d file = .error (.permissionDenied dir) := by
  obtain ⟨dir, mode, hparent, hempty, hmode, hbits⟩ := h
  have hexists := Disk.pathExists_of_mode? hmode
  refine ⟨dir, ?_⟩
  rw [checkOutput, hparent]
  simp [hempty, hexists, hmode, hbits]
  rfl

/-- That it has no write permission is all that this check says mildly. -/
theorem protects_of_checkOutput {d : Disk} {file : Path} {f : Failure} (h : checkOutput d file = .error f)
    (hf : f.exitCode = 0) : d.ProtectsPlaceOf file := by
  rw [checkOutput] at h
  split at h
  · rename_i dir hparent
    split at h
    · cases h
    · rename_i hempty
      dsimp only at h
      split at h
      · obtain rfl := Except.error.inj h
        cases hf
      · split at h
        · rename_i hany
          obtain ⟨mode, hmode, hbits⟩ := (Option.any_eq_true _ _).mp hany
          exact ⟨dir, mode, hparent, Bool.eq_false_iff.mpr hempty, hmode, of_decide_eq_true hbits⟩
        · cases h
  · cases h

/-- A check before two other steps. -/
theorem bind_check {α : Type} {c : Prop} [Decidable c] {f : Failure} {k k' : Unit → Except Failure α}
    {last : α → Except Failure α} (h : k () = k' () >>= last) :
    (if c then throw f >>= k else k ()) = (if c then throw f >>= k' else k' ()) >>= last := by
  split
  · rfl
  · exact h

theorem bind_step {α β : Type} {x : Except Failure α} {k k' : α → Except Failure β}
    {last : β → Except Failure β} (h : ∀ a, k a = k' a >>= last) : x >>= k = x >>= k' >>= last := by
  cases x with
  | error f => rfl
  | ok a => exact h a

/-- The directory of the report is checked after all else. -/
theorem check_eq (d : Disk) (s : Settings) :
    s.check d = { s with outputFile := none }.check d >>= fun _ => s.outputFile.forM (checkOutput d) := by
  rw [check, check]
  refine bind_check ?_
  refine bind_step fun _ => bind_step fun _ => bind_step fun _ => ?_
  refine bind_check (bind_check ?_)
  exact bind_step fun _ => rfl

end Settings

/-- Everything is as it should be to survey and to write the report, but the directory of the report has no
write permission for its owner. -/
def WriteProtected (w : Surroundings) (a : Arguments) : Prop :=
  ∃ s file, Settings.layered w Settings.variableStart a = .ok s ∧
    { s with outputFile := none }.check w.disk = .ok () ∧ s.outputFile = some file ∧
      w.disk.ProtectsPlaceOf file

namespace Settings

variable {w : Surroundings} {a : Arguments}

theorem load_of_writeProtected (h : WriteProtected w a) :
    ∃ dir, load w variableStart a = .error (.permissionDenied dir) := by
  obtain ⟨s, file, hlayered, hcheck, hout, hprotects⟩ := h
  obtain ⟨dir, hdir⟩ := checkOutput_of_protects hprotects
  refine ⟨dir, ?_⟩
  have hall : s.check w.disk = .error (.permissionDenied dir) := by
    rw [check_eq, hcheck, hout]
    exact hdir
  rw [load, hlayered]
  show (s.check w.disk >>= fun _ => _) = _
  rw [hall]
  rfl

/-- **Loading settings fails mildly only for a directory without write permission.** -/
theorem writeProtected_of_load {f : Failure} (h : load w variableStart a = .error f) (hf : f.exitCode = 0) :
    WriteProtected w a := by
  rw [load] at h
  cases hlayered : layered w variableStart a with
  | error g =>
    rw [hlayered] at h
    obtain rfl := Except.error.inj h
    exact absurd hf (grave_layered w variableStart a _ hlayered)
  | ok s =>
    rw [hlayered] at h
    replace h : (s.check w.disk >>= fun _ => .ok s) = .error f := h
    rw [check_eq] at h
    cases hcheck : { s with outputFile := none }.check w.disk with
    | error g =>
      rw [hcheck] at h
      obtain rfl := Except.error.inj h
      exact absurd hf (grave_check w.disk _ rfl _ hcheck)
    | ok u =>
      rw [hcheck] at h
      cases hout : s.outputFile with
      | none =>
        rw [hout] at h
        cases h
      | some file =>
        rw [hout] at h
        replace h : (checkOutput w.disk file >>= fun _ => .ok s) = .error f := h
        cases hfile : checkOutput w.disk file with
        | error g =>
          rw [hfile] at h
          obtain rfl := Except.error.inj h
          exact ⟨s, file, hlayered, hcheck, hout, protects_of_checkOutput hfile hf⟩
        | ok v =>
          rw [hfile] at h
          cases h

end Settings

/-! ## Runs -/

namespace Command

/-- The report on a survey. -/
def reportOf (clock : Clock) (s : Settings) (outcome : Survey.Outcome) : String :=
  Report.render s.outputFormat s.useColors s.verbose s.quiet { outcome.result with duration := clock.elapsed }

/-- The report stands where it was to go: at the terminal, or in a file. -/
def InPlace (s : Settings) (report : String) (e : Effect) : Prop :=
  match s.outputFile with
  | none => e.output = report
  | some file => e.disk.readText file = .ok report

/-- Settings and rules were loaded, and the survey was made. -/
structure Surveyed (w : Surroundings) (clock : Clock) (a : Arguments) (s : Settings) (rules : RuleSet)
    (outcome : Survey.Outcome) : Prop where
  settingsLoaded : Settings.load w Settings.variableStart a = .ok s
  rulesLoaded : RuleSet.load w.disk s.rulesFile = .ok rules
  surveyMade : Survey.run w.disk s rules clock.now = .ok outcome

/-- The run came to its end: a survey was made, and nothing kept the report on it from its place. -/
structure Completed (w : Surroundings) (clock : Clock) (a : Arguments) (o : Obstacles) (s : Settings)
    (rules : RuleSet) (outcome : Survey.Outcome) (e : Effect) : Prop
    extends Surveyed w clock a s rules outcome where
  written : (deliver w.disk s (reportOf clock s outcome) o).isOk = true
  inPlace : InPlace s (reportOf clock s outcome) e

/-- The exit status of a run that left `e` behind tells how it went. -/
structure TellsOutcome (w : Surroundings) (clock : Clock) (a : Arguments) (o : Obstacles) (e : Effect) :
    Prop where
  /-- status zero means that the run came to its end and counted no error -/
  zero : e.exitCode = 0 → ∃ s rules outcome, Completed w clock a o s rules outcome e ∧
    outcome.result.summary.error = 0
  /-- a run that did not come to its end has another status -/
  failed : (¬ ∃ s rules outcome, Completed w clock a o s rules outcome e) → e.exitCode ≠ 0
  /-- a run that came to its end has status one if something carries an error, and zero otherwise -/
  judged : ∀ s rules outcome, Completed w clock a o s rules outcome e →
    (e.exitCode = 1 ↔ CarriesError outcome.result.modules) ∧
      (e.exitCode = 0 ↔ ¬ CarriesError outcome.result.modules)

theorem inPlace_of_deliver {d : Disk} {s : Settings} {report : String} {o : Obstacles} {e : Effect}
    (h : deliver d s report o = .ok e) : InPlace s report e := by
  cases hout : s.outputFile with
  | none =>
    rw [deliver, hout] at h
    rw [InPlace, hout]
    cases hfault : o.atTerminal with
    | some f =>
      rw [hfault] at h
      cases h
    | none =>
      rw [hfault] at h
      obtain rfl := Except.ok.inj h
      rfl
  | some file =>
    rw [deliver, hout] at h
    rw [InPlace, hout]
    cases hfault : o.atFile with
    | some f =>
      rw [hfault] at h
      cases h
    | none =>
      rw [hfault] at h
      cases hwrite : d.writeText file report with
      | error f =>
        simp only [hwrite] at h
        cases h
      | ok d' =>
        simp only [hwrite] at h
        obtain rfl := Except.ok.inj h
        exact Disk.readText_writeText hwrite

section

variable {w : Surroundings} {clock : Clock} {a : Arguments} {o : Obstacles}

theorem Surveyed.unique {s s' : Settings} {rules rules' : RuleSet} {outcome outcome' : Survey.Outcome}
    (h : Surveyed w clock a s rules outcome) (h' : Surveyed w clock a s' rules' outcome') :
    s = s' ∧ outcome = outcome' := by
  obtain rfl := Except.ok.inj (h.settingsLoaded.symm.trans h'.settingsLoaded)
  obtain rfl := Except.ok.inj (h.rulesLoaded.symm.trans h'.rulesLoaded)
  exact ⟨rfl, Except.ok.inj (h.surveyMade.symm.trans h'.surveyMade)⟩

theorem Surveyed.findings_eq {s : Settings} {rules : RuleSet} {outcome : Survey.Outcome}
    (h : Surveyed w clock a s rules outcome) :
    findings w Settings.variableStart clock.now a = .ok (s, outcome.result) := by
  rw [findings, h.settingsLoaded]
  show (RuleSet.load w.disk s.rulesFile >>= fun _ => _) = _
  rw [h.rulesLoaded]
  show (Survey.run w.disk s rules clock.now >>= fun _ => _) = _
  rw [h.surveyMade]
  rfl

theorem surveyed_of_findings {s : Settings} {result : SurveyResult}
    (h : findings w Settings.variableStart clock.now a = .ok (s, result)) :
    ∃ rules outcome, Surveyed w clock a s rules outcome := by
  obtain ⟨s', hs, h⟩ := exists_of_bind_eq_ok h
  obtain ⟨rules, hrules, h⟩ := exists_of_bind_eq_ok h
  obtain ⟨outcome, hsurvey, h⟩ := exists_of_bind_eq_ok h
  obtain ⟨rfl, -⟩ := Prod.mk.inj (Except.ok.inj h)
  exact ⟨rules, outcome, hs, hrules, hsurvey⟩

/-- What comes before the report fails gravely, save for a directory without write permission. -/
theorem writeProtected_of_findings {f : Failure}
    (h : findings w Settings.variableStart clock.now a = .error f) (hf : f.exitCode = 0) :
    WriteProtected w a := by
  rw [findings] at h
  cases hs : Settings.load w Settings.variableStart a with
  | error g =>
    rw [hs] at h
    obtain rfl := Except.error.inj h
    exact Settings.writeProtected_of_load hs hf
  | ok s =>
    have hgrave : Grave (do
        let rules ← RuleSet.load w.disk s.rulesFile
        let outcome ← Survey.run w.disk s rules clock.now
        return (s, outcome.result)) :=
      (RuleSet.grave_load _ _).bind fun _ => (Survey.grave_run _ _ _ _).bind fun _ => .ok _
    rw [hs] at h
    exact absurd hf (hgrave f h)

/-- With a survey made, what is left is the report. -/
theorem Surveyed.execute_eq {s : Settings} {rules : RuleSet} {outcome : Survey.Outcome}
    (h : Surveyed w clock a s rules outcome) :
    execute w clock (.survey a) o = (deliver w.disk s (reportOf clock s outcome) o).map fun e =>
      { e with exitCode := if outcome.result.summary.hasErrors then 1 else 0 } := by
  rw [execute, runSurvey, h.findings_eq]
  show conclude w.disk s { outcome.result with duration := clock.elapsed } o = _
  rw [conclude, reportOf]
  cases deliver w.disk s _ o with
  | error f => rfl
  | ok e => rfl

/-- A run that was surveyed and whose report could be written came to its end, with the status that the
summary calls for. -/
theorem Surveyed.completed {s : Settings} {rules : RuleSet} {outcome : Survey.Outcome}
    (h : Surveyed w clock a s rules outcome) {e : Effect}
    (he : deliver w.disk s (reportOf clock s outcome) o = .ok e) :
    Completed w clock a o s rules outcome (run w clock (.survey a) o) ∧
      (run w clock (.survey a) o).exitCode = if outcome.result.summary.hasErrors then 1 else 0 := by
  have hrun : run w clock (.survey a) o =
      { e with exitCode := if outcome.result.summary.hasErrors then 1 else 0 } := by
    rw [run, h.execute_eq, he]
    rfl
  have hplace : InPlace s (reportOf clock s outcome) e := inPlace_of_deliver he
  rw [hrun]
  exact ⟨⟨h, by rw [he]; rfl, hplace⟩, rfl⟩

/-- **A run comes to its end, or it ends with a failure.** -/
theorem completed_or_failed (w : Surroundings) (clock : Clock) (a : Arguments) (o : Obstacles) :
    (∃ s rules outcome, Completed w clock a o s rules outcome (run w clock (.survey a) o) ∧
      (run w clock (.survey a) o).exitCode = if outcome.result.summary.hasErrors then 1 else 0) ∨
    ∃ f, run w clock (.survey a) o = Command.failed w.disk f ∧ (f.exitCode = 0 → WriteProtected w a) ∧
      ∀ s rules outcome e, ¬ Completed w clock a o s rules outcome e := by
  cases hfindings : findings w Settings.variableStart clock.now a with
  | error f =>
    right
    have hrun : run w clock (.survey a) o = Command.failed w.disk f := by
      rw [run, execute, runSurvey, hfindings]
      rfl
    refine ⟨f, hrun, writeProtected_of_findings hfindings, fun s rules outcome e hc => ?_⟩
    rw [hc.toSurveyed.findings_eq] at hfindings
    cases hfindings
  | ok found =>
    obtain ⟨s, result⟩ := found
    obtain ⟨rules, outcome, hsurveyed⟩ := surveyed_of_findings hfindings
    cases hdeliver : deliver w.disk s (reportOf clock s outcome) o with
    | error f =>
      -- a survey was made, so the report is what failed, and that is grave
      right
      have hrun : run w clock (.survey a) o = Command.failed w.disk f := by
        rw [run, hsurveyed.execute_eq, hdeliver]
        rfl
      have hgrave := grave_deliver _ _ _ _ f hdeliver
      refine ⟨f, hrun, fun hf => absurd hf hgrave, fun s' rules' outcome' e hc => ?_⟩
      obtain ⟨rfl, rfl⟩ := hsurveyed.unique hc.toSurveyed
      have hwritten := hc.written
      rw [hdeliver] at hwritten
      cases hwritten
    | ok e =>
      left
      exact ⟨s, rules, outcome, hsurveyed.completed hdeliver⟩

theorem tellsOutcome_of_completed {s : Settings} {rules : RuleSet} {outcome : Survey.Outcome} {e : Effect}
    (h : Completed w clock a o s rules outcome e)
    (hcode : e.exitCode = if outcome.result.summary.hasErrors then 1 else 0) :
    TellsOutcome w clock a o e := by
  have hcarries := Survey.hasErrors_run h.surveyMade
  refine ⟨fun h0 => ⟨s, rules, outcome, h, ?_⟩, fun hnot => absurd ⟨s, rules, outcome, h⟩ hnot, ?_⟩
  · have hnone : outcome.result.summary.hasErrors ≠ true := by
      intro herrors
      rw [hcode, if_pos herrors] at h0
      cases h0
    rw [Summary.hasErrors, ne_eq, decide_eq_true_eq] at hnone
    exact Nat.eq_zero_of_not_pos hnone
  · intro s' rules' outcome' h'
    obtain ⟨-, rfl⟩ := h.toSurveyed.unique h'.toSurveyed
    rw [hcode, ← hcarries]
    cases outcome.result.summary.hasErrors with
    | true => simp
    | false => simp

/-- With a directory of the report that has no write permission for its owner, a run fails with status
zero. -/
theorem run_of_writeProtected (clock : Clock) (o : Obstacles) (h : WriteProtected w a) :
    (run w clock (.survey a) o).exitCode = 0 ∧
      ∀ s rules outcome e, ¬ Completed w clock a o s rules outcome e := by
  obtain ⟨dir, hload⟩ := Settings.load_of_writeProtected h
  constructor
  · have hfindings : findings w Settings.variableStart clock.now a = .error (.permissionDenied dir) := by
      rw [findings, hload]
      rfl
    rw [run, execute, runSurvey, hfindings]
    rfl
  · intro s rules outcome e hc
    have hloaded := hc.settingsLoaded
    rw [hload] at hloaded
    cases hloaded

end

/-- **The exit status tells how a run went, save in one case**: the check of the directory of the report finds
that it has no write permission for its owner, and ends the run as if all had gone well. -/
theorem tellsOutcome_run_iff (w : Surroundings) (clock : Clock) (a : Arguments) (o : Obstacles) :
    TellsOutcome w clock a o (run w clock (.survey a) o) ↔ ¬ WriteProtected w a := by
  constructor
  · intro h hprotected
    obtain ⟨hzero, hnot⟩ := run_of_writeProtected clock o hprotected
    exact h.failed (fun ⟨s, rules, outcome, hc⟩ => hnot s rules outcome _ hc) hzero
  · intro hprotected
    rcases completed_or_failed w clock a o with ⟨s, rules, outcome, hc, hcode⟩ | ⟨f, hrun, hmild, hnot⟩
    · exact tellsOutcome_of_completed hc hcode
    · have hne : (run w clock (.survey a) o).exitCode ≠ 0 := by
        rw [hrun]
        exact fun hf => hprotected (hmild hf)
      refine ⟨fun h0 => absurd h0 hne, fun _ => hne, fun s rules outcome hc => ?_⟩
      exact absurd hc (hnot s rules outcome _)

end Command

/-! ## A run that fails with status zero -/

namespace Command

/-- A directory to survey, and one for the report that has no write permission. -/
def protectedPlace : Surroundings where
  disk := {
    entries := [(["src"], .dir 0o755 true), (["src", "a.js"], .file (.text "")), (["out"], .dir 0o555 true)]
    workingDir := [] }
  environment := ⟨[]⟩

/-- A survey with its report in that directory. -/
def reportIntoProtected : Arguments where
  path := some ⟨"src"⟩
  outputFile := some ⟨"out/report.json"⟩

theorem writeProtected_protectedPlace : WriteProtected protectedPlace reportIntoProtected := by
  have hname : Disk.IsName ".cruiser.toml" ∧ Disk.IsName "src" ∧ Disk.IsName "out" := by decide
  obtain ⟨htoml, hsrc, hout⟩ := hname
  have hnofile : protectedPlace.disk.isFile ⟨SettingsFile.defaultName⟩ = false := by
    rw [SettingsFile.defaultName, Disk.isFile_of_no_name htoml rfl rfl]
  have hdir : protectedPlace.disk.isDir ⟨"src"⟩ = true := by
    rw [Disk.isDir, Disk.find_of_name (e := .dir 0o755 true) hsrc rfl rfl fun _ h => by cases h]
  have hmode : protectedPlace.disk.mode? ⟨"out"⟩ = some 0o555 := by
    rw [Disk.mode?, Disk.find_of_name (e := .dir 0o555 true) hout rfl rfl fun _ h => by cases h]
  have hfiles : Settings.fileLayer protectedPlace none = .ok {} := by
    have hlocations : protectedPlace.environment.settingsLocations = [⟨SettingsFile.defaultName⟩] := rfl
    rw [Settings.fileLayer, hlocations, SettingsFile.readFirst, hnofile]
    rfl
  have hlayered : Settings.layered protectedPlace Settings.variableStart reportIntoProtected =
      .ok { baseDir := ⟨"src"⟩, outputFile := some ⟨"out/report.json"⟩ } := by
    rw [Settings.layered]
    show (Settings.fileLayer protectedPlace none >>= fun _ => _) = _
    rw [hfiles]
    rfl
  have hcheck : Settings.check protectedPlace.disk { baseDir := ⟨"src"⟩ } = .ok () := by
    rw [Settings.check, hdir]
    decide
  refine ⟨_, ⟨"out/report.json"⟩, hlayered, hcheck, rfl, ⟨"out"⟩, 0o555, ?_, ?_, hmode, rfl⟩
  · decide
  · decide

/-- The run fails, and its exit status says that all went well. -/
theorem not_tellsOutcome_of_protected :
    (run protectedPlace ⟨default, 0⟩ (.survey reportIntoProtected)).exitCode = 0 ∧
      ¬ TellsOutcome protectedPlace ⟨default, 0⟩ reportIntoProtected {}
        (run protectedPlace ⟨default, 0⟩ (.survey reportIntoProtected)) := by
  obtain ⟨hzero, hnot⟩ := run_of_writeProtected ⟨default, 0⟩ {} writeProtected_protectedPlace
  refine ⟨hzero, fun h => ?_⟩
  exact h.failed (fun ⟨s, rules, outcome, hc⟩ => hnot s rules outcome _ hc) hzero

end Command

end ImportSurvey
