import ImportSurvey.Command

/-
  Failures that a command cannot end with as if all had gone well.

  Two kinds of failure are mild, because a survey goes on without the file that they are about; a command that
  ends with one of them has status zero.  So every step before the report is followed here through all that
  can go wrong in it: loading files and layers, checking settings, reading rules, planning the survey, and
  writing the report.  All of it fails gravely except for one check, that of the directory of the report
  (`Settings.check_eq`), which is left to those who ask about it.

  A step that is made of steps fails gravely if they do, so there is one lemma for each way of putting steps
  together, and then one for each function.
-/
namespace ImportSurvey

/-- No failure of this step would end a command with status zero. -/
def Grave {α : Type} (x : Except Failure α) : Prop := ∀ f, x = .error f → f.exitCode ≠ 0

namespace Grave

/-! ## Steps made of steps -/

variable {α β : Type}

theorem ok (a : α) : Grave (.ok a : Except Failure α) := nofun

theorem error {f : Failure} (h : f.exitCode ≠ 0) : Grave (.error f : Except Failure α) := by
  intro f' hf
  obtain rfl := Except.error.inj hf
  exact h

theorem bind {x : Except Failure α} {k : α → Except Failure β} (hx : Grave x) (hk : ∀ a, Grave (k a)) :
    Grave (x >>= k) := by
  cases x with
  | error f => exact error (hx f rfl)
  | ok a => exact hk a

theorem map {x : Except Failure α} (g : α → β) (hx : Grave x) : Grave (x.map g) := by
  cases x with
  | error f => exact error (hx f rfl)
  | ok a => exact ok (g a)

/-- A check before all that follows. -/
theorem check {c : Prop} [Decidable c] {f : Failure} {k : Unit → Except Failure β} (hf : f.exitCode ≠ 0)
    (hk : Grave (k ())) : Grave (if c then throw f >>= k else k ()) := by
  split
  · exact error hf
  · exact hk

theorem mapM {f : α → Except Failure β} (hf : ∀ a, Grave (f a)) (l : List α) : Grave (l.mapM f) := by
  induction l with
  | nil => exact ok []
  | cons a l ih =>
    rw [List.mapM_cons]
    exact (hf a).bind fun b => ih.bind fun bs => ok (b :: bs)

theorem forM {f : α → Except Failure Unit} (hf : ∀ a, Grave (f a)) (l : List α) : Grave (l.forM f) := by
  induction l with
  | nil => exact ok ()
  | cons a l ih => exact (hf a).bind fun _ => ih

theorem forM_option {f : α → Except Failure Unit} (hf : ∀ a, Grave (f a)) (o : Option α) :
    Grave (o.forM f) := by
  cases o with
  | none => exact ok ()
  | some a => exact hf a

end Grave

/-! ## Layers of settings -/

namespace SettingsLayer

theorem grave_checkPath (key : String) (file : Path) (p : Option Path) : Grave (checkPath key file p) := by
  cases p with
  | none => exact .ok ()
  | some p =>
    rw [checkPath]
    split
    · exact .error nofun
    · exact .ok ()

theorem grave_checkExclude (file : Path) (pattern : String) : Grave (checkExclude file pattern) := by
  rw [checkExclude]
  split
  · exact .error nofun
  · split
    · exact .ok ()
    · exact .error nofun

theorem grave_checkFilter (field : String) (file : Option Path) (pattern : Option String) :
    Grave (checkFilter field file pattern) := by
  cases pattern with
  | none => exact .ok ()
  | some pattern =>
    rw [checkFilter]
    split
    · exact .ok ()
    · exact .error nofun

theorem grave_check (l : SettingsLayer) (file : Path) : Grave (l.check file) := by
  have hpath := fun key => grave_checkPath key file
  have hfilter := fun field => grave_checkFilter field (some file)
  refine (hpath _ _).bind fun _ => (hpath _ _).bind fun _ => ?_
  refine (hpath _ _).bind fun _ => (hpath _ _).bind fun _ => ?_
  refine (Grave.forM (grave_checkExclude file) _).bind fun _ => .check nofun ?_
  refine (hfilter _ _).bind fun _ => (hfilter _ _).bind fun _ => ?_
  split
  · exact .error nofun
  · exact .ok ()

theorem grave_ofText (text : String) (file : Path) : Grave (ofText text file) := by
  rw [ofText]
  split
  · exact .error nofun
  · split
    · exact .error nofun
    · exact (grave_check _ file).map _

end SettingsLayer

/-! ## Settings files -/

namespace SettingsFile

theorem grave_readAlone (d : Disk) (file : Path) : Grave (readAlone d file) := by
  rw [readAlone]
  split
  · exact .error nofun
  · split
    · exact .error nofun
    · exact SettingsLayer.grave_ofText _ file

theorem grave_readChain (d : Disk) (file : Path) (chain : List Path) (fuel : Nat) :
    Grave (readChain d file chain fuel) := by
  induction fuel generalizing file chain with
  | zero => exact .error nofun
  | succ fuel ih =>
    rw [readChain]
    refine .check nofun ?_
    refine (grave_readAlone d file).bind fun layer => ?_
    split
    · exact .ok layer
    · exact (ih _ _).bind fun _ => .ok _

theorem grave_readFirst (d : Disk) (files : List Path) : Grave (readFirst d files) := by
  induction files with
  | nil => exact .ok none
  | cons file files ih =>
    rw [readFirst]
    split
    · exact (grave_readChain d file [] _).map some
    · exact ih

end SettingsFile

/-! ## The environment and the command line -/

theorem ModuleSystem.grave_ofText (text : String) : Grave (ModuleSystem.ofText text) := by
  rw [ModuleSystem.ofText]
  split
  · exact .ok _
  · exact .error nofun

theorem OutputFormat.grave_ofText (text : String) : Grave (OutputFormat.ofText text) := by
  rw [OutputFormat.ofText]
  split
  · exact .ok _
  · exact .error nofun

namespace Environment

theorem grave_read {α : Type} {meaning : String → Except Failure α} (hmeaning : ∀ text, Grave (meaning text))
    (e : Environment) (start key : String) : Grave (e.read start key meaning) := by
  rw [read]
  split
  · exact .ok none
  · exact (hmeaning _).map some

theorem grave_count (name text : String) : Grave (count name text) := by
  rw [count]
  split
  · exact .ok _
  · exact .error nofun

theorem grave_flag (name text : String) : Grave (flag name text) := by
  rw [flag]
  split
  · exact .ok true
  · split
    · exact .ok false
    · exact .error nofun

theorem grave_layer (e : Environment) (start : String) : Grave (e.layer start) := by
  have hsystems := fun text => Grave.mapM ModuleSystem.grave_ofText (splitList text)
  refine (grave_read (grave_count _) e start _).bind fun _ => ?_
  refine (grave_read OutputFormat.grave_ofText e start _).bind fun _ => ?_
  refine (grave_read hsystems e start _).bind fun _ => ?_
  exact (grave_read (grave_flag _) e start _).bind fun _ => (grave_read (grave_flag _) e start _).bind fun _ => .ok _

end Environment

theorem SettingArguments.grave_layer (a : SettingArguments) : Grave a.layer := by
  refine Grave.bind ?_ fun _ => .ok _
  rw [systems]
  split
  · exact .ok none
  · exact (Grave.mapM ModuleSystem.grave_ofText _).map some

/-! ## The settings of a run -/

namespace SettingsSource

theorem grave_loadFile (w : Surroundings) (file : Path) : Grave (loadFile w file) := by
  rw [loadFile]
  split
  · exact SettingsFile.grave_readChain w.disk file [] _
  · exact .error nofun

theorem grave_load (w : Surroundings) (s : SettingsSource) : Grave (s.load w) := by
  cases s with
  | defaultFile => exact grave_loadFile w _
  | file p => exact grave_loadFile w p
  | environment start => exact w.environment.grave_layer start
  | arguments a => exact a.grave_layer

theorem grave_loadOver (w : Surroundings) (lower : SettingsLayer) (s : SettingsSource) :
    Grave (s.loadOver w lower) := by
  rw [loadOver]
  split
  · exact (grave_load w s).bind fun _ => .ok _
  · exact .ok lower

end SettingsSource

namespace Settings

theorem grave_fileLayer (w : Surroundings) (asked : Option Path) : Grave (fileLayer w asked) := by
  cases asked with
  | some file => exact SettingsSource.grave_loadFile w file
  | none => exact (SettingsFile.grave_readFirst w.disk _).map _

theorem grave_layered (w : Surroundings) (start : String) (a : SettingArguments) : Grave (layered w start a) := by
  refine (grave_fileLayer w a.config).bind fun files => ?_
  refine (SettingsSource.grave_loadOver w _ _).bind fun _ => ?_
  exact (SettingsSource.grave_loadOver w _ _).bind fun _ => .ok _

/-- All checks but that of the directory of the report. -/
theorem grave_check (d : Disk) (s : Settings) (hout : s.outputFile = none) : Grave (s.check d) := by
  have hfilter := fun field => SettingsLayer.grave_checkFilter field none
  rw [check]
  refine .check nofun ?_
  refine (Grave.forM (fun pattern => ?glob) _).bind fun _ => ?_
  case glob =>
    split
    · exact .ok ()
    · exact .error nofun
  refine (hfilter _ _).bind fun _ => (hfilter _ _).bind fun _ => .check nofun (.check nofun ?_)
  refine (Grave.forM_option (fun file => ?rules) _).bind fun _ => ?_
  case rules =>
    split
    · exact .ok ()
    · exact .error nofun
  rw [hout]
  exact .ok ()

end Settings

/-! ## Rules -/

theorem PathFilter.grave_pattern? (rule side field : String) (p : Option PathPattern) :
    Grave (PathFilter.pattern? rule side field p) := by
  cases p with
  | none => exact .ok none
  | some p =>
    rw [PathFilter.pattern?]
    split
    · exact .ok _
    · exact .error nofun

theorem PathFilter.grave_ofSpec? (rule side : String) (path pathNot : Option PathPattern) :
    Grave (PathFilter.ofSpec? rule side path pathNot) :=
  (grave_pattern? rule side _ path).bind fun _ => (grave_pattern? rule side _ pathNot).bind fun _ => .ok _

theorem Rule.grave_ofSpec? (s : RuleSpec) : Grave (Rule.ofSpec? s) := by
  rw [Rule.ofSpec?]
  refine .check nofun (.check nofun ?_)
  refine (PathFilter.grave_ofSpec? _ _ _ _).bind fun _ => ?_
  exact (PathFilter.grave_ofSpec? _ _ _ _).bind fun _ => .ok _

namespace RuleSet

theorem grave_ofSpec? (s : RuleSetSpec) : Grave (ofSpec? s) := by
  refine (Grave.mapM Rule.grave_ofSpec? _).bind fun _ => (Grave.mapM Rule.grave_ofSpec? _).bind fun _ => ?_
  dsimp only
  split
  · exact .error (Nat.succ_ne_zero 1)
  · exact .ok _

theorem grave_load (d : Disk) (file : Option Path) : Grave (load d file) := by
  cases file with
  | none => exact .ok _
  | some file =>
    rw [load, ofFile]
    split
    · exact .error nofun
    · rw [ofText]
      split
      · exact .error nofun
      · exact grave_ofSpec? _

end RuleSet

/-! ## The survey and its report -/

namespace Survey

theorem grave_readFilter (field : String) (pattern : Option String) : Grave (readFilter field pattern) := by
  cases pattern with
  | none => exact .ok none
  | some pattern =>
    rw [readFilter]
    split
    · exact .ok _
    · exact .error nofun

theorem grave_readGlobs (patterns : List String) : Grave (readGlobs patterns) := by
  refine Grave.mapM (fun p => ?_) patterns
  split
  · exact .ok _
  · exact .error nofun

theorem grave_baseOf (d : Disk) (dir : Path) : Grave (baseOf d dir) := by
  rw [baseOf]
  split
  · exact .error nofun
  · split
    · exact .ok _
    · exact .error nofun

theorem grave_plan (d : Disk) (s : Settings) : Grave (plan d s) :=
  (grave_baseOf d _).bind fun _ => (grave_readGlobs _).bind fun _ => (grave_readFilter _ _).bind fun _ =>
    (grave_readFilter _ _).bind fun _ => .ok _

/-- **No file ends a survey**: whatever the disk says of it, it is not critical. -/
theorem critical_readFile (d : Disk) (q : Script.Request) (file : Path) : (readFile d q file).critical = none := by
  rw [readFile]
  split
  · rename_i f _
    show (Failure.ofFile file f).handedBack = none
    rw [Failure.ofFile]
    split <;> rfl
  · rfl

/-- A survey that can be planned comes to its end. -/
theorem run_eq {d : Disk} {s : Settings} {p : Plan} (h : plan d s = .ok p) (rules : RuleSet) (time : Timestamp) :
    let found := discover d p.globs s.maxDepth p.baseName p.listable
    run d s rules time = .ok (conclude d s rules time p found
      ((p.taken found).map fun f => (f, readFile d (request s) f))) := by
  intro found
  rw [run, h]
  simp only [bind, Except.bind]
  rw [List.findSome?_eq_none_iff.mpr]
  · rfl
  · intro o ho
    obtain ⟨f, -, rfl⟩ := List.mem_map.mp ho
    exact critical_readFile d (request s) f

theorem plan_of_run {d : Disk} {s : Settings} {rules : RuleSet} {time : Timestamp} {outcome : Outcome}
    (h : run d s rules time = .ok outcome) : ∃ p, plan d s = .ok p := by
  cases hp : plan d s with
  | error f =>
    rw [run, hp] at h
    cases h
  | ok p => exact ⟨p, rfl⟩

theorem grave_run (d : Disk) (s : Settings) (rules : RuleSet) (time : Timestamp) :
    Grave (run d s rules time) := by
  cases hp : plan d s with
  | error f =>
    rw [run, hp]
    exact .error (grave_plan d s f hp)
  | ok p =>
    rw [run_eq hp]
    exact .ok _

end Survey

theorem Command.grave_deliver (d : Disk) (s : Settings) (report : String) (o : Obstacles) :
    Grave (deliver d s report o) := by
  rw [deliver]
  split
  · split
    · exact .error nofun
    · exact .ok _
  · split
    · exact .error nofun
    · split
      · exact .error nofun
      · exact .ok _

end ImportSurvey
