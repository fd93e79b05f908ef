import ImportSurvey.Survey.Basic
import ImportSurvey.Report.Format
import ImportSurvey.Rules.File

/-
  The commands, and what a run of one leaves behind.

  A command is a function of the disk, the environment and the time.  Its exit status is zero if all
  went well and nothing grave was found, one if a survey found errors, and otherwise that of the failure
  that ended it.
-/
namespace ImportSurvey

inductive Command where
  | survey (arguments : Arguments)
  /-- write a settings file to start from -/
  | init
deriving Repr

namespace Command

def ofArguments (a : Arguments) : Command := if a.init then .init else .survey a

def name : Command → String
  | .survey _ => "cruise"
  | .init => "init"

/-- What a run leaves behind. -/
structure Effect where
  disk : Disk
  output : String := ""
  /-- lines for the person at the terminal -/
  messages : List String := []
  exitCode : Nat := 0

/-- When a run takes place, and how long it takes. -/
structure Clock where
  now : Timestamp
  /-- in nanoseconds -/
  elapsed : Nat
deriving Repr

/-- What keeps a report from its place apart from what the disk shows: a closed pipe, a full disk. -/
structure Obstacles where
  atTerminal : Option Disk.Fault := none
  atFile : Option Disk.Fault := none

/-- Puts a report where it should go. -/
def deliver (d : Disk) (s : Settings) (report : String) (o : Obstacles := {}) : Except Failure Effect :=
  match s.outputFile with
  | none =>
    match o.atTerminal with
    | some f => .error (.stdoutWrite f)
    | none => .ok { disk := d, output := report }
  | some file =>
    match o.atFile with
    | some f => .error (.outputWrite file f)
    | none =>
      match d.writeText file report with
      | .error f => .error (.outputWrite file f)
      | .ok d => .ok {
          disk := d
          messages := if s.quiet then [] else ["Report written to " ++ file.text] }

/-- The survey that arguments ask for, and the settings it was made with. -/
def findings (w : Surroundings) (start : String) (now : Timestamp) (a : Arguments) :
    Except Failure (Settings × SurveyResult) := do
  let s ← Settings.load w start a
  let rules ← RuleSet.load w.disk s.rulesFile
  let outcome ← Survey.run w.disk s rules now
  return (s, outcome.result)

/-- The report on a survey, and the exit status it calls for. -/
def conclude (d : Disk) (s : Settings) (result : SurveyResult) (o : Obstacles := {}) :
    Except Failure Effect := do
  let effect ← deliver d s (Report.render s.outputFormat s.useColors s.verbose s.quiet result) o
  return { effect with exitCode := if result.summary.hasErrors then 1 else 0 }

/-- A survey with its report. -/
def runSurvey (w : Surroundings) (start : String) (clock : Clock) (a : Arguments) (o : Obstacles := {}) :
    Except Failure Effect := do
  let (s, result) ← findings w start clock.now a
  conclude w.disk s { result with duration := clock.elapsed } o

/-- Writes a settings file unless there is one. -/
def runInit (d : Disk) : Except Failure Effect := do
  let file : Path := ⟨SettingsFile.defaultName⟩
  if d.pathExists file then
    return {
      disk := d
      output := "Configuration file already exists at: " ++ file.text ++ "\n" ++
        "To overwrite it, delete the file first and run this command again.\n" }
  let d ← SettingsFile.create d file
  return {
    disk := d
    output := "Created default configuration file at: " ++ file.text ++ "\n" ++
      "\nEdit it to set the directory to cruise, the rule set, excludes and output.\n" }

def execute (w : Surroundings) (clock : Clock) (c : Command) (o : Obstacles := {}) : Except Failure Effect :=
  match c with
  | .survey a => runSurvey w Settings.variableStart clock a o
  | .init => runInit w.disk

/-- What is left when a command fails: a message and an exit status. -/
def failed (d : Disk) (f : Failure) : Effect where
  disk := d
  messages := [f.gravity.label ++ ": " ++ f.userMessage]
  exitCode := f.exitCode

/-- Runs a command to its end. -/
def run (w : Surroundings) (clock : Clock) (c : Command) (o : Obstacles := {}) : Effect :=
  match c.execute w clock o with
  | .ok e => e
  | .error f => failed w.disk f

end Command

end ImportSurvey
