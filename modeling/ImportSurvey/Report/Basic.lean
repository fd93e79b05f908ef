import ImportSurvey.Graph.Module
import ImportSurvey.Failure
import ImportSurvey.Report.Time

/-
  The result of a survey, and the totals over it.

  The summary is a function of the modules: every rule that a module or an edge breaks counts once under
  its severity, and all but the ignored ones are listed in the order of the modules.
-/
namespace ImportSurvey

/-- A broken rule and where it was broken; for a module both ends are the module. -/
structure Violation where
  «from» : String
  «to» : String
  rule : RuleViolation
deriving DecidableEq, Repr

/-- The settings that a result depends on. -/
structure SurveyOptions where
  baseDir : Path := ⟨""⟩
  moduleSystems : List ModuleSystem := []
  tsPreCompilationDeps : Bool := false
  exoticRequireStrings : List String := []
  exclude : List String := []
  maxDepth : Option Nat := none
  doNotFollow : Option String := none
  includeOnly : Option String := none
  rulesFile : Option Path := none
  validate : Bool := false
deriving DecidableEq, Repr, Inhabited

structure Summary where
  violations : List Violation := []
  error : Nat := 0
  warn : Nat := 0
  info : Nat := 0
  ignore : Nat := 0
  totalCruised : Nat := 0
  totalDependenciesCruised : Nat := 0
  optionsUsed : SurveyOptions := {}
deriving DecidableEq, Repr, Inhabited

/-- What could not be done with a file. -/
structure Issue where
  path : Path
  message : String
  severity : Gravity
deriving DecidableEq, Repr

/-- All that a survey finds out. -/
structure SurveyResult where
  modules : List Module
  summary : Summary
  issues : List Issue := []
  /-- when the survey was made -/
  cruisedAt : Timestamp
  /-- how many nanoseconds it took; no part of a written report -/
  duration : Nat := 0
deriving DecidableEq, Repr

namespace Summary

/-- Counts a broken rule and, unless it is ignored, lists it. -/
def record (s : Summary) («from» «to» : String) (r : RuleViolation) : Summary :=
  let listed := s.violations ++ [⟨«from», «to», r⟩]
  match r.severity with
  | .error => { s with error := s.error + 1, violations := listed }
  | .warn => { s with warn := s.warn + 1, violations := listed }
  | .info => { s with info := s.info + 1, violations := listed }
  | .ignore => { s with ignore := s.ignore + 1 }

def recordDependency (s : Summary) (d : Dependency) : Summary :=
  d.rules.foldl (fun s r => s.record d.from d.resolved r) s

def recordModule (s : Summary) (m : Module) : Summary :=
  m.dependencies.foldl recordDependency (m.rules.foldl (fun s r => s.record m.source m.source r) s)

def ofModules (modules : List Module) (options : SurveyOptions) : Summary :=
  modules.foldl recordModule
    { totalCruised := modules.length
      totalDependenciesCruised := Module.countDependencies modules
      optionsUsed := options }

def hasErrors (s : Summary) : Bool := s.error > 0

end Summary

namespace Issue

def ofFailure (path : Path) (f : Failure) : Issue := ⟨path, f.userMessage, f.gravity⟩

def warning (path : Path) (message : String) : Issue := ⟨path, message, .warning⟩

end Issue

namespace SurveyResult

def ofModules (modules : List Module) (options : SurveyOptions) (time : Timestamp) : SurveyResult where
  modules := modules
  summary := .ofModules modules options
  cruisedAt := time

/-- The modules that break some rule, ignored ones included. -/
def invalidModules (r : SurveyResult) : List Module := r.modules.filter fun m => !m.valid

end SurveyResult

end ImportSurvey
