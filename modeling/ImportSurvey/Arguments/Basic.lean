import ImportSurvey.Names

/-
  What a command line asks for.

  An argument that was not given leaves the layers below alone: a switch that only turns something off
  is either given or says nothing.
-/
namespace ImportSurvey

structure Arguments where
  path : Option Path := none
  rules : Option Path := none
  exclude : List String := []
  maxDepth : Option Nat := none
  doNotFollow : Option String := none
  includeOnly : Option String := none
  moduleSystems : List String := []
  noTsPreCompilationDeps : Bool := false
  exoticRequire : List String := []
  noValidate : Bool := false
  output : Option OutputFormat := none
  outputFile : Option Path := none
  quiet : Bool := false
  verbose : Bool := false
  config : Option Path := none
  noParallel : Bool := false
  noColors : Bool := false
  noProgress : Bool := false
  init : Bool := false
deriving DecidableEq, Repr, Inhabited

/-- What arguments say about settings.  What is `none` was not given, and a list that was given may be
empty. -/
structure SettingArguments where
  path : Option Path := none
  rules : Option Path := none
  exclude : Option (List String) := none
  maxDepth : Option Nat := none
  doNotFollow : Option String := none
  includeOnly : Option String := none
  moduleSystems : Option (List String) := none
  noTsPreCompilationDeps : Bool := false
  exoticRequire : Option (List String) := none
  noValidate : Bool := false
  output : Option OutputFormat := none
  outputFile : Option Path := none
  quiet : Bool := false
  verbose : Bool := false
  noParallel : Bool := false
  noColors : Bool := false
  noProgress : Bool := false
  config : Option Path := none
deriving DecidableEq, Repr, Inhabited

namespace Arguments

/-- A list that was not given says nothing. -/
def unlessEmpty (l : List α) : Option (List α) := if l.isEmpty then none else some l

/-- What a command line says about settings. -/
@[coe] def settings (a : Arguments) : SettingArguments where
  path := a.path
  rules := a.rules
  exclude := unlessEmpty a.exclude
  maxDepth := a.maxDepth
  doNotFollow := a.doNotFollow
  includeOnly := a.includeOnly
  moduleSystems := unlessEmpty a.moduleSystems
  noTsPreCompilationDeps := a.noTsPreCompilationDeps
  exoticRequire := unlessEmpty a.exoticRequire
  noValidate := a.noValidate
  output := a.output
  outputFile := a.outputFile
  quiet := a.quiet
  verbose := a.verbose
  noParallel := a.noParallel
  noColors := a.noColors
  noProgress := a.noProgress
  config := a.config

instance : Coe Arguments SettingArguments := ⟨settings⟩

end Arguments

namespace SettingArguments

/-- What a switch means when it is given. -/
def whenGiven (given meaning : Bool) : Option Bool := if given then some meaning else none

/-- The module systems of the given names. -/
def systems (a : SettingArguments) : Except Failure (Option (List ModuleSystem)) :=
  match a.moduleSystems with
  | none => .ok none
  | some names => (names.mapM ModuleSystem.ofText).map some

/-- The layer of settings that the arguments make up. -/
def layer (a : SettingArguments) : Except Failure SettingsLayer := do
  let systems ← a.systems
  return {
    baseDir := a.path
    excludePatterns := a.exclude
    maxDepth := a.maxDepth
    doNotFollow := a.doNotFollow
    includeOnly := a.includeOnly
    outputFormat := a.output
    outputFile := a.outputFile
    parallel := whenGiven a.noParallel false
    quiet := whenGiven a.quiet true
    verbose := whenGiven a.verbose true
    useColors := whenGiven a.noColors false
    showProgress := whenGiven a.noProgress false
    moduleSystems := systems
    tsPreCompilationDeps := whenGiven a.noTsPreCompilationDeps false
    exoticRequireStrings := a.exoticRequire
    rulesFile := a.rules
    validate := whenGiven a.noValidate false }

end SettingArguments

/-- The layer of settings that a command line makes up. -/
def Arguments.layer (a : Arguments) : Except Failure SettingsLayer := a.settings.layer

end ImportSurvey
