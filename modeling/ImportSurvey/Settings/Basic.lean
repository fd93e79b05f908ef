import ImportSurvey.Path
import ImportSurvey.Reference

/-
  Settings, and the layers they are put together from.

  A layer sets some of the fields.  Layers are laid over each other, the later one winning field by
  field, and what no layer sets has a default.  So every field of the result is that of the last layer
  that sets it.
-/
namespace ImportSurvey

/-- How a report is written. -/
inductive OutputFormat where
  | text
  | json
  | csv
deriving DecidableEq, Repr, Inhabited

namespace OutputFormat

def all : List OutputFormat := [.text, .json, .csv]

def name : OutputFormat → String
  | .text => "text"
  | .json => "json"
  | .csv => "csv"

def names : List (String × OutputFormat) := all.map fun f => (f.name, f)

end OutputFormat

/-- What a survey is told to do. -/
structure Settings where
  /-- the directory that is surveyed; ids are relative to it -/
  baseDir : Path := ⟨"."⟩
  /-- globs of what is left out -/
  excludePatterns : List String := ["node_modules", ".git", "dist", "build", "coverage"]
  /-- how deep files may lie; those directly in the base directory have depth one -/
  maxDepth : Option Nat := none
  /-- modules whose id this pattern matches are not read -/
  doNotFollow : Option String := none
  /-- only modules whose id this pattern matches take part -/
  includeOnly : Option String := none
  outputFormat : OutputFormat := .text
  outputFile : Option Path := none
  parallel : Bool := true
  quiet : Bool := false
  verbose : Bool := false
  useColors : Bool := true
  showProgress : Bool := true
  moduleSystems : List ModuleSystem := [.es6, .cjs, .amd, .tsType]
  /-- whether imports count that exist for the type checker only -/
  tsPreCompilationDeps : Bool := true
  /-- functions that work like `require` -/
  exoticRequireStrings : List String := []
  rulesFile : Option Path := none
  validate : Bool := true
deriving DecidableEq, Repr, Inhabited

/-- One layer of settings; what it leaves open is `none`. -/
structure SettingsLayer where
  /-- the file this layer lies upon; only a file says so -/
  «extends» : Option Path := none
  baseDir : Option Path := none
  excludePatterns : Option (List String) := none
  maxDepth : Option Nat := none
  doNotFollow : Option String := none
  includeOnly : Option String := none
  outputFormat : Option OutputFormat := none
  outputFile : Option Path := none
  parallel : Option Bool := none
  quiet : Option Bool := none
  verbose : Option Bool := none
  useColors : Option Bool := none
  showProgress : Option Bool := none
  moduleSystems : Option (List ModuleSystem) := none
  tsPreCompilationDeps : Option Bool := none
  exoticRequireStrings : Option (List String) := none
  rulesFile : Option Path := none
  validate : Option Bool := none
deriving DecidableEq, Repr, Inhabited

namespace SettingsLayer

/-- `upper` laid over `lower`.  What the lower one extends stays as it is. -/
def laidOver (upper lower : SettingsLayer) : SettingsLayer where
  «extends» := lower.extends
  baseDir := upper.baseDir <|> lower.baseDir
  excludePatterns := upper.excludePatterns <|> lower.excludePatterns
  maxDepth := upper.maxDepth <|> lower.maxDepth
  doNotFollow := upper.doNotFollow <|> lower.doNotFollow
  includeOnly := upper.includeOnly <|> lower.includeOnly
  outputFormat := upper.outputFormat <|> lower.outputFormat
  outputFile := upper.outputFile <|> lower.outputFile
  parallel := upper.parallel <|> lower.parallel
  quiet := upper.quiet <|> lower.quiet
  verbose := upper.verbose <|> lower.verbose
  useColors := upper.useColors <|> lower.useColors
  showProgress := upper.showProgress <|> lower.showProgress
  moduleSystems := upper.moduleSystems <|> lower.moduleSystems
  tsPreCompilationDeps := upper.tsPreCompilationDeps <|> lower.tsPreCompilationDeps
  exoticRequireStrings := upper.exoticRequireStrings <|> lower.exoticRequireStrings
  rulesFile := upper.rulesFile <|> lower.rulesFile
  validate := upper.validate <|> lower.validate

/-- The settings with defaults for all that the layer leaves open. -/
def toSettings (l : SettingsLayer) : Settings :=
  let d : Settings := {}
  { baseDir := l.baseDir.getD d.baseDir
    excludePatterns := l.excludePatterns.getD d.excludePatterns
    maxDepth := l.maxDepth <|> d.maxDepth
    doNotFollow := l.doNotFollow <|> d.doNotFollow
    includeOnly := l.includeOnly <|> d.includeOnly
    outputFormat := l.outputFormat.getD d.outputFormat
    outputFile := l.outputFile <|> d.outputFile
    parallel := l.parallel.getD d.parallel
    quiet := l.quiet.getD d.quiet
    verbose := l.verbose.getD d.verbose
    useColors := l.useColors.getD d.useColors
    showProgress := l.showProgress.getD d.showProgress
    moduleSystems := l.moduleSystems.getD d.moduleSystems
    tsPreCompilationDeps := l.tsPreCompilationDeps.getD d.tsPreCompilationDeps
    exoticRequireStrings := l.exoticRequireStrings.getD d.exoticRequireStrings
    rulesFile := l.rulesFile <|> d.rulesFile
    validate := l.validate.getD d.validate }

end SettingsLayer

/-- Of equal neighbours, the first. -/
def dropEqualNeighbours [DecidableEq α] : List α → List α
  | [] => []
  | [a] => [a]
  | a :: b :: rest =>
    if a = b then dropEqualNeighbours (b :: rest) else a :: dropEqualNeighbours (b :: rest)

/-- The dialects that references are looked for in: those asked for, without the type-only ones if
these do not count, and with the exotic one as soon as a function is configured for it. -/
def Settings.effectiveModuleSystems (s : Settings) : List ModuleSystem :=
  let kept := s.moduleSystems.filter fun m => s.tsPreCompilationDeps || m ≠ .tsType
  let kept :=
    if !s.exoticRequireStrings.isEmpty && !kept.contains .exoticRequire then kept ++ [.exoticRequire]
    else kept
  dropEqualNeighbours kept

end ImportSurvey
