import ImportSurvey.Settings.File
import ImportSurvey.Arguments.Basic

/-
  Where settings come from, and the settings of a run.

  Files come first, then the environment, then the command line; each is laid over what came before.
  What comes out is checked against the disk before anything is done with it.
-/
namespace ImportSurvey

/-- The variables a process was started with. -/
structure Environment where
  bindings : List (String × String)
deriving Repr, Inhabited

namespace Environment

def get? (e : Environment) (name : String) : Option String := e.bindings.lookup name

/-- The home directory. -/
def home? (e : Environment) : Option Path :=
  match e.get? "HOME" with
  | some h => if h.isEmpty then none else some ⟨h⟩
  | none => none

/-- The directory that holds the settings of all programs. -/
def configHome? (e : Environment) : Option Path :=
  let ownChoice := (e.get? "XDG_CONFIG_HOME").map Path.mk |>.filter Path.isAbsolute
  ownChoice <|> e.home?.map (·.join ".config")

/-- The pieces of a value between commas, without blanks around them and without empty ones. -/
def splitList (value : String) : List String :=
  ((splitCommas value.toList).map fun cs => Unicode.trim (.ofList cs)).filter fun s => !s.isEmpty

/-- The variables that make settings, behind the prefix and an underscore. -/
def keys : List String :=
  ["BASE_DIR", "EXCLUDE", "MAX_DEPTH", "DO_NOT_FOLLOW", "INCLUDE_ONLY", "OUTPUT_FORMAT", "RULES_FILE",
    "MODULE_SYSTEMS", "EXOTIC_REQUIRE_STRINGS", "TS_PRE_COMPILATION_DEPS", "VALIDATE"]

def setting? (e : Environment) (start key : String) : Option String := e.get? (start ++ "_" ++ key)

/-- Whether any setting is made. -/
def hasSettings (e : Environment) (start : String) : Bool := keys.any fun k => (e.setting? start k).isSome

/-- What the text of a variable means, if the variable is set. -/
def read (e : Environment) (start key : String) (meaning : String → Except Failure α) : Except Failure (Option α) :=
  match e.setting? start key with
  | none => .ok none
  | some text => (meaning text).map some

/-- A number, in the variable of that name. -/
def count (name text : String) : Except Failure Nat :=
  match countOfText? (Unicode.trim text) with
  | some n => .ok n
  | none => .error (.config (.notANumber name text))

/-- A yes or no, in the variable of that name. -/
def flag (name text : String) : Except Failure Bool :=
  let value := Unicode.lower (Unicode.trim text)
  if ["1", "true", "yes"].contains value then .ok true
  else if ["0", "false", "no"].contains value then .ok false
  else .error (.config (.notAFlag name value))

/-- The layer that the variables make up; `start` is what their names start with. -/
def layer (e : Environment) (start : String) : Except Failure SettingsLayer := do
  let maxDepth ← e.read start "MAX_DEPTH" (count (start ++ "_MAX_DEPTH"))
  let outputFormat ← e.read start "OUTPUT_FORMAT" OutputFormat.ofText
  let moduleSystems ← e.read start "MODULE_SYSTEMS" fun text => (splitList text).mapM ModuleSystem.ofText
  let tsPreCompilationDeps ←
    e.read start "TS_PRE_COMPILATION_DEPS" (flag (start ++ "_TS_PRE_COMPILATION_DEPS"))
  let validate ← e.read start "VALIDATE" (flag (start ++ "_VALIDATE"))
  return {
    baseDir := (e.setting? start "BASE_DIR").map Path.mk
    excludePatterns := (e.setting? start "EXCLUDE").map splitList
    maxDepth
    doNotFollow := e.setting? start "DO_NOT_FOLLOW"
    includeOnly := e.setting? start "INCLUDE_ONLY"
    outputFormat
    moduleSystems
    tsPreCompilationDeps
    exoticRequireStrings := (e.setting? start "EXOTIC_REQUIRE_STRINGS").map splitList
    rulesFile := (e.setting? start "RULES_FILE").map Path.mk
    validate }

/-- Where a settings file is looked for: here, at home, and among the settings of all programs. -/
def settingsLocations (e : Environment) : List Path :=
  ⟨SettingsFile.defaultName⟩ :: (e.home?.map (·.join SettingsFile.defaultName)).toList ++
    (e.configHome?.map fun dir => (dir.join "cruiser").join "config.toml").toList

end Environment

/-- What a run can see of its surroundings. -/
structure Surroundings where
  disk : Disk
  environment : Environment

/-- Something that layers come from. -/
inductive SettingsSource where
  /-- the settings file in the working directory -/
  | defaultFile
  | file (path : Path)
  | environment (start : String)
  | arguments (arguments : SettingArguments)
deriving Repr

namespace SettingsSource

def name : SettingsSource → String
  | .defaultFile => "default config file"
  | .file p => "config file (" ++ p.text ++ ")"
  | .environment start => start ++ " environment variables"
  | .arguments _ => "command-line arguments"

/-- How much a source counts among its like. -/
def priority : SettingsSource → Nat
  | .environment _ => 10
  | .defaultFile | .file _ => 20
  | .arguments _ => 30

def isAvailable (w : Surroundings) : SettingsSource → Bool
  | .defaultFile => w.disk.isFile ⟨SettingsFile.defaultName⟩
  | .file p => w.disk.isFile p
  | .environment start => w.environment.hasSettings start
  | .arguments _ => true

def loadFile (w : Surroundings) (p : Path) : Except Failure SettingsLayer :=
  if w.disk.isFile p then SettingsFile.read w.disk p else .error (.configNotFound p)

def load (w : Surroundings) : SettingsSource → Except Failure SettingsLayer
  | .defaultFile => loadFile w ⟨SettingsFile.defaultName⟩
  | .file p => loadFile w p
  | .environment start => w.environment.layer start
  | .arguments a => a.layer

/-- The layer of the source laid over `lower`, if there is one. -/
def loadOver (w : Surroundings) (lower : SettingsLayer) (s : SettingsSource) :
    Except Failure SettingsLayer := do
  if s.isAvailable w then return (← s.load w).laidOver lower else return lower

end SettingsSource

/-! ## The settings of a run -/

/-- The report can be put where it should go. -/
def Settings.checkOutput (d : Disk) (file : Path) : Except Failure Unit := do
  let some dir := file.parent | return
  if dir.text.isEmpty then return
  if !d.pathExists dir then throw (.outputDirectoryNotFound dir)
  if (d.mode? dir).any fun mode => mode &&& 0o200 = 0 then throw (.permissionDenied dir)

/-- What can be said against settings before anything is done. -/
def Settings.check (d : Disk) (s : Settings) : Except Failure Unit := do
  if !d.isDir s.baseDir then throw (.invalidPath s.baseDir)
  s.excludePatterns.forM fun pattern =>
    match Glob.read? pattern with
    | .ok _ => .ok ()
    | .error f => .error (.globPattern f)
  SettingsLayer.checkFilter "do_not_follow" none s.doNotFollow
  SettingsLayer.checkFilter "include_only" none s.includeOnly
  if s.maxDepth = some 0 then throw (.config .depthTooSmall)
  if s.effectiveModuleSystems.isEmpty then throw (.config .nothingToExtract)
  s.rulesFile.forM fun file => if d.isFile file then .ok () else .error (.configNotFound file)
  s.outputFile.forM (checkOutput d)

/-- The layer of the files: of the one that was asked for, or of the first one that is there. -/
def Settings.fileLayer (w : Surroundings) (asked : Option Path) : Except Failure SettingsLayer :=
  match asked with
  | some file => SettingsSource.loadFile w file
  | none => (SettingsFile.readFirst w.disk w.environment.settingsLocations).map (·.getD {})

/-- What the names of the variables start with. -/
def Settings.variableStart : String := "CRUISER"

/-- The settings that files, environment and arguments make up together. -/
def Settings.layered (w : Surroundings) (start : String) (a : SettingArguments) :
    Except Failure Settings := do
  let files ← fileLayer w a.config
  let layer ← (SettingsSource.environment start).loadOver w (files.laidOver {})
  let layer ← (SettingsSource.arguments a).loadOver w layer
  return layer.toSettings

/-- The settings of a run. -/
def Settings.load (w : Surroundings) (start : String) (a : SettingArguments) : Except Failure Settings := do
  let s ← layered w start a
  s.check w.disk
  return s

end ImportSurvey
