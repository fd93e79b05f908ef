import ImportSurvey.Arguments.Basic

/-
  Command lines, word by word.

  An option with a value takes it from its own word (`--path=x`, `-px`, `-p=x`) or from the next one.
  In the second case the value is looked at only when the next option comes or the line ends; so a word
  that is no option at all is reported before a bad value in front of it.
-/
namespace ImportSurvey.Arguments

/-- The options; the last two ask for a text and end everything. -/
inductive Key where
  | path | rules | exclude | maxDepth | doNotFollow | includeOnly | moduleSystems
  | noTsPreCompilationDeps | exoticRequire | noValidate | output | outputFile | quiet | verbose
  | config | noParallel | noColors | noProgress | init | help | version
deriving DecidableEq, Repr

/-- Why a command line is not carried out. -/
inductive UsageFault where
  | unknownArgument
  /-- a value is missing or not among those possible -/
  | invalidValue
  /-- a value cannot be read -/
  | valueValidation
  /-- an option was given twice -/
  | argumentConflict
  /-- a switch was given a value -/
  | tooManyValues
  | displayHelp
  | displayVersion
deriving DecidableEq, Repr

def UsageFault.name : UsageFault → String
  | .unknownArgument => "UnknownArgument"
  | .invalidValue => "InvalidValue"
  | .valueValidation => "ValueValidation"
  | .argumentConflict => "ArgumentConflict"
  | .tooManyValues => "TooManyValues"
  | .displayHelp => "DisplayHelp"
  | .displayVersion => "DisplayVersion"

/-- Asking for a text is no failure. -/
def UsageFault.exitCode : UsageFault → Nat
  | .displayHelp | .displayVersion => 0
  | _ => 2

/-- The line that names the program and its version. -/
def versionLine : String := "cruiser 0.1.0\n"

namespace Key

/-- The options by their long names. -/
def longNames : List (String × Key) := [
  ("path", .path), ("rules", .rules), ("exclude", .exclude), ("max-depth", .maxDepth),
  ("do-not-follow", .doNotFollow), ("include-only", .includeOnly), ("module-systems", .moduleSystems),
  ("no-ts-pre-compilation-deps", .noTsPreCompilationDeps), ("exotic-require", .exoticRequire),
  ("no-validate", .noValidate), ("output", .output), ("output-file", .outputFile), ("quiet", .quiet),
  ("verbose", .verbose), ("config", .config), ("no-parallel", .noParallel), ("no-colors", .noColors),
  ("no-progress", .noProgress), ("init", .init), ("help", .help), ("version", .version)]

/-- The options by their letters. -/
def letters : List (Char × Key) := [
  ('p', .path), ('r', .rules), ('e', .exclude), ('o', .output), ('q', .quiet), ('v', .verbose),
  ('c', .config), ('h', .help), ('V', .version)]

def takesValue : Key → Bool
  | .path | .rules | .exclude | .maxDepth | .doNotFollow | .includeOnly | .moduleSystems
  | .exoticRequire | .output | .outputFile | .config => true
  | _ => false

/-- Options that may be given several times. -/
def repeats : Key → Bool
  | .exclude | .moduleSystems | .exoticRequire => true
  | _ => false

/-- What the value of an option stands for. -/
def placeholder : Key → String
  | .path => "PATH"
  | .rules | .outputFile | .config => "FILE"
  | .exclude => "PATTERN"
  | .maxDepth => "DEPTH"
  | .doNotFollow | .includeOnly => "REGEX"
  | .moduleSystems => "SYSTEMS"
  | .exoticRequire => "NAME"
  | .output => "FORMAT"
  | _ => ""

def meaning : Key → String
  | .path => "Directory to cruise (defaults to the current directory)"
  | .rules => "Rule set file to validate against (.json, otherwise TOML)"
  | .exclude => "Glob patterns or directory names to exclude (repeatable)"
  | .maxDepth => "Maximum directory depth to traverse"
  | .doNotFollow => "Regex over module ids; matching modules are not parsed"
  | .includeOnly => "Regex over module ids; only matching modules are cruised"
  | .moduleSystems => "Module systems to extract, comma separated: es6, cjs, amd, tsType"
  | .noTsPreCompilationDeps => "Leave out dependencies that only exist before TypeScript compilation"
  | .exoticRequire => "Function name that behaves like require (repeatable)"
  | .noValidate => "Report the dependency graph without validating it"
  | .output => "Output format: text, json or csv"
  | .outputFile => "File to write output to (uses stdout if not specified)"
  | .quiet => "Suppress non-essential output (only show results)"
  | .verbose => "Show detailed progress and debug logging"
  | .config => "Path to configuration file (defaults to .cruiser.toml in the current directory)"
  | .noParallel => "Disable parallel processing"
  | .noColors => "Disable colored output"
  | .noProgress => "Disable progress bars (useful for CI environments)"
  | .init => "Create a default configuration file (.cruiser.toml) in the current directory"
  | .help => "Print help"
  | .version => "Print version"

end Key

/-- The line about one option. -/
def helpLine (option : String × Key) : String :=
  let letter := match Key.letters.find? (·.2 = option.2) with
    | some (c, _) => "-" ++ c.toString ++ ", "
    | none => "    "
  let value := if option.2.takesValue then " <" ++ option.2.placeholder ++ ">" else ""
  let front := "  " ++ letter ++ "--" ++ option.1 ++ value
  front ++ .ofList (List.replicate (38 - front.length) ' ') ++ option.2.meaning ++ "\n"

/-- What the program says about itself. -/
def helpText : String :=
  "Cruise JavaScript/TypeScript module dependencies and validate them against rules\n\n" ++
    "Usage: cruiser [OPTIONS]\n\nOptions:\n" ++ .join (Key.longNames.map helpLine)

def pathValue (value : String) : Except UsageFault Path :=
  if value.isEmpty then .error .invalidValue else .ok ⟨value⟩

def countValue (value : String) : Except UsageFault Nat :=
  match countOfText? value with
  | some n => .ok n
  | none => .error .valueValidation

def formatValue (value : String) : Except UsageFault OutputFormat :=
  match OutputFormat.names.lookup value with
  | some f => .ok f
  | none => .error .invalidValue

/-- The arguments with one more option. -/
def give (a : Arguments) (key : Key) (value : String) : Except UsageFault Arguments :=
  match key with
  | .path => (pathValue value).map fun p => { a with path := p }
  | .rules => (pathValue value).map fun p => { a with rules := p }
  | .exclude => .ok { a with exclude := a.exclude ++ [value] }
  | .maxDepth => (countValue value).map fun n => { a with maxDepth := n }
  | .doNotFollow => .ok { a with doNotFollow := value }
  | .includeOnly => .ok { a with includeOnly := value }
  | .moduleSystems =>
    .ok { a with moduleSystems := a.moduleSystems ++ (splitCommas value.toList).map String.ofList }
  | .noTsPreCompilationDeps => .ok { a with noTsPreCompilationDeps := true }
  | .exoticRequire => .ok { a with exoticRequire := a.exoticRequire ++ [value] }
  | .noValidate => .ok { a with noValidate := true }
  | .output => (formatValue value).map fun f => { a with output := f }
  | .outputFile => (pathValue value).map fun p => { a with outputFile := p }
  | .quiet => .ok { a with quiet := true }
  | .verbose => .ok { a with verbose := true }
  | .config => (pathValue value).map fun p => { a with config := p }
  | .noParallel => .ok { a with noParallel := true }
  | .noColors => .ok { a with noColors := true }
  | .noProgress => .ok { a with noProgress := true }
  | .init => .ok { a with init := true }
  | .help => .error .displayHelp
  | .version => .error .displayVersion

/-- What has been read of a line. -/
structure State where
  arguments : Arguments := {}
  /-- the options that may be given only once and were -/
  given : List Key := []
  /-- an option that was not settled yet, with its value if that came already -/
  pending : Option (Key × Option String) := none
deriving Repr

namespace State

/-- Puts an option into the arguments. -/
def settle (s : State) (key : Key) (value : String) : Except UsageFault State :=
  if s.given.contains key then .error .argumentConflict
  else do
    let a ← s.arguments.give key value
    return { s with
      arguments := a
      given := if key.repeats then s.given else key :: s.given }

/-- Settles the pending option; it needs its value now. -/
def settlePending (s : State) : Except UsageFault State :=
  match s.pending with
  | none => .ok s
  | some (_, none) => .error .invalidValue
  | some (key, some value) => { s with pending := none }.settle key value

/-- An option that is complete in its own word. -/
def take (s : State) (key : Key) (value : String) : Except UsageFault State := do
  (← s.settlePending).settle key value

/-- An option whose value is the next word. -/
def await (s : State) (key : Key) : Except UsageFault State := do
  let s ← s.settlePending
  return { s with pending := some (key, none) }

/-- Whether the next word is the value of an option, if it is not an option itself. -/
def awaiting? (s : State) : Option Key :=
  match s.pending with
  | some (key, none) => some key
  | _ => none

end State

/-- A word behind two dashes. -/
def readLong (s : State) (body : List Char) : Except UsageFault State :=
  let name := body.takeWhile (· ≠ '=')
  let value := match body.dropWhile (· ≠ '=') with
    | _ :: v => some (String.ofList v)
    | [] => none
  match Key.longNames.lookup (.ofList name) with
  | none => .error .unknownArgument
  | some key =>
    match key.takesValue, value with
    | true, some v => s.take key v
    | true, none => s.await key
    | false, some _ => .error .tooManyValues
    | false, none => s.take key ""

/-- The letters behind one dash: switches, and at the end maybe an option with its value. -/
def readLetters (s : State) : List Char → Except UsageFault State
  | [] => .ok s
  | c :: rest =>
    match Key.letters.lookup c with
    | none => .error .unknownArgument
    | some key =>
      if key.takesValue then
        match rest with
        | [] => s.await key
        | '=' :: value => s.take key (.ofList value)
        | value => s.take key (.ofList value)
      else do readLetters (← s.take key "") rest

/-- One word in front of any `--`. -/
def readWord (s : State) (word : String) : Except UsageFault State :=
  match word.toList with
  | '-' :: '-' :: body => readLong s body
  | '-' :: c :: letters => readLetters s (c :: letters)
  | _ =>
    match s.awaiting? with
    | some key => .ok { s with pending := some (key, some word) }
    | none => .error .unknownArgument

/-- All words; behind `--` none may stand. -/
def readWords (s : State) : List String → Except UsageFault State
  | [] => s.settlePending
  | "--" :: rest => if rest.isEmpty then s.settlePending else .error .unknownArgument
  | word :: rest => do readWords (← readWord s word) rest

/-- The arguments of a command line. -/
def read (words : List String) : Except UsageFault Arguments :=
  (readWords {} words).map (·.arguments)

end ImportSurvey.Arguments
