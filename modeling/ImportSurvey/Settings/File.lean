import ImportSurvey.Settings.Reader
import ImportSurvey.Disk.Basic

/-
  Settings files on a disk, and the files they extend.

  A file names the file it extends relative to its own directory, so a chain of files is followed from
  path to path.  A file is known by its canonical path, or by the path itself where there is none, and a
  chain that comes back to one it has passed is refused.  So no path leads to two files of a chain, and as
  there are only so many texts that the system takes as a path, a chain ends.
-/
namespace ImportSurvey.SettingsFile

/-- The name of the settings file in a directory. -/
def defaultName : String := ".cruiser.toml"

/-- The layer of one file alone. -/
def readAlone (d : Disk) (file : Path) : Except Failure SettingsLayer :=
  if !d.pathExists file then .error (.configNotFound file)
  else
    match d.readText file with
    | .error f => .error (.configRead file f)
    | .ok text => SettingsLayer.ofText text file

/-- The path of the file that `file` extends. -/
def extended (file : Path) (target : Path) : Path :=
  match file.parent with
  | some dir => dir.join target.text
  | none => target

/-- What stands for a file in a chain. -/
def chainKey (d : Disk) (file : Path) : Path :=
  match d.canonicalize file with
  | .ok p => p
  | .error _ => file

/-- The layer of a file, laid over those it extends; `chain` holds the files passed before.  The fuel
bounds the length of the chain. -/
def readChain (d : Disk) (file : Path) (chain : List Path) : Nat → Except Failure SettingsLayer
  | 0 => .error (.config (.extendsItself file chain))
  | fuel + 1 => do
    let key := chainKey d file
    if chain.any key.same then throw (.config (.extendsItself file chain))
    let layer ← readAlone d file
    match layer.extends with
    | none => return layer
    | some target =>
      let base ← readChain d (extended file target) (chain ++ [key]) fuel
      return { layer with «extends» := none }.laidOver base

/-- There are no more texts of less than `size` bytes. -/
def textCount (size : Nat) : Nat := Nat.pow 256 size

/-- There are no more paths that the system takes, which have 4095 bytes at most. -/
def pathCount : Nat := textCount 4096

/-- The layer of a file with all that it extends. -/
def read (d : Disk) (file : Path) : Except Failure SettingsLayer := readChain d file [] (pathCount + 1)

/-- The layer of the first of several files that is there. -/
def readFirst (d : Disk) : List Path → Except Failure (Option SettingsLayer)
  | [] => .ok none
  | file :: rest => if d.isFile file then (read d file).map some else readFirst d rest

/-! ## A file to start from -/

/-- A new settings file has every setting, commented out. -/
def templateLines : List String := [
  "# cruiser configuration",
  "#",
  "# Settings here are overridden by CRUISER_* environment variables, which are",
  "# in turn overridden by command-line arguments. Uncomment what you need.",
  "",
  "# Another config file to start from; keys set here win.",
  "# extends = \"../.cruiser.toml\"",
  "",
  "# Directory to cruise. Module ids in reports are relative to it.",
  "# base_dir = \".\"",
  "",
  "# Glob patterns or plain directory names left out of discovery.",
  "# exclude_patterns = [\"node_modules\", \".git\", \"dist\", \"build\", \"coverage\"]",
  "",
  "# Maximum directory depth; files directly in base_dir are at depth 1.",
  "# max_depth = 10",
  "",
  "# Regex over module ids: matching modules are not parsed, they only show up",
  "# as unfollowed leaves when something depends on them.",
  "# do_not_follow = \"^src/vendor/\"",
  "",
  "# Regex over module ids: only matching modules, and dependencies between",
  "# them, end up in the graph.",
  "# include_only = \"^src/\"",
  "",
  "# Output format: \"text\", \"json\" or \"csv\".",
  "# output_format = \"text\"",
  "",
  "# Write the report here instead of stdout.",
  "# output_file = \"cruise-report.json\"",
  "",
  "# Parse files on all cores.",
  "# parallel = true",
  "",
  "# quiet = false",
  "# verbose = false",
  "# use_colors = true",
  "# show_progress = true",
  "",
  "# Module systems to extract: \"es6\", \"cjs\", \"amd\", \"tsType\".",
  "# module_systems = [\"es6\", \"cjs\", \"amd\", \"tsType\"]",
  "",
  "# Keep type-only imports that disappear after TypeScript compilation.",
  "# ts_pre_compilation_deps = true",
  "",
  "# Functions that behave like require, e.g. \"want\" or \"window.require\".",
  "# exotic_require_strings = []",
  "",
  "# Rule set to validate against (.json, otherwise TOML).",
  "# rules_file = \".cruiser-rules.json\"",
  "",
  "# Set to false to report the graph without validating it.",
  "# validate = true"]

/-- The text of a new settings file. -/
def template : String := .join (templateLines.map (· ++ "\n"))

/-- Writes the template, with the directories above it. -/
def create (d : Disk) (file : Path) : Except Failure Disk := do
  let d ← match file.parent with
    | some dir =>
      if !dir.text.isEmpty && !d.pathExists dir then
        match d.makeDirs dir with
        | .ok d => pure d
        | .error f => throw (.io f)
      else pure d
    | none => pure d
  match d.writeText file template with
  | .ok d => return d
  | .error f => throw (.io f)

end ImportSurvey.SettingsFile
