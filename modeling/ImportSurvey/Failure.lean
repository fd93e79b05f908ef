import ImportSurvey.Path
import ImportSurvey.Disk.Fault
import ImportSurvey.Datum.Decode
import ImportSurvey.Glob
import ImportSurvey.Regex.Reader

/-
  Everything that can go wrong, by cause.

  A failure carries what is known of its cause; `Failure.message` is its wording for a log and
  `Failure.userMessage` the one for a person at a terminal.  How grave a failure is depends on its kind
  alone, and the exit status of a command on how grave its failure is.
-/
namespace ImportSurvey

/-- What is wrong with settings. -/
inductive ConfigFault where
  | emptyPath (key : String) (file : Path)
  | emptyExclude (file : Path)
  | badExclude (pattern : String) (file : Path) (fault : Glob.Fault)
  | zeroDepth (file : Path)
  | badFilter (field pattern : String) (file : Option Path) (fault : Regex.Fault)
  | blankExotic (file : Path)
  | notANumber (variableName value : String)
  | notAFlag (variableName value : String)
  | extendsItself (file : Path) (chain : List Path)
  | depthTooSmall
  | nothingToExtract
  | other (text : String)
deriving DecidableEq, Repr

def ConfigFault.message : ConfigFault → String
  | .emptyPath key file => "Invalid empty " ++ key ++ " in config file: " ++ file.text
  | .emptyExclude file => "Empty exclude pattern in config file: " ++ file.text
  | .badExclude pattern file fault =>
    "Invalid exclude pattern '" ++ pattern ++ "' in config file: " ++ file.text ++ ": " ++ fault.message
  | .zeroDepth file => "Invalid max_depth 0 in config file: " ++ file.text ++ ". Must be at least 1."
  | .badFilter field pattern (some file) fault =>
    "Invalid " ++ field ++ " regex '" ++ pattern ++ "' in config file: " ++ file.text ++ ": " ++
      fault.message pattern
  | .badFilter field pattern none fault =>
    "Invalid " ++ field ++ " regex '" ++ pattern ++ "': " ++ fault.message pattern
  | .blankExotic file => "Empty entry in exotic_require_strings in config file: " ++ file.text
  | .notANumber name value => name ++ " must be a number, got '" ++ value ++ "'"
  | .notAFlag name value => name ++ " must be true or false, got '" ++ value ++ "'"
  | .extendsItself file chain =>
    "Config file " ++ file.text ++ " extends itself through " ++
      " -> ".intercalate (chain.map Path.text)
  | .depthTooSmall => "Max depth must be at least 1"
  | .nothingToExtract =>
    "No module systems left to extract; check module_systems and ts_pre_compilation_deps"
  | .other text => text

/-- What is wrong with a rule that could be read. -/
inductive RuleFault where
  | orphanWithEdge
  | reachableWithEdge
  | badPattern (side field pattern : String) (fault : Regex.Fault)
  | nameTaken
  | other (text : String)
deriving DecidableEq, Repr

def RuleFault.message : RuleFault → String
  | .orphanWithEdge => "from.orphan cannot be combined with dependency predicates in 'to'"
  | .reachableWithEdge => "to.reachable cannot be combined with dependency predicates in 'to'"
  | .badPattern side field pattern fault =>
    side ++ "." ++ field ++ " is not a valid regex: " ++ fault.message pattern
  | .nameTaken => "rules with to.reachable must have unique names"
  | .other text => text

inductive Failure where
  | io (fault : Disk.Fault)
  | jsonParse (file : Path) (fault : ReadFault)
  | config (fault : ConfigFault)
  | permissionDenied (path : Path)
  | invalidPath (path : Path)
  | csv (fault : Disk.Fault)
  | globPattern (fault : Glob.Fault)
  | configNotFound (path : Path)
  | configRead (path : Path) (fault : Disk.Fault)
  | configParse (path : Path) (fault : ReadFault)
  | ruleSetParse (path : Path) (fault : ReadFault)
  | malformedRule (rule : String) (fault : RuleFault)
  | unknownModuleSystem (name : String)
  | invalidOutputFormat (name : String)
  | outputWrite (path : Path) (fault : Disk.Fault)
  | stdoutWrite (fault : Disk.Fault)
  | analysis (text : String)
  | traversal (path : Path) (text : String)
  | jsonSerialize (fault : ReadFault)
  | outputDirectoryNotFound (path : Path)
deriving DecidableEq, Repr

/-- How grave a failure is. -/
inductive Gravity where
  /-- the survey goes on without the thing that failed -/
  | warning
  /-- the step failed -/
  | error
  /-- nothing can be done -/
  | critical
deriving DecidableEq, Repr

def Gravity.label : Gravity → String
  | .warning => "WARNING"
  | .error => "ERROR"
  | .critical => "CRITICAL"

def Gravity.name : Gravity → String
  | .warning => "warning"
  | .error => "error"
  | .critical => "critical"

/-- The exit status of a command that failed this gravely. -/
def Gravity.exitCode : Gravity → Nat
  | .warning => 0
  | .error => 1
  | .critical => 2

namespace Failure

def gravity : Failure → Gravity
  | .permissionDenied _ | .jsonParse .. => .warning
  | .config _ | .configNotFound _ | .configRead .. | .configParse .. | .globPattern _
  | .ruleSetParse .. | .malformedRule .. | .unknownModuleSystem _ | .invalidOutputFormat _
  | .stdoutWrite _ | .outputDirectoryNotFound _ => .critical
  | .io _ | .invalidPath _ | .csv _ | .outputWrite .. | .analysis _ | .traversal ..
  | .jsonSerialize _ => .error

def exitCode (f : Failure) : Nat := f.gravity.exitCode

def message : Failure → String
  | .io f => "IO error: " ++ f.message
  | .jsonParse file f => "JSON parsing error in " ++ file.text ++ ": " ++ f.message
  | .config f => "Configuration error: " ++ f.message
  | .permissionDenied p => "Permission denied accessing " ++ p.text
  | .invalidPath p => "Invalid path: " ++ p.text
  | .csv f => "CSV error: " ++ f.message
  | .globPattern f => "Glob pattern error: " ++ f.message
  | .configNotFound p => "Configuration file not found at " ++ p.text
  | .configRead p f => "Error reading configuration file " ++ p.text ++ ": " ++ f.message
  | .configParse p f => "Error parsing configuration file " ++ p.text ++ ": " ++ f.message
  | .ruleSetParse p f => "Error parsing rule set " ++ p.text ++ ": " ++ f.message
  | .malformedRule r f => "Malformed rule '" ++ r ++ "': " ++ f.message
  | .unknownModuleSystem n => "Unknown module system: " ++ n
  | .invalidOutputFormat n => "Invalid output format: " ++ n
  | .outputWrite p f => "Error writing to output file " ++ p.text ++ ": " ++ f.message
  | .stdoutWrite f => "Error writing to stdout: " ++ f.message
  | .analysis t => "Analysis error: " ++ t
  | .traversal p t => "Directory traversal error for " ++ p.text ++ ": " ++ t
  | .jsonSerialize f => "JSON serialization error: " ++ f.message
  | .outputDirectoryNotFound p => "Output directory not found: " ++ p.text

/-- The wording for a person, with a hint where there is one. -/
def userMessage : Failure → String
  | .permissionDenied p =>
    "Cannot access '" ++ p.text ++ "' due to permission denied. Check file permissions."
  | .jsonParse file f =>
    "Invalid JSON in '" ++ file.text ++ "': " ++ f.message ++ ". Please check the file format."
  | .io f => "File system error: " ++ f.message ++ ". Check disk space and permissions."
  | .invalidPath p => "Invalid path: '" ++ p.text ++ "'. Please provide a valid directory path."
  | .configNotFound p => "Configuration file not found at '" ++ p.text ++
      "'. Create one with --init or use command line options."
  | .ruleSetParse p f => "Could not load rules from '" ++ p.text ++ "': " ++ f.message
  | .malformedRule r f =>
    "Rule '" ++ r ++ "' is malformed: " ++ f.message ++ ". Fix the rule set and run again."
  | .unknownModuleSystem n => "Unknown module system '" ++ n ++
      "'. Supported: es6, cjs, amd, tsType, exoticRequire."
  | .invalidOutputFormat n => "Unknown output format '" ++ n ++ "'. Use text, json or csv."
  | .outputDirectoryNotFound p => "Output directory '" ++ p.text ++
      "' does not exist. Please create the directory or specify a different output path."
  | f => f.message

/-- A failure of the disk while working on a file. -/
def ofFile (path : Path) (f : Disk.Fault) : Failure :=
  if f.kind = .permissionDenied then .permissionDenied path else .traversal path f.message

/-- A failure of the disk with a word on what was being done. -/
def inContext (context : String) (f : Disk.Fault) : Failure := .analysis (context ++ ": " ++ f.message)

/-- What is left of a failure once it has been noted: only critical ones are handed on. -/
def handedBack (f : Failure) : Option Failure := if f.gravity = .critical then some f else none

end Failure

end ImportSurvey
