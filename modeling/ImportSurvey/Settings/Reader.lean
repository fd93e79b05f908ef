import ImportSurvey.Settings.Basic
import ImportSurvey.Datum.Decode
import ImportSurvey.Json.Reader
import ImportSurvey.Toml.Document
import ImportSurvey.Failure

/-
  Layers of settings as texts, and what is refused in them at once.

  A settings file may hold other keys, which are left alone.  Reading a file checks what can be checked
  without the disk, so that a fault is reported with the file it stands in.
-/
namespace ImportSurvey.SettingsLayer

open Datum

/-- The keys of a settings file. -/
def fields : List String :=
  ["extends", "base_dir", "exclude_patterns", "max_depth", "do_not_follow", "include_only",
    "output_format", "output_file", "parallel", "quiet", "verbose", "use_colors", "show_progress",
    "module_systems", "ts_pre_compilation_deps", "exotic_require_strings", "rules_file", "validate"]

def form (format : Format) : RecordForm SettingsLayer where
  name := "PartialSettings"
  fields := fields
  optional := ["extends"]
  strict := false
  put l field d :=
    let path : Decode (Option Path) := (decodeOption (decodePath format) d).map (·.map Path.mk)
    let text : Decode (Option String) := decodeOption (decodeString format) d
    let flag : Decode (Option Bool) := decodeOption (decodeBool format) d
    let texts : Decode (Option (List String)) :=
      decodeOption (decodeList format (decodeString format)) d
    match field with
    | "extends" => path.map fun v => { l with «extends» := v }
    | "base_dir" => path.map fun v => { l with baseDir := v }
    | "exclude_patterns" => texts.map fun v => { l with excludePatterns := v }
    | "max_depth" => (decodeOption (decodeCount format) d).map fun v => { l with maxDepth := v }
    | "do_not_follow" => text.map fun v => { l with doNotFollow := v }
    | "include_only" => text.map fun v => { l with includeOnly := v }
    | "output_format" => (decodeOption (decodeName format OutputFormat.names) d).map fun v =>
        { l with outputFormat := v }
    | "output_file" => path.map fun v => { l with outputFile := v }
    | "parallel" => flag.map fun v => { l with parallel := v }
    | "quiet" => flag.map fun v => { l with quiet := v }
    | "verbose" => flag.map fun v => { l with verbose := v }
    | "use_colors" => flag.map fun v => { l with useColors := v }
    | "show_progress" => flag.map fun v => { l with showProgress := v }
    | "module_systems" => (decodeOption (decodeList format (decodeName format ModuleSystem.names)) d).map
        fun v => { l with moduleSystems := v }
    | "ts_pre_compilation_deps" => flag.map fun v => { l with tsPreCompilationDeps := v }
    | "exotic_require_strings" => texts.map fun v => { l with exoticRequireStrings := v }
    | "rules_file" => path.map fun v => { l with rulesFile := v }
    | _ => flag.map fun v => { l with validate := v }

def decode (format : Format) (d : Datum) : Decode SettingsLayer :=
  (decodeRecord format (form format) {} d).map (·.1)

/-! ## Checks -/

def checkPath (key : String) (file : Path) : Option Path → Except Failure Unit
  | some p => if p.text.isEmpty then .error (.config (.emptyPath key file)) else .ok ()
  | none => .ok ()

def checkExclude (file : Path) (pattern : String) : Except Failure Unit :=
  if pattern.isEmpty then .error (.config (.emptyExclude file))
  else
    match Glob.read? pattern with
    | .ok _ => .ok ()
    | .error f => .error (.config (.badExclude pattern file f))

def checkFilter (field : String) (file : Option Path) : Option String → Except Failure Unit
  | none => .ok ()
  | some pattern =>
    match Regex.read? pattern with
    | .ok _ => .ok ()
    | .error f => .error (.config (.badFilter field pattern file f))

/-- What can be said against a layer that was read from `file`. -/
def check (l : SettingsLayer) (file : Path) : Except Failure Unit := do
  checkPath "extends" file l.extends
  checkPath "base_dir" file l.baseDir
  checkPath "output_file" file l.outputFile
  checkPath "rules_file" file l.rulesFile
  (l.excludePatterns.getD []).forM (checkExclude file)
  if l.maxDepth = some 0 then throw (.config (.zeroDepth file))
  checkFilter "do_not_follow" (some file) l.doNotFollow
  checkFilter "include_only" (some file) l.includeOnly
  if (l.exoticRequireStrings.getD []).any fun n => (Unicode.trim n).isEmpty then
    throw (.config (.blankExotic file))

/-- The layer in the text of a settings file. -/
def ofText (text : String) (file : Path) : Except Failure SettingsLayer :=
  match Toml.read? text with
  | none => .error (.configParse file .malformed)
  | some d =>
    match decode .toml d with
    | .error f => .error (.configParse file f)
    | .ok l => (l.check file).map fun _ => l

end ImportSurvey.SettingsLayer
