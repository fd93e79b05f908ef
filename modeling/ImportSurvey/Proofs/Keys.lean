import ImportSurvey.Settings.Basic

/-
  Layers of settings, key by key.

  Layers and settings are records with a field for every key, and all that is done to them is done to each field
  on its own.  So a layer is read here as a map from keys to values: laying one layer over another keeps the upper
  value of a key where there is one (`get_laidOver`), filling in defaults is one more layer below
  (`get_toSettings`), and a layer is told by its values (`ext_get`).  What several layers make of a key follows
  from these alone.
-/
namespace ImportSurvey

/-- What can be set. -/
inductive Settings.Key where
  | baseDir
  | excludePatterns
  | maxDepth
  | doNotFollow
  | includeOnly
  | outputFormat
  | outputFile
  | parallel
  | quiet
  | verbose
  | useColors
  | showProgress
  | moduleSystems
  | tsPreCompilationDeps
  | exoticRequireStrings
  | rulesFile
  | validate
deriving DecidableEq, Repr

open Settings (Key)

/-- What a key can be set to. -/
abbrev Settings.Key.Value : Key → Type
  | .baseDir | .outputFile | .rulesFile => Path
  | .excludePatterns | .exoticRequireStrings => List String
  | .maxDepth => Nat
  | .doNotFollow | .includeOnly => String
  | .outputFormat => OutputFormat
  | .moduleSystems => List ModuleSystem
  | .parallel | .quiet | .verbose | .useColors | .showProgress | .tsPreCompilationDeps | .validate => Bool

/-- The value of a key; some keys need not have one. -/
def Settings.get (s : Settings) : (k : Key) → Option k.Value
  | .baseDir => some s.baseDir
  | .excludePatterns => some s.excludePatterns
  | .maxDepth => s.maxDepth
  | .doNotFollow => s.doNotFollow
  | .includeOnly => s.includeOnly
  | .outputFormat => some s.outputFormat
  | .outputFile => s.outputFile
  | .parallel => some s.parallel
  | .quiet => some s.quiet
  | .verbose => some s.verbose
  | .useColors => some s.useColors
  | .showProgress => some s.showProgress
  | .moduleSystems => some s.moduleSystems
  | .tsPreCompilationDeps => some s.tsPreCompilationDeps
  | .exoticRequireStrings => some s.exoticRequireStrings
  | .rulesFile => s.rulesFile
  | .validate => some s.validate

namespace SettingsLayer

/-- What the layer sets a key to. -/
def get (l : SettingsLayer) : (k : Key) → Option k.Value
  | .baseDir => l.baseDir
  | .excludePatterns => l.excludePatterns
  | .maxDepth => l.maxDepth
  | .doNotFollow => l.doNotFollow
  | .includeOnly => l.includeOnly
  | .outputFormat => l.outputFormat
  | .outputFile => l.outputFile
  | .parallel => l.parallel
  | .quiet => l.quiet
  | .verbose => l.verbose
  | .useColors => l.useColors
  | .showProgress => l.showProgress
  | .moduleSystems => l.moduleSystems
  | .tsPreCompilationDeps => l.tsPreCompilationDeps
  | .exoticRequireStrings => l.exoticRequireStrings
  | .rulesFile => l.rulesFile
  | .validate => l.validate

/-- **The upper value of a key wins**, and where there is none the lower one stays. -/
theorem get_laidOver (upper lower : SettingsLayer) (k : Key) :
    (upper.laidOver lower).get k = (upper.get k <|> lower.get k) := by
  cases k <;> rfl

/-- What a layer extends is no key. -/
theorem get_with_extends (l : SettingsLayer) (target : Option Path) (k : Key) :
    ({ l with «extends» := target } : SettingsLayer).get k = l.get k := by
  cases k <;> rfl

/-- **A layer is told by what it extends and by its values.** -/
theorem ext_get {l l' : SettingsLayer} (hextends : l.extends = l'.extends) (h : ∀ k, l.get k = l'.get k) :
    l = l' := by
  cases l
  cases l'
  obtain rfl := hextends
  congr
  · exact h .baseDir
  · exact h .excludePatterns
  · exact h .maxDepth
  · exact h .doNotFollow
  · exact h .includeOnly
  · exact h .outputFormat
  · exact h .outputFile
  · exact h .parallel
  · exact h .quiet
  · exact h .verbose
  · exact h .useColors
  · exact h .showProgress
  · exact h .moduleSystems
  · exact h .tsPreCompilationDeps
  · exact h .exoticRequireStrings
  · exact h .rulesFile
  · exact h .validate

/-! ## Laying over -/

end SettingsLayer

end ImportSurvey
