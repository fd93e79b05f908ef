import ImportSurvey.Report.Basic
import ImportSurvey.Graph.Json

/-
  Results as JSON, in both directions.
-/
namespace ImportSurvey

open Datum

/-! ## Writing -/

def Violation.toJson (v : Violation) : Json :=
  .obj [("from", .str v.from), ("to", .str v.to), ("rule", v.rule.toJson)]

def SurveyOptions.toJson (o : SurveyOptions) : Json := .obj <| Json.present [
  ("baseDir", some (.str o.baseDir.text)),
  ("moduleSystems", some (Json.strings (o.moduleSystems.map ModuleSystem.name))),
  ("tsPreCompilationDeps", some (.bool o.tsPreCompilationDeps)),
  ("exoticRequireStrings", some (Json.strings o.exoticRequireStrings)),
  ("exclude", some (Json.strings o.exclude)),
  ("maxDepth", o.maxDepth.map fun n => .int n),
  ("doNotFollow", o.doNotFollow.map .str),
  ("includeOnly", o.includeOnly.map .str),
  ("rulesFile", o.rulesFile.map fun p => .str p.text),
  ("validate", some (.bool o.validate))]

def Summary.toJson (s : Summary) : Json := .obj [
  ("violations", .arr (s.violations.map Violation.toJson)),
  ("error", .int s.error),
  ("warn", .int s.warn),
  ("info", .int s.info),
  ("ignore", .int s.ignore),
  ("totalCruised", .int s.totalCruised),
  ("totalDependenciesCruised", .int s.totalDependenciesCruised),
  ("optionsUsed", s.optionsUsed.toJson)]

def Issue.toJson (i : Issue) : Json :=
  .obj [("path", .str i.path.text), ("message", .str i.message), ("severity", .str i.severity.name)]

/-- The members of a result but for the time. -/
def SurveyResult.members (r : SurveyResult) : List (String × Json) := Json.present [
  ("modules", some (.arr (r.modules.map Module.toJson))),
  ("summary", some r.summary.toJson),
  ("issues", if r.issues.isEmpty then none else some (.arr (r.issues.map Issue.toJson)))]

def SurveyResult.toJson (r : SurveyResult) : Json :=
  .obj (r.members ++ [("cruisedAt", .str r.cruisedAt.text)])

/-! ## Reading -/

namespace Violation

def form : RecordForm Violation where
  name := "Violation"
  fields := ["from", "to", "rule"]
  optional := []
  strict := false
  put v field d :=
    match field with
    | "from" => (decodeString .json d).map fun s => { v with «from» := s }
    | "to" => (decodeString .json d).map fun s => { v with «to» := s }
    | _ => (RuleViolation.decode d).map fun r => { v with rule := r }

def decode (d : Datum) : Decode Violation := decodeWith form ⟨"", "", default⟩ form.fields d

end Violation

namespace SurveyOptions

def form : RecordForm SurveyOptions where
  name := "OptionsUsed"
  fields := ["baseDir", "moduleSystems", "tsPreCompilationDeps", "exoticRequireStrings", "exclude",
    "maxDepth", "doNotFollow", "includeOnly", "rulesFile", "validate"]
  optional := ["maxDepth", "doNotFollow", "includeOnly", "rulesFile"]
  strict := false
  put o field d :=
    let text : Decode (Option String) := decodeOption (decodeString .json) d
    let texts : Decode (List String) := decodeList .json (decodeString .json) d
    match field with
    | "baseDir" => (decodePath .json d).map fun v => { o with baseDir := ⟨v⟩ }
    | "moduleSystems" => (decodeList .json (decodeName .json ModuleSystem.names) d).map fun v =>
        { o with moduleSystems := v }
    | "tsPreCompilationDeps" => (decodeBool .json d).map fun v => { o with tsPreCompilationDeps := v }
    | "exoticRequireStrings" => texts.map fun v => { o with exoticRequireStrings := v }
    | "exclude" => texts.map fun v => { o with exclude := v }
    | "maxDepth" => (decodeOption (decodeCount .json) d).map fun v => { o with maxDepth := v }
    | "doNotFollow" => text.map fun v => { o with doNotFollow := v }
    | "includeOnly" => text.map fun v => { o with includeOnly := v }
    | "rulesFile" => (decodeOption (decodePath .json) d).map fun v => { o with rulesFile := v.map Path.mk }
    | _ => (decodeBool .json d).map fun v => { o with validate := v }

def decode (d : Datum) : Decode SurveyOptions :=
  decodeWith form {} (form.fields.filter fun f => !form.optional.contains f) d

end SurveyOptions

namespace Summary

def form : RecordForm Summary where
  name := "Summary"
  fields := ["violations", "error", "warn", "info", "ignore", "totalCruised",
    "totalDependenciesCruised", "optionsUsed"]
  optional := []
  strict := false
  put s field d :=
    let count : Decode Nat := decodeCount .json d
    match field with
    | "violations" => (decodeList .json Violation.decode d).map fun v => { s with violations := v }
    | "error" => count.map fun n => { s with error := n }
    | "warn" => count.map fun n => { s with warn := n }
    | "info" => count.map fun n => { s with info := n }
    | "ignore" => count.map fun n => { s with ignore := n }
    | "totalCruised" => count.map fun n => { s with totalCruised := n }
    | "totalDependenciesCruised" => count.map fun n => { s with totalDependenciesCruised := n }
    | _ => (SurveyOptions.decode d).map fun o => { s with optionsUsed := o }

def decode (d : Datum) : Decode Summary := decodeWith form {} form.fields d

end Summary

/-- The grades of an issue by their names. -/
def Gravity.names : List (String × Gravity) :=
  [Gravity.warning, .error, .critical].map fun g => (g.name, g)

namespace Issue

def form : RecordForm Issue where
  name := "CruiseIssue"
  fields := ["path", "message", "severity"]
  optional := []
  strict := false
  put i field d :=
    match field with
    | "path" => (decodePath .json d).map fun v => { i with path := ⟨v⟩ }
    | "message" => (decodeString .json d).map fun v => { i with message := v }
    | _ => (decodeName .json Gravity.names d).map fun v => { i with severity := v }

def decode (d : Datum) : Decode Issue := decodeWith form ⟨⟨""⟩, "", .warning⟩ form.fields d

end Issue

namespace SurveyResult

def form : RecordForm SurveyResult where
  name := "CruiseResult"
  fields := ["modules", "summary", "issues", "cruisedAt"]
  optional := ["issues"]
  strict := false
  put r field d :=
    match field with
    | "modules" => (decodeList .json Module.decode d).map fun v => { r with modules := v }
    | "summary" => (Summary.decode d).map fun v => { r with summary := v }
    | "issues" => (decodeList .json Issue.decode d).map fun v => { r with issues := v }
    | _ => (Timestamp.decode d).map fun v => { r with cruisedAt := v }

def decode (d : Datum) : Decode SurveyResult :=
  decodeWith form ⟨[], {}, [], default, 0⟩ ["modules", "summary", "cruisedAt"] d

/-- The result in the text of a JSON report. -/
def ofText (text : String) : Decode SurveyResult := do
  let (d, atEnd) := Json.readDatum text
  let r ← decode d
  if atEnd then return r else throw .malformed

end SurveyResult

end ImportSurvey
