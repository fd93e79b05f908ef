import ImportSurvey.Rules.Spec
import ImportSurvey.Graph.Json
import ImportSurvey.Toml.Document
import ImportSurvey.Path

/-
  Rule files: a rule set from JSON or TOML text, and the JSON a rule set is written as.

  Names that a rule file may not use are refused with the names that it may.  A file is JSON if its
  extension says so and TOML otherwise.
-/
namespace ImportSurvey

open Datum

/-! ## Reading -/

namespace PathPattern

/-- A string, or a sequence of strings.  The whole datum is read before it is looked at, so a text that
breaks off inside is malformed. -/
def decode (d : Datum) : Decode PathPattern :=
  let neither : Decode PathPattern :=
    .error (.mismatch "data did not match any variant of untagged enum PathPattern")
  match d.complete? with
  | none => .error .malformed
  | some (.str s) => .ok (.one s)
  | some (.arr items) =>
    match items.mapM fun | .str s => some s | _ => none with
    | some ps => .ok (.any ps)
    | none => neither
  | some _ => neither

end PathPattern

namespace FromSpec

def form (format : Format) : RecordForm FromSpec where
  name := "FromMatcher"
  fields := ["path", "pathNot", "orphan"]
  optional := ["path", "pathNot", "orphan"]
  strict := true
  put s field d :=
    match field with
    | "path" => (decodeOption PathPattern.decode d).map fun v => { s with path := v }
    | "pathNot" => (decodeOption PathPattern.decode d).map fun v => { s with pathNot := v }
    | _ => (decodeOption (decodeBool format) d).map fun v => { s with orphan := v }

def decode (format : Format) (d : Datum) : Decode FromSpec :=
  (decodeRecord format (form format) {} d).map (·.1)

end FromSpec

namespace ToSpec

def fields : List String :=
  ["path", "pathNot", "reachable", "dependencyTypes", "dependencyTypesNot", "dynamic", "circular",
    "couldNotResolve", "coreModule"]

def form (format : Format) : RecordForm ToSpec where
  name := "ToMatcher"
  fields := fields
  optional := fields
  strict := true
  put s field d :=
    let flag : Decode (Option Bool) := decodeOption (decodeBool format) d
    let types : Decode (Option (List DependencyType)) :=
      decodeOption (decodeList format (decodeName format DependencyType.names)) d
    match field with
    | "path" => (decodeOption PathPattern.decode d).map fun v => { s with path := v }
    | "pathNot" => (decodeOption PathPattern.decode d).map fun v => { s with pathNot := v }
    | "reachable" => flag.map fun v => { s with reachable := v }
    | "dependencyTypes" => types.map fun v => { s with dependencyTypes := v }
    | "dependencyTypesNot" => types.map fun v => { s with dependencyTypesNot := v }
    | "dynamic" => flag.map fun v => { s with dynamic := v }
    | "circular" => flag.map fun v => { s with circular := v }
    | "couldNotResolve" => flag.map fun v => { s with couldNotResolve := v }
    | _ => flag.map fun v => { s with coreModule := v }

def decode (format : Format) (d : Datum) : Decode ToSpec :=
  (decodeRecord format (form format) {} d).map (·.1)

end ToSpec

namespace RuleSpec

def fields : List String := ["name", "severity", "from", "to", "comment"]

def form (format : Format) : RecordForm RuleSpec where
  name := "RuleConfig"
  fields := fields
  optional := fields
  strict := true
  put s field d :=
    match field with
    | "name" => (decodeString format d).map fun v => { s with name := v }
    | "severity" => (decodeName format Severity.names d).map fun v => { s with severity := v }
    | "from" => (FromSpec.decode format d).map fun v => { s with «from» := v }
    | "to" => (ToSpec.decode format d).map fun v => { s with «to» := v }
    | _ => (decodeOption (decodeString format) d).map fun v => { s with comment := v }

def decode (format : Format) (d : Datum) : Decode RuleSpec :=
  (decodeRecord format (form format) {} d).map (·.1)

end RuleSpec

namespace RuleSetSpec

def fields : List String := ["forbidden", "allowed", "allowedSeverity"]

def form (format : Format) : RecordForm RuleSetSpec where
  name := "RuleSetConfig"
  fields := fields
  optional := fields
  strict := true
  put s field d :=
    match field with
    | "forbidden" =>
      (decodeList format (RuleSpec.decode format) d).map fun v => { s with forbidden := v }
    | "allowed" => (decodeList format (RuleSpec.decode format) d).map fun v => { s with allowed := v }
    | _ => (decodeName format Severity.names d).map fun v => { s with allowedSeverity := v }

def decode (format : Format) (d : Datum) : Decode RuleSetSpec :=
  (decodeRecord format (form format) {} d).map (·.1)

/-- The rule set of a JSON text. -/
def ofJsonText (text : String) : Decode RuleSetSpec := do
  let (d, atEnd) := Json.readDatum text
  let spec ← decode .json d
  if atEnd then return spec else throw .malformed

/-- The rule set of a TOML text. -/
def ofTomlText (text : String) : Decode RuleSetSpec :=
  match Toml.read? text with
  | some d => decode .toml d
  | none => .error .malformed

/-- Whether a rule file holds JSON, by its name. -/
def isJsonFile (file : Path) : Bool :=
  match file.extension with
  | some e => e.map Char.toLower = "json"
  | none => false

/-- The rule set of the text of a rule file. -/
def ofText (text : String) (file : Path) : Decode RuleSetSpec :=
  if isJsonFile file then ofJsonText text else ofTomlText text

end RuleSetSpec

/-! ## Writing -/

def PathPattern.toJson : PathPattern → Json
  | .one p => .str p
  | .any ps => Json.strings ps

def FromSpec.toJson (s : FromSpec) : Json := .obj <| Json.present [
  ("path", s.path.map PathPattern.toJson),
  ("pathNot", s.pathNot.map PathPattern.toJson),
  ("orphan", s.orphan.map .bool)]

def ToSpec.toJson (s : ToSpec) : Json :=
  let types (ts : List DependencyType) : Json := Json.strings (ts.map DependencyType.name)
  .obj <| Json.present [
    ("path", s.path.map PathPattern.toJson),
    ("pathNot", s.pathNot.map PathPattern.toJson),
    ("reachable", s.reachable.map .bool),
    ("dependencyTypes", s.dependencyTypes.map types),
    ("dependencyTypesNot", s.dependencyTypesNot.map types),
    ("dynamic", s.dynamic.map .bool),
    ("circular", s.circular.map .bool),
    ("couldNotResolve", s.couldNotResolve.map .bool),
    ("coreModule", s.coreModule.map .bool)]

def RuleSpec.toJson (s : RuleSpec) : Json := .obj <| Json.present [
  ("name", some (.str s.name)),
  ("severity", some (.str s.severity.name)),
  ("from", some s.from.toJson),
  ("to", some s.to.toJson),
  ("comment", s.comment.map .str)]

def RuleSetSpec.toJson (s : RuleSetSpec) : Json := .obj [
  ("forbidden", .arr (s.forbidden.map RuleSpec.toJson)),
  ("allowed", .arr (s.allowed.map RuleSpec.toJson)),
  ("allowedSeverity", .str s.allowedSeverity.name)]

/-- The JSON text of a rule set. -/
def RuleSetSpec.toText (s : RuleSetSpec) : String := s.toJson.compact

end ImportSurvey
