import ImportSurvey.Graph.Module
import ImportSurvey.Json.Printer
import ImportSurvey.Json.Reader
import ImportSurvey.Datum.Decode

/-
  References, modules and dependencies as JSON, in both directions.

  What is written is read back as the same value: every field is written under its name, and those that
  may be absent are left out exactly when they are.
-/
namespace ImportSurvey

open Datum

namespace Json

/-- The members of the fields that are set. -/
def present (members : List (String × Option Json)) : List (String × Json) :=
  members.filterMap fun (k, v) => v.map fun v => (k, v)

def strings (ss : List String) : Json := .arr (ss.map .str)

def orNull : Option Json → Json
  | some j => j
  | none => .null

end Json

/-! ## Writing -/

def TypeSet.toJson (s : TypeSet) : Json := Json.strings (s.toList.map DependencyType.name)

def Reference.toJson (r : Reference) : Json := .obj <| Json.present [
  ("moduleName", some (.str r.moduleName)),
  ("moduleSystem", some (.str r.moduleSystem.name)),
  ("dynamic", some (.bool r.dynamic)),
  ("dependencyTypes", some r.dependencyTypes.toJson),
  ("exoticRequire", r.exoticRequire.map .str)]

def RuleViolation.toJson (v : RuleViolation) : Json :=
  .obj [("name", .str v.name), ("severity", .str v.severity.name)]

def Verdict.toJson (v : Verdict) : Json :=
  .obj [("valid", .bool v.valid), ("rules", .arr (v.rules.map RuleViolation.toJson))]

def Dependency.toJson (d : Dependency) : Json := .obj <| Json.present [
  ("from", some (.str d.from)),
  ("to", some (Json.orNull (d.to.map .str))),
  ("moduleName", some (.str d.moduleName)),
  ("resolved", some (.str d.resolved)),
  ("moduleSystem", some (.str d.moduleSystem.name)),
  ("dependencyTypes", some d.dependencyTypes.toJson),
  ("exoticRequire", d.exoticRequire.map .str),
  ("dynamic", some (.bool d.dynamic)),
  ("circular", some (.bool d.circular)),
  ("coreModule", some (.bool d.coreModule)),
  ("couldNotResolve", some (.bool d.couldNotResolve)),
  ("valid", some (.bool d.valid)),
  ("rules", some (.arr (d.rules.map RuleViolation.toJson)))]

def ReachableEntry.toJson (e : ReachableEntry) : Json :=
  .obj [("asDefinedInRule", .str e.asDefinedInRule), ("value", .bool e.value)]

def ReachedModule.toJson (m : ReachedModule) : Json :=
  .obj [("source", .str m.source), ("via", Json.strings m.via)]

def ReachesEntry.toJson (e : ReachesEntry) : Json := .obj [
  ("asDefinedInRule", .str e.asDefinedInRule),
  ("modules", .arr (e.modules.map ReachedModule.toJson))]

def Module.toJson (m : Module) : Json := .obj <| Json.present [
  ("id", some (.str m.id)),
  ("source", some (.str m.source)),
  ("moduleSystem", m.moduleSystem.map fun s => .str s.name),
  ("coreModule", some (.bool m.coreModule)),
  ("followed", some (.bool m.followed)),
  ("dependencies", some (.arr (m.dependencies.map Dependency.toJson))),
  ("orphan", some (.bool m.orphan)),
  ("reachable", some (.arr (m.reachable.map ReachableEntry.toJson))),
  ("reaches", some (.arr (m.reaches.map ReachesEntry.toJson))),
  ("valid", some (.bool m.valid)),
  ("rules", some (.arr (m.rules.map RuleViolation.toJson)))]

/-! ## Reading -/

/-- A record of which the fields `needed` have to be given. -/
def Datum.decodeWith (form : RecordForm σ) (start : σ) (needed : List String) (d : Datum) :
    Decode σ := do
  let (a, given) ← decodeRecord .json form start d
  need given needed
  return a

def TypeSet.decode (d : Datum) : Decode TypeSet :=
  (decodeList .json (decodeName .json DependencyType.names) d).map TypeSet.ofList

namespace Reference

def fields : List String :=
  ["moduleName", "moduleSystem", "dynamic", "dependencyTypes", "exoticRequire"]

def form : RecordForm Reference where
  name := "RawDependency"
  fields := fields
  optional := ["exoticRequire"]
  strict := false
  put r field d :=
    match field with
    | "moduleName" => (decodeString .json d).map fun v => { r with moduleName := v }
    | "moduleSystem" => (decodeName .json ModuleSystem.names d).map fun v => { r with moduleSystem := v }
    | "dynamic" => (decodeBool .json d).map fun v => { r with dynamic := v }
    | "dependencyTypes" => (TypeSet.decode d).map fun v => { r with dependencyTypes := v }
    | _ => (decodeOption (decodeString .json) d).map fun v => { r with exoticRequire := v }

def decode (d : Datum) : Decode Reference :=
  decodeWith form (.plain "" .es6) ["moduleName", "moduleSystem", "dynamic", "dependencyTypes"] d

end Reference

namespace RuleViolation

def form : RecordForm RuleViolation where
  name := "RuleViolation"
  fields := ["name", "severity"]
  optional := []
  strict := false
  put v field d :=
    match field with
    | "name" => (decodeString .json d).map fun s => { v with name := s }
    | _ => (decodeName .json Severity.names d).map fun s => { v with severity := s }

def decode (d : Datum) : Decode RuleViolation := decodeWith form ⟨"", .error⟩ form.fields d

end RuleViolation

namespace Dependency

def fields : List String :=
  ["from", "to", "moduleName", "resolved", "moduleSystem", "dependencyTypes", "exoticRequire",
    "dynamic", "circular", "coreModule", "couldNotResolve", "valid", "rules"]

def form : RecordForm Dependency where
  name := "Dependency"
  fields := fields
  optional := ["exoticRequire"]
  strict := false
  put e field d :=
    let text : Decode String := decodeString .json d
    let flag : Decode Bool := decodeBool .json d
    match field with
    | "from" => text.map fun v => { e with «from» := v }
    | "to" => (decodeOption (decodeString .json) d).map fun v => { e with «to» := v }
    | "moduleName" => text.map fun v => { e with moduleName := v }
    | "resolved" => text.map fun v => { e with resolved := v }
    | "moduleSystem" => (decodeName .json ModuleSystem.names d).map fun v => { e with moduleSystem := v }
    | "dependencyTypes" => (TypeSet.decode d).map fun v => { e with dependencyTypes := v }
    | "exoticRequire" =>
      (decodeOption (decodeString .json) d).map fun v => { e with exoticRequire := v }
    | "dynamic" => flag.map fun v => { e with dynamic := v }
    | "circular" => flag.map fun v => { e with circular := v }
    | "coreModule" => flag.map fun v => { e with coreModule := v }
    | "couldNotResolve" => flag.map fun v => { e with couldNotResolve := v }
    | "valid" => flag.map fun v => { e with valid := v }
    | _ => (decodeList .json RuleViolation.decode d).map fun v => { e with rules := v }

/-- A dependency of which nothing is known yet. -/
def blank : Dependency where
  «from» := ""
  «to» := none
  moduleName := ""
  resolved := ""
  moduleSystem := .es6
  dependencyTypes := {}
  exoticRequire := none
  dynamic := false
  circular := false
  coreModule := false
  couldNotResolve := false
  valid := true
  rules := []

def decode (d : Datum) : Decode Dependency :=
  decodeWith form blank (fields.filter fun f => f ≠ "to" && f ≠ "exoticRequire") d

end Dependency

namespace ReachableEntry

def form : RecordForm ReachableEntry where
  name := "ReachableEntry"
  fields := ["asDefinedInRule", "value"]
  optional := []
  strict := false
  put e field d :=
    match field with
    | "asDefinedInRule" => (decodeString .json d).map fun v => { e with asDefinedInRule := v }
    | _ => (decodeBool .json d).map fun v => { e with value := v }

def decode (d : Datum) : Decode ReachableEntry := decodeWith form ⟨"", false⟩ form.fields d

end ReachableEntry

namespace ReachedModule

def form : RecordForm ReachedModule where
  name := "ReachedModule"
  fields := ["source", "via"]
  optional := []
  strict := false
  put m field d :=
    match field with
    | "source" => (decodeString .json d).map fun v => { m with source := v }
    | _ => (decodeList .json (decodeString .json) d).map fun v => { m with via := v }

def decode (d : Datum) : Decode ReachedModule := decodeWith form ⟨"", []⟩ form.fields d

end ReachedModule

namespace ReachesEntry

def form : RecordForm ReachesEntry where
  name := "ReachesEntry"
  fields := ["asDefinedInRule", "modules"]
  optional := []
  strict := false
  put e field d :=
    match field with
    | "asDefinedInRule" => (decodeString .json d).map fun v => { e with asDefinedInRule := v }
    | _ => (decodeList .json ReachedModule.decode d).map fun v => { e with modules := v }

def decode (d : Datum) : Decode ReachesEntry := decodeWith form ⟨"", []⟩ form.fields d

end ReachesEntry

namespace Module

def fields : List String :=
  ["id", "source", "moduleSystem", "coreModule", "followed", "dependencies", "orphan", "reachable",
    "reaches", "valid", "rules"]

def form : RecordForm Module where
  name := "Module"
  fields := fields
  optional := ["moduleSystem"]
  strict := false
  put m field d :=
    let text : Decode String := decodeString .json d
    let flag : Decode Bool := decodeBool .json d
    match field with
    | "id" => text.map fun v => { m with id := v }
    | "source" => text.map fun v => { m with source := v }
    | "moduleSystem" => (decodeOption (decodeName .json ModuleSystem.names) d).map fun v =>
        { m with moduleSystem := v }
    | "coreModule" => flag.map fun v => { m with coreModule := v }
    | "followed" => flag.map fun v => { m with followed := v }
    | "dependencies" => (decodeList .json Dependency.decode d).map fun v => { m with dependencies := v }
    | "orphan" => flag.map fun v => { m with orphan := v }
    | "reachable" => (decodeList .json ReachableEntry.decode d).map fun v => { m with reachable := v }
    | "reaches" => (decodeList .json ReachesEntry.decode d).map fun v => { m with reaches := v }
    | "valid" => flag.map fun v => { m with valid := v }
    | _ => (decodeList .json RuleViolation.decode d).map fun v => { m with rules := v }

def decode (d : Datum) : Decode Module :=
  decodeWith form (.ofFollowed "") (fields.filter (· ≠ "moduleSystem")) d

end Module

end ImportSurvey
