import ImportSurvey.Datum.Decode
import ImportSurvey.Json.Reader

/-
  References to packages, and what a package says about its entry points.
-/
namespace ImportSurvey.Resolve

/-- A reference to a package: its name, and what the reference asks for inside it. -/
structure PackageReference where
  name : String
  subpath : Option String
deriving DecidableEq, Repr

/-- Splits behind the first segment, or behind the second if the first one is a scope. -/
def PackageReference.ofText (reference : String) : PackageReference :=
  let cs := reference.toList
  let first := cs.takeWhile (· ≠ '/')
  let rest := cs.drop (first.length + 1)
  let (name, below) :=
    if cs.head? = some '@' ∧ first.length < cs.length then
      let second := rest.takeWhile (· ≠ '/')
      (first ++ '/' :: second, rest.drop (second.length + 1))
    else (first, rest)
  ⟨.ofList name, if below.isEmpty then none else some (.ofList below)⟩

/-- The fields of a package description that say where its modules are. -/
structure PackageEntry where
  main : Option String := none
  module : Option String := none
  «exports» : Option Json := none
deriving Inhabited

open Datum in
/-- Other fields are left alone. -/
def PackageEntry.form : RecordForm PackageEntry where
  name := "PackageEntry"
  fields := ["main", "module", "exports"]
  optional := []
  strict := false
  put e field d :=
    match field with
    | "main" => (decodeOption (decodeString .json) d).map fun v => { e with main := v }
    | "module" => (decodeOption (decodeString .json) d).map fun v => { e with module := v }
    | _ =>
      match d.complete? with
      | none => .error .malformed
      | some .null => .ok { e with «exports» := none }
      | some v => .ok { e with «exports» := some v }

/-- The entry points in the text of a package description. -/
def PackageEntry.ofText (text : String) : Datum.Decode PackageEntry := do
  let (d, atEnd) := Json.readDatum text
  let (entry, _) ← Datum.decodeRecord .json PackageEntry.form {} d
  if atEnd then return entry else throw .malformed

/-- The conditions under which an export may be used, the preferred one first. -/
def conditions : List String := ["import", "require", "node", "default"]

end ImportSurvey.Resolve
