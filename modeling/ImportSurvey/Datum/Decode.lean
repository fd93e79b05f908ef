import ImportSurvey.Datum.Basic
import ImportSurvey.Text.Decimal
import ImportSurvey.Text.Quoted

/-
  From data to typed values, with messages that say what was found and what was expected.

  Records come as maps from field names, or as sequences of their fields in order.  A record type is
  described by the names of its fields and a function that puts one decoded field into it, so that the
  walk over the entries, with its checks for unknown and repeated names, is written once.
-/
namespace ImportSurvey

/-- Why data could not be read. -/
inductive ReadFault where
  /-- the text does not follow its format -/
  | malformed
  /-- the text is well formed up to here but says something that is not expected -/
  | mismatch (message : String)
deriving DecidableEq, Repr

def ReadFault.message : ReadFault → String
  | .malformed => "the text is not well formed"
  | .mismatch m => m

namespace Datum

/-- The format the data were written in, where its wording or its forms differ. -/
inductive Format where
  | json
  | toml
deriving DecidableEq, Repr

abbrev Decode := Except ReadFault

/-- What a datum is, for a message. -/
def describe (format : Format) : Datum → String
  | .null => "null"
  | .bool b => "boolean `" ++ toString b ++ "`"
  | .int i => "integer `" ++ toString i ++ "`"
  | .float f =>
    "floating point `" ++ (if format = .json then Text.compactFloat f else Text.plainFloat f) ++ "`"
  | .str s => "string " ++ Text.quote s
  | .seq .. => "sequence"
  | .map .. => "map"
  | .senseless | .broken => "nothing"

/-- The fault of a datum of the wrong kind. -/
def wrongKind (format : Format) (expected : String) : Datum → Decode α
  | .senseless | .broken => .error .malformed
  | d => .error (.mismatch ("invalid type: " ++ d.describe format ++ ", expected " ++ expected))

/-! ## Plain values -/

def decodeBool (format : Format) : Datum → Decode Bool
  | .bool b => .ok b
  | d => d.wrongKind format "a boolean"

def decodeString (format : Format) : Datum → Decode String
  | .str s => .ok s
  | d => d.wrongKind format "a string"

/-- A path is written as a string. -/
def decodePath (format : Format) : Datum → Decode String
  | .str s => .ok s
  | d => d.wrongKind format "path string"

/-- A count below `2 ^ 64`. -/
def decodeCount (format : Format) : Datum → Decode Nat
  | .int i =>
    if i < 0 then .error (.mismatch ("invalid value: integer `" ++ toString i ++ "`, expected usize"))
    else if i.toNat < Nat.pow 2 64 then .ok i.toNat
    else .error .malformed
  | d => d.wrongKind format "usize"

def decodeOption (decode : Datum → Decode α) : Datum → Decode (Option α)
  | .null => .ok none
  | d => (decode d).map some

def decodeItems (decode : Datum → Decode α) : List Datum → Decode (List α)
  | [] => .ok []
  | d :: rest => do
    let a ← decode d
    return a :: (← decodeItems decode rest)

def decodeList (format : Format) (decode : Datum → Decode α) : Datum → Decode (List α)
  | .seq items closed => do
    let as ← decodeItems decode items
    if closed then return as else throw .malformed
  | d => d.wrongKind format "a sequence"

/-! ## Names from a fixed list -/

/-- The names a message offers. -/
def oneOf (names : List String) : String :=
  let ticked := names.map fun n => "`" ++ n ++ "`"
  match ticked with
  | [] => "nothing"
  | [a] => a
  | [a, b] => a ++ " or " ++ b
  | _ => "one of " ++ ", ".intercalate ticked

def ofName (names : List (String × α)) (s : String) : Decode α :=
  match names.find? (·.1 = s) with
  | some (_, a) => .ok a
  | none => .error (.mismatch
      ("unknown variant `" ++ s ++ "`, expected " ++ oneOf (names.map (·.1))))

/-- One of the given names, as a string or as the only name in a map without content. -/
def decodeName (format : Format) (names : List (String × α)) : Datum → Decode α
  | .str s => ofName names s
  | .map [(s, d)] closed => do
    let a ← ofName names s
    match format, d with
    | .json, .null => if closed then return a else throw .malformed
    | .json, .senseless | .json, .broken => throw .malformed
    | .json, d => d.wrongKind format "unit"
    | .toml, .seq [] _ | .toml, .map [] _ => return a
    | .toml, _ => throw .malformed
  | .map ((s, .null) :: _ :: _) _ => do
    if format = .json then let _ ← ofName names s
    throw .malformed
  | _ => .error .malformed

/-! ## Records -/

/-- How a record of type `σ` is written. -/
structure RecordForm (σ : Type) where
  /-- the name of the record in messages -/
  name : String
  fields : List String
  /-- fields that may be missing when the record is written as a sequence -/
  optional : List String
  /-- whether other names are refused -/
  strict : Bool
  /-- puts a decoded field into the record -/
  put : σ → String → Datum → Decode σ

def decodeEntries (form : RecordForm σ) (seen : List String) (acc : σ) :
    List (String × Datum) → Decode (σ × List String)
  | [] => .ok (acc, seen)
  | (k, d) :: rest =>
    if form.fields.contains k then
      if seen.contains k then .error (.mismatch ("duplicate field `" ++ k ++ "`"))
      else do
        let acc ← form.put acc k d
        decodeEntries form (k :: seen) acc rest
    else if form.strict then
      .error (.mismatch ("unknown field `" ++ k ++ "`, expected " ++ oneOf form.fields))
    else
      if d.isWhole then decodeEntries form seen acc rest else .error .malformed

/-- Fields in order; `count` is the number of those already read. -/
def decodeFields (form : RecordForm σ) (count : Nat) (acc : σ) :
    List String → List Datum → Decode (σ × List Datum)
  | [], rest => .ok (acc, rest)
  | f :: fs, d :: rest => do
    let acc ← form.put acc f d
    decodeFields form (count + 1) acc fs rest
  | f :: fs, [] =>
    if form.optional.contains f then decodeFields form (count + 1) acc fs []
    else .error (.mismatch ("invalid length " ++ toString count ++ ", expected struct " ++ form.name ++
      " with " ++ toString form.fields.length ++ " elements"))

/-- The record, and the names of the fields that were given. -/
def decodeRecord (format : Format) (form : RecordForm σ) (start : σ) :
    Datum → Decode (σ × List String)
  | .map entries closed => do
    let r ← decodeEntries form [] start entries
    if closed then return r else throw .malformed
  | .seq items closed => do
    let (acc, rest) ← decodeFields form 0 start form.fields items
    -- only JSON minds what stands behind the last field
    if closed && (rest.isEmpty || format = .toml) then return (acc, form.fields) else throw .malformed
  | d => d.wrongKind format ("struct " ++ form.name)

/-- The fault of a record that lacks a field. -/
def missing (field : String) : Decode α := .error (.mismatch ("missing field `" ++ field ++ "`"))

/-- Refuses a record in which one of the `needed` fields was not given. -/
def need (given : List String) (needed : List String) : Decode Unit :=
  match needed.find? fun f => !given.contains f with
  | some f => missing f
  | none => .ok ()

end Datum

end ImportSurvey
