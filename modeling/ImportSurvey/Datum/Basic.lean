import ImportSurvey.Json.Basic

/-
  Values as far as their text could be read.

  Reading a text never fails: it gives the value up to the place where the text breaks off, with a mark
  there (`Datum.broken`, or a sequence or map that was not closed).  Whoever decodes the value in order
  meets the mark exactly when all before it was fine, so of several faults the first one is reported,
  whether it lies in the text or in what the text says.
-/
namespace ImportSurvey

/-- A value as far as its text could be read. -/
inductive Datum where
  | null
  | bool (b : Bool)
  | int (i : Int)
  | float (f : Float)
  | str (s : String)
  | seq (items : List Datum) (closed : Bool)
  | map (entries : List (String × Datum)) (closed : Bool)
  /-- well formed but without a value: a number out of range, half of a pair of code units, or more
  levels than are allowed; it may be skipped but not used -/
  | senseless
  | broken
deriving Inhabited

namespace Datum

mutual

/-- The value, if nothing in it is broken. -/
def complete? : Datum → Option Json
  | .null => some .null
  | .bool b => some (.bool b)
  | .int i => some (.int i)
  | .float f => some (.float f)
  | .str s => some (.str s)
  | .seq items closed => if closed then (completeItems items).map .arr else none
  | .map entries closed => if closed then (completeEntries entries).map .obj else none
  | .senseless | .broken => none

def completeItems : List Datum → Option (List Json)
  | [] => some []
  | d :: rest => do return (← complete? d) :: (← completeItems rest)

def completeEntries : List (String × Datum) → Option (List (String × Json))
  | [] => some []
  | (k, d) :: rest => do return (k, ← complete? d) :: (← completeEntries rest)

end

mutual

/-- Whether the text of the value does not break off, so that it can be skipped. -/
def isWhole : Datum → Bool
  | .seq items closed => closed && areWhole items
  | .map entries closed => closed && entriesWhole entries
  | .broken => false
  | _ => true

def areWhole : List Datum → Bool
  | [] => true
  | d :: rest => isWhole d && areWhole rest

def entriesWhole : List (String × Datum) → Bool
  | [] => true
  | (_, d) :: rest => isWhole d && entriesWhole rest

end

mutual

def ofJson : Json → Datum
  | .null => .null
  | .bool b => .bool b
  | .int i => .int i
  | .float f => .float f
  | .str s => .str s
  | .arr items => .seq (ofItems items) true
  | .obj members => .map (ofMembers members) true

def ofItems : List Json → List Datum
  | [] => []
  | j :: rest => ofJson j :: ofItems rest

def ofMembers : List (String × Json) → List (String × Datum)
  | [] => []
  | (k, j) :: rest => (k, ofJson j) :: ofMembers rest

end

end Datum

end ImportSurvey
