import ImportSurvey.Reference
import ImportSurvey.Script.Program

/-
  Extraction: from a script to its references.

  Each system of modules has its own rule, which looks at one node of the tree at a time and at how many
  calls of `define` are around it.  The nodes are visited in reading order, once for each system that is
  asked for, so the references of one system are together.  An empty name refers to nothing.
-/
namespace ImportSurvey.Script

/-- A reference, and where in the text its name stands. -/
structure Sighting where
  reference : Reference
  position : Nat
deriving DecidableEq, Repr, Inhabited

/-- The sighting of a name, unless it is empty. -/
def sight (l : Literal) (r : String → Reference) : List Sighting :=
  if l.value.isEmpty then [] else [⟨r l.value, l.position⟩]

/-- The sighting of a name that may be missing. -/
def sight? (l : Option Literal) (r : String → Reference) : List Sighting :=
  match l with
  | some l => sight l r
  | none => []

/-! ## One rule for each system -/

def reExport (name : String) : Reference := (Reference.plain name .es6).tagged .reExport

/-- Imports and exports of values, and modules that are loaded while the program runs. -/
def es6Sightings : Node → List Sighting
  | .importFrom false source => sight source (.plain · .es6)
  | .exportAll false source => sight source reExport
  | .exportNamed false source _ => sight? source reExport
  | .importCall source _ => sight? source.literal? fun n => (Reference.plain n .es6).asDynamic
  | _ => []

/-- The name in the only argument of a call. -/
def onlyLiteral : List Node → Option Literal
  | [argument] => argument.literal?
  | _ => none

/-- Calls of `require`, and imports that are written with it. -/
def cjsSightings : Node → List Sighting
  | .call (.name "require") _ arguments => sight? (onlyLiteral arguments) (.plain · .cjs)
  | .importEquals false source => sight? source (.plain · .cjs)
  | _ => []

/-- Names that `define` and `require` give a meaning of their own. -/
def magicNames : List String := ["require", "exports", "module"]

/-- The names in an array of dependencies. -/
def listedLiterals : Node → List Literal
  | .array elements =>
    elements.filterMap fun e =>
      match e with
      | .text l => if magicNames.contains l.value then none else some l
      | _ => none
  | _ => []

def listedSightings (arguments : List Node) : List Sighting :=
  (arguments.flatMap listedLiterals).flatMap fun l => sight l (.plain · .amd)

/-- Arrays of dependencies, and calls of `require` inside a call of `define`. -/
def amdSightings (depth : Nat) : Node → List Sighting
  | .call (.name "define") _ arguments => listedSightings arguments
  | .call (.name "require") _ arguments =>
    listedSightings arguments ++
      if depth = 0 then [] else sight? (onlyLiteral arguments) (.plain · .amd)
  | _ => []

def typeOnly (name : String) : Reference := (Reference.plain name .tsType).tagged .typeOnly

/-- Imports and exports that are gone once types are checked. -/
def typeSightings : Node → List Sighting
  | .importFrom true source => sight source typeOnly
  | .exportAll true source => sight source fun n => (typeOnly n).tagged .reExport
  | .exportNamed true source _ => sight? source fun n => (typeOnly n).tagged .reExport
  | .importEquals true source => sight? source typeOnly
  | _ => []

/-- Calls of a configured function with a name as first argument. -/
def exoticSightings (exotic : List String) : Node → List Sighting
  | .call callee _ (argument :: _) =>
    match callee.dotted? with
    | some f =>
      if exotic.contains f then
        sight? argument.literal? fun n => (Reference.plain n .exoticRequire).viaExotic f
      else []
    | none => []
  | _ => []

/-- What a system sees in a node. -/
def sightings (exotic : List String) (system : ModuleSystem) (v : Node.Visit) : List Sighting :=
  match system with
  | .es6 => es6Sightings v.node
  | .cjs => cjsSightings v.node
  | .amd => amdSightings v.depth v.node
  | .tsType => typeSightings v.node
  | .exoticRequire => exoticSightings exotic v.node

/-- All that a system sees in a tree. -/
def allSightings (exotic : List String) (system : ModuleSystem) (tree : Node) : List Sighting :=
  (tree.visit 0).flatMap (sightings exotic system)

/-! ## Whole texts -/

/-- What is asked of a text. -/
structure Request where
  systems : List ModuleSystem
  /-- the functions that work like `require` -/
  exotic : List String

/-- The references of a tree, system by system. -/
def references (q : Request) (tree : Node) : List Reference :=
  q.systems.flatMap fun s => (allSightings q.exotic s tree).map (·.reference)

/-- What was found in one text. -/
structure Extraction where
  references : List Reference := []
  /-- how many faults were found in the text -/
  faults : Nat := 0
  /-- the text could not be read, so there are no references -/
  gaveUp : Bool := false
deriving Repr, Inhabited

def Extraction.hasErrors (e : Extraction) : Bool := e.gaveUp || e.faults > 0

/-- The references in a text of the given dialect. -/
def extract (q : Request) (d : Dialect) (text : String) : Extraction :=
  match Program.read? d text with
  | some p => { references := references q p.tree, faults := p.faults }
  | none => { gaveUp := true }

end ImportSurvey.Script
