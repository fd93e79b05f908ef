import ImportSurvey.Graph.Basic
import ImportSurvey.Regex.Basic

/-
  From references to a graph.

  A resolver tells for a reference and the module it stands in where it leads.  References of a module
  that lead to the same place become one edge, which keeps what the first of them said, except that tags
  add up and that one dynamic reference makes the edge dynamic.  A target that is not a module of the
  graph becomes a leaf, and a leaf whose own references arrive later becomes a full module.
-/
namespace ImportSurvey

/-- Where a reference leads. -/
structure Resolution where
  /-- the id of the target -/
  resolved : Option String
  coreModule : Bool
  couldNotResolve : Bool
deriving DecidableEq, Repr

namespace Resolution

def module (id : String) : Resolution := ⟨some id, false, false⟩

def core (name : String) : Resolution := ⟨some name, true, false⟩

def unresolved : Resolution := ⟨none, false, true⟩

/-- The id of the target, or the reference text if it led nowhere. -/
def target (r : Resolution) (reference : String) : String :=
  match r.resolved with
  | some id => if r.couldNotResolve then reference else id
  | none => reference

def leadsNowhere (r : Resolution) : Bool := r.couldNotResolve || r.resolved.isNone

end Resolution

/-- A pure resolver: reference text, then the id of the module it stands in. -/
abbrev Resolver := String → String → Resolution

/-- Whether `part` occurs in `text`. -/
def occursIn (part : List Char) : List Char → Bool
  | [] => part.isEmpty
  | c :: rest => part.isPrefixOf (c :: rest) || occursIn part rest

/-- Whether an id lies in a package directory. -/
def isInPackages (id : String) : Bool :=
  "node_modules/".toList.isPrefixOf id.toList || occursIn "/node_modules/".toList id.toList

/-- The tag an edge gets by where it leads. -/
def Resolution.tag (r : Resolution) (target : String) : DependencyType :=
  if r.leadsNowhere then .unknown
  else if r.coreModule then .core
  else if isInPackages target then .npm
  else .localFile

namespace Dependency

/-- The edge of a reference that is the first to lead to its target. -/
def ofReference (owner : String) (r : Reference) (res : Resolution) : Dependency :=
  let target := res.target r.moduleName
  { «from» := owner
    «to» := if res.leadsNowhere then none else some target
    moduleName := r.moduleName
    resolved := target
    moduleSystem := r.moduleSystem
    dependencyTypes := r.dependencyTypes.insert (res.tag target)
    exoticRequire := r.exoticRequire
    dynamic := r.dynamic
    circular := false
    coreModule := res.coreModule
    couldNotResolve := res.leadsNowhere
    valid := true
    rules := [] }

/-- The edge after one more reference to the same target. -/
def absorb (d : Dependency) (r : Reference) : Dependency :=
  { d with
    dependencyTypes := d.dependencyTypes.union r.dependencyTypes
    dynamic := d.dynamic || r.dynamic
    exoticRequire := d.exoticRequire <|> r.exoticRequire }

end Dependency

/-- Adds a reference to the edges of its module. -/
def mergeEdge (owner : String) (edges : List Dependency) (r : Reference) (res : Resolution) :
    List Dependency :=
  let target := res.target r.moduleName
  if edges.any (·.resolved = target) then
    edges.map fun d => if d.resolved = target then d.absorb r else d
  else edges ++ [.ofReference owner r res]

/-- What the survey is limited to; without a pattern, nothing is left out. -/
def isIncluded (includeOnly : Option Regex) (id : String) : Bool :=
  match includeOnly with
  | some r => r.search id
  | none => true

/-- The edges of a module, in the order in which their targets first appear. -/
def edgesOf (resolve : Resolver) (includeOnly : Option Regex) (owner : String)
    (references : List Reference) : List Dependency :=
  references.foldl (fun edges r =>
    let res := resolve r.moduleName owner
    if isIncluded includeOnly (res.target r.moduleName) then mergeEdge owner edges r res else edges) []

/-- The module once its references were read and became these edges. -/
def Module.withReferences (m : Module) (references : List Reference) (edges : List Dependency) : Module :=
  { m with
    followed := true
    coreModule := false
    moduleSystem := references.head?.map (·.moduleSystem)
    dependencies := edges }

namespace Graph

/-- Adds the target of an edge as a leaf. -/
def addLeaf (g : Graph) (d : Dependency) : Graph :=
  match d.to with
  | some id => g.add (.leaf id d.coreModule)
  | none => g

/-- Adds a module with its references.  Nothing happens if they were added before. -/
def addModule (resolve : Resolver) (includeOnly : Option Regex) (g : Graph) (id : String)
    (references : List Reference) : Graph :=
  if (g.get? id).any (·.followed) then g
  else
    let edges := edgesOf resolve includeOnly id references
    ((edges.foldl addLeaf g).add (.ofFollowed id)).modify id fun m => m.withReferences references edges

/-- The graph after some modules were added, in the order in which they came up. -/
def addAll (resolve : Resolver) (includeOnly : Option Regex) (files : List (String × List Reference)) :
    Graph :=
  files.foldl (fun g f => g.addModule resolve includeOnly f.1 f.2) empty

/-- The graph of all modules with their references, ordered by id. -/
def build (resolve : Resolver) (includeOnly : Option Regex) (files : List (String × List Reference)) :
    Graph :=
  (addAll resolve includeOnly files).sortById

end Graph

end ImportSurvey
