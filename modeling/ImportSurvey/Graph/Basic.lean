import ImportSurvey.Graph.Module

/-
  Module graphs.

  The modules stand in a row, and results are handed about by position in that row.  An index tells where
  the module of an id stands.  Ids are pairwise different in every graph made by the operations below,
  because `add` keeps a module that is there, and the index is kept up with the row, so a position and
  an id say the same.
-/
namespace ImportSurvey

structure Graph where
  modules : List Module := []
  /-- where the module of an id stands; of several entries for one id the first counts -/
  index : List (String × Nat) := []
deriving DecidableEq, Repr, Inhabited

namespace Graph

def empty : Graph := {}

def size (g : Graph) : Nat := g.modules.length

/-- The position of a module. -/
def indexOf (g : Graph) (id : String) : Option Nat := g.index.lookup id

def get? (g : Graph) (id : String) : Option Module := (g.indexOf id).bind fun i => g.modules[i]?

/-- Appends a module unless its id is there already. -/
def add (g : Graph) (m : Module) : Graph :=
  if (g.indexOf m.id).isSome then g else ⟨g.modules ++ [m], (m.id, g.size) :: g.index⟩

/-- Changes the module of that id. -/
def modify (g : Graph) (id : String) (change : Module → Module) : Graph :=
  match g.indexOf id with
  | some i => { g with modules := g.modules.modify i change }
  | none => g

/-- Appends an edge to the module of that id. -/
def addEdge (g : Graph) (id : String) (d : Dependency) : Graph :=
  g.modify id fun m => { m with dependencies := m.dependencies ++ [d] }

/-- The index of a row of modules. -/
def indexed (modules : List Module) : List (String × Nat) :=
  modules.zipIdx.foldl (fun index p => (p.1.id, p.2) :: index) []

/-- The graph of a row of modules. -/
def ofRow (modules : List Module) : Graph := ⟨modules, indexed modules⟩

/-- Puts the modules in the order of their ids, with a new index. -/
def sortById (g : Graph) : Graph := ofRow (g.modules.mergeSort fun a b => a.id ≤ b.id)

/-- The number of edges, those that led nowhere included. -/
def dependencyCount (g : Graph) : Nat := Module.countDependencies g.modules

/-- The positions of the targets of a module, one per edge that leads into the graph. -/
def targets (g : Graph) (m : Module) : List Nat :=
  m.dependencies.filterMap fun d => d.to.bind g.indexOf

/-- The targets of the module at a position. -/
def successors (g : Graph) (i : Nat) : List Nat :=
  match g.modules[i]? with
  | some m => g.targets m
  | none => []

end Graph

end ImportSurvey
