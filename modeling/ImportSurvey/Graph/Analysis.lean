import ImportSurvey.Graph.Reach
import ImportSurvey.Rules.Basic

/-
  What follows from the shape of a graph: orphans, circular edges, and what is reachable by each rule.

  Analysis first takes back all that an earlier one found out, so it depends on the graph and the rules
  alone.
-/
namespace ImportSurvey.Graph

/-- The number of targets, over all modules, that are the module at `i`. -/
def hasIncoming (t : Topology) (i : Nat) : Bool := t.any fun ts => ts.contains i

/-- A module that depends on nothing and that nothing depends on. -/
def isOrphan (t : Topology) (i : Nat) (m : Module) : Bool :=
  !hasIncoming t i && m.dependencies.isEmpty

def markOrphans (g : Graph) (t : Topology) : Graph :=
  { g with modules := g.modules.mapIdx fun i m => { m with orphan := isOrphan t i m } }

/-! ## Circular edges -/

/-- The number of the component that each of `n` modules lies in. -/
def labels (n : Nat) (components : List (List Nat)) : Array Nat :=
  components.zipIdx.foldl
    (fun ls c => c.1.foldl (fun ls i => ls.setIfInBounds i c.2) ls) (Array.replicate n 0)

/-- Whether an edge from the module at `i` closes a cycle: it leads back to the module itself, or into
the component of that module, which then has other modules too. -/
def closesCycle (components : List (List Nat)) (labels : Array Nat) (i : Nat) (target : Option Nat) :
    Bool :=
  match target with
  | none => false
  | some j =>
    let own := labels.getD i 0
    j = i || (labels.getD j 0 = own && 1 < (components.getD own []).length)

/-- Marks the edges that close a cycle, by the strongly connected components of the graph. -/
def markCircular (g : Graph) (components : List (List Nat)) : Graph :=
  let labels := labels g.size components
  { g with modules := g.modules.mapIdx fun i m =>
    { m with dependencies := m.dependencies.map fun d =>
      { d with circular := closesCycle components labels i (d.to.bind g.indexOf) } } }

/-! ## Reachability by rule -/

/-- Whether a rule looks out from this module. -/
def isRoot (r : Rule) (m : Module) : Bool :=
  r.from.paths.admits m.source && (match r.from.orphan with
    | some wanted => wanted == m.orphan
    | none => true)

/-- The positions of the modules that a rule looks out from. -/
def rootsOf (g : Graph) (r : Rule) : List Nat :=
  (g.modules.zipIdx.filter fun p => isRoot r p.1).map (·.2)

def sources (g : Graph) : Array String := (g.modules.map (·.source)).toArray

/-- The modules that the root at `root` reaches and that the rule asks for. -/
def reached (sources : Array String) (r : Rule) (search : Parents) (root : Nat) : List ReachedModule :=
  (List.range sources.size).filterMap fun i =>
    if (search.of i).isSome && r.to.paths.admits (sources.getD i "") then
      some ⟨sources.getD i "", (via search root i).map fun j => sources.getD j ""⟩
    else none

/-- What a rule finds out about the module at `i`, to be noted under the name of the rule; `roots` are
the positions of the modules that the rule looks out from. -/
def note (sources : Array String) (searches : Array Parents) (r : Rule) (roots : List Nat) (i : Nat)
    (m : Module) : Module :=
  if isRoot r m then
    let found := reached sources r (searchFrom searches i) i
    { m with
      reachable := m.reachable ++ [⟨r.name, !found.isEmpty⟩]
      reaches := if found.isEmpty then m.reaches else m.reaches ++ [⟨r.name, found⟩] }
  else if r.to.reachable = some false ∧ r.to.paths.admits m.source then
    let fromSomeRoot := roots.any fun j => ((searchFrom searches j).of i).isSome
    { m with reachable := m.reachable ++ [⟨r.name, fromSomeRoot⟩] }
  else m

/-- Notes what one rule finds out. -/
def markByRule (searches : Array Parents) (g : Graph) (r : Rule) : Graph :=
  let sources := g.sources
  let roots := g.rootsOf r
  { g with modules := g.modules.mapIdx (note sources searches r roots) }

/-- The graph with all that follows from its shape; `components` finds the strongly connected components,
in any order. -/
def analyzeWith (components : Topology → List (List Nat)) (g : Graph) (s : RuleSet) : Graph :=
  let g : Graph := { g with modules := g.modules.map Module.clearDerived }
  let t := g.topology
  s.reachabilityRules.foldl (markByRule t.searches) ((g.markOrphans t).markCircular (components t))

def analyze (g : Graph) (s : RuleSet) : Graph := g.analyzeWith Topology.components s

end ImportSurvey.Graph
