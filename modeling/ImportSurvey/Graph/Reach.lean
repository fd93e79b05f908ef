import ImportSurvey.Graph.Basic

/-
  Searching a graph breadth first.

  `parents` tells for every module from which module it was first reached, over one edge or more; so the
  root has a parent only if it lies on a cycle.  The search goes level by level: a level is the list of
  the modules that were reached for the first time from the level before, in that order, so the parents
  form shortest paths and the earlier of two equally short ones wins.
-/
namespace ImportSurvey.Graph

/-- The targets of every module, each once, in the order of their first edges. -/
abbrev Topology := Array (List Nat)

def topology (g : Graph) : Topology := (g.modules.map fun m => (g.targets m).eraseDups).toArray

def Topology.next (t : Topology) (i : Nat) : List Nat := t[i]?.getD []

/-- The parent of each module that was reached. -/
abbrev Parents := Array (Option Nat)

def Parents.of (ps : Parents) (i : Nat) : Option Nat := (ps[i]?).join

/-- Follows one edge: a target without parent gets one and joins the next level (kept in reverse). -/
def follow (source : Nat) (st : Parents × List Nat) (target : Nat) : Parents × List Nat :=
  match st.1.of target with
  | some _ => st
  | none => (st.1.setIfInBounds target (some source), target :: st.2)

/-- Follows all edges of a module. -/
def expand (t : Topology) (st : Parents × List Nat) (source : Nat) : Parents × List Nat :=
  (t.next source).foldl (follow source) st

/-- Goes on from a level, at most as many levels as the fuel says. -/
def levels (t : Topology) : Nat → List Nat → Parents → Parents
  | 0, _, ps => ps
  | _ + 1, [], ps => ps
  | fuel + 1, level, ps =>
    let (ps, next) := level.foldl (expand t) (ps, [])
    levels t fuel next.reverse ps

/-- The search from `root`.  Each level but the first holds a module for the first time, so there are
at most as many as there are modules, and one more. -/
def parents (t : Topology) (root : Nat) : Parents :=
  levels t (t.size + 1) [root] (Array.replicate t.size none)

/-- The search from every module. -/
def Topology.searches (t : Topology) : Array Parents := ((List.range t.size).map (parents t)).toArray

/-- The search from the module at `i`. -/
def searchFrom (searches : Array Parents) (i : Nat) : Parents := (searches[i]?).getD #[]

/-- The modules on the way to `target` that the search found, the root left out and the target last. -/
def via (ps : Parents) (root target : Nat) : List Nat := go ps.size target [target]
where
  go : Nat → Nat → List Nat → List Nat
    | 0, _, path => path
    | fuel + 1, current, path =>
      match ps.of current with
      | none => path
      | some p => if p = root then path else go fuel p (p :: path)

/-! ## Strongly connected components -/

/-- Whether each of two modules leads to the other, over any number of edges. -/
def connected (searches : Array Parents) (i j : Nat) : Bool :=
  i = j || (((searchFrom searches i).of j).isSome && ((searchFrom searches j).of i).isSome)

/-- The modules that lie in one strongly connected component with the module at `i`. -/
def componentOf (searches : Array Parents) (i : Nat) : List Nat :=
  (List.range searches.size).filter (connected searches i)

/-- The strongly connected components, each once. -/
def Topology.components (t : Topology) : List (List Nat) :=
  let searches := t.searches
  ((List.range t.size).map (componentOf searches)).eraseDups

end ImportSurvey.Graph
