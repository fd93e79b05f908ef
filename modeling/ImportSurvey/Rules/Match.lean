import ImportSurvey.Rules.Basic
import ImportSurvey.Graph.Module

/-
  When a rule applies to a module or to an edge.

  A rule on modules is tried in three ways: by the orphan flag, by being reachable, and by reaching
  something.  A rule on edges applies when every predicate that it states holds of the edge.
-/
namespace ImportSurvey.Rule

/-- The orphan flag is as asked for and the module passes both path filters.  With reachability the
flag only picks roots, so then this way is closed. -/
def matchesOrphan (r : Rule) (m : Module) : Bool :=
  !r.isReachability &&
    match r.from.orphan with
    | some orphan => orphan == m.orphan && r.from.paths.admits m.source && r.to.paths.admits m.source
    | none => false

/-- The module was found to be reachable, or not to be, as the rule asks. -/
def matchesReachable (r : Rule) (m : Module) : Bool :=
  match r.to.reachable with
  | none => false
  | some wanted =>
    (m.reachableFor r.name).any (fun e => e.value == wanted) && r.to.paths.admits m.source

/-- The module reaches something that passes the filters of the target side. -/
def matchesReaches (r : Rule) (m : Module) : Bool :=
  r.to.reachable == some true &&
    (m.reachesFor r.name).any fun e => e.modules.any fun t => r.to.paths.admits t.source

def matchesModule (r : Rule) (m : Module) : Bool :=
  r.matchesOrphan m || r.matchesReachable m || r.matchesReaches m

/-- What is not asked for holds. -/
def agrees [BEq α] (wanted : Option α) (actual : α) : Bool :=
  match wanted with
  | some w => w == actual
  | none => true

/-- Every stated predicate holds of the edge `d` of `m`. -/
def matchesDependency (r : Rule) (m : Module) (d : Dependency) : Bool :=
  r.from.paths.admits m.source && r.to.paths.admits d.resolved &&
    (match r.to.dependencyTypes with
      | some ts => ts.meets d.dependencyTypes
      | none => true) &&
    (match r.to.dependencyTypesNot with
      | some ts => !ts.meets d.dependencyTypes
      | none => true) &&
    agrees r.to.dynamic d.dynamic && agrees r.to.circular d.circular &&
    agrees r.to.couldNotResolve d.couldNotResolve && agrees r.to.coreModule d.coreModule

end ImportSurvey.Rule
