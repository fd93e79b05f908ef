import ImportSurvey.Reference
import ImportSurvey.Verdict

/-
  Modules and the dependencies they own.

  A dependency names its target by id, so a graph is a list of modules and nothing points back.  Besides
  what was declared and resolved, modules and dependencies carry what analysis and validation find out;
  those fields start empty and `Module.clearDerived` empties them again.
-/
namespace ImportSurvey

/-- Whether a module is reachable, by one rule. -/
structure ReachableEntry where
  asDefinedInRule : String
  value : Bool
deriving DecidableEq, Repr

/-- A module that a root reaches, with the sources on a shortest way there, the root left out. -/
structure ReachedModule where
  source : String
  via : List String
deriving DecidableEq, Repr

/-- What a root reaches, by one rule. -/
structure ReachesEntry where
  asDefinedInRule : String
  modules : List ReachedModule
deriving DecidableEq, Repr

/-- An edge of the graph, owned by the module it starts from. -/
structure Dependency where
  «from» : String
  /-- the id of the target; none if the reference led nowhere -/
  «to» : Option String
  /-- the first reference text that made this edge -/
  moduleName : String
  /-- the id of the target, or the reference text if it led nowhere -/
  resolved : String
  moduleSystem : ModuleSystem
  dependencyTypes : TypeSet
  exoticRequire : Option String
  dynamic : Bool
  circular : Bool
  coreModule : Bool
  couldNotResolve : Bool
  valid : Bool
  rules : List RuleViolation
deriving DecidableEq, Repr

def Dependency.applyVerdict (d : Dependency) (v : Verdict) : Dependency :=
  { d with valid := v.valid, rules := v.rules }

/-- A node of the graph. -/
structure Module where
  id : String
  /-- the path that rules are matched against -/
  source : String
  moduleSystem : Option ModuleSystem
  coreModule : Bool
  /-- whether the references of this module were read -/
  followed : Bool
  dependencies : List Dependency
  orphan : Bool
  reachable : List ReachableEntry
  reaches : List ReachesEntry
  valid : Bool
  rules : List RuleViolation
deriving DecidableEq, Repr

namespace Module

/-- A module whose references are read. -/
def ofFollowed (id : String) : Module where
  id := id
  source := id
  moduleSystem := none
  coreModule := false
  followed := true
  dependencies := []
  orphan := false
  reachable := []
  reaches := []
  valid := true
  rules := []

/-- A module known only as a target. -/
def leaf (id : String) (coreModule : Bool) : Module :=
  { ofFollowed id with coreModule, followed := false }

def reachableFor (m : Module) (rule : String) : Option ReachableEntry :=
  m.reachable.find? (·.asDefinedInRule = rule)

def reachesFor (m : Module) (rule : String) : Option ReachesEntry :=
  m.reaches.find? (·.asDefinedInRule = rule)

/-- The number of the dependencies of all these modules together. -/
def countDependencies (modules : List Module) : Nat :=
  modules.foldr (fun m n => m.dependencies.length + n) 0

/-- Without anything that analysis finds out. -/
def clearDerived (m : Module) : Module :=
  { m with
    orphan := false
    reachable := []
    reaches := []
    dependencies := m.dependencies.map fun d => { d with circular := false } }

def applyVerdict (m : Module) (v : Verdict) : Module :=
  { m with valid := v.valid, rules := v.rules }

end Module

end ImportSurvey
