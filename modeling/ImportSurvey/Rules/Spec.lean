import ImportSurvey.Reference
import ImportSurvey.Verdict

/-
  Rule sets as they are written in a rule file.

  A rule names the modules it starts from and what it says about the modules they lead to.  Fields that
  were not written stay apart from fields written with their default, because a rule with a predicate
  differs from one without.
-/
namespace ImportSurvey

/-- One pattern, or a list of patterns any of which may match. -/
inductive PathPattern where
  | one (pattern : String)
  | any (patterns : List String)
deriving DecidableEq, Repr

/-- The pattern as one expression; the alternatives of a list are joined by bars. -/
def PathPattern.expression : PathPattern → String
  | .one p => p
  | .any ps => "|".intercalate ps

/-- The modules a rule starts from. -/
structure FromSpec where
  path : Option PathPattern := none
  pathNot : Option PathPattern := none
  orphan : Option Bool := none
deriving DecidableEq, Repr

/-- The modules a rule leads to, and the edge that leads there. -/
structure ToSpec where
  path : Option PathPattern := none
  pathNot : Option PathPattern := none
  reachable : Option Bool := none
  dependencyTypes : Option (List DependencyType) := none
  dependencyTypesNot : Option (List DependencyType) := none
  dynamic : Option Bool := none
  circular : Option Bool := none
  couldNotResolve : Option Bool := none
  coreModule : Option Bool := none
deriving DecidableEq, Repr

/-- Whether some predicate makes sense for a single edge only. -/
def ToSpec.hasEdgePredicates (t : ToSpec) : Bool :=
  t.dependencyTypes.isSome || t.dependencyTypesNot.isSome || t.dynamic.isSome || t.circular.isSome ||
    t.couldNotResolve.isSome || t.coreModule.isSome

/-- The name of a rule that was written without one. -/
def unnamedRule : String := "unnamed"

structure RuleSpec where
  name : String := unnamedRule
  severity : Severity := .warn
  «from» : FromSpec := {}
  «to» : ToSpec := {}
  comment : Option String := none
deriving DecidableEq, Repr

structure RuleSetSpec where
  forbidden : List RuleSpec := []
  allowed : List RuleSpec := []
  allowedSeverity : Severity := .warn
deriving DecidableEq, Repr

end ImportSurvey
