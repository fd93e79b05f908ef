import ImportSurvey.Rules.Spec
import ImportSurvey.Failure

/-
  Rules that can be applied: patterns are read and every rule is known to concern either whole modules
  or single edges.

  Which of the two a rule concerns is decided once, here.  A rule that speaks of orphans or of
  reachability needs the whole graph and so concerns modules; predicates on an edge cannot be combined
  with it.
-/
namespace ImportSurvey

/-- Patterns that a path has to match and not to match. -/
structure PathFilter where
  path : Option Regex := none
  pathNot : Option Regex := none
deriving Repr

namespace PathFilter

def matchesPath (f : PathFilter) (source : String) : Bool :=
  match f.path with
  | some r => r.search source
  | none => true

def matchesPathNot (f : PathFilter) (source : String) : Bool :=
  match f.pathNot with
  | some r => !r.search source
  | none => true

def admits (f : PathFilter) (source : String) : Bool :=
  f.matchesPath source && f.matchesPathNot source

/-- Reads one pattern of a rule. -/
def pattern? (rule side field : String) : Option PathPattern → Except Failure (Option Regex)
  | none => .ok none
  | some p =>
    match Regex.read? p.expression with
    | .ok r => .ok (some r)
    | .error f => .error (.malformedRule rule (.badPattern side field p.expression f))

def ofSpec? (rule side : String) (path pathNot : Option PathPattern) : Except Failure PathFilter := do
  let path ← pattern? rule side "path" path
  let pathNot ← pattern? rule side "pathNot" pathNot
  return { path, pathNot }

end PathFilter

/-- What a rule is applied to. -/
inductive RuleScope where
  | module
  | dependency
deriving DecidableEq, Repr

structure FromPredicates where
  paths : PathFilter := {}
  orphan : Option Bool := none
deriving Repr

structure ToPredicates where
  paths : PathFilter := {}
  reachable : Option Bool := none
  dependencyTypes : Option TypeSet := none
  dependencyTypesNot : Option TypeSet := none
  dynamic : Option Bool := none
  circular : Option Bool := none
  couldNotResolve : Option Bool := none
  coreModule : Option Bool := none
deriving Repr

structure Rule where
  name : String
  severity : Severity
  comment : Option String
  «from» : FromPredicates
  «to» : ToPredicates
  scope : RuleScope
deriving Repr

namespace Rule

def ofSpec? (s : RuleSpec) : Except Failure Rule := do
  if s.from.orphan.isSome && s.to.hasEdgePredicates then
    throw (.malformedRule s.name .orphanWithEdge)
  if s.to.reachable.isSome && s.to.hasEdgePredicates then
    throw (.malformedRule s.name .reachableWithEdge)
  let fromPaths ← PathFilter.ofSpec? s.name "from" s.from.path s.from.pathNot
  let toPaths ← PathFilter.ofSpec? s.name "to" s.to.path s.to.pathNot
  return {
    name := s.name
    severity := s.severity
    comment := s.comment
    «from» := { paths := fromPaths, orphan := s.from.orphan }
    «to» := {
      paths := toPaths
      reachable := s.to.reachable
      dependencyTypes := s.to.dependencyTypes.map TypeSet.ofList
      dependencyTypesNot := s.to.dependencyTypesNot.map TypeSet.ofList
      dynamic := s.to.dynamic
      circular := s.to.circular
      couldNotResolve := s.to.couldNotResolve
      coreModule := s.to.coreModule }
    scope := if s.from.orphan.isSome || s.to.reachable.isSome then .module else .dependency }

def isModuleOnly (r : Rule) : Bool := r.scope = .module

/-- Whether the rule asks what is reachable. -/
def isReachability (r : Rule) : Bool := r.to.reachable.isSome

end Rule

structure RuleSet where
  forbidden : List Rule := []
  allowed : List Rule := []
  allowedSeverity : Severity := .warn
deriving Repr

namespace RuleSet

def isEmpty (s : RuleSet) : Bool := s.forbidden.isEmpty && s.allowed.isEmpty

/-- The rules that ask what is reachable, forbidden ones first. -/
def reachabilityRules (s : RuleSet) : List Rule := (s.forbidden ++ s.allowed).filter Rule.isReachability

/-- The first name that occurs a second time. -/
def repeated? (seen : List String) : List String → Option String
  | [] => none
  | n :: rest => if seen.contains n then some n else repeated? (n :: seen) rest

def ofSpec? (s : RuleSetSpec) : Except Failure RuleSet := do
  let forbidden ← s.forbidden.mapM Rule.ofSpec?
  let allowed ← s.allowed.mapM Rule.ofSpec?
  let set : RuleSet := { forbidden, allowed, allowedSeverity := s.allowedSeverity }
  -- what is reachable is noted under the name of the rule that asks
  match repeated? [] (set.reachabilityRules.map (·.name)) with
  | some n => throw (.malformedRule n .nameTaken)
  | none => return set

end RuleSet

end ImportSurvey
