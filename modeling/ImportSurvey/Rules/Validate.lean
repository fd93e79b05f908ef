import ImportSurvey.Rules.Match
import ImportSurvey.Graph.Basic

/-
  Verdicts by a rule set.

  For its scope a rule set finds one violation if it allows something but not this, and one for each
  forbidding rule that applies.  Rules on modules judge modules and rules on edges judge edges, so every
  rule takes part in exactly one of the two.
-/
namespace ImportSurvey

/-- The name of the violation of something outside the allowed. -/
def notInAllowed : String := "not-in-allowed"

namespace RuleSet

/-- The violations among the rules in scope, in the order in which they are found. -/
def violations (s : RuleSet) (inScope applies : Rule → Bool) : List RuleViolation :=
  let allowed := s.allowed.filter inScope
  let outside := !allowed.isEmpty && !allowed.any applies
  (if outside then [⟨notInAllowed, s.allowedSeverity⟩] else []) ++
    (s.forbidden.filter fun r => inScope r && applies r).map fun r => ⟨r.name, r.severity⟩

def judgeModule (s : RuleSet) (validate : Bool) (m : Module) : Verdict :=
  if validate then .ofViolations (s.violations Rule.isModuleOnly fun r => r.matchesModule m)
  else .clean

def judgeDependency (s : RuleSet) (validate : Bool) (m : Module) (d : Dependency) : Verdict :=
  if validate then
    .ofViolations (s.violations (fun r => !r.isModuleOnly) fun r => r.matchesDependency m d)
  else .clean

/-- A module with its own verdict and those of its edges. -/
def judge (s : RuleSet) (validate : Bool) (m : Module) : Module :=
  let judgeEdge (d : Dependency) : Dependency := d.applyVerdict (s.judgeDependency validate m d)
  { m with dependencies := m.dependencies.map judgeEdge }.applyVerdict (s.judgeModule validate m)

end RuleSet

/-- The graph with the verdicts of every module and edge. -/
def Graph.validate (g : Graph) (s : RuleSet) (validate : Bool) : Graph :=
  { g with modules := g.modules.map (s.judge validate) }

end ImportSurvey
