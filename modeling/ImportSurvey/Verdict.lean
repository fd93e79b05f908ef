/-
  Verdicts: the rules that something broke, gravest first.

  Rules that are equally grave stay in the order in which they were found, so a verdict does not depend
  on how the sorting is done.
-/
namespace ImportSurvey

/-- How grave breaking a rule is. -/
inductive Severity where
  | error
  | warn
  | info
  | ignore
deriving DecidableEq, Repr, Inhabited

namespace Severity

def all : List Severity := [.error, .warn, .info, .ignore]

def name : Severity → String
  | .error => "error"
  | .warn => "warn"
  | .info => "info"
  | .ignore => "ignore"

def names : List (String × Severity) := all.map fun s => (s.name, s)

/-- The gravest comes first. -/
def rank : Severity → Nat
  | .error => 0
  | .warn => 1
  | .info => 2
  | .ignore => 3

end Severity

/-- A rule that was broken. -/
structure RuleViolation where
  name : String
  severity : Severity
deriving DecidableEq, Repr, Inhabited

/-- The outcome for one module or one dependency. -/
structure Verdict where
  valid : Bool
  rules : List RuleViolation
deriving DecidableEq, Repr

namespace Verdict

def clean : Verdict := ⟨true, []⟩

/-- Keeps the order of equally grave rules. -/
def ofViolations (found : List RuleViolation) : Verdict where
  valid := found.isEmpty
  rules := found.mergeSort fun a b => a.severity.rank ≤ b.severity.rank

end Verdict

end ImportSurvey
