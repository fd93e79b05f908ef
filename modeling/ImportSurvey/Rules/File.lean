import ImportSurvey.Rules.Reader
import ImportSurvey.Rules.Basic
import ImportSurvey.Disk.Basic

/-
  Rule sets from files.
-/
namespace ImportSurvey.RuleSet

/-- The rule set in the text of a rule file. -/
def ofText (text : String) (file : Path) : Except Failure RuleSet :=
  match RuleSetSpec.ofText text file with
  | .error f => .error (.ruleSetParse file f)
  | .ok spec => ofSpec? spec

/-- The rule set of a file. -/
def ofFile (d : Disk) (file : Path) : Except Failure RuleSet :=
  match d.readText file with
  | .error f => .error (.configRead file f)
  | .ok text => ofText text file

/-- The rule set of a file; without a file nothing is ruled. -/
def load (d : Disk) : Option Path → Except Failure RuleSet
  | some file => ofFile d file
  | none => .ok {}

end ImportSurvey.RuleSet
