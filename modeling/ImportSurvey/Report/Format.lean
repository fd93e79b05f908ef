import ImportSurvey.Report.Json
import ImportSurvey.Settings.Basic

/-
  Reports: a result as a text for people, as JSON, or as one line of values per violation.
-/
namespace ImportSurvey.Report

/-! ## Text -/

/-- How a piece of text is shown on a terminal. -/
inductive Style where
  | bold
  | dimmed
  | green
  | yellow
  | blue
  | boldRed
deriving DecidableEq, Repr

def Style.code : Style → String
  | .bold => "1"
  | .dimmed => "2"
  | .green => "32"
  | .yellow => "33"
  | .blue => "34"
  | .boldRed => "1;31"

/-- `text` between the code of a style and the code that ends it; without colors just `text`. -/
def paint (colors : Bool) (style : Style) (text : String) : String :=
  if colors then "\x1b[" ++ style.code ++ "m" ++ text ++ "\x1b[0m" else text

def severityStyle : Severity → Style
  | .error => .boldRed
  | .warn => .yellow
  | .info => .blue
  | .ignore => .dimmed

/-- The name of a severity, as wide as the widest of those that are listed. -/
def severityLabel (colors : Bool) (s : Severity) : String :=
  paint colors (severityStyle s) (.ofList (s.name.toList ++ List.replicate (5 - s.name.length) ' '))

/-- A line for a violation; where both ends are the same it is shown once. -/
def violationLine (colors : Bool) (v : Violation) : String :=
  let place := if v.from = v.to then v.from else v.from ++ " → " ++ v.to
  "  " ++ severityLabel colors v.rule.severity ++ " " ++ paint colors .bold v.rule.name ++ ": " ++
    place ++ "\n"

def counted (n : Nat) (one many : String) : String :=
  toString n ++ " " ++ (if n = 1 then one else many)

/-- The line that closes a report. -/
def summaryLine (colors : Bool) (r : SurveyResult) : String :=
  let s := r.summary
  let cruised := counted s.totalCruised "module" "modules" ++ ", " ++
    counted s.totalDependenciesCruised "dependency" "dependencies" ++ " cruised"
  if s.violations.isEmpty then
    paint colors .green ("✔ no dependency violations found (" ++ cruised ++ ")")
  else
    let line := "✖ " ++ counted s.violations.length "dependency violation" "dependency violations" ++
      " (" ++ counted s.error "error" "errors" ++ ", " ++ counted s.warn "warning" "warnings" ++
      ", " ++ counted s.info "info" "info" ++ "). " ++ cruised ++ "."
    paint colors (if s.hasErrors then .boldRed else .yellow) line

def issueLine (colors : Bool) (i : Issue) : String :=
  "  " ++ paint colors .dimmed i.severity.name ++ " " ++ i.path.text ++ ": " ++ i.message ++ "\n"

/-- The violations, gravest first. -/
def violationPart (colors : Bool) (r : SurveyResult) : String :=
  let sorted := r.summary.violations.mergeSort fun a b => a.rule.severity.rank ≤ b.rule.severity.rank
  if sorted.isEmpty then "" else "\n" ++ .join (sorted.map (violationLine colors))

/-- The issues; warnings alone are listed only if more is asked for. -/
def issuePart (colors verbose : Bool) (r : SurveyResult) : String :=
  if !r.issues.isEmpty && (verbose || r.issues.any (·.severity ≠ .warning)) then
    "\nFiles with problems:\n" ++ .join (r.issues.map (issueLine colors))
  else ""

def detailPart (verbose : Bool) (r : SurveyResult) : String :=
  if verbose then
    let o := r.summary.optionsUsed
    "\nBase directory: " ++ o.baseDir.text ++ "\nModule systems: " ++
      ", ".intercalate (o.moduleSystems.map ModuleSystem.name) ++ "\nCruised in " ++
      spanText r.duration ++ "\n"
  else ""

def fullText (colors verbose : Bool) (r : SurveyResult) : String :=
  violationPart colors r ++ issuePart colors verbose r ++ detailPart verbose r ++ "\n" ++
    summaryLine colors r ++ "\n"

def text (colors verbose quiet : Bool) (r : SurveyResult) : String :=
  if quiet then summaryLine colors r ++ "\n" else fullText colors verbose r

/-! ## Lines of values -/

/-- Whether a value has to stand in quotes to be told from what is around it. -/
def needsQuotes (cs : List Char) : Bool :=
  cs.any fun c => c == ',' || c == '"' || c == '\n' || c == '\r'

/-- A value; in quotes every quote is doubled. -/
def csvValue (s : String) : List Char :=
  if needsQuotes s.toList then
    '"' :: s.toList.flatMap (fun c => if c = '"' then ['"', '"'] else [c]) ++ ['"']
  else s.toList

/-- Values with commas between them. -/
def csvValues : List String → List Char
  | [] => []
  | [s] => csvValue s
  | s :: rest => csvValue s ++ ',' :: csvValues rest

def csvLine (values : List String) : List Char := csvValues values ++ ['\n']

def csvRow (v : Violation) : List String := [v.rule.severity.name, v.rule.name, v.from, v.to]

/-- A line of names, then one line per violation. -/
def csv (r : SurveyResult) : String :=
  .ofList ((["severity", "rule", "from", "to"] :: r.summary.violations.map csvRow).flatMap csvLine)

/-! ## All formats -/

def json (r : SurveyResult) : String := r.toJson.spread

/-- The report of a result. -/
def render (format : OutputFormat) (colors verbose quiet : Bool) (r : SurveyResult) : String :=
  match format with
  | .text => text colors verbose quiet r
  | .json => json r
  | .csv => csv r

end ImportSurvey.Report
