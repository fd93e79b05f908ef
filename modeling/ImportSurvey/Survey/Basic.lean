import ImportSurvey.Survey.Discover
import ImportSurvey.Script.Extract
import ImportSurvey.Settings.Sources
import ImportSurvey.Resolve.Search
import ImportSurvey.Graph.Analysis
import ImportSurvey.Rules.Validate

/-
  Surveys: from a directory and settings to a judged graph.

  Files are discovered and filtered, each is read and its references extracted, and only when all
  references are known is the graph built, analysed and judged.  A file that cannot be read or
  understood becomes an issue; only a base directory or a pattern that makes no sense ends a survey.
-/
namespace ImportSurvey.Survey

/-- The pattern of a filter on ids. -/
def readFilter (field : String) : Option String → Except Failure (Option Regex)
  | none => .ok none
  | some pattern =>
    match Regex.read? pattern with
    | .ok r => .ok (some r)
    | .error f => .error (.config (.badFilter field pattern none f))

/-- What came of one file: its references if it could be read, and what is to be said about it. -/
structure FileOutcome where
  references : Option (List Reference)
  issues : List Issue
  /-- a failure that ends the survey -/
  critical : Option Failure := none
deriving Repr

/-- Reads a file and extracts its references. -/
def readFile (d : Disk) (q : Script.Request) (file : Path) : FileOutcome :=
  match d.readText file with
  | .error f =>
    let failure := Failure.ofFile file f
    { references := none, issues := [.ofFailure file failure], critical := failure.handedBack }
  | .ok text =>
    let e := Script.extract q (.ofPath file) text
    let issues :=
      if e.gaveUp then [Issue.warning file "file could not be parsed"]
      else if e.faults > 0 then
        [Issue.warning file
          (toString e.faults ++ " parse error(s); dependencies may be incomplete")]
      else []
    { references := some e.references, issues }

/-- Puts the references of a file under its id; a later file of the same id takes the place. -/
def fileUnder (id : String) (refs : List Reference) :
    List (String × List Reference) → List (String × List Reference)
  | [] => [(id, refs)]
  | (k, r) :: rest =>
    if id = k then (id, refs) :: rest
    else if id < k then (id, refs) :: (k, r) :: rest
    else (k, r) :: fileUnder id refs rest

/-- A step done, for whoever watches. -/
structure Progress where
  current : Nat
  total : Nat
deriving DecidableEq, Repr

def Progress.message (p : Progress) : String :=
  "Processing item " ++ toString p.current ++ "/" ++ toString p.total

/-- How much is done, in percent. -/
def Progress.percentage (p : Progress) : Float :=
  if p.total = 0 then 0 else p.current.toFloat / p.total.toFloat * 100

/-- The steps of a survey of `total` files. -/
def progressOf (total : Nat) : List Progress := (List.range total).map fun i => ⟨i + 1, total⟩

/-- The settings that a result names. -/
def optionsOf (s : Settings) (base : Path) : SurveyOptions where
  baseDir := base
  moduleSystems := s.effectiveModuleSystems
  tsPreCompilationDeps := s.tsPreCompilationDeps
  exoticRequireStrings := s.exoticRequireStrings
  exclude := s.excludePatterns
  maxDepth := s.maxDepth
  doNotFollow := s.doNotFollow
  includeOnly := s.includeOnly
  rulesFile := s.rulesFile
  validate := s.validate

/-- What has to be known before files are looked for. -/
structure Plan where
  base : Path
  baseName : Disk.Name
  listable : Bool
  globs : List Glob
  doNotFollow : Option Regex
  includeOnly : Option Regex

def Plan.space (p : Plan) : ModuleSpace := .ofDir p.base

/-- The real name of the directory to survey, and whether the names in it can be read. -/
def baseOf (d : Disk) (dir : Path) : Except Failure (Disk.Name × Bool) :=
  match d.canonicalize dir with
  | .error _ => .error (.invalidPath dir)
  | .ok base =>
    match d.find base true with
    | .ok (name, .dir _ listable) => .ok (name, listable)
    | _ => .error (.invalidPath dir)

def plan (d : Disk) (s : Settings) : Except Failure Plan := do
  let (baseName, listable) ← baseOf d s.baseDir
  let globs ← readGlobs s.excludePatterns
  let doNotFollow ← readFilter "do_not_follow" s.doNotFollow
  let includeOnly ← readFilter "include_only" s.includeOnly
  return { base := Disk.nameText baseName, baseName, listable, globs, doNotFollow, includeOnly }

/-- Whether the file of that id is read. -/
def Plan.takes (p : Plan) (id : String) : Bool :=
  (match p.includeOnly with
    | some r => r.search id
    | none => true) &&
  !(match p.doNotFollow with
    | some r => r.search id
    | none => false)

/-- The discovered files that are read. -/
def Plan.taken (p : Plan) (found : Discovery) : List Path :=
  found.files.filter fun f => p.takes (p.space.moduleId f)

/-- A survey's result with the steps it took. -/
structure Outcome where
  result : SurveyResult
  progress : List Progress

/-- What is looked for in files. -/
def request (s : Settings) : Script.Request := ⟨s.effectiveModuleSystems, s.exoticRequireStrings⟩

/-- What comes of a survey whose files have been read: `found` are those that were discovered, `outcomes` what came
of those that are taken. -/
def conclude (d : Disk) (s : Settings) (rules : RuleSet) (time : Timestamp) (p : Plan) (found : Discovery)
    (outcomes : List (Path × FileOutcome)) : Outcome :=
  let perFile := outcomes.foldl (fun acc (f, o) =>
    match o.references with
    | some refs => fileUnder (p.space.moduleId f) refs acc
    | none => acc) []
  let graph := ((Graph.build (p.space.resolver d) p.includeOnly perFile).analyze rules).validate
    rules s.validate
  let result := SurveyResult.ofModules graph.modules (optionsOf s p.base) time
  { result := { result with issues := found.issues ++ outcomes.flatMap fun (_, o) => o.issues }
    progress := progressOf outcomes.length }

/-- The survey of a directory.  The first critical failure of a file ends it. -/
def run (d : Disk) (s : Settings) (rules : RuleSet) (time : Timestamp) : Except Failure Outcome := do
  let p ← plan d s
  let found := discover d p.globs s.maxDepth p.baseName p.listable
  let outcomes := (p.taken found).map fun f => (f, readFile d (request s) f)
  match outcomes.findSome? fun (_, o) => o.critical with
  | some f => throw f
  | none => return conclude d s rules time p found outcomes

end ImportSurvey.Survey
