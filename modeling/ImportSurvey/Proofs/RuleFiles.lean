import ImportSurvey.Proofs.Records
import ImportSurvey.Rules.File

/-
  Rule sets that are written as JSON and read again.

  Four records are nested in each other, and each is read back if its fields are: the modules a rule starts from
  (`FromSpec.reads`), those it leads to (`ToSpec.reads`), the rule itself (`RuleSpec.reads`) and the rule set
  (`RuleSetSpec.reads`).  A field that may be absent is written without a value never, so an absent pattern and an
  empty list of patterns stay apart.  From the texts of both printers the same rule set comes, and with it the same
  compiled rules or the same failure (`RuleSetSpec.ofText_of_json`).
-/
namespace ImportSurvey

open Datum

section

variable {n : Nat} {format : Format}

theorem mapM_strings {f : Json → Option String} (hf : ∀ s, f (.str s) = some s) (ss : List String) :
    (ss.map Json.str).mapM f = some ss := by
  induction ss with
  | nil => rfl
  | cons s ss ih =>
    rw [List.map_cons, List.mapM_cons, hf, ih]
    rfl

/-- One pattern comes back as one, and a list of patterns as a list. -/
theorem PathPattern.reads (p : PathPattern) : Reads (n + 1) p.toJson PathPattern.decode p := by
  cases p with
  | one pattern => exact ⟨.str pattern, rfl⟩
  | any patterns =>
    have hpatterns : Reads (n + 1) (Json.strings patterns) (decodeList .json (decodeString .json)) patterns :=
      reads_strings patterns
    refine ⟨hpatterns.legible, ?_⟩
    rw [PathPattern.decode, toJson, Json.complete?_ofJson, Json.strings]
    dsimp only
    rw [mapM_strings]
    exact fun _ => rfl

theorem PathPattern.reads_some (p : PathPattern) :
    Reads (n + 1) p.toJson (decodeOption PathPattern.decode) (some p) := by
  refine Datum.reads_some p.reads ?_
  cases p <;> nofun

theorem reads_flag (b : Bool) : Reads n (.bool b) (decodeOption (decodeBool format)) (some b) :=
  reads_some (reads_bool b) nofun

theorem FromSpec.reads (s : FromSpec) : Reads (n + 2) s.toJson (FromSpec.decode format) s := by
  refine Fills.reads ?_ rfl (by cases format <;> decide)
  refine .option (fun p _ => p.reads_some) (fun _ => rfl) rfl ?_
  refine .option (fun p _ => p.reads_some) (fun _ => rfl) rfl ?_
  refine .option (fun b _ => reads_flag b) (fun _ => rfl) rfl ?_
  exact .done

theorem ToSpec.reads (s : ToSpec) : Reads (n + 2) s.toJson (ToSpec.decode format) s := by
  have htypes : ∀ ts : List DependencyType, Reads (n + 1) (Json.strings (ts.map DependencyType.name))
      (decodeOption (decodeList format (decodeName format DependencyType.names))) (some ts) :=
    fun ts => reads_some (DependencyType.reads_all ts) nofun
  refine Fills.reads ?_ rfl (by cases format <;> decide)
  refine .option (fun p _ => p.reads_some) (fun _ => rfl) rfl ?_
  refine .option (fun p _ => p.reads_some) (fun _ => rfl) rfl ?_
  refine .option (fun b _ => reads_flag b) (fun _ => rfl) rfl ?_
  refine .option (fun ts _ => htypes ts) (fun _ => rfl) rfl ?_
  refine .option (fun ts _ => htypes ts) (fun _ => rfl) rfl ?_
  refine .option (fun b _ => reads_flag b) (fun _ => rfl) rfl ?_
  refine .option (fun b _ => reads_flag b) (fun _ => rfl) rfl ?_
  refine .option (fun b _ => reads_flag b) (fun _ => rfl) rfl ?_
  refine .option (fun b _ => reads_flag b) (fun _ => rfl) rfl ?_
  exact .done

theorem RuleSpec.reads (s : RuleSpec) : Reads (n + 3) s.toJson (RuleSpec.decode format) s := by
  refine Fills.reads ?_ rfl (by cases format <;> decide)
  refine .spare (reads_string s.name) (fun _ => rfl) ?_
  refine .spare s.severity.reads (fun _ => rfl) ?_
  refine .spare s.from.reads (fun _ => rfl) ?_
  refine .spare s.to.reads (fun _ => rfl) ?_
  refine .option (fun c _ => reads_some (reads_string c) nofun) (fun _ => rfl) rfl ?_
  exact .done

theorem RuleSetSpec.reads (s : RuleSetSpec) : Reads (n + 5) s.toJson (RuleSetSpec.decode format) s := by
  show Reads _ (.obj (Json.present [("forbidden", some _), ("allowed", some _), ("allowedSeverity", some _)])) _ s
  refine Fills.reads ?_ rfl (by cases format <;> decide)
  refine .spare (reads_list fun r _ => r.reads) (fun _ => rfl) ?_
  refine .spare (reads_list fun r _ => r.reads) (fun _ => rfl) ?_
  refine .spare s.allowedSeverity.reads (fun _ => rfl) ?_
  exact .done

end

/-! ## Texts -/

/-- The text of a rule set, in whatever layout it can be read. -/
theorem RuleSetSpec.ofJsonText_of_read {spec : RuleSetSpec} {text : String}
    (h : Json.readDatum text = (.ofJson spec.toJson, true)) : ofJsonText text = .ok spec := by
  have hspec : decode .json (.ofJson spec.toJson) = .ok spec := (RuleSetSpec.reads (n := 0) spec).decoded
  rw [ofJsonText, h]
  show (decode .json (.ofJson spec.toJson)).bind _ = _
  rw [hspec]
  rfl

theorem RuleSetSpec.legible (spec : RuleSetSpec) : spec.toJson.Legible Json.maxNesting := by
  have hspec : Reads Json.maxNesting spec.toJson (decode .json) spec := RuleSetSpec.reads (n := 122) spec
  exact hspec.legible

/-- **A rule set that is written as JSON is read back as itself** from a file whose name says that it is JSON, on one
line or with a member per line, and compiled it gives the same rules or the same failure. -/
theorem RuleSetSpec.ofText_of_json (spec : RuleSetSpec) {file : Path} (hfile : isJsonFile file = true) :
    RuleSetSpec.ofText spec.toText file = .ok spec ∧ RuleSetSpec.ofText spec.toJson.spread file = .ok spec ∧
      RuleSet.ofText spec.toText file = RuleSet.ofSpec? spec := by
  have hcompact : RuleSetSpec.ofText spec.toText file = .ok spec := by
    rw [RuleSetSpec.ofText, if_pos hfile]
    exact ofJsonText_of_read (Json.readDatum_compact spec.legible)
  have hspread : RuleSetSpec.ofText spec.toJson.spread file = .ok spec := by
    rw [RuleSetSpec.ofText, if_pos hfile]
    exact ofJsonText_of_read (Json.readDatum_spread spec.legible)
  refine ⟨hcompact, hspread, ?_⟩
  rw [RuleSet.ofText, hcompact]

/-- A rule with one pattern, with several and with none, with a type named twice and with no types, and a rule that
says nothing. -/
def RuleSetSpec.varied : RuleSetSpec where
  forbidden := [
    { name := "no \"up\" references"
      severity := .error
      «from» := { path := some (.one "^src/\\w+"), pathNot := some (.any []), orphan := some false }
      «to» := {
        path := some (.any ["^lib/", ""])
        dependencyTypes := some [.npm, .npm, .core]
        dependencyTypesNot := some []
        circular := some true }
      comment := some "line one\nline two\x07" }]
  allowed := [{}]
  allowedSeverity := .ignore

theorem RuleSetSpec.ofText_of_json_varied : isJsonFile ⟨"rules.json"⟩ = true ∧
    RuleSetSpec.ofText varied.toText ⟨"rules.json"⟩ = .ok varied ∧
    RuleSetSpec.ofText varied.toJson.spread ⟨"rules.json"⟩ = .ok varied ∧
    RuleSet.ofText varied.toText ⟨"rules.json"⟩ = RuleSet.ofSpec? varied := by
  have hfile : isJsonFile ⟨"rules.json"⟩ = true := by decide +kernel
  exact ⟨hfile, RuleSetSpec.ofText_of_json varied hfile⟩

end ImportSurvey
