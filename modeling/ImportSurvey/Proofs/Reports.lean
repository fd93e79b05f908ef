import ImportSurvey.Proofs.Records
import ImportSurvey.Proofs.Timestamps
import ImportSurvey.Report.Format

/-
  Results that are reported as JSON and read again.

  A report holds everything that a survey finds out but for the time it took.  The records of a result are nested
  eight levels deep, and each is read back if its fields are, from the broken rules on the inside to the result
  itself.  Three kinds of fields differ from each other: those that are always written and needed, those that are left
  out if they are absent, and the target of an edge, which is written as nothing if there is none.

  What the fields can hold is more than any report says (`SurveyResult.Storable`): a count has 64 bits, and the time
  is one of the calendar.
-/
namespace ImportSurvey

open Datum

section

variable {n : Nat}

/-! ## Modules -/

/-- A set is read back from the list of its members. -/
theorem TypeSet.ofList_toList (s : TypeSet) : ofList s.toList = s := by
  refine TypeSet.ext fun t => ?_
  have hall : t ∈ DependencyType.all := by cases t <;> decide
  have hmem : s.toList.contains t = s.has t := by
    rw [Bool.eq_iff_iff, List.contains_iff_mem, toList, List.mem_filter]
    exact and_iff_right hall
  rw [ofList, has_ofPred, hmem]

theorem TypeSet.reads (s : TypeSet) : Reads (n + 1) s.toJson TypeSet.decode s := by
  have htypes : Reads (n + 1) s.toJson (decodeList .json (decodeName .json DependencyType.names)) s.toList :=
    DependencyType.reads_all s.toList
  refine ⟨htypes.legible, ?_⟩
  rw [TypeSet.decode, htypes.decoded]
  exact congrArg Except.ok s.ofList_toList

theorem RuleViolation.reads (v : RuleViolation) : Reads (n + 1) v.toJson RuleViolation.decode v := by
  show Reads _ (.obj (Json.present [("name", some _), ("severity", some _)])) _ v
  refine Fills.reads_needed ?_ rfl (by decide)
  refine .field (reads_string v.name) (fun _ => rfl) ?_
  refine .field v.severity.reads (fun _ => rfl) ?_
  exact .done

theorem Dependency.reads (e : Dependency) : Reads (n + 3) e.toJson Dependency.decode e := by
  have htext : ∀ s : String, Reads (n + 2) (.str s) (decodeOption (decodeString .json)) (some s) :=
    fun s => reads_some (reads_string s) nofun
  refine Fills.reads_needed ?_ rfl (by decide)
  refine .field (reads_string e.from) (fun _ => rfl) ?_
  refine .spare (reads_orNull htext) (fun _ => rfl) ?_
  refine .field (reads_string e.moduleName) (fun _ => rfl) ?_
  refine .field (reads_string e.resolved) (fun _ => rfl) ?_
  refine .field e.moduleSystem.reads (fun _ => rfl) ?_
  refine .field e.dependencyTypes.reads (fun _ => rfl) ?_
  refine .option (fun s _ => htext s) (fun _ => rfl) rfl ?_
  refine .field (reads_bool e.dynamic) (fun _ => rfl) ?_
  refine .field (reads_bool e.circular) (fun _ => rfl) ?_
  refine .field (reads_bool e.coreModule) (fun _ => rfl) ?_
  refine .field (reads_bool e.couldNotResolve) (fun _ => rfl) ?_
  refine .field (reads_bool e.valid) (fun _ => rfl) ?_
  refine .field (reads_list fun v _ => v.reads) (fun _ => rfl) ?_
  exact .done

theorem ReachableEntry.reads (e : ReachableEntry) : Reads (n + 1) e.toJson ReachableEntry.decode e := by
  show Reads _ (.obj (Json.present [("asDefinedInRule", some _), ("value", some _)])) _ e
  refine Fills.reads_needed ?_ rfl (by decide)
  refine .field (reads_string e.asDefinedInRule) (fun _ => rfl) ?_
  refine .field (reads_bool e.value) (fun _ => rfl) ?_
  exact .done

theorem ReachedModule.reads (m : ReachedModule) : Reads (n + 2) m.toJson ReachedModule.decode m := by
  show Reads _ (.obj (Json.present [("source", some _), ("via", some _)])) _ m
  refine Fills.reads_needed ?_ rfl (by decide)
  refine .field (reads_string m.source) (fun _ => rfl) ?_
  refine .field (reads_strings m.via) (fun _ => rfl) ?_
  exact .done

theorem ReachesEntry.reads (e : ReachesEntry) : Reads (n + 4) e.toJson ReachesEntry.decode e := by
  show Reads _ (.obj (Json.present [("asDefinedInRule", some _), ("modules", some _)])) _ e
  refine Fills.reads_needed ?_ rfl (by decide)
  refine .field (reads_string e.asDefinedInRule) (fun _ => rfl) ?_
  refine .field (reads_list fun m _ => m.reads) (fun _ => rfl) ?_
  exact .done

theorem Module.reads (m : Module) : Reads (n + 6) m.toJson Module.decode m := by
  refine Fills.reads_needed ?_ rfl (by decide)
  refine .field (reads_string m.id) (fun _ => rfl) ?_
  refine .field (reads_string m.source) (fun _ => rfl) ?_
  refine .option (fun s _ => reads_some s.reads nofun) (fun _ => rfl) rfl ?_
  refine .field (reads_bool m.coreModule) (fun _ => rfl) ?_
  refine .field (reads_bool m.followed) (fun _ => rfl) ?_
  refine .field (reads_list fun e _ => e.reads) (fun _ => rfl) ?_
  refine .field (reads_bool m.orphan) (fun _ => rfl) ?_
  refine .field (reads_list fun e _ => e.reads) (fun _ => rfl) ?_
  refine .field (reads_list fun e _ => e.reads) (fun _ => rfl) ?_
  refine .field (reads_bool m.valid) (fun _ => rfl) ?_
  refine .field (reads_list fun v _ => v.reads) (fun _ => rfl) ?_
  exact .done

/-! ## Results -/

theorem Violation.reads (v : Violation) : Reads (n + 2) v.toJson Violation.decode v := by
  show Reads _ (.obj (Json.present [("from", some _), ("to", some _), ("rule", some _)])) _ v
  refine Fills.reads_needed ?_ rfl (by decide)
  refine .field (reads_string v.from) (fun _ => rfl) ?_
  refine .field (reads_string v.to) (fun _ => rfl) ?_
  refine .field v.rule.reads (fun _ => rfl) ?_
  exact .done

/-- The counts of a summary, and the depth its options limit a survey to, have 64 bits. -/
structure Summary.Storable (s : Summary) : Prop where
  error : s.error < Nat.pow 2 64
  warn : s.warn < Nat.pow 2 64
  info : s.info < Nat.pow 2 64
  ignore : s.ignore < Nat.pow 2 64
  totalCruised : s.totalCruised < Nat.pow 2 64
  totalDependenciesCruised : s.totalDependenciesCruised < Nat.pow 2 64
  maxDepth : ∀ depth, s.optionsUsed.maxDepth = some depth → depth < Nat.pow 2 64

theorem SurveyOptions.reads {o : SurveyOptions} (hdepth : ∀ depth, o.maxDepth = some depth → depth < Nat.pow 2 64) :
    Reads (n + 2) o.toJson SurveyOptions.decode o := by
  have htext : ∀ s : String, Reads (n + 1) (.str s) (decodeOption (decodeString .json)) (some s) :=
    fun s => reads_some (reads_string s) nofun
  -- the rule file is a path, which the form makes of the text it has decoded
  have hfile : Fills form (n + 1) { o with rulesFile := none, validate := false }
      [("rulesFile", o.rulesFile.map fun p => .str p.text), ("validate", some (.bool o.validate))] ["validate"] o := by
    have hvalidate : Fills form (n + 1) { o with validate := false } [("validate", some (.bool o.validate))]
        ["validate"] o := .field (reads_bool o.validate) (fun _ => rfl) .done
    refine .perhaps ?_ ?_ hvalidate
    · intro j hj
      obtain ⟨file, hfile, rfl⟩ := Option.map_eq_some_iff.mp hj
      refine ⟨.str file.text, ?_⟩
      rw [hfile]
      rfl
    · intro hv
      rw [Option.map_eq_none_iff.mp hv]
  -- a depth is written as an integer
  have hinteger : (do let depth ← o.maxDepth; pure (depth : Int)).map (fun i => Json.int i) =
      o.maxDepth.map fun depth => .int depth := by
    cases o.maxDepth <;> rfl
  rw [toJson, hinteger]
  refine Fills.reads_needed ?_ rfl (by decide)
  refine .field (reads_path o.baseDir.text) (fun _ => rfl) ?_
  refine .field (ModuleSystem.reads_all o.moduleSystems) (fun _ => rfl) ?_
  refine .field (reads_bool o.tsPreCompilationDeps) (fun _ => rfl) ?_
  refine .field (reads_strings o.exoticRequireStrings) (fun _ => rfl) ?_
  refine .field (reads_strings o.exclude) (fun _ => rfl) ?_
  refine .option (fun depth h => reads_some (reads_count (hdepth depth h)) nofun) (fun _ => rfl) rfl ?_
  refine .option (fun s _ => htext s) (fun _ => rfl) rfl ?_
  refine .option (fun s _ => htext s) (fun _ => rfl) rfl ?_
  exact hfile

theorem Summary.reads {s : Summary} (h : s.Storable) : Reads (n + 4) s.toJson Summary.decode s := by
  show Reads _ (.obj (Json.present [("violations", some _), ("error", some _), ("warn", some _), ("info", some _),
    ("ignore", some _), ("totalCruised", some _), ("totalDependenciesCruised", some _), ("optionsUsed", some _)])) _ s
  refine Fills.reads_needed ?_ rfl (by decide)
  refine .field (reads_list fun v _ => v.reads) (fun _ => rfl) ?_
  refine .field (reads_count h.error) (fun _ => rfl) ?_
  refine .field (reads_count h.warn) (fun _ => rfl) ?_
  refine .field (reads_count h.info) (fun _ => rfl) ?_
  refine .field (reads_count h.ignore) (fun _ => rfl) ?_
  refine .field (reads_count h.totalCruised) (fun _ => rfl) ?_
  refine .field (reads_count h.totalDependenciesCruised) (fun _ => rfl) ?_
  refine .field (SurveyOptions.reads h.maxDepth) (fun _ => rfl) ?_
  exact .done

theorem Gravity.name_injective : Function.Injective Gravity.name := by
  intro g h heq
  cases g <;> cases h <;> first | rfl | exact absurd heq (by decide)

theorem Gravity.reads (g : Gravity) : Reads n (.str g.name) (decodeName .json Gravity.names) g :=
  reads_name name_injective (by cases g <;> decide)

theorem Issue.reads (i : Issue) : Reads (n + 1) i.toJson Issue.decode i := by
  show Reads _ (.obj (Json.present [("path", some _), ("message", some _), ("severity", some _)])) _ i
  refine Fills.reads_needed ?_ rfl (by decide)
  refine .field (reads_path i.path.text) (fun _ => rfl) ?_
  refine .field (reads_string i.message) (fun _ => rfl) ?_
  refine .field i.severity.reads (fun _ => rfl) ?_
  exact .done

theorem Timestamp.reads {t : Timestamp} (h : t.Valid) : Reads n (.str t.text) Timestamp.decode t := by
  refine ⟨.str t.text, ?_⟩
  show Timestamp.decode (.str t.text) = .ok t
  rw [Timestamp.decode, ofText?_text h]

/-- What the fields of a result can hold: counts of 64 bits, and a time of the calendar. -/
structure SurveyResult.Storable (r : SurveyResult) : Prop where
  summary : r.summary.Storable
  cruisedAt : r.cruisedAt.Valid

theorem SurveyResult.reads {r : SurveyResult} (h : r.Storable) :
    Reads (n + 8) r.toJson SurveyResult.decode { r with duration := 0 } := by
  have htext : r.toJson = .obj (Json.present [("modules", some (.arr (r.modules.map Module.toJson))),
      ("summary", some r.summary.toJson),
      ("issues", if r.issues.isEmpty then none else some (.arr (r.issues.map Issue.toJson))),
      ("cruisedAt", some (.str r.cruisedAt.text))]) := by
    have happend : ∀ (l : List (String × Option Json)) (key : String) (j : Json),
        Json.present l ++ [(key, j)] = Json.present (l ++ [(key, some j)]) := by
      intro l key j
      rw [Json.present, Json.present, List.filterMap_append]
      rfl
    rw [toJson, members, happend]
    rfl
  rw [htext]
  refine Fills.reads_needed ?_ rfl (by decide)
  refine .field (reads_list fun m _ => m.reads) (fun _ => rfl) ?_
  refine .field (Summary.reads h.summary) (fun _ => rfl) ?_
  refine .list (fun i _ => i.reads) (fun _ => rfl) rfl ?_
  refine .field (Timestamp.reads h.cruisedAt) (fun _ => rfl) ?_
  exact .done

/-- A result with fields that are set and fields that are not, with characters that have to be escaped, and with a
leap second before the common era. -/
def SurveyResult.varied : SurveyResult where
  modules := [
    { Module.ofFollowed "src/\"a\".ts" with
      moduleSystem := some .tsType
      dependencies := [
        { Dependency.blank with
          «from» := "src/\"a\".ts"
          «to» := some "fs"
          resolved := "fs"
          dependencyTypes := { core := true, typeOnly := true }
          rules := [⟨"no\tcore\x01", .warn⟩] },
        { Dependency.blank with resolved := "./lost\\", couldNotResolve := true }]
      reachable := [⟨"within", true⟩]
      reaches := [⟨"within", [⟨"fs", []⟩, ⟨"src/b.ts", ["src/é.ts", "src/b.ts"]⟩]⟩] },
    Module.leaf "fs" true]
  summary := {
    violations := [⟨"src/\"a\".ts", "fs", ⟨"no\tcore\x01", .warn⟩⟩]
    warn := 1
    totalCruised := 2
    totalDependenciesCruised := 2
    optionsUsed := { baseDir := ⟨"/home"⟩, maxDepth := some 18446744073709551615, rulesFile := some ⟨"r.json"⟩ } }
  issues := [⟨⟨"c.js"⟩, "line 1:\n\x7f", .critical⟩]
  cruisedAt := ⟨-12345, 2, 28, 23, 59, 60, 120000000⟩
  duration := 17

end

end ImportSurvey
