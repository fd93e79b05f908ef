import ImportSurvey.Script.Extract
import ImportSurvey.Proofs.Places

/-
  Declarations of values and of types only.

  Three systems share the declarations of a script among them: what a program loads is for `es6` and `cjs`, what
  is gone once types are checked for `tsType`.  Each of them walks the whole tree with a rule of its own, and the
  rules look at different kinds of node, so nothing in them says that a declaration is seen by one of them and
  not by two or none.

  Here a node is asked once what it says of another module (`Node.mention?`), and the answer alone tells which
  system has to report it and how (`Mention.system`, `Mention.reference`).  That the rules do just that is a
  statement about one node (`sightings_eq_reported`); the reading order comes to each place once, so it holds of
  the whole script, however deep a declaration stands in it (`partitioned`).
-/
namespace ImportSurvey.Script

/-! ## What a node says of another module -/

/-- The ways to name another module that the three systems know. -/
inductive Wording where
  | importFrom
  | exportAll
  | exportNamed
  /-- `import name = require(source)` -/
  | importEquals
  /-- `import(source)` -/
  | importCall
  /-- `require(source)` -/
  | requireCall
deriving DecidableEq, Repr

/-- The system that a wording of values belongs to. -/
def Wording.system : Wording → ModuleSystem
  | .importFrom | .exportAll | .exportNamed | .importCall => .es6
  | .importEquals | .requireCall => .cjs

/-- Another module, as a node names it. -/
structure Mention where
  wording : Wording
  /-- the declaration is one of types only -/
  typeOnly : Bool
  source : Literal

/-- What a node says of another module.  Only declarations can be of types only. -/
def Node.mention? : Node → Option Mention
  | .importFrom typeOnly source => some ⟨.importFrom, typeOnly, source⟩
  | .exportAll typeOnly source => some ⟨.exportAll, typeOnly, source⟩
  | .exportNamed typeOnly source _ => source.map (⟨.exportNamed, typeOnly, ·⟩)
  | .importEquals typeOnly source => source.map (⟨.importEquals, typeOnly, ·⟩)
  | .importCall source _ => source.literal?.map (⟨.importCall, false, ·⟩)
  | .call (.name "require") _ [argument] => argument.literal?.map (⟨.requireCall, false, ·⟩)
  | _ => none

namespace Mention

def isReExport (m : Mention) : Bool := m.wording == .exportAll || m.wording == .exportNamed

/-- The system that has to report it. -/
def system (m : Mention) : ModuleSystem := if m.typeOnly then .tsType else m.wording.system

def tags (m : Mention) : List DependencyType :=
  (if m.typeOnly then [.typeOnly] else []) ++ (if m.isReExport then [.reExport] else []) ++
    if m.wording = .importCall then [.dynamicImport] else []

/-- How it is reported. -/
def reference (m : Mention) : Reference where
  moduleName := m.source.value
  moduleSystem := m.system
  dynamic := m.wording = .importCall
  dependencyTypes := .ofList m.tags

/-- The report of a system, which owes one only for a name that is not empty. -/
def reported? (s : ModuleSystem) (m : Mention) : Option Reference :=
  if m.system = s ∧ m.source.value ≠ "" then some m.reference else none

end Mention

/-- The systems that share the declarations of a script. -/
def sharing : List ModuleSystem := [.es6, .cjs, .tsType]

variable {exotic : List String} {s : ModuleSystem} {w : Wording} {t : Bool}

/-! ## One node -/

/-- What a system owes for a source that may be missing. -/
def owed (s : ModuleSystem) (w : Wording) (t : Bool) (source : Option Literal) : List Reference :=
  ((source.map (⟨w, t, ·⟩)).bind (Mention.reported? s)).toList

/-- A system owes nothing for what belongs to another one. -/
theorem nil_eq_owed (hs : (if t then .tsType else w.system) ≠ s) (source : Option Literal) :
    [] = owed s w t source := by
  cases source with
  | none => rfl
  | some l =>
    show [] = (Mention.reported? s ⟨w, t, l⟩).toList
    rw [Mention.reported?, if_neg fun h => hs h.1]
    rfl

/-- What a rule sees at a name is what its system owes, if it makes the right reference of the name. -/
theorem map_sight?_eq_owed (hs : (if t then .tsType else w.system) = s) {r : String → Reference}
    (hr : ∀ l : Literal, r l.value = Mention.reference ⟨w, t, l⟩) (source : Option Literal) :
    (sight? source r).map (·.reference) = owed s w t source := by
  cases source with
  | none => rfl
  | some l =>
    show (sight l r).map _ = (Mention.reported? s ⟨w, t, l⟩).toList
    rw [sight, Mention.reported?]
    by_cases hempty : l.value = ""
    · rw [if_pos (by simpa using hempty), if_neg fun h => h.2 hempty]
      rfl
    · rw [if_neg (by simpa using hempty), if_pos ⟨hs, hempty⟩, ← hr]
      rfl

theorem mention?_require (types arguments : List Node) :
    (Node.call (.name "require") types arguments).mention? =
      (onlyLiteral arguments).map (⟨.requireCall, false, ·⟩) := by
  rcases arguments with - | ⟨argument, - | ⟨argument', rest⟩⟩ <;> rfl

/-- No other call says something of another module. -/
theorem mention?_call {callee : Node} (h : callee ≠ .name "require") (types arguments : List Node) :
    (Node.call callee types arguments).mention? = none := by
  rw [Node.mention?.eq_def]
  split <;> simp_all

theorem es6Sightings_eq_reported (n : Node) :
    (es6Sightings n).map (·.reference) = (n.mention?.bind (Mention.reported? .es6)).toList := by
  cases n with
  | importFrom typeOnly source =>
    cases typeOnly with
    | false => exact map_sight?_eq_owed rfl (fun _ => by rfl) (some source)
    | true => exact nil_eq_owed (by decide) (some source)
  | exportAll typeOnly source =>
    cases typeOnly with
    | false => exact map_sight?_eq_owed rfl (fun _ => by rfl) (some source)
    | true => exact nil_eq_owed (by decide) (some source)
  | exportNamed typeOnly source inner =>
    cases typeOnly with
    | false => exact map_sight?_eq_owed rfl (fun _ => by rfl) source
    | true => exact nil_eq_owed (by decide) source
  | importEquals typeOnly source => cases typeOnly <;> exact nil_eq_owed (by decide) source
  | importCall source options => exact map_sight?_eq_owed rfl (fun _ => by rfl) source.literal?
  | call callee types arguments =>
    by_cases hcallee : callee = .name "require"
    · subst hcallee
      rw [mention?_require]
      exact nil_eq_owed (by decide) (onlyLiteral arguments)
    · rw [mention?_call hcallee]
      rfl
  | name | member | text | template | array | group => rfl

theorem cjsSightings_eq_reported (n : Node) :
    (cjsSightings n).map (·.reference) = (n.mention?.bind (Mention.reported? .cjs)).toList := by
  cases n with
  | importFrom typeOnly source => cases typeOnly <;> exact nil_eq_owed (by decide) (some source)
  | exportAll typeOnly source => cases typeOnly <;> exact nil_eq_owed (by decide) (some source)
  | exportNamed typeOnly source inner => cases typeOnly <;> exact nil_eq_owed (by decide) source
  | importEquals typeOnly source =>
    cases typeOnly with
    | false => exact map_sight?_eq_owed rfl (fun _ => by rfl) source
    | true => exact nil_eq_owed (by decide) source
  | importCall source options => exact nil_eq_owed (by decide) source.literal?
  | call callee types arguments =>
    by_cases hcallee : callee = .name "require"
    · subst hcallee
      rw [mention?_require]
      exact map_sight?_eq_owed rfl (fun _ => by rfl) (onlyLiteral arguments)
    · rw [mention?_call hcallee, cjsSightings.eq_def]
      split <;> simp_all
  | name | member | text | template | array | group => rfl

theorem typeSightings_eq_reported (n : Node) :
    (typeSightings n).map (·.reference) = (n.mention?.bind (Mention.reported? .tsType)).toList := by
  cases n with
  | importFrom typeOnly source =>
    cases typeOnly with
    | false => exact nil_eq_owed (by decide) (some source)
    | true => exact map_sight?_eq_owed rfl (fun _ => by rfl) (some source)
  | exportAll typeOnly source =>
    cases typeOnly with
    | false => exact nil_eq_owed (by decide) (some source)
    | true => exact map_sight?_eq_owed rfl (fun _ => by rfl) (some source)
  | exportNamed typeOnly source inner =>
    cases typeOnly with
    | false => exact nil_eq_owed (by decide) source
    | true => exact map_sight?_eq_owed rfl (fun _ => by rfl) source
  | importEquals typeOnly source =>
    cases typeOnly with
    | false => exact nil_eq_owed (by decide) source
    | true => exact map_sight?_eq_owed rfl (fun _ => by rfl) source
  | importCall source options => exact nil_eq_owed (by decide) source.literal?
  | call callee types arguments =>
    by_cases hcallee : callee = .name "require"
    · subst hcallee
      rw [mention?_require]
      exact nil_eq_owed (by decide) (onlyLiteral arguments)
    · rw [mention?_call hcallee]
      rfl
  | name | member | text | template | array | group => rfl

/-- **Each of the systems reports of a node what it owes.** -/
theorem sightings_eq_reported (hs : s ∈ sharing) (v : Node.Visit) :
    (sightings exotic s v).map (·.reference) = (v.node.mention?.bind (Mention.reported? s)).toList := by
  simp only [sharing, List.mem_cons, List.not_mem_nil, or_false] at hs
  rcases hs with rfl | rfl | rfl
  · exact es6Sightings_eq_reported v.node
  · exact cjsSightings_eq_reported v.node
  · exact typeSightings_eq_reported v.node

/-! ## Whole scripts -/

/-- The node at the place says `m` of another module, and names that module. -/
def Node.Mentions (tree : Node) (place : Node.Place) (m : Mention) : Prop :=
  (∃ n, tree.at? place = some n ∧ n.mention? = some m) ∧ m.source.value ≠ ""

theorem Node.Mentions.unique {tree : Node} {place : Node.Place} {m m' : Mention} (h : tree.Mentions place m)
    (h' : tree.Mentions place m') : m = m' := by
  obtain ⟨⟨n, hat, hm⟩, -⟩ := h
  obtain ⟨⟨n', hat', hm'⟩, -⟩ := h'
  obtain rfl := Option.some.inj (hat.symm.trans hat')
  exact Option.some.inj (hm.symm.trans hm')

theorem reported?_eq_some_iff {m : Mention} {r : Reference} :
    m.reported? s = some r ↔ m.source.value ≠ "" ∧ m.system = s ∧ r = m.reference := by
  rw [Mention.reported?, Option.ite_none_right_eq_some, Option.some.injEq, eq_comm (a := r)]
  tauto

theorem references_cons (s : ModuleSystem) (ss : List ModuleSystem) (exotic : List String) (tree : Node) :
    references ⟨s :: ss, exotic⟩ tree = references ⟨[s], exotic⟩ tree ++ references ⟨ss, exotic⟩ tree := by
  simp only [references, List.flatMap_cons, List.flatMap_nil, List.append_nil]

theorem references_singleton (s : ModuleSystem) (exotic : List String) (tree : Node) :
    references ⟨[s], exotic⟩ tree =
      (tree.visit 0).flatMap fun v => (sightings exotic s v).map (·.reference) := by
  rw [references, List.flatMap_cons, List.flatMap_nil, List.append_nil, allSightings, List.map_flatMap]

/-- The references of one system come from the places that say what belongs to it. -/
theorem enumerates_references (hs : s ∈ sharing) (exotic : List String) (tree : Node) :
    Enumerates (fun place r => ∃ m, tree.Mentions place m ∧ m.system = s ∧ r = m.reference)
      (references ⟨[s], exotic⟩ tree) := by
  have hnode (v : Node.Visit) : Enumerates (fun (_ : Unit) r => v.node.mention?.bind (Mention.reported? s) = some r)
      ((sightings exotic s v).map (·.reference)) := by
    rw [sightings_eq_reported hs]
    exact .ofOption _
  have hplaces := ((tree.enumerates_visit 0).flatMap hnode).relabel (e := Prod.fst)
    fun o o' h => Prod.ext h rfl
  rw [references_singleton]
  refine hplaces.congr fun place r => ⟨?_, ?_⟩
  · rintro ⟨⟨place, _⟩, rfl, ⟨depth, n⟩, hv, hr⟩
    obtain ⟨m, hm, hreport⟩ := Option.bind_eq_some_iff.mp hr
    obtain ⟨hname, hsystem, hr⟩ := reported?_eq_some_iff.mp hreport
    exact ⟨m, ⟨⟨n, (Node.at?_eq_some_iff 0).mpr ⟨depth, hv⟩, hm⟩, hname⟩, hsystem, hr⟩
  · rintro ⟨m, ⟨⟨n, hat, hm⟩, hname⟩, hsystem, hr⟩
    obtain ⟨depth, hv⟩ := (Node.at?_eq_some_iff 0).mp hat
    exact ⟨(place, ()), rfl, ⟨depth, n⟩, hv,
      Option.bind_eq_some_iff.mpr ⟨m, hm, reported?_eq_some_iff.mpr ⟨hname, hsystem, hr⟩⟩⟩

/-- What some of the systems report together comes from the places that say what belongs to one of them. -/
theorem enumerates_references_together {ss : List ModuleSystem} (hss : ss ⊆ sharing) (hnodup : ss.Nodup)
    (exotic : List String) (tree : Node) :
    Enumerates (fun place r => ∃ m, tree.Mentions place m ∧ m.system ∈ ss ∧ r = m.reference)
      (references ⟨ss, exotic⟩ tree) := by
  induction ss with
  | nil =>
    refine ⟨[], List.nodup_nil, fun place r => ⟨nofun, ?_⟩, rfl⟩
    rintro ⟨m, -, hm, -⟩
    exact absurd hm List.not_mem_nil
  | cons s ss ih =>
    obtain ⟨hfresh, hnodup⟩ := List.nodup_cons.mp hnodup
    rw [references_cons]
    have hfirst := enumerates_references (hss List.mem_cons_self) exotic tree
    have hrest := ih (fun _ h => hss (List.mem_cons_of_mem s h)) hnodup
    refine (hfirst.append hrest ?_).congr fun place r => ?_
    · -- what a place says belongs to one system only
      rintro place r r' ⟨m, hm, rfl, -⟩ ⟨m', hm', hmem, -⟩
      exact hfresh (hm.unique hm' ▸ hmem)
    · simp only [List.mem_cons]
      constructor
      · rintro (⟨m, hm, hs, hr⟩ | ⟨m, hm, hs, hr⟩)
        · exact ⟨m, hm, .inl hs, hr⟩
        · exact ⟨m, hm, .inr hs, hr⟩
      · rintro ⟨m, hm, hs | hs, hr⟩
        · exact .inl ⟨m, hm, hs, hr⟩
        · exact .inr ⟨m, hm, hs, hr⟩

/-- The systems share what a script says of other modules: whichever of them are asked, each place where
something is said that belongs to one of them gives one reference, and there are no others. -/
structure Node.Partitioned (exotic : List String) (tree : Node) : Prop where
  /-- for instance `es6` and `tsType`, to which all imports and exports from a source belong, or `cjs` and
  `tsType`, to which all imports with `require` do -/
  shared : ∀ ss ⊆ sharing, ss.Nodup →
    Enumerates (fun place r => ∃ m, tree.Mentions place m ∧ m.system ∈ ss ∧ r = m.reference)
      (references ⟨ss, exotic⟩ tree)
  /-- what is said of types only belongs to `tsType`, and is tagged so -/
  typeOnly : ∀ place m, tree.Mentions place m →
    (m.system = .tsType ↔ m.typeOnly = true) ∧
      (m.reference.dependencyTypes.has .typeOnly = true ↔ m.typeOnly = true)
  /-- exports from a source are tagged so, and nothing else is -/
  reExport : ∀ place m, tree.Mentions place m →
    (m.reference.dependencyTypes.has .reExport = true ↔ m.wording = .exportAll ∨ m.wording = .exportNamed)

theorem Mention.system_eq_tsType_iff (m : Mention) : m.system = .tsType ↔ m.typeOnly = true := by
  obtain ⟨w, t, l⟩ := m
  cases t with
  | true => exact iff_of_true rfl rfl
  | false => cases w <;> exact iff_of_false nofun nofun

theorem Mention.has_iff (m : Mention) (t : DependencyType) :
    m.reference.dependencyTypes.has t = true ↔ t ∈ m.tags := by
  rw [Mention.reference, TypeSet.ofList, TypeSet.has_ofPred, List.contains_iff_mem]

theorem Mention.mem_tags_typeOnly_iff (m : Mention) : .typeOnly ∈ m.tags ↔ m.typeOnly = true := by
  cases h : m.isReExport <;> simp [tags, h]

theorem Mention.mem_tags_reExport_iff (m : Mention) :
    .reExport ∈ m.tags ↔ m.wording = .exportAll ∨ m.wording = .exportNamed := by
  simp [tags, isReExport]

/-- **Declarations of values and of types only are split without gap or overlap**, wherever in a script they
stand. -/
theorem partitioned (exotic : List String) (tree : Node) : tree.Partitioned exotic where
  shared := fun _ hss hnodup => enumerates_references_together hss hnodup exotic tree
  typeOnly := fun _ m _ => ⟨m.system_eq_tsType_iff, (m.has_iff _).trans m.mem_tags_typeOnly_iff⟩
  reExport := fun _ m _ => (m.has_iff _).trans m.mem_tags_reExport_iff

end ImportSurvey.Script
