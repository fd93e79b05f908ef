import ImportSurvey.Rules.Match
import ImportSurvey.Proofs.Edges
import ImportSurvey.Proofs.Origins
import ImportSurvey.Proofs.Segments

/-
  The tags of an edge and its flags say the same.

  A reference is tagged when it is found, and an edge once more when it is known where it leads; flags are set
  beside the tags and merge by rules of their own.  That the two never part has three reasons.

  1. **What is extracted is of one piece** (`consistent_of_mem_references`): in whatever way a system made it, a
     reference is flagged as it is tagged, and no tag of it tells where it leads.
  2. **Merging keeps that** (`Merged.coherent`): tags add up over the references of an edge, one dynamic
     reference makes it dynamic, and the first configured function stays, so a flag is set iff one of the
     references set it, and so is its tag.
  3. **One tag tells where the edge leads**, since only the first reference of an edge is tagged so, and it is
     the tag of the edge's own target (`tag_iff`).

  Rules are then free to ask for a flag or for its tag (`matchesDependency_asking`).
-/
namespace ImportSurvey

/-! ## Package directories -/

/-- The directories that an id names, from the outermost to the innermost. -/
def directoriesOf (id : String) : List (List Char) := (Path.segments id.toList).dropLast

theorem isPrefixOf_sep_iff {part : List Char} (hpart : '/' ∉ part) (cs : List Char) :
    (part ++ ['/']).isPrefixOf cs = true ↔ ∃ s ss, Path.segments cs = part :: s :: ss := by
  rw [List.isPrefixOf_iff_prefix]
  constructor
  · rintro ⟨rest, rfl⟩
    obtain ⟨s, ss, hs⟩ := List.exists_cons_of_ne_nil (Path.segments_ne_nil rest)
    refine ⟨s, ss, ?_⟩
    rw [List.append_assoc, List.singleton_append, Path.segments_append_sep hpart, hs]
  · rintro ⟨s, ss, hs⟩
    rw [← Path.intercalate_segments cs, hs, List.intercalate_cons_cons]
    exact List.prefix_append _ _

theorem occursIn_sep_iff {part : List Char} (hpart : '/' ∉ part) (cs : List Char) :
    occursIn ('/' :: part ++ ['/']) cs = true ↔ part ∈ (Path.segments cs).tail.dropLast := by
  induction cs with
  | nil => simp [occursIn]
  | cons c cs ih =>
    obtain ⟨s, ss, hs⟩ := List.exists_cons_of_ne_nil (Path.segments_ne_nil cs)
    rw [occursIn, Bool.or_eq_true, ih]
    by_cases hc : c = '/'
    · -- here the part may stand, as the first of the segments that follow
      subst hc
      have hfirst : ('/' :: part ++ ['/']).isPrefixOf ('/' :: cs) = (part ++ ['/']).isPrefixOf cs := by
        rw [List.cons_append, List.isPrefixOf_cons_cons, beq_self_eq_true, Bool.true_and]
      rw [hfirst, isPrefixOf_sep_iff hpart, Path.segments_sep, List.tail_cons, hs, List.tail_cons]
      cases ss with
      | nil => simp
      | cons s' ss => simp [eq_comm]
    · have hfirst : ('/' :: part ++ ['/']).isPrefixOf (c :: cs) = false := by
        rw [List.cons_append, List.isPrefixOf_cons_cons, beq_eq_false_iff_ne.mpr (Ne.symm hc), Bool.false_and]
      rw [hfirst, Path.segments_cons hc hs, List.tail_cons, hs, List.tail_cons]
      simp

/-- An id lies in a package directory iff one of its directories is one. -/
theorem isInPackages_iff (id : String) :
    isInPackages id = true ↔ "node_modules".toList ∈ directoriesOf id := by
  have hpart : '/' ∉ "node_modules".toList := by decide
  have hfirst : "node_modules/".toList = "node_modules".toList ++ ['/'] := by decide
  have hinner : "/node_modules/".toList = '/' :: "node_modules".toList ++ ['/'] := by decide
  rw [isInPackages, Bool.or_eq_true, hfirst, hinner, isPrefixOf_sep_iff hpart, occursIn_sep_iff hpart,
    directoriesOf]
  obtain ⟨s, ss, hs⟩ := List.exists_cons_of_ne_nil (Path.segments_ne_nil id.toList)
  rw [hs, List.tail_cons]
  cases ss with
  | nil => simp
  | cons s' ss => simp [eq_comm]

/-! ## References as they are extracted -/

/-- The tags that tell where an edge leads. -/
def DependencyType.targetTags : List DependencyType := [.localFile, .npm, .core, .unknown]

/-- A reference that is flagged as it is tagged, and whose tags do not tell where it leads. -/
structure Reference.Consistent (exotic : List String) (r : Reference) : Prop where
  dynamicTag : r.dynamic = true ↔ r.dependencyTypes.has .dynamicImport = true
  exoticTag : r.exoticRequire.isSome = true ↔ r.dependencyTypes.has .exoticRequire = true
  configured : ∀ f, r.exoticRequire = some f → f ∈ exotic
  undirected : ∀ t ∈ DependencyType.targetTags, r.dependencyTypes.has t = false

namespace Reference

variable {exotic : List String}

theorem consistent_plain (name : String) (system : ModuleSystem) : (plain name system).Consistent exotic where
  dynamicTag := ⟨nofun, nofun⟩
  exoticTag := ⟨nofun, nofun⟩
  configured := nofun
  undirected := by
    show ∀ t ∈ DependencyType.targetTags, TypeSet.has {} t = false
    decide

theorem Consistent.asDynamic {r : Reference} (h : r.Consistent exotic) : r.asDynamic.Consistent exotic where
  dynamicTag := by simp [Reference.asDynamic]
  exoticTag := by simpa [Reference.asDynamic] using h.exoticTag
  configured := h.configured
  undirected := by
    intro t ht
    have hne : t ≠ .dynamicImport := by rintro rfl; revert ht; decide
    simpa [Reference.asDynamic, hne] using h.undirected t ht

theorem Consistent.viaExotic {r : Reference} (h : r.Consistent exotic) {f : String} (hf : f ∈ exotic) :
    (r.viaExotic f).Consistent exotic where
  dynamicTag := by simpa [Reference.viaExotic] using h.dynamicTag
  exoticTag := by simp [Reference.viaExotic]
  configured := fun f' hf' => Option.some.inj hf' ▸ hf
  undirected := by
    intro t ht
    have hne : t ≠ .exoticRequire := by rintro rfl; revert ht; decide
    simpa [Reference.viaExotic, hne] using h.undirected t ht

/-- A tag beside those that flags and targets have. -/
theorem Consistent.tagged {r : Reference} (h : r.Consistent exotic) {t : DependencyType}
    (ht : t = .typeOnly ∨ t = .reExport) : (r.tagged t).Consistent exotic where
  dynamicTag := by rcases ht with rfl | rfl <;> simpa [Reference.tagged] using h.dynamicTag
  exoticTag := by rcases ht with rfl | rfl <;> simpa [Reference.tagged] using h.exoticTag
  configured := h.configured
  undirected := by
    intro u hu
    have hne : u ≠ t := by
      rintro rfl
      rcases ht with rfl | rfl
      · revert hu; decide
      · revert hu; decide
    simpa [Reference.tagged, hne] using h.undirected u hu

end Reference

namespace Script

variable {exotic : List String}

theorem consistent_reExport (n : String) : (reExport n).Consistent exotic :=
  (Reference.consistent_plain n .es6).tagged (Or.inr rfl)

theorem consistent_typeOnly (n : String) : (typeOnly n).Consistent exotic :=
  (Reference.consistent_plain n .tsType).tagged (Or.inl rfl)

/-- However a system makes a reference, it is flagged as it is tagged. -/
theorem Origin.consistent {system : ModuleSystem} {r : Reference} (h : Origin exotic system r) :
    r.Consistent exotic := by
  cases h with
  | imported name => exact Reference.consistent_plain name .es6
  | reExported name => exact consistent_reExport name
  | loaded name => exact (Reference.consistent_plain name .es6).asDynamic
  | required name => exact Reference.consistent_plain name .cjs
  | listed name => exact Reference.consistent_plain name .amd
  | typeImported name => exact consistent_typeOnly name
  | typeReExported name => exact (consistent_typeOnly name).tagged (Or.inr rfl)
  | configured hf name => exact (Reference.consistent_plain name .exoticRequire).viaExotic hf

/-- **Every reference of a tree is flagged as it is tagged.** -/
theorem consistent_of_mem_references {q : Request} {tree : Node} {r : Reference}
    (hr : r ∈ references q tree) : r.Consistent q.exotic := by
  obtain ⟨system, -, hr⟩ := List.mem_flatMap.mp hr
  obtain ⟨s, hs, rfl⟩ := List.mem_map.mp hr
  exact (origin_of_mem_allSightings hs).consistent

end Script

/-! ## Edges -/

namespace Dependency

/-- The tag that tells where the edge leads. -/
def targetTag (e : Dependency) : DependencyType :=
  if e.couldNotResolve then .unknown
  else if e.coreModule then .core
  else if isInPackages e.resolved then .npm
  else .localFile

theorem targetTag_mem (e : Dependency) : e.targetTag ∈ DependencyType.targetTags := by
  rw [targetTag]
  split
  · decide
  · split
    · decide
    · split
      · decide
      · decide

theorem unknown_eq_targetTag_iff (e : Dependency) : .unknown = e.targetTag ↔ e.couldNotResolve = true := by
  rw [targetTag]
  cases e.couldNotResolve with
  | true => simp
  | false =>
    cases e.coreModule with
    | true => simp
    | false => cases isInPackages e.resolved <;> simp

theorem core_eq_targetTag_iff (e : Dependency) :
    .core = e.targetTag ↔ e.couldNotResolve = false ∧ e.coreModule = true := by
  rw [targetTag]
  cases e.couldNotResolve with
  | true => simp
  | false =>
    cases e.coreModule with
    | true => simp
    | false => cases isInPackages e.resolved <;> simp

theorem npm_eq_targetTag_iff (e : Dependency) : .npm = e.targetTag ↔
    e.couldNotResolve = false ∧ e.coreModule = false ∧ "node_modules".toList ∈ directoriesOf e.resolved := by
  rw [targetTag, ← isInPackages_iff]
  cases e.couldNotResolve with
  | true => simp
  | false =>
    cases e.coreModule with
    | true => simp
    | false => cases isInPackages e.resolved <;> simp

/-- An edge whose tags and flags say the same. -/
structure Coherent (exotic : List String) (e : Dependency) : Prop where
  dynamicTag : e.dynamic = true ↔ e.dependencyTypes.has .dynamicImport = true
  exoticTag : e.exoticRequire.isSome = true ↔ e.dependencyTypes.has .exoticRequire = true
  configured : ∀ f, e.exoticRequire = some f → f ∈ exotic
  oneTarget : ∃! t, t ∈ DependencyType.targetTags ∧ e.dependencyTypes.has t = true
  unknownTag : e.dependencyTypes.has .unknown = true ↔ e.couldNotResolve = true
  nowhere : e.couldNotResolve = true ↔ e.to = none
  coreTag : e.dependencyTypes.has .core = true ↔ e.couldNotResolve = false ∧ e.coreModule = true
  npmTag : e.dependencyTypes.has .npm = true ↔ e.couldNotResolve = false ∧ e.coreModule = false ∧
    "node_modules".toList ∈ directoriesOf e.resolved

end Dependency

theorem Outcome.IsOf.couldNotResolve_iff {o : Outcome} {e : Dependency} (h : o.IsOf e) :
    e.couldNotResolve = true ↔ e.to = none := by
  cases o with
  | resolved id => rw [h.1, h.2.1]; exact ⟨nofun, nofun⟩
  | unresolved reference => rw [h.1, h.2.1]; exact ⟨fun _ => rfl, fun _ => rfl⟩

section

variable {resolve : Resolver} {owner : String} {group : List Reference} {e : Dependency} {exotic : List String}

/-- The tag that an edge is given for its target is the tag of its target. -/
theorem Merged.tag_eq {r : Reference} (h : Merged resolve owner (resolve.outcome owner r) group e)
    (hr : group.head? = some r) :
    (resolve r.moduleName owner).tag (resolve.outcome owner r).text = e.targetTag := by
  rw [Resolution.tag, Dependency.targetTag, h.outcome.resolved_eq, h.outcome.couldNotResolve_eq,
    (h.of_maker hr).1]

/-- **Of the tags that tell where an edge leads, it has the one of its own target.** -/
theorem Merged.tag_iff {r : Reference} (h : Merged resolve owner (resolve.outcome owner r) group e)
    (hr : group.head? = some r) (hgroup : ∀ r' ∈ group, r'.Consistent exotic) {t : DependencyType}
    (ht : t ∈ DependencyType.targetTags) : e.dependencyTypes.has t = true ↔ t = e.targetTag := by
  rw [(h.of_maker hr).2 t, h.tag_eq hr]
  refine or_iff_right ?_
  rintro ⟨r', hr', hhas⟩
  rw [(hgroup r' hr').undirected t ht] at hhas
  cases hhas

/-- All other tags were brought by the references. -/
theorem Merged.declared_iff {r : Reference} (h : Merged resolve owner (resolve.outcome owner r) group e)
    (hr : group.head? = some r) {t : DependencyType} (ht : t ∉ DependencyType.targetTags) :
    e.dependencyTypes.has t = true ↔ ∃ r' ∈ group, r'.dependencyTypes.has t = true := by
  rw [(h.of_maker hr).2 t, h.tag_eq hr]
  refine or_iff_left ?_
  rintro rfl
  exact ht e.targetTag_mem

/-- **An edge that stands for consistent references says the same by its tags and by its flags.** -/
theorem Merged.coherent {r : Reference} (h : Merged resolve owner (resolve.outcome owner r) group e)
    (hr : group.head? = some r) (hgroup : ∀ r' ∈ group, r'.Consistent exotic) : e.Coherent exotic where
  dynamicTag := by
    rw [h.declared_iff hr (by decide), h.dynamic, List.any_eq_true]
    exact exists_congr fun r' => and_congr_right fun hr' => (hgroup r' hr').dynamicTag
  exoticTag := by
    rw [h.declared_iff hr (by decide), h.exotic, List.findSome?_isSome_iff]
    exact exists_congr fun r' => and_congr_right fun hr' => (hgroup r' hr').exoticTag
  configured := by
    intro f hf
    rw [h.exotic] at hf
    obtain ⟨r', hr', hf⟩ := List.exists_of_findSome?_eq_some hf
    exact (hgroup r' hr').configured f hf
  oneTarget := by
    refine ⟨e.targetTag, ⟨e.targetTag_mem, (h.tag_iff hr hgroup e.targetTag_mem).mpr rfl⟩, ?_⟩
    rintro t ⟨ht, hhas⟩
    exact (h.tag_iff hr hgroup ht).mp hhas
  unknownTag := (h.tag_iff hr hgroup (by decide)).trans e.unknown_eq_targetTag_iff
  nowhere := h.outcome.couldNotResolve_iff
  coreTag := (h.tag_iff hr hgroup (by decide)).trans e.core_eq_targetTag_iff
  npmTag := (h.tag_iff hr hgroup (by decide)).trans e.npm_eq_targetTag_iff

end

/-! ## Rules that ask for a flag, and rules that ask for its tag -/

/-- The flags of an edge that have a tag of their own. -/
inductive EdgeFlag where
  | dynamic
  | couldNotResolve
  | coreModule
deriving DecidableEq, Repr

namespace EdgeFlag

def tag : EdgeFlag → DependencyType
  | dynamic => .dynamicImport
  | couldNotResolve => .unknown
  | coreModule => .core

/-- Whether the flag is set. -/
def isSet (e : Dependency) : EdgeFlag → Bool
  | dynamic => e.dynamic
  | couldNotResolve => e.couldNotResolve
  | coreModule => e.coreModule

end EdgeFlag

namespace ToPredicates

/-- With another wish for a flag. -/
def withFlag (t : ToPredicates) (f : EdgeFlag) (wanted : Option Bool) : ToPredicates :=
  match f with
  | .dynamic => { t with dynamic := wanted }
  | .couldNotResolve => { t with couldNotResolve := wanted }
  | .coreModule => { t with coreModule := wanted }

/-- With other types that an edge has to have, or not to have. -/
def withTypes (t : ToPredicates) (wanted : Bool) (types : Option TypeSet) : ToPredicates :=
  if wanted then { t with dependencyTypes := types } else { t with dependencyTypesNot := types }

end ToPredicates

namespace Rule

/-- The rule with a wish for a flag, and none for the types that tell the same. -/
def askingFlag (r : Rule) (f : EdgeFlag) (wanted : Bool) : Rule :=
  { r with «to» := (r.to.withFlag f (some wanted)).withTypes wanted none }

/-- The rule with a wish for the tag of a flag, and none for the flag. -/
def askingTag (r : Rule) (f : EdgeFlag) (wanted : Bool) : Rule :=
  { r with «to» := (r.to.withFlag f none).withTypes wanted (some (TypeSet.ofList [f.tag])) }

theorem meets_ofList_singleton (t : DependencyType) (s : TypeSet) :
    (TypeSet.ofList [t]).meets s = s.has t := by
  cases t <;> simp [TypeSet.meets, TypeSet.ofList, DependencyType.all]

theorem agrees_iff (wanted : Option Bool) (actual : Bool) :
    agrees wanted actual = true ↔ ∀ w, wanted = some w → w = actual := by
  cases wanted with
  | none => simp [agrees]
  | some w => simp [agrees]

/-- A rule matches an edge iff each of its wishes is met. -/
theorem matchesDependency_iff (r : Rule) (m : Module) (e : Dependency) : r.matchesDependency m e = true ↔
    (r.from.paths.admits m.source = true ∧ r.to.paths.admits e.resolved = true) ∧
      (∀ ts, r.to.dependencyTypes = some ts → ts.meets e.dependencyTypes = true) ∧
      (∀ ts, r.to.dependencyTypesNot = some ts → ts.meets e.dependencyTypes = false) ∧
      (∀ w, r.to.dynamic = some w → w = e.dynamic) ∧ (∀ w, r.to.circular = some w → w = e.circular) ∧
      (∀ w, r.to.couldNotResolve = some w → w = e.couldNotResolve) ∧
      (∀ w, r.to.coreModule = some w → w = e.coreModule) := by
  simp only [matchesDependency, Bool.and_eq_true, agrees_iff, and_assoc]
  cases r.to.dependencyTypes with
  | none => cases r.to.dependencyTypesNot <;> simp
  | some ts => cases r.to.dependencyTypesNot <;> simp

/-- **To ask for a flag is to ask for its tag**, on edges where they agree. -/
theorem matchesDependency_asking (r : Rule) {f : EdgeFlag} (wanted : Bool) (m : Module) {e : Dependency}
    (h : f.isSet e = e.dependencyTypes.has f.tag) :
    (r.askingFlag f wanted).matchesDependency m e = (r.askingTag f wanted).matchesDependency m e := by
  have hmeets := meets_ofList_singleton f.tag e.dependencyTypes
  rw [← h] at hmeets
  rw [Bool.eq_iff_iff, matchesDependency_iff, matchesDependency_iff, askingFlag, askingTag]
  -- the wish is another one of the eight, all others stay
  cases f <;> cases wanted <;>
    simp only [EdgeFlag.isSet] at hmeets <;>
    simp [ToPredicates.withFlag, ToPredicates.withTypes, hmeets] <;> tauto

end Rule

/-! ## Built graphs -/

namespace Graph

/-- The files of some scripts, each with the references that are extracted from its tree. -/
def extracted (q : Script.Request) (scripts : List (String × Script.Node)) :
    List (String × List Reference) :=
  scripts.map fun s => (s.1, Script.references q s.2)

/-- What is reported to be a core module was found. -/
def CoreFound (resolve : Resolver) : Prop :=
  ∀ reference origin, (resolve reference origin).coreModule = true →
    (resolve reference origin).leadsNowhere = false

section

variable {resolve : Resolver} {includeOnly : Option Regex} {q : Script.Request}
  {scripts : List (String × Script.Node)} {m : Module} {e : Dependency}

/-- An edge of a graph that is built from scripts stands for consistent references. -/
theorem exists_maker_of_extracted (hm : m ∈ (build resolve includeOnly (extracted q scripts)).modules)
    (he : e ∈ m.dependencies) : ∃ r group, group.head? = some r ∧ (∀ r' ∈ group, r'.Consistent q.exotic) ∧
      Merged resolve m.id (resolve.outcome m.id r) group e := by
  obtain ⟨f, hf, hid, he⟩ := exists_file_of_edge resolve includeOnly _ hm he
  obtain ⟨script, -, rfl⟩ := List.mem_map.mp hf
  obtain ⟨r, hr, hmerged⟩ := exists_maker he
  rw [← hid]
  refine ⟨r, _, hr, fun r' hr' => ?_, hmerged⟩
  exact Script.consistent_of_mem_references (List.mem_of_mem_filter (List.mem_of_mem_filter hr'))

/-- **In a graph that is built from scripts, the tags of every edge say what its flags say**, so a rule may ask
for a flag or for its tag.  For core modules this takes a resolver that reports only what it found. -/
theorem coherent_build (hm : m ∈ (build resolve includeOnly (extracted q scripts)).modules)
    (he : e ∈ m.dependencies) :
    e.Coherent q.exotic ∧ ∀ (r : Rule) (f : EdgeFlag) (wanted : Bool), (f = .coreModule → CoreFound resolve) →
      (r.askingFlag f wanted).matchesDependency m e = (r.askingTag f wanted).matchesDependency m e := by
  obtain ⟨r, group, hr, hgroup, hmerged⟩ := exists_maker_of_extracted hm he
  have hcoherent := hmerged.coherent hr hgroup
  refine ⟨hcoherent, fun rule f wanted hfound => rule.matchesDependency_asking wanted m ?_⟩
  rw [Bool.eq_iff_iff]
  cases f with
  | dynamic => exact hcoherent.dynamicTag
  | couldNotResolve => exact hcoherent.unknownTag.symm
  | coreModule =>
    -- a core module that was not found is tagged as unknown, which such a resolver never reports
    refine Iff.trans ?_ hcoherent.coreTag.symm
    refine ⟨fun hcore => ⟨?_, hcore⟩, And.right⟩
    replace hcore : e.coreModule = true := hcore
    rw [(hmerged.of_maker hr).1] at hcore
    rw [hmerged.outcome.couldNotResolve_eq]
    exact hfound rfl _ _ hcore

end

/-- A script that loads one module three times: with a configured function, while it runs, and by an import. -/
def threefold : Script.Node :=
  .group [.call (.name "want") [] [.text ⟨"./b", 5⟩], .importCall (.text ⟨"./b", 19⟩) [],
    .importFrom false ⟨"./b", 31⟩]

/-- What asks for all systems of modules, with one configured function. -/
def wanting : Script.Request := ⟨ModuleSystem.all, ["want"]⟩

/-- The one edge of that script is dynamic, and it names the function. -/
theorem coherent_of_threefold : ∃ m ∈ (build onlyByPath none (extracted wanting [("a.js", threefold)])).modules,
    ∃ e ∈ m.dependencies, e.dynamic = true ∧ e.exoticRequire = some "want" ∧ CoreFound onlyByPath ∧
      e.Coherent ["want"] ∧ ∀ (r : Rule) (f : EdgeFlag) (wanted : Bool), (f = .coreModule → CoreFound onlyByPath) →
        (r.askingFlag f wanted).matchesDependency m e = (r.askingTag f wanted).matchesDependency m e := by
  have hcore : CoreFound onlyByPath := by
    intro reference origin h
    rw [onlyByPath] at h ⊢
    split at h
    · cases h
    · cases h
  have hids : ((extracted wanting [("a.js", threefold)]).map (·.1)).Nodup := by decide
  obtain ⟨m, hm, hid, hdeps⟩ := exists_module_of_file onlyByPath none hids (List.mem_singleton.mpr rfl)
  obtain ⟨e, he⟩ : ∃ e, m.dependencies = [e] ∧ e.dynamic = true ∧ e.exoticRequire = some "want" := by
    rw [hdeps]
    exact ⟨_, rfl, rfl, rfl⟩
  have hmem : e ∈ m.dependencies := by
    rw [he.1]
    exact List.mem_singleton.mpr rfl
  exact ⟨m, hm, e, hmem, he.2.1, he.2.2, hcore, coherent_build hm hmem⟩

end Graph

end ImportSurvey
