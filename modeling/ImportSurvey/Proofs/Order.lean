import Mathlib.Data.List.Perm.Basic
import ImportSurvey.Proofs.Edges

/-
  The graph of some files is the same in whatever order the files come.

  A module that is known as a target only and one whose references were read take different ways into the
  graph, and which of the two comes first changes with the order.  What ends up in the graph does not: it is
  told by the files alone (`Declared`).  Every file is there with its own edges, and every target that is no
  file is there as a leaf; all else would have to come from somewhere.

  Two things are needed for that.  A leaf takes its mark from the edge that brings it in, so all edges to one
  target have to agree on it (`Resolver.MarksById`).  And a leaf that becomes a followed module must not be told
  from one that was followed from the start, which is what `Module.withReferences` is for: it sets all in which
  the two differ (`eq_ofFile_of_unfollowed`).

  Sorting makes the order of a row a matter of what stands in it, since the ids differ, so the graphs are equal
  (`build_eq_of_perm`).
-/
namespace ImportSurvey

/-- The mark of a target, as a core module or not, is told by its id: whatever reference leads there, and from
wherever. -/
def Resolver.MarksById (resolve : Resolver) (isCore : String → Bool) : Prop :=
  ∀ reference origin id, (resolve reference origin).outcome reference = .resolved id →
    (resolve reference origin).coreModule = isCore id

/-- The module of a file, with its edges. -/
def Module.ofFile (resolve : Resolver) (includeOnly : Option Regex) (f : String × List Reference) : Module :=
  (ofFollowed f.1).withReferences f.2 (edgesOf resolve includeOnly f.1 f.2)

namespace Graph

/-- The modules that files make up: those of the files, and a leaf for each target that is none of them. -/
inductive Declared (resolve : Resolver) (includeOnly : Option Regex) (isCore : String → Bool)
    (files : List (String × List Reference)) : Module → Prop where
  | file {f : String × List Reference} :
      f ∈ files → Declared resolve includeOnly isCore files (.ofFile resolve includeOnly f)
  | leaf {f : String × List Reference} {d : Dependency} {id : String} :
      f ∈ files → d ∈ edgesOf resolve includeOnly f.1 f.2 → d.to = some id → id ∉ files.map (·.1) →
        Declared resolve includeOnly isCore files (.leaf id (isCore id))

section

variable {resolve : Resolver} {includeOnly : Option Regex} {isCore : String → Bool}
  {files files' : List (String × List Reference)}

/-- Only which files there are matters. -/
theorem Declared.congr (h : ∀ f, f ∈ files ↔ f ∈ files') {m : Module}
    (hm : Declared resolve includeOnly isCore files m) : Declared resolve includeOnly isCore files' m := by
  cases hm with
  | file hf => exact .file ((h _).mp hf)
  | leaf hf hd hto hid =>
    refine .leaf ((h _).mp hf) hd hto fun hmem => hid ?_
    obtain ⟨f', hf', heq⟩ := List.mem_map.mp hmem
    exact List.mem_map.mpr ⟨f', (h f').mpr hf', heq⟩

/-! ## What a row holds while files come -/

/-- An edge tells the mark of its target as the target's id does. -/
theorem coreModule_of_mem_edgesOf (hmarks : resolve.MarksById isCore) {owner id : String}
    {references : List Reference} {d : Dependency} (hd : d ∈ edgesOf resolve includeOnly owner references)
    (hto : d.to = some id) : d.coreModule = isCore id := by
  obtain ⟨t, -, r, hr, hm⟩ :=
    exists_of_mem_right (edgesOf_mergedByText resolve includeOnly owner references) hd
  obtain ⟨first, hfirst, -, -, hcore, -⟩ := hm.first
  obtain rfl : r = first := Option.some.inj (hr.symm.trans hfirst)
  have hout := hm.outcome
  cases ho : resolve.outcome owner r with
  | resolved target =>
    rw [ho] at hout
    obtain rfl : target = id := Option.some.inj (hout.1.symm.trans hto)
    rw [hcore]
    exact hmarks _ _ _ ho
  | unresolved reference =>
    rw [ho] at hout
    have hnone : d.to = none := hout.1
    rw [hto] at hnone
    cases hnone

/-- A module without references read differs from one with them in nothing that reading them does not set. -/
theorem eq_ofFile_of_unfollowed {n : Module} {f : String × List Reference}
    (hn : n = .ofFollowed f.1 ∨ ∃ mark, n = .leaf f.1 mark) :
    n.withReferences f.2 (edgesOf resolve includeOnly f.1 f.2) = .ofFile resolve includeOnly f := by
  rcases hn with rfl | ⟨mark, rfl⟩
  · rfl
  · rfl

/-- Every module is that of a file, or a leaf with the mark that its id tells. -/
def Plain (resolve : Resolver) (includeOnly : Option Regex) (isCore : String → Bool)
    (files : List (String × List Reference)) (g : Graph) : Prop :=
  ∀ m ∈ g.modules, (∃ f ∈ files, m = .ofFile resolve includeOnly f) ∨ m = .leaf m.id (isCore m.id)

/-- **One more file keeps all modules plain**, whether its module is new or was a target before. -/
theorem Plain.append {g : Graph} (hplain : Plain resolve includeOnly isCore files g) (f : String × List Reference) :
    Plain resolve includeOnly isCore (files ++ [f]) g := by
  intro m hm
  rcases hplain m hm with ⟨f', hf', h⟩ | hleaf
  · exact .inl ⟨f', List.mem_append_left _ hf', h⟩
  · exact .inr hleaf

theorem Plain.addModule {g : Graph} (hplain : Plain resolve includeOnly isCore files g) (hg : g.Indexed)
    (hmarks : resolve.MarksById isCore) {f : String × List Reference}
    (hnew : (g.get? f.1).any (·.followed) = false) :
    Plain resolve includeOnly isCore (files ++ [f]) (g.addModule resolve includeOnly f.1 f.2) := by
  have hlast : f ∈ files ++ [f] := List.mem_append_right _ (List.mem_singleton.mpr rfl)
  have hgrown := grown_foldl hg (edgesOf resolve includeOnly f.1 f.2)
  have hbase := hgrown.indexed.add (.ofFollowed f.1)
  -- what was there, or came in with the new edges, as long as it is not the module of the file
  have hrest : ∀ n ∈ ((edgesOf resolve includeOnly f.1 f.2).foldl addLeaf g).modules,
      n ∈ g.modules ∨ n = .leaf n.id (isCore n.id) := by
    intro n hn
    rcases hgrown.leaves n hn with hold | ⟨-, d, hd, hleaf, hto⟩
    · exact .inl hold
    · rw [← coreModule_of_mem_edgesOf hmarks hd hto]
      exact .inr hleaf
  intro m hm
  rw [Graph.addModule, if_neg (by rw [hnew]; exact Bool.false_ne_true)] at hm
  rcases (hbase.mem_modify f.1 m).mp hm with ⟨hm, hid⟩ | ⟨n, hn, hid, rfl⟩
  · rcases (mem_add hgrown.indexed _ m).mp hm with hm | ⟨-, rfl⟩
    · rcases hrest m hm with hm | hleaf
      · exact hplain.append f m hm
      · exact .inr hleaf
    · exact absurd rfl hid
  · refine .inl ⟨f, hlast, eq_ofFile_of_unfollowed ?_⟩
    rcases (mem_add hgrown.indexed _ n).mp hn with hn | ⟨-, rfl⟩
    · rcases hrest n hn with hold | hleaf
      · rcases hplain n hold with ⟨f', -, rfl⟩ | hleaf
        · -- a module of a file is followed, and this one is not
          rw [hg.get?_eq_some.mpr ⟨hold, hid⟩] at hnew
          cases hnew
        · exact .inr ⟨_, hid ▸ hleaf⟩
      · exact .inr ⟨_, hid ▸ hleaf⟩
    · exact .inl rfl

theorem plain_addAll (hmarks : resolve.MarksById isCore) (files : List (String × List Reference)) :
    Plain resolve includeOnly isCore files (addAll resolve includeOnly files) := by
  induction files using List.reverseRecOn with
  | nil => exact fun m hm => absurd hm List.not_mem_nil
  | append_singleton files f ih =>
    rw [addAll_concat]
    by_cases hf : ((addAll resolve includeOnly files).get? f.1).any (·.followed) = true
    · rw [addModule, if_pos hf]
      exact ih.append f
    · exact ih.addModule (building_addAll resolve includeOnly files).indexed hmarks (Bool.eq_false_iff.mpr hf)

/-! ## What a graph holds in the end -/

/-- **A graph holds what its files declare**, no two of them having one id. -/
theorem mem_build_iff (hmarks : resolve.MarksById isCore) (hids : (files.map (·.1)).Nodup) (m : Module) :
    m ∈ (build resolve includeOnly files).modules ↔ Declared resolve includeOnly isCore files m := by
  have hplain : Plain resolve includeOnly isCore files _ := plain_addAll hmarks files
  have hbuilding := building_addAll resolve includeOnly files
  rw [build, mem_sortById]
  -- what is there under the id of a file is the module of the file
  have hfile : ∀ f ∈ files, Module.ofFile resolve includeOnly f ∈ (addAll resolve includeOnly files).modules := by
    intro f hf
    have hmem : f.1 ∈ files.map (·.1) := List.mem_map_of_mem hf
    obtain ⟨m, hm, hid⟩ := List.mem_map.mp (hbuilding.present f.1 hmem)
    rcases hplain m hm with ⟨f', hf', rfl⟩ | hleaf
    · obtain rfl : f' = f := List.inj_on_of_nodup_map hids hf' hf hid
      exact hm
    · have hfollowed := (hbuilding.followed m hm).mpr (hid ▸ hmem)
      rw [hleaf] at hfollowed
      cases hfollowed
  constructor
  · intro hm
    rcases hplain m hm with ⟨f, hf, rfl⟩ | hleaf
    · exact .file hf
    · have hunfollowed : m.followed = false := by
        rw [hleaf]
        rfl
      obtain ⟨-, n, hn, d, hd, hto⟩ := hbuilding.leaf m hm hunfollowed
      have hid : m.id ∉ files.map (·.1) := by
        intro hmem
        rw [(hbuilding.followed m hm).mpr hmem] at hunfollowed
        cases hunfollowed
      rcases hplain n hn with ⟨f, hf, rfl⟩ | hbare
      · rw [hleaf]
        exact .leaf hf hd hto hid
      · rw [hbare] at hd
        exact absurd hd List.not_mem_nil
  · intro hm
    cases hm with
    | file hf => exact hfile _ hf
    | @leaf f d id hf hd hto hid =>
      obtain ⟨m, hm, rfl⟩ := List.mem_map.mp ((hbuilding.edge _ (hfile f hf) d hd).2 id hto)
      rcases hplain m hm with ⟨f', hf', rfl⟩ | hleaf
      · exact absurd (List.mem_map_of_mem (f := (·.1)) hf') hid
      · exact hleaf ▸ hm

/-- A graph that was sorted is told by what stands in it. -/
theorem sortById_eq_of_mem_iff {g g' : Graph} (hg : g.Indexed) (hg' : g'.Indexed)
    (h : ∀ m, m ∈ g.sortById.modules ↔ m ∈ g'.sortById.modules) : g.sortById = g'.sortById := by
  have hascending : ∀ {g : Graph}, g.Indexed → g.sortById.modules.Pairwise (·.id < ·.id) :=
    fun hg => List.pairwise_map.mp (ascending_sortById hg)
  have hnodup : ∀ {g : Graph}, g.Indexed → g.sortById.modules.Nodup :=
    fun hg => (hascending hg).imp fun hlt heq => absurd (congrArg Module.id heq) (ne_of_lt hlt)
  have hperm : g.sortById.modules.Perm g'.sortById.modules :=
    (List.perm_ext_iff_of_nodup (hnodup hg) (hnodup hg')).mpr h
  have hmodules : g.sortById.modules = g'.sortById.modules :=
    hperm.eq_of_pairwise (fun a b _ _ hab hba => absurd hba (lt_asymm hab)) (hascending hg) (hascending hg')
  exact congrArg ofRow hmodules

/-- **The order in which files come does not matter to the graph.** -/
theorem build_eq_of_perm (resolve : Resolver) (includeOnly : Option Regex)
    (hmarks : ∃ isCore, resolve.MarksById isCore) (hids : (files.map (·.1)).Nodup)
    (hperm : files.Perm files') : build resolve includeOnly files = build resolve includeOnly files' := by
  obtain ⟨isCore, hmarks⟩ := hmarks
  have hids' : (files'.map (·.1)).Nodup := ((hperm.map _).nodup_iff).mp hids
  refine sortById_eq_of_mem_iff (building_addAll resolve includeOnly files).indexed
    (building_addAll resolve includeOnly files').indexed fun m => ?_
  show m ∈ (build resolve includeOnly files).modules ↔ m ∈ (build resolve includeOnly files').modules
  rw [mem_build_iff hmarks hids, mem_build_iff hmarks hids']
  exact ⟨Declared.congr fun _ => hperm.mem_iff, Declared.congr fun _ => hperm.mem_iff.symm⟩

end

/-- Knows one core module, three files, and nothing else. -/
def fewTargets : Resolver := fun reference _ =>
  if reference = "fs" then .core "fs"
  else if ["./a", "./b", "./c"].contains reference then .module (reference ++ ".js")
  else .unresolved

theorem marksById_fewTargets : fewTargets.MarksById (· = "fs") := by
  intro reference origin id h
  by_cases hfs : reference = "fs"
  · subst hfs
    obtain rfl : "fs" = id := Outcome.resolved.inj h
    rfl
  · by_cases hfile : reference ∈ ["./a", "./b", "./c"]
    · rw [List.mem_cons, List.mem_cons, List.mem_singleton] at hfile
      rcases hfile with rfl | rfl | rfl
      all_goals
        obtain rfl := Outcome.resolved.inj h
        rfl
    · rw [fewTargets, if_neg hfs, if_neg (fun hmem => hfile (List.contains_iff_mem.mp hmem))] at h
      cases h

/-- Two modules that refer to each other and to themselves, a third that they share as a leaf, a core module and
a package that is not there: one of the two comes first as a leaf, and which one it is changes. -/
theorem build_eq_of_mutual :
    let a : String × List Reference := ("./a.js", [.plain "./b" .es6, .plain "fs" .cjs, .plain "./c" .es6])
    let b : String × List Reference := ("./b.js", [.plain "./b" .cjs, .plain "./a" .es6, .plain "./c" .es6])
    let other : String × List Reference := ("d.js", [.plain "nowhere" .es6, .plain "./a" .es6])
    (∃ isCore, fewTargets.MarksById isCore) ∧ ([a, b, other].map (·.1)).Nodup ∧
      [a, b, other].Perm [other, b, a] ∧
      build fewTargets none [a, b, other] = build fewTargets none [other, b, a] := by
  intro a b other
  have hmarks : ∃ isCore, fewTargets.MarksById isCore := ⟨_, marksById_fewTargets⟩
  have hids : ([a, b, other].map (·.1)).Nodup := by decide
  have hperm : [a, b, other].Perm [other, b, a] := List.reverse_perm [other, b, a]
  exact ⟨hmarks, hids, hperm, build_eq_of_perm fewTargets none hmarks hids hperm⟩

end Graph

end ImportSurvey
