import ImportSurvey.Proofs.Index
import ImportSurvey.Proofs.Merge

/-
  What it does to a graph to add one module with its references.

  The targets come first: each that is not in the graph joins as a leaf (`Grown`).  Then comes the owner,
  and by now it may be there, as a leaf of an earlier module or of its own edges; so it is added if it is
  missing, and changed in any case.  `Added` says what is true after all of this, and it says of every
  module but the owner that it was there before or is a leaf for one of the new edges.
-/
namespace ImportSurvey.Graph

/-! ## Targets that join as leaves -/

theorem mem_add {g : Graph} (h : g.Indexed) (m n : Module) :
    n ∈ (g.add m).modules ↔ n ∈ g.modules ∨ (m.id ∉ g.ids ∧ n = m) := by
  by_cases hm : m.id ∈ g.ids
  · rw [add_of_mem h hm]
    exact ⟨Or.inl, fun hn => hn.resolve_right fun hr => hr.1 hm⟩
  · rw [add_of_not_mem h hm]
    show n ∈ g.modules ++ [m] ↔ _
    rw [List.mem_append, List.mem_singleton]
    exact or_congr_right ⟨fun hn => ⟨hm, hn⟩, fun hn => hn.2⟩

theorem mem_ids_add {g : Graph} (h : g.Indexed) (m : Module) (x : String) :
    x ∈ (g.add m).ids ↔ x ∈ g.ids ∨ x = m.id := by
  by_cases hm : m.id ∈ g.ids
  · rw [add_of_mem h hm]
    exact ⟨Or.inl, fun hx => hx.elim (fun hx => hx) fun hx => hx ▸ hm⟩
  · rw [add_of_not_mem h hm]
    show x ∈ (g.modules ++ [m]).map (·.id) ↔ _
    rw [List.map_append, List.mem_append, List.map_singleton, List.mem_singleton, ids]

/-- `g'` holds what `g` holds, and leaves for those targets of the edges that `g` does not hold. -/
structure Grown (g : Graph) (edges : List Dependency) (g' : Graph) : Prop where
  indexed : g'.Indexed
  kept : ∀ m ∈ g.modules, m ∈ g'.modules
  leaves : ∀ m ∈ g'.modules, m ∈ g.modules ∨
    m.id ∉ g.ids ∧ ∃ d ∈ edges, m = .leaf m.id d.coreModule ∧ d.to = some m.id
  ids : ∀ x, x ∈ g'.ids ↔ x ∈ g.ids ∨ ∃ d ∈ edges, d.to = some x

theorem grown_addLeaf {g : Graph} (h : g.Indexed) (d : Dependency) : Grown g [d] (g.addLeaf d) := by
  rw [addLeaf]
  cases hto : d.to with
  | none =>
    refine ⟨h, fun m hm => hm, fun m hm => Or.inl hm, fun x => ?_⟩
    simp [hto]
  | some y =>
    refine ⟨h.add _, fun m hm => (mem_add h _ m).mpr (Or.inl hm), fun m hm => ?_, fun x => ?_⟩
    · rcases (mem_add h _ m).mp hm with hm | ⟨hnew, rfl⟩
      · exact Or.inl hm
      · exact Or.inr ⟨hnew, d, List.mem_singleton.mpr rfl, rfl, hto⟩
    · rw [mem_ids_add h]
      show x ∈ g.ids ∨ x = y ↔ _
      simp [hto, eq_comm]

theorem Grown.trans {g g' g'' : Graph} {edges edges' : List Dependency} (h : Grown g edges g')
    (h' : Grown g' edges' g'') : Grown g (edges ++ edges') g'' where
  indexed := h'.indexed
  kept := fun m hm => h'.kept m (h.kept m hm)
  leaves := by
    intro m hm
    rcases h'.leaves m hm with hm | ⟨hnew, d, hd, hleaf, hto⟩
    · rcases h.leaves m hm with hm | ⟨hnew, d, hd, hleaf, hto⟩
      · exact Or.inl hm
      · exact Or.inr ⟨hnew, d, List.mem_append_left _ hd, hleaf, hto⟩
    · have hnew' : m.id ∉ g.ids := fun hx => hnew ((h.ids m.id).mpr (Or.inl hx))
      exact Or.inr ⟨hnew', d, List.mem_append_right _ hd, hleaf, hto⟩
  ids := by
    intro x
    rw [h'.ids, h.ids, or_assoc]
    refine or_congr_right ?_
    simp only [List.mem_append, or_and_right, exists_or]

theorem grown_foldl {g : Graph} (h : g.Indexed) (edges : List Dependency) :
    Grown g edges (edges.foldl addLeaf g) := by
  induction edges generalizing g with
  | nil => exact ⟨h, fun m hm => hm, fun m hm => Or.inl hm, fun x => by simp⟩
  | cons d edges ih =>
    have hd := grown_addLeaf h d
    exact hd.trans (ih hd.indexed)

/-! ## The owner -/

/-- `g'` is `g` after the module `id` came with its references. -/
structure Added (resolve : Resolver) (includeOnly : Option Regex) (g : Graph) (id : String)
    (references : List Reference) (g' : Graph) : Prop where
  indexed : g'.Indexed
  ids : ∀ x, x ∈ g'.ids ↔
    x ∈ g.ids ∨ x = id ∨ ∃ d ∈ edgesOf resolve includeOnly id references, d.to = some x
  owner : ∀ m ∈ g'.modules, m.id = id → m.followed = true ∧ m.coreModule = false ∧
    m.moduleSystem = references.head?.map (·.moduleSystem) ∧
    m.dependencies = edgesOf resolve includeOnly id references
  others : ∀ m ∈ g'.modules, m.id ≠ id → m ∈ g.modules ∨
    m.id ∉ g.ids ∧ ∃ d ∈ edgesOf resolve includeOnly id references,
      m = .leaf m.id d.coreModule ∧ d.to = some m.id
  kept : ∀ m ∈ g.modules, m.id ≠ id → m ∈ g'.modules

theorem Added.exists_owner {resolve : Resolver} {includeOnly : Option Regex} {g g' : Graph} {id : String}
    {references : List Reference} (h : Added resolve includeOnly g id references g') :
    ∃ m ∈ g'.modules, m.id = id ∧ m.dependencies = edgesOf resolve includeOnly id references := by
  obtain ⟨m, hm, hid⟩ := List.mem_map.mp ((h.ids id).mpr (Or.inr (Or.inl rfl)))
  exact ⟨m, hm, hid, (h.owner m hm hid).2.2.2⟩

/-- **A module that is not followed yet is added with its references.** -/
theorem added_addModule (resolve : Resolver) (includeOnly : Option Regex) {g : Graph} (hg : g.Indexed)
    {id : String} (hnew : (g.get? id).any (·.followed) = false) (references : List Reference) :
    Added resolve includeOnly g id references (g.addModule resolve includeOnly id references) := by
  rw [addModule, if_neg (by rw [hnew]; exact Bool.false_ne_true)]
  have hgrown := grown_foldl hg (edgesOf resolve includeOnly id references)
  have hbase := hgrown.indexed.add (.ofFollowed id)
  have hkeep : ∀ m : Module,
      (m.withReferences references (edgesOf resolve includeOnly id references)).id = m.id := fun m => rfl
  refine ⟨hbase.modify id hkeep, fun x => ?_, fun m hm hid => ?_, fun m hm hid => ?_,
    fun m hm hid => ?_⟩
  · rw [ids_modify _ id hkeep, mem_ids_add hgrown.indexed, hgrown.ids, or_assoc]
    exact or_congr_right or_comm
  · rcases (hbase.mem_modify id m).mp hm with ⟨-, hne⟩ | ⟨n, -, -, rfl⟩
    · exact absurd hid hne
    · exact ⟨rfl, rfl, rfl, rfl⟩
  · rcases (hbase.mem_modify id m).mp hm with ⟨hm, -⟩ | ⟨n, -, hn, rfl⟩
    · rcases (mem_add hgrown.indexed _ m).mp hm with hm | ⟨-, rfl⟩
      · exact hgrown.leaves m hm
      · exact absurd rfl hid
    · exact absurd hn hid
  · exact (hbase.mem_modify id m).mpr
      (Or.inl ⟨(mem_add hgrown.indexed _ m).mpr (Or.inl (hgrown.kept m hm)), hid⟩)

/-! ## The edges of a new module -/

/-- **No reference of a new module is lost or misattributed, except by a clash.**  The edges stand for the
references by their texts, always; they stand for them by where they lead iff no text is both the id of a
target and a reference that led nowhere. -/
theorem addModule_byOutcome_iff (resolve : Resolver) (includeOnly : Option Regex) {g : Graph} (hg : g.Indexed)
    {id : String} (hnew : (g.get? id).any (·.followed) = false) (references : List Reference) :
    ∃ m, (g.addModule resolve includeOnly id references).get? id = some m ∧
      MergedByText resolve id (included resolve includeOnly id references) m.dependencies ∧
      (MergedByOutcome resolve id (included resolve includeOnly id references) m.dependencies ↔
        NoClash resolve id (included resolve includeOnly id references)) := by
  have hadded := added_addModule resolve includeOnly hg hnew references
  obtain ⟨m, hm, hid, hdeps⟩ := hadded.exists_owner
  have hmerged := edgesOf_mergedByText resolve includeOnly id references
  rw [← hdeps] at hmerged
  exact ⟨m, hadded.indexed.get?_eq_some.mpr ⟨hm, hid⟩, hmerged, hmerged.byOutcome_iff⟩

/-- Finds one file by its path, and nothing by a package name. -/
def onlyByPath : Resolver := fun reference _ =>
  if reference = "./b" then .module "b.js" else .unresolved

/-- Without a clash: two references to one target, around one that leads nowhere. -/
theorem addModule_byOutcome_of_repeated :
    let references : List Reference := [.plain "./b" .es6, .plain "c.js" .es6, .asDynamic (.plain "./b" .es6)]
    NoClash onlyByPath "a.js" (included onlyByPath none "a.js" references) ∧
      ∃ m, (empty.addModule onlyByPath none "a.js" references).get? "a.js" = some m ∧
        MergedByText onlyByPath "a.js" (included onlyByPath none "a.js" references) m.dependencies ∧
        (MergedByOutcome onlyByPath "a.js" (included onlyByPath none "a.js" references) m.dependencies ↔
          NoClash onlyByPath "a.js" (included onlyByPath none "a.js" references)) :=
  ⟨by decide, addModule_byOutcome_iff onlyByPath none empty_indexed rfl _⟩

/-- **A clash loses a reference**: `./b` leads to `b.js` and the package `b.js` is not found, so there are two
outcomes and one edge. -/
theorem not_byOutcome_of_clash :
    let references : List Reference := [.plain "./b" .es6, .plain "b.js" .es6]
    ∃ m, (empty.addModule onlyByPath none "a.js" references).get? "a.js" = some m ∧
      m.dependencies.map (fun e => (e.to, e.couldNotResolve)) = [(some "b.js", false)] ∧
      ¬ MergedByOutcome onlyByPath "a.js" (included onlyByPath none "a.js" references) m.dependencies := by
  refine ⟨_, rfl, rfl, fun h => ?_⟩
  have hlength := h.length_eq
  revert hlength
  decide

end ImportSurvey.Graph
