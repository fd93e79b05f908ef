import Mathlib.Data.String.Basic
import ImportSurvey.Proofs.Adding

/-
  Every built graph is in order, in whatever way its modules came up.

  While modules are being added the graph is not sorted, and a leaf may become a followed module at any
  time.  `Building` is what holds all the same, and the crux is that one more module keeps it
  (`Building.addModule`): a module that was not followed has no edges, so no target loses the edge that it
  is there for when its owner is changed.  Sorting keeps the modules and makes the index anew.
-/
namespace ImportSurvey.Graph

/-- The edge is the edge of `owner`; it leads to the id that it tells, or nowhere if nothing was found; and
the survey does not leave it out. -/
structure SoundEdge (includeOnly : Option Regex) (owner : String) (e : Dependency) : Prop where
  owner_eq : e.from = owner
  target : e.to = if e.couldNotResolve then none else some e.resolved
  included : isIncluded includeOnly e.resolved = true

theorem SoundEdge.resolved_eq {includeOnly : Option Regex} {owner : String} {e : Dependency}
    (h : SoundEdge includeOnly owner e) {y : String} (hy : e.to = some y) : e.resolved = y := by
  rw [h.target] at hy
  split at hy
  · cases hy
  · exact Option.some.inj hy

theorem soundEdge_edgesOf {resolve : Resolver} {includeOnly : Option Regex} {owner : String}
    {references : List Reference} {e : Dependency} (he : e ∈ edgesOf resolve includeOnly owner references) :
    SoundEdge includeOnly owner e := by
  obtain ⟨r, hr, group, hm⟩ := mem_edgesOf he
  have hin : isIncluded includeOnly e.resolved = true := by
    rw [hm.outcome.resolved_eq]
    exact (List.mem_filter.mp hr).2
  have hout := hm.outcome
  refine ⟨hm.owner_eq, ?_, hin⟩
  cases ho : resolve.outcome owner r with
  | resolved id =>
    rw [ho] at hout
    rw [hout.1, hout.2.1, hout.2.2]
    rfl
  | unresolved reference =>
    rw [ho] at hout
    rw [hout.1, hout.2.1]
    rfl

/-! ## While modules are being added -/

/-- The graph is in order so far; `added` are the modules that were added. -/
structure Building (includeOnly : Option Regex) (added : List String) (g : Graph) : Prop where
  indexed : g.Indexed
  followed : ∀ m ∈ g.modules, m.followed = true ↔ m.id ∈ added
  present : ∀ id ∈ added, id ∈ g.ids
  leaf : ∀ m ∈ g.modules, m.followed = false →
    m.dependencies = [] ∧ ∃ n ∈ g.modules, ∃ d ∈ n.dependencies, d.to = some m.id
  edge : ∀ m ∈ g.modules, ∀ d ∈ m.dependencies,
    SoundEdge includeOnly m.id d ∧ ∀ y, d.to = some y → y ∈ g.ids
  distinct : ∀ m ∈ g.modules, (m.dependencies.map (·.resolved)).Nodup

theorem building_empty (includeOnly : Option Regex) : Building includeOnly [] empty where
  indexed := empty_indexed
  followed := fun _ hm => absurd hm List.not_mem_nil
  present := fun _ hid => absurd hid List.not_mem_nil
  leaf := fun _ hm => absurd hm List.not_mem_nil
  edge := fun _ hm => absurd hm List.not_mem_nil
  distinct := fun _ hm => absurd hm List.not_mem_nil

/-- Only which modules were added matters. -/
theorem Building.congr {includeOnly : Option Regex} {added added' : List String} {g : Graph}
    (h : Building includeOnly added g) (hsame : ∀ id, id ∈ added' ↔ id ∈ added) :
    Building includeOnly added' g :=
  { h with
    followed := fun m hm => (h.followed m hm).trans (hsame m.id).symm
    present := fun id hid => h.present id ((hsame id).mp hid) }

section

variable {resolve : Resolver} {includeOnly : Option Regex} {added : List String} {g g' : Graph} {id : String}
  {references : List Reference}

/-- **One more module keeps the graph in order.** -/
theorem Building.of_added (hb : Building includeOnly added g) (h : Added resolve includeOnly g id references g')
    (hnew : ∀ m ∈ g.modules, m.id = id → m.followed = false) :
    Building includeOnly (added ++ [id]) g' where
  indexed := h.indexed
  followed := by
    intro m hm
    rw [List.mem_append, List.mem_singleton]
    by_cases hid : m.id = id
    · exact ⟨fun _ => Or.inr hid, fun _ => (h.owner m hm hid).1⟩
    · rcases h.others m hm hid with hm | ⟨hfresh, d, -, hc, -⟩
      · rw [hb.followed m hm]
        exact ⟨Or.inl, fun hx => hx.resolve_right hid⟩
      · -- a leaf of the new edges is no module that was added before
        have hf : m.followed = false := by rw [hc]; rfl
        rw [hf]
        exact ⟨fun hx => (by cases hx), fun hx => absurd (hb.present _ (hx.resolve_right hid)) hfresh⟩
  present := by
    intro x hx
    rcases List.mem_append.mp hx with hx | hx
    · exact (h.ids x).mpr (Or.inl (hb.present x hx))
    · exact (h.ids x).mpr (Or.inr (Or.inl (List.mem_singleton.mp hx)))
  leaf := by
    intro m hm hf
    have hid : m.id ≠ id := by
      intro hid
      rw [(h.owner m hm hid).1] at hf
      cases hf
    rcases h.others m hm hid with hm | ⟨-, d, hd, hc, hto⟩
    · obtain ⟨hbare, n, hn, d, hd, hto⟩ := hb.leaf m hm hf
      -- the module that this edge belongs to has edges, so it is not the one that is changed
      have hne : n.id ≠ id := by
        intro hnid
        rw [(hb.leaf n hn (hnew n hn hnid)).1] at hd
        exact absurd hd List.not_mem_nil
      exact ⟨hbare, n, h.kept n hn hne, d, hd, hto⟩
    · obtain ⟨n, hn, -, hdeps⟩ := h.exists_owner
      exact ⟨by rw [hc]; rfl, n, hn, d, hdeps ▸ hd, hto⟩
  edge := by
    intro m hm d hd
    by_cases hid : m.id = id
    · rw [(h.owner m hm hid).2.2.2] at hd
      rw [hid]
      exact ⟨soundEdge_edgesOf hd, fun y hy => (h.ids y).mpr (Or.inr (Or.inr ⟨d, hd, hy⟩))⟩
    · rcases h.others m hm hid with hm | ⟨-, _, -, hc, -⟩
      · obtain ⟨hsound, hpresent⟩ := hb.edge m hm d hd
        exact ⟨hsound, fun y hy => (h.ids y).mpr (Or.inl (hpresent y hy))⟩
      · rw [hc] at hd
        exact absurd hd List.not_mem_nil
  distinct := by
    intro m hm
    by_cases hid : m.id = id
    · rw [(h.owner m hm hid).2.2.2]
      exact nodup_resolved_edgesOf ..
    · rcases h.others m hm hid with hm | ⟨-, _, -, hc, -⟩
      · exact hb.distinct m hm
      · rw [hc]
        exact List.nodup_nil

end

/-- **One more addition keeps the graph in order**, whether the module is new, known as a target only, or
added before. -/
theorem Building.addModule {includeOnly : Option Regex} {added : List String} {g : Graph}
    (hb : Building includeOnly added g) (resolve : Resolver) (id : String) (references : List Reference) :
    Building includeOnly (added ++ [id]) (g.addModule resolve includeOnly id references) := by
  by_cases hf : (g.get? id).any (·.followed) = true
  · obtain ⟨m, hget, hfollowed⟩ := (Option.any_eq_true _ _).mp hf
    obtain ⟨hm, hid⟩ := hb.indexed.get?_eq_some.mp hget
    have hadded : id ∈ added := hid ▸ (hb.followed m hm).mp hfollowed
    rw [Graph.addModule, if_pos hf]
    refine hb.congr fun x => ?_
    rw [List.mem_append, List.mem_singleton]
    exact ⟨fun hx => hx.elim (fun hx => hx) fun hx => hx ▸ hadded, Or.inl⟩
  · have hnew : (g.get? id).any (·.followed) = false := Bool.eq_false_iff.mpr hf
    refine hb.of_added (added_addModule resolve includeOnly hb.indexed hnew references) fun m hm hid => ?_
    rw [hb.indexed.get?_eq_some.mpr ⟨hm, hid⟩] at hnew
    exact hnew

theorem building_addAll (resolve : Resolver) (includeOnly : Option Regex)
    (files : List (String × List Reference)) :
    Building includeOnly (files.map (·.1)) (addAll resolve includeOnly files) := by
  induction files using List.reverseRecOn with
  | nil => exact building_empty includeOnly
  | append_singleton files f ih =>
    rw [addAll, List.foldl_append, List.map_append]
    exact ih.addModule resolve f.1 f.2

/-! ## The graph that is built -/

/-- The graph is in order: what an earlier phase promises to those that go by position and by id. -/
structure Intact (includeOnly : Option Regex) (added : List String) (g : Graph) : Prop where
  /-- the ids differ and ascend -/
  ascending : g.ids.Pairwise (· < ·)
  /-- an id is found where it stands -/
  indexed : g.Indexed
  followed : ∀ id, (∃ m ∈ g.modules, m.id = id ∧ m.followed = true) ↔ id ∈ added
  leaves : ∀ id, (∃ m ∈ g.modules, m.id = id ∧ m.followed = false) ↔
    id ∉ added ∧ ∃ n ∈ g.modules, ∃ d ∈ n.dependencies, d.to = some id
  bare : ∀ m ∈ g.modules, m.followed = false → m.dependencies = []
  owner : ∀ m ∈ g.modules, ∀ d ∈ m.dependencies, d.from = m.id
  target : ∀ m ∈ g.modules, ∀ d ∈ m.dependencies,
    d.to = (if d.couldNotResolve then none else some d.resolved) ∧ ∀ id, d.to = some id → id ∈ g.ids
  distinct : ∀ m ∈ g.modules, (m.dependencies.map (·.resolved)).Nodup
  edge_included : ∀ m ∈ g.modules, ∀ d ∈ m.dependencies, isIncluded includeOnly d.resolved = true
  leaf_included : ∀ m ∈ g.modules, m.followed = false → isIncluded includeOnly m.id = true

theorem mem_sortById (g : Graph) (m : Module) : m ∈ g.sortById.modules ↔ m ∈ g.modules :=
  (List.mergeSort_perm g.modules _).mem_iff

/-- Sorting puts different ids in ascending order. -/
theorem ascending_sortById {g : Graph} (h : g.Indexed) : g.sortById.ids.Pairwise (· < ·) := by
  have hle : (g.modules.mergeSort fun a b => a.id ≤ b.id).Pairwise fun a b => a.id ≤ b.id := by
    refine (List.pairwise_mergeSort (fun a b c hab hbc => ?_) (fun a b => ?_) g.modules).imp fun hab =>
      of_decide_eq_true hab
    · exact decide_eq_true (le_trans (of_decide_eq_true hab) (of_decide_eq_true hbc))
    · rw [Bool.or_eq_true, decide_eq_true_eq, decide_eq_true_eq]
      exact le_total a.id b.id
  have hne : g.sortById.ids.Pairwise (· ≠ ·) := h.sortById.nodup
  have hids : g.sortById.ids.Pairwise (· ≤ ·) := List.pairwise_map.mpr hle
  exact (hids.and hne).imp fun hab => lt_of_le_of_ne hab.1 hab.2

theorem mem_ids_sortById (g : Graph) (id : String) : id ∈ g.sortById.ids ↔ id ∈ g.ids := by
  rw [ids, ids, List.mem_map, List.mem_map]
  exact exists_congr fun m => and_congr_left fun _ => mem_sortById g m

/-- The followed modules are those that were added. -/
theorem followed_build_iff (resolve : Resolver) (includeOnly : Option Regex)
    (files : List (String × List Reference)) (id : String) :
    (∃ m ∈ (build resolve includeOnly files).modules, m.id = id ∧ m.followed = true) ↔ id ∈ files.map (·.1) := by
  have hb := building_addAll resolve includeOnly files
  have hmem := mem_sortById (addAll resolve includeOnly files)
  constructor
  · rintro ⟨m, hm, rfl, hf⟩
    exact (hb.followed m ((hmem m).mp hm)).mp hf
  · intro hx
    obtain ⟨m, hm, rfl⟩ := List.mem_map.mp (hb.present id hx)
    exact ⟨m, (hmem m).mpr hm, rfl, (hb.followed m hm).mpr hx⟩

/-- Edges lead to modules of the graph. -/
theorem mem_ids_of_edge (resolve : Resolver) (includeOnly : Option Regex) (files : List (String × List Reference))
    {m : Module} (hm : m ∈ (build resolve includeOnly files).modules) {d : Dependency} (hd : d ∈ m.dependencies)
    {id : String} (hto : d.to = some id) : id ∈ (build resolve includeOnly files).ids := by
  have hb := building_addAll resolve includeOnly files
  exact (mem_ids_sortById _ id).mpr ((hb.edge m ((mem_sortById _ m).mp hm) d hd).2 id hto)

/-- **Every built graph is in order.** -/
theorem intact_build (resolve : Resolver) (includeOnly : Option Regex)
    (files : List (String × List Reference)) :
    Intact includeOnly (files.map (·.1)) (build resolve includeOnly files) := by
  have hb := building_addAll resolve includeOnly files
  have hmem := mem_sortById (addAll resolve includeOnly files)
  constructor
  case ascending => exact ascending_sortById hb.indexed
  case indexed => exact hb.indexed.sortById
  case followed => exact followed_build_iff resolve includeOnly files
  case leaves =>
    intro x
    constructor
    · rintro ⟨m, hm, rfl, hf⟩
      obtain ⟨-, n, hn, d, hd, hto⟩ := hb.leaf m ((hmem m).mp hm) hf
      refine ⟨fun hx => ?_, n, (hmem n).mpr hn, d, hd, hto⟩
      rw [(hb.followed m ((hmem m).mp hm)).mpr hx] at hf
      cases hf
    · rintro ⟨hx, n, hn, d, hd, hto⟩
      obtain ⟨m, hm, rfl⟩ := List.mem_map.mp ((hb.edge n ((hmem n).mp hn) d hd).2 x hto)
      exact ⟨m, (hmem m).mpr hm, rfl, Bool.eq_false_iff.mpr fun hf => hx ((hb.followed m hm).mp hf)⟩
  case bare => exact fun m hm hf => (hb.leaf m ((hmem m).mp hm) hf).1
  case owner => exact fun m hm d hd => (hb.edge m ((hmem m).mp hm) d hd).1.owner_eq
  case target =>
    intro m hm d hd
    obtain ⟨hsound, -⟩ := hb.edge m ((hmem m).mp hm) d hd
    exact ⟨hsound.target, fun _ hto => mem_ids_of_edge resolve includeOnly files hm hd hto⟩
  case distinct => exact fun m hm => hb.distinct m ((hmem m).mp hm)
  case edge_included => exact fun m hm d hd => (hb.edge m ((hmem m).mp hm) d hd).1.included
  case leaf_included =>
    intro m hm hf
    obtain ⟨-, n, hn, d, hd, hto⟩ := hb.leaf m ((hmem m).mp hm) hf
    obtain ⟨hsound, -⟩ := hb.edge n hn d hd
    rw [← hsound.resolved_eq hto]
    exact hsound.included

end ImportSurvey.Graph
