import ImportSurvey.Graph.Basic
import ImportSurvey.Proofs.Distinct

/-
  The index of a graph agrees with its row of modules.

  `Indexed` is the invariant that every later phase leans on: it lets an id and a position stand for each
  other.  It says more than that the ids differ, since an index that was not kept up would send a look-up
  to the wrong place; and it says no less, since one id cannot stand at two positions of one index
  (`Indexed.nodup`).

  The operations on graphs come in two kinds.  `add` and `sortById` touch the index, and here each has a
  proof of its own; all others keep both the ids and the index, and are settled by `Indexed.congr`.
-/
namespace ImportSurvey.Graph

/-- The ids of the modules, in the order of the row. -/
def ids (g : Graph) : List String := g.modules.map (·.id)

/-- The index finds an id exactly where the row has it. -/
def Indexed (g : Graph) : Prop := ∀ id i, g.indexOf id = some i ↔ g.ids[i]? = some id

theorem getElem?_ids (g : Graph) (i : Nat) : g.ids[i]? = (g.modules[i]?).map (·.id) := by
  rw [ids, List.getElem?_map]

theorem getElem?_ids_of_module {g : Graph} {i : Nat} {m : Module} (hm : g.modules[i]? = some m) :
    g.ids[i]? = some m.id := by rw [getElem?_ids, hm, Option.map_some]

theorem length_ids (g : Graph) : g.ids.length = g.size := by rw [ids, List.length_map, size]

/-! ## What an index that agrees is good for -/

theorem empty_indexed : empty.Indexed := by
  intro id i
  simp [indexOf, ids, empty]

/-- Only the ids and the index matter. -/
theorem Indexed.congr {g g' : Graph} (h : g.Indexed) (hids : g'.ids = g.ids) (hindex : g'.index = g.index) :
    g'.Indexed := by
  intro id i
  rw [indexOf, hindex, hids]
  exact h id i

theorem Indexed.nodup {g : Graph} (h : g.Indexed) : g.ids.Nodup := by
  rw [List.nodup_iff_getElem?_ne_getElem?]
  intro i j hij hj heq
  have hid : g.ids[j]? = some (g.ids[j]) := List.getElem?_eq_getElem hj
  have hi := (h _ i).mpr (heq.trans hid)
  have hj' := (h _ j).mpr hid
  rw [hi] at hj'
  have := Option.some.inj hj'
  omega

theorem Indexed.isSome_indexOf {g : Graph} (h : g.Indexed) (id : String) :
    (g.indexOf id).isSome ↔ id ∈ g.ids := by
  rw [Option.isSome_iff_exists, List.mem_iff_getElem?]
  exact exists_congr fun i => h id i

/-- The module of an id is the one that carries it. -/
theorem Indexed.get?_eq_some {g : Graph} (h : g.Indexed) {id : String} {m : Module} :
    g.get? id = some m ↔ m ∈ g.modules ∧ m.id = id := by
  rw [get?, Option.bind_eq_some_iff]
  constructor
  · rintro ⟨i, hi, hm⟩
    have hid := (h id i).mp hi
    rw [getElem?_ids, hm] at hid
    exact ⟨List.mem_of_getElem? hm, Option.some.inj hid⟩
  · rintro ⟨hm, hid⟩
    obtain ⟨i, hi⟩ := List.mem_iff_getElem?.mp hm
    exact ⟨i, (h id i).mpr (hid ▸ getElem?_ids_of_module hi), hi⟩

/-! ## The operations keep it -/

theorem add_of_mem {g : Graph} (h : g.Indexed) {m : Module} (hm : m.id ∈ g.ids) : g.add m = g := by
  rw [add, if_pos ((h.isSome_indexOf m.id).mpr hm)]

theorem add_of_not_mem {g : Graph} (h : g.Indexed) {m : Module} (hm : m.id ∉ g.ids) :
    g.add m = ⟨g.modules ++ [m], (m.id, g.size) :: g.index⟩ := by
  rw [add, if_neg (fun hs => hm ((h.isSome_indexOf m.id).mp hs))]

/-- What a row holds after one more was put at its end. -/
theorem getElem?_snoc {α : Type _} (l : List α) (x y : α) (i : Nat) :
    (l ++ [x])[i]? = some y ↔ l[i]? = some y ∨ (i = l.length ∧ x = y) := by
  rcases Nat.lt_trichotomy i l.length with hi | hi | hi
  · rw [List.getElem?_append_left hi]
    exact ⟨Or.inl, fun h => h.resolve_right fun he => by omega⟩
  · subst hi
    rw [List.getElem?_concat_length, List.getElem?_eq_none (Nat.le_refl _), Option.some.injEq]
    exact ⟨fun h => Or.inr ⟨rfl, h⟩, fun h => (h.resolve_left fun he => (by cases he)).2⟩
  · rw [List.getElem?_eq_none (by rw [List.length_append, List.length_singleton]; omega),
      List.getElem?_eq_none (by omega)]
    constructor
    · intro h
      cases h
    · rintro (h | ⟨h, -⟩)
      · cases h
      · omega

theorem Indexed.add {g : Graph} (h : g.Indexed) (m : Module) : (g.add m).Indexed := by
  by_cases hm : m.id ∈ g.ids
  · rw [add_of_mem h hm]
    exact h
  · rw [add_of_not_mem h hm]
    intro id i
    show ((m.id, g.size) :: g.index).lookup id = some i ↔ ((g.modules ++ [m]).map (·.id))[i]? = some id
    rw [List.map_append, List.map_singleton]
    show _ ↔ (g.ids ++ [m.id])[i]? = some id
    rw [getElem?_snoc, length_ids]
    by_cases hid : id = m.id
    · -- the new id stands at the end, and the row before has it nowhere
      subst hid
      have hold : ¬ g.ids[i]? = some m.id := fun he => hm (List.mem_of_getElem? he)
      rw [List.lookup_cons_self, Option.some.injEq]
      simp only [hold, false_or, and_true]
      exact eq_comm
    · rw [lookup_cons_ne _ _ hid]
      have hold : g.index.lookup id = some i ↔ g.ids[i]? = some id := h id i
      rw [hold]
      exact ⟨Or.inl, fun he => he.resolve_right fun hr => hid hr.2.symm⟩

theorem ids_modify (g : Graph) (id : String) {change : Module → Module} (hc : ∀ m, (change m).id = m.id) :
    (g.modify id change).ids = g.ids := by
  unfold modify
  split
  · rename_i i hi
    apply List.ext_getElem?
    intro k
    rw [getElem?_ids, getElem?_ids]
    show ((g.modules.modify i change)[k]?).map (·.id) = _
    rw [List.getElem?_modify]
    cases g.modules[k]? with
    | none => rfl
    | some m =>
      show some (if i = k then change m else m).id = some m.id
      split
      · rw [hc m]
      · rfl
  · rfl

theorem index_modify (g : Graph) (id : String) (change : Module → Module) :
    (g.modify id change).index = g.index := by
  unfold modify
  split <;> rfl

theorem Indexed.modify {g : Graph} (h : g.Indexed) (id : String) {change : Module → Module}
    (hc : ∀ m, (change m).id = m.id) : (g.modify id change).Indexed :=
  h.congr (ids_modify g id hc) (index_modify g id change)

/-- An id that the index does not know is carried by no module. -/
theorem Indexed.id_ne_of_indexOf {g : Graph} (h : g.Indexed) {id : String} (hnone : g.indexOf id = none)
    {m : Module} (hm : m ∈ g.modules) : m.id ≠ id := by
  intro hid
  have hsome := (h.isSome_indexOf id).mpr (hid ▸ List.mem_map_of_mem (f := (·.id)) hm)
  rw [hnone] at hsome
  cases hsome

/-- An id that the index knows is carried at the position it tells, and at no other. -/
theorem Indexed.id_eq_iff {g : Graph} (h : g.Indexed) {id : String} {i : Nat} (hi : g.indexOf id = some i)
    {k : Nat} {m : Module} (hk : g.modules[k]? = some m) : m.id = id ↔ i = k := by
  rw [← Option.some.injEq i k, ← hi, h id k,
    getElem?_ids_of_module hk, Option.some.injEq]

/-- What stands in a graph after the module of an id was changed. -/
theorem Indexed.mem_modify {g : Graph} (h : g.Indexed) (id : String) {change : Module → Module} (n : Module) :
    n ∈ (g.modify id change).modules ↔
      (n ∈ g.modules ∧ n.id ≠ id) ∨ ∃ m ∈ g.modules, m.id = id ∧ n = change m := by
  unfold Graph.modify
  split
  · rename_i i hi
    show n ∈ g.modules.modify i change ↔ _
    simp only [List.mem_iff_getElem?, List.getElem?_modify]
    constructor
    · rintro ⟨k, hk⟩
      obtain ⟨m, hm, hn⟩ := Option.map_eq_some_iff.mp hk
      by_cases hik : i = k
      · rw [if_pos hik] at hn
        exact Or.inr ⟨m, ⟨k, hm⟩, (h.id_eq_iff hi hm).mpr hik, hn.symm⟩
      · rw [if_neg hik] at hn
        subst hn
        exact Or.inl ⟨⟨k, hm⟩, fun hid => hik ((h.id_eq_iff hi hm).mp hid)⟩
    · rintro (⟨⟨k, hk⟩, hid⟩ | ⟨m, ⟨k, hk⟩, hid, rfl⟩)
      · refine ⟨k, Option.map_eq_some_iff.mpr ⟨n, hk, ?_⟩⟩
        rw [if_neg fun hik => hid ((h.id_eq_iff hi hk).mpr hik)]
      · refine ⟨k, Option.map_eq_some_iff.mpr ⟨m, hk, ?_⟩⟩
        rw [if_pos ((h.id_eq_iff hi hk).mp hid)]
  · rename_i hnone
    constructor
    · intro hn
      exact Or.inl ⟨hn, h.id_ne_of_indexOf hnone hn⟩
    · rintro (⟨hn, -⟩ | ⟨m, hm, hid, -⟩)
      · exact hn
      · exact absurd hid (h.id_ne_of_indexOf hnone hm)

/-! ## A new index -/

theorem indexed_eq (modules : List Module) :
    indexed modules = (modules.zipIdx.map fun p => (p.1.id, p.2)).reverse := by
  rw [indexed, List.foldl_flip_cons_eq_append, List.append_nil]

/-- **A row of modules is the row of a graph whose index agrees iff its ids differ.** -/
theorem ofRow_indexed_iff {modules : List Module} : (ofRow modules).Indexed ↔ (modules.map (·.id)).Nodup := by
  refine ⟨fun h => h.nodup, fun h id i => ?_⟩
  show (indexed modules).lookup id = some i ↔ (modules.map (·.id))[i]? = some id
  have hkeys : (modules.zipIdx.map fun p => (p.1.id, p.2)).map (·.1) = modules.map (·.id) := by
    conv => rhs; rw [← List.zipIdx_map_fst 0 modules]
    rw [List.map_map, List.map_map]
    rfl
  rw [indexed_eq, lookup_iff_mem (by rw [List.map_reverse, List.nodup_reverse, hkeys]; exact h),
    List.mem_reverse, List.mem_map, List.getElem?_map, Option.map_eq_some_iff]
  constructor
  · rintro ⟨⟨m, k⟩, hm, he⟩
    obtain ⟨rfl, rfl⟩ := Prod.mk.inj he
    exact ⟨m, List.mem_zipIdx_iff_getElem?.mp hm, rfl⟩
  · rintro ⟨m, hm, rfl⟩
    exact ⟨(m, i), List.mem_zipIdx_iff_getElem?.mpr hm, rfl⟩

theorem Indexed.sortById {g : Graph} (h : g.Indexed) : g.sortById.Indexed := by
  apply ofRow_indexed_iff.mpr
  exact ((List.mergeSort_perm g.modules _).map _).nodup_iff.mpr h.nodup

end ImportSurvey.Graph
