import Mathlib.Data.List.Nodup

/-
  Lists with one entry for each of a kind of thing.

  What is extracted from a script is a list in which equal entries may stand, and a statement about all of them
  "with multiplicity" has to say where each of them comes from.  `Enumerates gives list` says it: the entries of
  the list have origins, no two the same one, and what has the origin `o` is what `o` gives.  So the list
  holds one entry for each origin that gives something, and no other entry.

  A list that is put together from lists is enumerated by the origins in the lists it is put together from
  (`Enumerates.flatMap`, `Enumerates.append`).
-/
namespace ImportSurvey

variable {α β ι κ : Type*}

/-- The list has one entry for each origin that gives one, namely what it gives, and no other entries. -/
def Enumerates (gives : ι → β → Prop) (list : List β) : Prop :=
  ∃ entries : List (ι × β), (entries.map (·.1)).Nodup ∧ (∀ o b, (o, b) ∈ entries ↔ gives o b) ∧
    entries.map (·.2) = list

namespace Enumerates

theorem congr {gives gives' : ι → β → Prop} {list : List β} (h : Enumerates gives list)
    (hiff : ∀ o b, gives o b ↔ gives' o b) : Enumerates gives' list := by
  obtain ⟨entries, hnodup, hmem, hmap⟩ := h
  exact ⟨entries, hnodup, fun o b => (hmem o b).trans (hiff o b), hmap⟩

/-- Origins under other names. -/
theorem relabel {gives : ι → β → Prop} {list : List β} (h : Enumerates gives list) {e : ι → κ}
    (he : Function.Injective e) : Enumerates (fun k b => ∃ o, e o = k ∧ gives o b) list := by
  obtain ⟨entries, hnodup, hmem, hmap⟩ := h
  refine ⟨entries.map fun x => (e x.1, x.2), ?_, fun k b => ?_, ?_⟩
  · have hcomp : (entries.map fun x => (e x.1, x.2)).map (·.1) = (entries.map (·.1)).map e := by
      rw [List.map_map, List.map_map]
      rfl
    rw [hcomp]
    exact hnodup.map he
  · rw [List.mem_map]
    constructor
    · rintro ⟨⟨o, b'⟩, hx, heq⟩
      obtain ⟨rfl, rfl⟩ := Prod.mk.inj heq
      exact ⟨o, rfl, (hmem o b').mp hx⟩
    · rintro ⟨o, rfl, ho⟩
      exact ⟨(o, b), (hmem o b).mpr ho, rfl⟩
  · rw [List.map_map]
    exact hmap

/-- The entries of any list have their numbers as origins. -/
theorem positions (list : List β) : Enumerates (fun (i : Nat) b => list[i]? = some b) list := by
  refine ⟨list.zipIdx.map Prod.swap, ?_, fun i b => ?_, ?_⟩
  · have hsnd : (list.zipIdx.map Prod.swap).map (·.1) = List.range' 0 list.length := by
      rw [List.map_map]
      exact List.zipIdx_map_snd 0 list
    rw [hsnd]
    exact List.nodup_range'
  · rw [List.mem_map]
    constructor
    · rintro ⟨⟨b', i'⟩, hx, heq⟩
      obtain ⟨rfl, rfl⟩ := Prod.mk.inj heq
      exact List.mk_mem_zipIdx_iff_getElem?.mp hx
    · intro hx
      exact ⟨(b, i), List.mk_mem_zipIdx_iff_getElem?.mpr hx, rfl⟩
  · rw [List.map_map]
    exact List.zipIdx_map_fst 0 list

theorem ofOption (o : Option β) : Enumerates (fun (_ : Unit) b => o = some b) o.toList := by
  cases o with
  | none => exact ⟨[], List.nodup_nil, fun _ _ => ⟨nofun, nofun⟩, rfl⟩
  | some b =>
    refine ⟨[((), b)], List.nodup_singleton _, fun _ b' => ?_, rfl⟩
    show _ ↔ some b = some b'
    rw [List.mem_singleton, Prod.mk.injEq, Option.some.injEq, eq_comm (b := b')]
    exact and_iff_right rfl

/-- Two lists, one behind the other, whose origins are of the same kind but never the same. -/
theorem append {gives gives' : ι → β → Prop} {list list' : List β} (h : Enumerates gives list)
    (h' : Enumerates gives' list') (hapart : ∀ o b b', gives o b → ¬ gives' o b') :
    Enumerates (fun o b => gives o b ∨ gives' o b) (list ++ list') := by
  obtain ⟨entries, hnodup, hmem, hmap⟩ := h
  obtain ⟨entries', hnodup', hmem', hmap'⟩ := h'
  refine ⟨entries ++ entries', ?_, fun o b => ?_, ?_⟩
  · rw [List.map_append, List.nodup_append]
    refine ⟨hnodup, hnodup', ?_⟩
    intro o ho o' ho' heq
    obtain ⟨⟨_, b⟩, hx, rfl⟩ := List.mem_map.mp ho
    obtain ⟨⟨_, b'⟩, hx', rfl⟩ := List.mem_map.mp ho'
    obtain rfl := heq
    exact hapart _ b b' ((hmem _ b).mp hx) ((hmem' _ b').mp hx')
  · rw [List.mem_append, hmem, hmem']
  · rw [List.map_append, hmap, hmap']

/-- A list of lists, each of which comes from an entry of another list: an origin in the whole is that of
the entry and one in its list. -/
theorem flatMap {gives : ι → α → Prop} {list : List α} (h : Enumerates gives list) {f : α → List β}
    {inner : α → κ → β → Prop} (hf : ∀ a, Enumerates (inner a) (f a)) :
    Enumerates (fun (o : ι × κ) b => ∃ a, gives o.1 a ∧ inner a o.2 b) (list.flatMap f) := by
  obtain ⟨entries, hnodup, hmem, rfl⟩ := h
  choose g hgnodup hgmem hgmap using hf
  refine ⟨entries.flatMap fun x => (g x.2).map fun y => ((x.1, y.1), y.2), ?_, ?_, ?_⟩
  · clear hmem
    rw [List.map_flatMap, List.nodup_flatMap]
    constructor
    · intro x _
      have hcomp : ((g x.2).map fun y => ((x.1, y.1), y.2)).map (·.1) = ((g x.2).map (·.1)).map (x.1, ·) := by
        rw [List.map_map, List.map_map]
        rfl
      rw [hcomp]
      exact (hgnodup x.2).map fun _ _ h => (Prod.mk.inj h).2
    · -- entries with different origins give different ones
      refine (List.pairwise_map.mp hnodup).imp ?_
      intro x x' hne o ho ho'
      obtain ⟨_, hy, rfl⟩ := List.mem_map.mp ho
      obtain ⟨y, _, rfl⟩ := List.mem_map.mp hy
      obtain ⟨_, hz, heq⟩ := List.mem_map.mp ho'
      obtain ⟨z, _, rfl⟩ := List.mem_map.mp hz
      exact hne (Prod.mk.inj heq).1.symm
  · rintro ⟨o, k⟩ b
    rw [List.mem_flatMap]
    constructor
    · rintro ⟨⟨o', a⟩, hx, hy⟩
      obtain ⟨⟨k', b'⟩, hk, heq⟩ := List.mem_map.mp hy
      obtain ⟨hkey, rfl⟩ := Prod.mk.inj heq
      obtain ⟨rfl, rfl⟩ := Prod.mk.inj hkey
      exact ⟨a, (hmem _ a).mp hx, (hgmem a _ _).mp hk⟩
    · rintro ⟨a, ho, hk⟩
      exact ⟨(o, a), (hmem o a).mpr ho, List.mem_map.mpr ⟨(k, b), (hgmem a k b).mpr hk, rfl⟩⟩
  · rw [List.map_flatMap, List.flatMap_map]
    refine List.flatMap_congr fun x _ => ?_
    rw [List.map_map]
    exact hgmap x.2

end Enumerates

end ImportSurvey
