import ImportSurvey.Proofs.Layouts
import ImportSurvey.Graph.Json

/-
  Reading back what was written, record by record.

  A record is written field by field: a field that may be absent is left out when it is, all others are written
  always.  It is read entry by entry: each entry puts one field into a record that starts with defaults.

  1. **Values.**  `Reads` says of a JSON value that its text can be read and that it is decoded as a given value.
     There is one lemma for each kind of value that fields have.

  2. **Fields.**  `Fills` follows the fields of a record in their order.  Each step says what the entry of one field
     makes of the record so far, or that the record so far has the right value if there is no entry.  The order of
     the fields is the one of the form, so no name comes twice and none is unknown (`Fills.decodeEntries`).

  A record is then read back if its fields are followed to the end (`Fills.reads`, `Fills.reads_needed`), where each
  step cites the lemma about the value of the field.
-/
namespace ImportSurvey

open Datum

namespace Datum

/-! ## Values -/

/-- The text of a value can be read, with at most so many levels, and the value is decoded as `a`. -/
structure Reads {α : Type} (n : Nat) (j : Json) (decode : Datum → Decode α) (a : α) : Prop where
  legible : j.Legible n
  decoded : decode (.ofJson j) = .ok a

section

variable {α : Type} {n : Nat} {format : Format} {j : Json} {decode : Datum → Decode α} {a : α}

theorem reads_string (s : String) : Reads n (.str s) (decodeString format) s := ⟨.str s, rfl⟩

theorem reads_path (s : String) : Reads n (.str s) (decodePath format) s := ⟨.str s, rfl⟩

theorem reads_bool (b : Bool) : Reads n (.bool b) (decodeBool format) b := ⟨.bool b, rfl⟩

theorem reads_count {k : Nat} (hk : k < Nat.pow 2 64) : Reads n (.int k) (decodeCount format) k := by
  have hfits : Json.Fits k := by
    have hbound : k < 18446744073709551616 := hk
    exact ⟨by omega, by omega⟩
  refine ⟨.int hfits, ?_⟩
  show decodeCount format (.int (k : Int)) = .ok k
  rw [decodeCount, if_neg (by omega), Int.toNat_natCast]
  exact if_pos hk

/-- A name from a list in which no name stands for two values. -/
theorem reads_name {name : α → String} {all : List α} (hname : Function.Injective name) (ha : a ∈ all) :
    Reads n (.str (name a)) (decodeName format (all.map fun b => (name b, b))) a := by
  refine ⟨.str (name a), ?_⟩
  show ofName _ (name a) = .ok a
  rw [ofName]
  cases hfind : (all.map fun b => (name b, b)).find? (·.1 = name a) with
  | none =>
    have hnone := List.find?_eq_none.mp hfind (name a, a) (List.mem_map_of_mem ha)
    exact absurd (decide_eq_true rfl) hnone
  | some found =>
    obtain ⟨b, -, rfl⟩ := List.mem_map.mp (List.mem_of_find?_eq_some hfind)
    have hfound := List.find?_some hfind
    have hsame : name b = name a := of_decide_eq_true hfound
    rw [hname hsame]

theorem reads_some (h : Reads n j decode a) (hj : j ≠ .null) : Reads n j (decodeOption decode) (some a) := by
  refine ⟨h.legible, ?_⟩
  have hdatum : decodeOption decode (.ofJson j) = (decode (.ofJson j)).map some := by
    cases j with
    | null => exact absurd rfl hj
    | _ => rfl
  rw [hdatum, h.decoded]
  rfl

/-- A value that may be absent is written as nothing then. -/
theorem reads_orNull {toJson : α → Json} {v : Option α} (h : ∀ a, Reads n (toJson a) (decodeOption decode) (some a)) :
    Reads n (Json.orNull (v.map toJson)) (decodeOption decode) v := by
  cases v with
  | none => exact ⟨.null, rfl⟩
  | some a => exact h a

theorem decodeItems_map {toJson : α → Json} {as : List α} (h : ∀ a ∈ as, decode (.ofJson (toJson a)) = .ok a) :
    decodeItems decode (ofItems (as.map toJson)) = .ok as := by
  induction as with
  | nil => rfl
  | cons a as ih =>
    have hrest := ih fun b hb => h b (List.mem_cons_of_mem a hb)
    rw [List.map_cons, ofItems, decodeItems, h a List.mem_cons_self, hrest]
    rfl

/-- An array of values that are read back. -/
theorem reads_list {toJson : α → Json} {as : List α} (h : ∀ a ∈ as, Reads n (toJson a) decode a) :
    Reads (n + 1) (.arr (as.map toJson)) (decodeList format decode) as := by
  refine ⟨.arr ?_, ?_⟩
  · intro j hj
    obtain ⟨a, ha, rfl⟩ := List.mem_map.mp hj
    exact (h a ha).legible
  · show decodeList format decode (.seq (ofItems (as.map toJson)) true) = .ok as
    rw [decodeList, decodeItems_map fun a ha => (h a ha).decoded]
    rfl

theorem reads_strings (ss : List String) :
    Reads (n + 1) (Json.strings ss) (decodeList format (decodeString format)) ss :=
  reads_list fun s _ => reads_string s

theorem reads_names {name : α → String} {all as : List α} (hname : Function.Injective name) (has : ∀ a ∈ as, a ∈ all) :
    Reads (n + 1) (Json.strings (as.map name))
      (decodeList format (decodeName format (all.map fun b => (name b, b)))) as := by
  rw [Json.strings, List.map_map]
  exact reads_list fun a ha => reads_name hname (has a ha)

end

/-! ## Fields -/

section

variable {σ : Type} {form : RecordForm σ} {n : Nat} {format : Format}

/-- `Fills form n s members needed r`: the entries of the fields that are set make `r` of the record `s`, and the
fields `needed` are set whatever the record holds. -/
inductive Fills (form : RecordForm σ) (n : Nat) :
    σ → List (String × Option Json) → List String → σ → Prop
  | done {s : σ} : Fills form n s [] [] s
  | given {s s' r : σ} {key : String} {j : Json} {members : List (String × Option Json)} {needed : List String}
      (hlegible : j.Legible n) (hput : form.put s key (.ofJson j) = .ok s') (h : Fills form n s' members needed r) :
      Fills form n s ((key, some j) :: members) (key :: needed) r
  | perhaps {s s' r : σ} {key : String} {v : Option Json} {members : List (String × Option Json)}
      {needed : List String} (hgiven : ∀ j, v = some j → j.Legible n ∧ form.put s key (.ofJson j) = .ok s')
      (habsent : v = none → s' = s) (h : Fills form n s' members needed r) :
      Fills form n s ((key, v) :: members) needed r

variable {s r : σ} {key : String} {members : List (String × Option Json)} {needed : List String} {α : Type}

/-- A field that is written always and needed. -/
theorem Fills.field {j : Json} {decode : Datum → Decode α} {a : α} {set : α → σ} (hreads : Reads n j decode a)
    (hput : ∀ d, form.put s key d = (decode d).map set) (h : Fills form n (set a) members needed r) :
    Fills form n s ((key, some j) :: members) (key :: needed) r := by
  refine .given hreads.legible ?_ h
  rw [hput, hreads.decoded]
  rfl

/-- A field that is written always, though a record may lack it. -/
theorem Fills.spare {j : Json} {decode : Datum → Decode α} {a : α} {set : α → σ} (hreads : Reads n j decode a)
    (hput : ∀ d, form.put s key d = (decode d).map set) (h : Fills form n (set a) members needed r) :
    Fills form n s ((key, some j) :: members) needed r := by
  refine .perhaps ?_ nofun h
  intro j' hj
  obtain rfl := Option.some.inj hj
  refine ⟨hreads.legible, ?_⟩
  rw [hput, hreads.decoded]
  rfl

/-- A field that is left out if it is absent. -/
theorem Fills.option {v : Option α} {toJson : α → Json} {decode : Datum → Decode (Option α)} {set : Option α → σ}
    (hreads : ∀ a, v = some a → Reads n (toJson a) decode (some a))
    (hput : ∀ d, form.put s key d = (decode d).map set) (hnone : set none = s)
    (h : Fills form n (set v) members needed r) : Fills form n s ((key, v.map toJson) :: members) needed r := by
  refine .perhaps ?_ ?_ h
  · intro j hj
    obtain ⟨a, rfl, rfl⟩ := Option.map_eq_some_iff.mp hj
    have ha := hreads a rfl
    refine ⟨ha.legible, ?_⟩
    rw [hput, ha.decoded]
    rfl
  · intro hv
    rw [Option.map_eq_none_iff.mp hv, hnone]

/-- A list that is left out if it is empty. -/
theorem Fills.list {as : List α} {toJson : α → Json} {decode : Datum → Decode α} {set : List α → σ}
    (hreads : ∀ a ∈ as, Reads n (toJson a) decode a)
    (hput : ∀ d, form.put s key d = (decodeList format decode d).map set) (hnone : set [] = s)
    (h : Fills form (n + 1) (set as) members needed r) :
    Fills form (n + 1) s ((key, if as.isEmpty then none else some (.arr (as.map toJson))) :: members) needed r := by
  have hlist : Reads (n + 1) (.arr (as.map toJson)) (decodeList format decode) as := reads_list hreads
  refine .perhaps ?_ ?_ h
  · intro j hj
    split at hj
    · cases hj
    · obtain rfl := Option.some.inj hj
      refine ⟨hlist.legible, ?_⟩
      rw [hput, hlist.decoded]
      rfl
  · intro hv
    split at hv
    · rename_i hempty
      rw [List.isEmpty_iff.mp hempty, hnone]
    · cases hv

/-- What is set can be read. -/
theorem Fills.legible (h : Fills form n s members needed r) : ∀ m ∈ Json.present members, m.2.Legible n := by
  induction h with
  | done => exact fun m hm => absurd hm List.not_mem_nil
  | given hlegible _ _ ih =>
    intro m hm
    rcases List.mem_cons.mp hm with rfl | hm
    · exact hlegible
    · exact ih m hm
  | @perhaps _ _ _ _ v _ _ hgiven _ _ ih =>
    cases v with
    | none => exact ih
    | some j =>
      intro m hm
      rcases List.mem_cons.mp hm with rfl | hm
      · exact (hgiven j rfl).1
      · exact ih m hm

/-- The names of the fields that are set. -/
def setFields (members : List (String × Option Json)) : List String := (Json.present members).map (·.1)

theorem Fills.needed_set (h : Fills form n s members needed r) : ∀ f ∈ needed, f ∈ setFields members := by
  induction h with
  | done => exact fun f hf => absurd hf List.not_mem_nil
  | given _ _ _ ih =>
    intro f hf
    rcases List.mem_cons.mp hf with rfl | hf
    · exact List.mem_cons_self
    · exact List.mem_cons_of_mem _ (ih f hf)
  | @perhaps _ _ _ _ v _ _ _ _ _ ih =>
    intro f hf
    cases v with
    | none => exact ih f hf
    | some j => exact List.mem_cons_of_mem _ (ih f hf)

/-- The entry of a field that has not been seen. -/
theorem decodeEntries_next {s' : σ} {j : Json} (hput : form.put s key (.ofJson j) = .ok s') {seen : List String}
    (hnodup : (((key, some j) :: members).map (·.1)).Nodup)
    (hknown : ∀ f ∈ ((key, some j) :: members).map (·.1), f ∈ form.fields ∧ f ∉ seen)
    (hrest : ∀ seen : List String, (members.map (·.1)).Nodup →
      (∀ f ∈ members.map (·.1), f ∈ form.fields ∧ f ∉ seen) →
      decodeEntries form seen s' (ofMembers (Json.present members)) = .ok (r, (setFields members).reverse ++ seen)) :
    decodeEntries form seen s (ofMembers (Json.present ((key, some j) :: members))) =
      .ok (r, (setFields ((key, some j) :: members)).reverse ++ seen) := by
  obtain ⟨hnew, hnodup⟩ := List.nodup_cons.mp hnodup
  obtain ⟨hfield, hunseen⟩ := hknown key List.mem_cons_self
  have hafter := hrest (key :: seen) hnodup fun f hf => by
    obtain ⟨hf', hseen⟩ := hknown f (List.mem_cons_of_mem key hf)
    refine ⟨hf', ?_⟩
    rintro (_ | ⟨_, hmem⟩)
    · exact hnew hf
    · exact hseen hmem
  have hpresent : Json.present ((key, some j) :: members) = (key, j) :: Json.present members := rfl
  rw [hpresent, ofMembers, decodeEntries, if_pos (List.contains_iff_mem.mpr hfield),
    if_neg (fun hc => hunseen (List.contains_iff_mem.mp hc)), hput]
  show decodeEntries form (key :: seen) s' _ = _
  rw [hafter, setFields, setFields, hpresent, List.map_cons, List.reverse_cons, List.append_assoc]
  rfl

/-- **The entries of a record make what its fields say**, by induction on the fields: the names that were seen are
those of the fields in front. -/
theorem Fills.decodeEntries (h : Fills form n s members needed r) (seen : List String)
    (hnodup : (members.map (·.1)).Nodup) (hknown : ∀ f ∈ members.map (·.1), f ∈ form.fields ∧ f ∉ seen) :
    Datum.decodeEntries form seen s (ofMembers (Json.present members)) =
      .ok (r, (setFields members).reverse ++ seen) := by
  induction h generalizing seen with
  | done => rfl
  | @given s s' r key j members needed _ hput _ ih =>
    exact decodeEntries_next hput hnodup hknown ih
  | @perhaps s s' r key v members needed hgiven habsent _ ih =>
    cases v with
    | some j => exact decodeEntries_next (hgiven j rfl).2 hnodup hknown ih
    | none =>
      rw [habsent rfl] at ih
      exact ih seen (List.nodup_cons.mp hnodup).2 fun f hf => hknown f (List.mem_cons_of_mem key hf)

/-- **A record whose fields are followed to its end is read back.** -/
theorem Fills.decodeRecord {start : σ} (h : Fills form n start members needed r)
    (hkeys : members.map (·.1) = form.fields) (hnodup : form.fields.Nodup) :
    Datum.decodeRecord format form start (.ofJson (.obj (Json.present members))) =
      .ok (r, (setFields members).reverse) := by
  have hentries := h.decodeEntries [] (hkeys ▸ hnodup) fun f hf => ⟨hkeys ▸ hf, List.not_mem_nil⟩
  rw [List.append_nil] at hentries
  show Datum.decodeRecord format form start (.map (ofMembers (Json.present members)) true) = _
  rw [Datum.decodeRecord, hentries]
  rfl

theorem Fills.reads {start : σ} (h : Fills form n start members [] r) (hkeys : members.map (·.1) = form.fields)
    (hnodup : form.fields.Nodup) :
    Reads (n + 1) (.obj (Json.present members)) (fun d => (Datum.decodeRecord format form start d).map (·.1)) r := by
  refine ⟨.obj h.legible, ?_⟩
  show (Datum.decodeRecord format form start _).map _ = _
  rw [h.decodeRecord hkeys hnodup]
  rfl

/-- The same if some fields are needed. -/
theorem Fills.reads_needed {start : σ} (h : Fills form n start members needed r)
    (hkeys : members.map (·.1) = form.fields) (hnodup : form.fields.Nodup) :
    Reads (n + 1) (.obj (Json.present members)) (decodeWith form start needed) r := by
  refine ⟨.obj h.legible, ?_⟩
  have hneed : need (setFields members).reverse needed = .ok () := by
    have hnone : needed.find? (fun f => !(setFields members).reverse.contains f) = none := by
      refine List.find?_eq_none.mpr fun f hf => ?_
      have hset := h.needed_set f hf
      simpa using hset
    rw [need, hnone]
  rw [decodeWith, h.decodeRecord hkeys hnodup]
  show (need (setFields members).reverse needed).bind _ = _
  rw [hneed]
  rfl

end

end Datum

/-! ## Names -/

section

variable {n : Nat} {format : Format}

theorem Severity.name_injective : Function.Injective Severity.name := by
  intro s t h
  cases s <;> cases t <;> first | rfl | exact absurd h (by decide)

theorem ModuleSystem.name_injective : Function.Injective ModuleSystem.name := by
  intro s t h
  cases s <;> cases t <;> first | rfl | exact absurd h (by decide)

theorem DependencyType.name_injective : Function.Injective DependencyType.name := by
  intro s t h
  cases s <;> cases t <;> first | rfl | exact absurd h (by decide)

theorem Severity.reads (s : Severity) : Reads n (.str s.name) (decodeName format Severity.names) s :=
  reads_name name_injective (by cases s <;> decide)

theorem ModuleSystem.reads (s : ModuleSystem) : Reads n (.str s.name) (decodeName format ModuleSystem.names) s :=
  reads_name name_injective (by cases s <;> decide)

theorem ModuleSystem.reads_all (ss : List ModuleSystem) :
    Reads (n + 1) (Json.strings (ss.map ModuleSystem.name))
      (decodeList format (decodeName format ModuleSystem.names)) ss :=
  reads_names name_injective fun s _ => by cases s <;> decide

theorem DependencyType.reads_all (ts : List DependencyType) :
    Reads (n + 1) (Json.strings (ts.map DependencyType.name))
      (decodeList format (decodeName format DependencyType.names)) ts :=
  reads_names name_injective fun t _ => by cases t <;> decide

end

end ImportSurvey
