import Mathlib.Data.List.Basic
import ImportSurvey.Resolve.Search

/-
  What the exports of a package offer.

  The value of an export is a tree: alternatives are tried in the order in which they are written, conditions in
  the order of preference, and the leaves are targets.  `Offers` says so rule by rule, and `offers_iff` that the
  targets are listed in just that order, by induction on the tree.  `Selects` says which value counts for which
  subpath, and `applies_iff` that no other target is listed.
-/
namespace ImportSurvey

namespace Json

/-- The last member of a name counts. -/
theorem member?_cons (k : String) (v : Json) (rest : List (String × Json)) (name : String) :
    member? ((k, v) :: rest) name = (member? rest name).or (if k = name then some v else none) := by
  rw [member?, member?, List.reverse_cons, List.find?_append]
  cases rest.reverse.find? (·.1 = name) with
  | some found => rfl
  | none =>
    by_cases hk : k = name
    · simp [hk]
    · simp [hk]

theorem member?_eq_none_iff {members : List (String × Json)} {name : String} :
    member? members name = none ↔ ∀ m ∈ members, m.1 ≠ name := by
  rw [member?, Option.map_eq_none_iff, List.find?_eq_none]
  simp

theorem mem_of_member? {members : List (String × Json)} {name : String} {v : Json}
    (h : member? members name = some v) : (name, v) ∈ members := by
  obtain ⟨m, hm, rfl⟩ := Option.map_eq_some_iff.mp h
  obtain rfl : m.1 = name := by simpa using List.find?_some hm
  exact List.mem_reverse.mp (List.mem_of_find?_eq_some hm)

end Json

namespace Resolve

/-! ## Values of exports -/

mutual

/-- The targets that the value of an export offers, in the order in which they are to be tried. -/
inductive Offers : Json → List String → Prop where
  | target (t : String) : Offers (.str t) [t]
  | alternatives {items : List Json} {ts : List String} : OffersInTurn items ts → Offers (.arr items) ts
  | conditions {members : List (String × Json)} {ts us vs ws : List String} :
      OffersUnder members "import" ts → OffersUnder members "require" us → OffersUnder members "node" vs →
        OffersUnder members "default" ws → Offers (.obj members) (ts ++ us ++ vs ++ ws)
  | null : Offers .null []
  | bool (b : Bool) : Offers (.bool b) []
  | int (i : Int) : Offers (.int i) []
  | float (f : Float) : Offers (.float f) []

/-- One value after the other. -/
inductive OffersInTurn : List Json → List String → Prop where
  | nil : OffersInTurn [] []
  | cons {v : Json} {rest : List Json} {ts us : List String} :
      Offers v ts → OffersInTurn rest us → OffersInTurn (v :: rest) (ts ++ us)

/-- The value of a member, if there is one. -/
inductive OffersUnder : List (String × Json) → String → List String → Prop where
  | member {members : List (String × Json)} {name : String} {v : Json} {ts : List String} :
      Json.member? members name = some v → Offers v ts → OffersUnder members name ts
  | missing {members : List (String × Json)} {name : String} :
      Json.member? members name = none → OffersUnder members name []

end

theorem targetsUnder_eq (name : String) (members : List (String × Json)) :
    exportTargets.targetsUnder name members =
      match Json.member? members name with
      | some v => exportTargets v
      | none => [] := by
  induction members with
  | nil => rw [exportTargets.targetsUnder]; rfl
  | cons m rest ih =>
    obtain ⟨k, v⟩ := m
    rw [exportTargets.targetsUnder, Json.member?_cons]
    cases hrest : Json.member? rest name with
    | some w =>
      -- a later member of the name takes the place
      have hany : rest.any (·.1 = name) = true :=
        List.any_eq_true.mpr ⟨_, Json.mem_of_member? hrest, decide_eq_true rfl⟩
      rw [if_pos hany, ih, hrest]
      rfl
    | none =>
      have hnone : ¬ rest.any (·.1 = name) = true := by
        intro hany
        obtain ⟨m, hm, hname⟩ := List.any_eq_true.mp hany
        exact Json.member?_eq_none_iff.mp hrest m hm (of_decide_eq_true hname)
      rw [if_neg hnone, Option.none_or]
      split
      · rfl
      · rfl

/-- What is no target, no list and no object offers nothing. -/
theorem exportTargets_of_scalar {v : Json} (hstr : ∀ t, v ≠ .str t) (harr : ∀ items, v ≠ .arr items)
    (hobj : ∀ members, v ≠ .obj members) : exportTargets v = [] := by
  rw [exportTargets]
  · exact hstr
  · exact harr
  · exact hobj

theorem exportTargets_obj (members : List (String × Json)) :
    exportTargets (.obj members) = exportTargets.targetsUnder "import" members ++
      exportTargets.targetsUnder "require" members ++ exportTargets.targetsUnder "node" members ++
        exportTargets.targetsUnder "default" members := by
  rw [exportTargets, conditions]
  simp

mutual

/-- Whatever is offered is listed. -/
theorem Offers.eq {v : Json} {ts : List String} : Offers v ts → exportTargets v = ts
  | .target t => by rw [exportTargets]
  | .alternatives h => by rw [exportTargets, h.eq]
  | .conditions h₁ h₂ h₃ h₄ => by rw [exportTargets_obj, h₁.eq, h₂.eq, h₃.eq, h₄.eq]
  | .null => exportTargets_of_scalar (by simp) (by simp) (by simp)
  | .bool _ => exportTargets_of_scalar (by simp) (by simp) (by simp)
  | .int _ => exportTargets_of_scalar (by simp) (by simp) (by simp)
  | .float _ => exportTargets_of_scalar (by simp) (by simp) (by simp)

theorem OffersInTurn.eq {items : List Json} {ts : List String} :
    OffersInTurn items ts → exportTargets.itemTargets items = ts
  | .nil => by rw [exportTargets.itemTargets]
  | .cons h hrest => by rw [exportTargets.itemTargets, h.eq, hrest.eq]

theorem OffersUnder.eq {members : List (String × Json)} {name : String} {ts : List String} :
    OffersUnder members name ts → exportTargets.targetsUnder name members = ts
  | .member hmember h => by
    rw [targetsUnder_eq, hmember]
    exact h.eq
  | .missing hmember => by rw [targetsUnder_eq, hmember]

end

mutual

theorem offers_exportTargets : ∀ v : Json, Offers v (exportTargets v)
  | .str t => by
    rw [exportTargets]
    exact .target t
  | .arr items => by
    rw [exportTargets]
    exact .alternatives (offersInTurn_itemTargets items)
  | .obj members => by
    have hall (name : String) : OffersUnder members name (exportTargets.targetsUnder name members) := by
      rw [targetsUnder_eq]
      cases hmember : Json.member? members name with
      | some v => exact .member hmember (offers_memberTargets members _ (Json.mem_of_member? hmember))
      | none => exact .missing hmember
    rw [exportTargets_obj]
    exact .conditions (hall "import") (hall "require") (hall "node") (hall "default")
  | .null => by
    rw [exportTargets_of_scalar (by simp) (by simp) (by simp)]
    exact .null
  | .bool b => by
    rw [exportTargets_of_scalar (by simp) (by simp) (by simp)]
    exact .bool b
  | .int i => by
    rw [exportTargets_of_scalar (by simp) (by simp) (by simp)]
    exact .int i
  | .float f => by
    rw [exportTargets_of_scalar (by simp) (by simp) (by simp)]
    exact .float f

theorem offersInTurn_itemTargets : ∀ items : List Json, OffersInTurn items (exportTargets.itemTargets items)
  | [] => by
    rw [exportTargets.itemTargets]
    exact .nil
  | v :: rest => by
    rw [exportTargets.itemTargets]
    exact .cons (offers_exportTargets v) (offersInTurn_itemTargets rest)

theorem offers_memberTargets :
    ∀ (members : List (String × Json)), ∀ m ∈ members, Offers m.2 (exportTargets m.2)
  | [], _, hm => absurd hm List.not_mem_nil
  | (k, v) :: rest, m, hm => by
    rcases List.mem_cons.mp hm with rfl | hm
    · exact offers_exportTargets v
    · exact offers_memberTargets rest m hm

end

/-- **The targets of a value are listed in the order in which it offers them.** -/
theorem offers_iff {v : Json} {ts : List String} : Offers v ts ↔ exportTargets v = ts := by
  constructor
  · exact Offers.eq
  · rintro rfl
    exact offers_exportTargets v

/-! ## Values for subpaths -/

/-- The value of the exports that counts for a subpath.  Without one, a target, a list, or an object whose members
all name conditions counts as a whole. -/
inductive Selects : Json → Option String → Json → Prop where
  | subpath {members : List (String × Json)} {s : String} {v : Json} :
      Json.member? members ("./" ++ s) = some v → Selects (.obj members) (some s) v
  | package {members : List (String × Json)} {v : Json} :
      Json.member? members "." = some v → Selects (.obj members) none v
  | conditions {members : List (String × Json)} :
      (∀ m ∈ members, m.1.toList.head? ≠ some '.') → Selects (.obj members) none (.obj members)
  | target (t : String) : Selects (.str t) none (.str t)
  | alternatives (items : List Json) : Selects (.arr items) none (.arr items)

/-- The targets that apply to a subpath: those of the value that counts for it, or none. -/
def Applies (e : Json) (subpath : Option String) (ts : List String) : Prop :=
  (∃ v, Selects e subpath v ∧ Offers v ts) ∨ (∀ v, ¬ Selects e subpath v) ∧ ts = []

theorem applies_of_selects {e v : Json} {subpath : Option String} {ts : List String} (hv : Selects e subpath v)
    (honly : ∀ w, Selects e subpath w → w = v) : Applies e subpath ts ↔ exportTargets v = ts := by
  rw [← offers_iff]
  constructor
  · rintro (⟨w, hw, hts⟩ | ⟨hnone, -⟩)
    · exact honly w hw ▸ hts
    · exact absurd hv (hnone v)
  · intro hts
    exact .inl ⟨v, hv, hts⟩

theorem applies_of_not_selects {e : Json} {subpath : Option String} {ts : List String}
    (hnone : ∀ v, ¬ Selects e subpath v) : Applies e subpath ts ↔ [] = ts := by
  constructor
  · rintro (⟨v, hv, -⟩ | ⟨-, rfl⟩)
    · exact absurd hv (hnone v)
    · rfl
  · rintro rfl
    exact .inr ⟨hnone, rfl⟩

theorem targetsFor_of_scalar {e : Json} {subpath : Option String} (hstr : ∀ t, e ≠ .str t)
    (harr : ∀ items, e ≠ .arr items) (hobj : ∀ members, e ≠ .obj members) : targetsFor e subpath = [] := by
  cases subpath with
  | some s =>
    rw [targetsFor]
    exact hobj
  | none =>
    rw [targetsFor]
    · exact exportTargets_of_scalar hstr harr hobj
    · exact hobj

theorem applies_iff_of_scalar {e : Json} {subpath : Option String} {ts : List String} (hstr : ∀ t, e ≠ .str t)
    (harr : ∀ items, e ≠ .arr items) (hobj : ∀ members, e ≠ .obj members) :
    Applies e subpath ts ↔ targetsFor e subpath = ts := by
  rw [targetsFor_of_scalar hstr harr hobj]
  refine applies_of_not_selects fun v hv => ?_
  cases hv with
  | subpath => exact hobj _ rfl
  | package => exact hobj _ rfl
  | conditions => exact hobj _ rfl
  | target t => exact hstr t rfl
  | alternatives items => exact harr items rfl

section

variable {members : List (String × Json)} {ts : List String}

/-- For a subpath the member of its name counts, and nothing else. -/
theorem applies_obj_some_iff {s : String} :
    Applies (.obj members) (some s) ts ↔ targetsFor (.obj members) (some s) = ts := by
  rw [targetsFor]
  cases hmember : Json.member? members ("./" ++ s) with
  | some v =>
    refine applies_of_selects (.subpath hmember) fun w hw => ?_
    cases hw with
    | subpath hw => exact Option.some.inj (hw.symm.trans hmember)
  | none =>
    refine applies_of_not_selects fun v hv => ?_
    cases hv with
    | subpath hv => cases hv.symm.trans hmember

/-- For the package itself the member `.` counts, or else the whole object, if no member is a subpath. -/
theorem applies_obj_none_iff : Applies (.obj members) none ts ↔ targetsFor (.obj members) none = ts := by
  rw [targetsFor]
  cases hmember : Json.member? members "." with
  | some v =>
    refine applies_of_selects (.package hmember) fun w hw => ?_
    cases hw with
    | package hw => exact Option.some.inj (hw.symm.trans hmember)
    | conditions hall => exact absurd (by simp) (hall _ (Json.mem_of_member? hmember))
  | none =>
    by_cases hdots : ∀ m ∈ members, m.1.toList.head? ≠ some '.'
    · have hsugar : (none.isNone (α := String) && !members.any fun m => m.1.toList.head? = some '.') = true := by
        simpa using hdots
      dsimp only
      rw [if_pos hsugar]
      refine applies_of_selects (.conditions hdots) fun w hw => ?_
      cases hw with
      | package hw => cases hw.symm.trans hmember
      | conditions => rfl
    · have hplain : ¬ (none.isNone (α := String) && !members.any fun m => m.1.toList.head? = some '.') = true := by
        simpa using hdots
      dsimp only
      rw [if_neg hplain]
      refine applies_of_not_selects fun v hv => ?_
      cases hv with
      | package hv => cases hv.symm.trans hmember
      | conditions hall => exact hdots hall

end

/-- The value that counts is one at most, and the targets are those that it offers. -/
theorem applies_iff {e : Json} {subpath : Option String} {ts : List String} :
    Applies e subpath ts ↔ targetsFor e subpath = ts := by
  cases e with
  | null => exact applies_iff_of_scalar (by simp) (by simp) (by simp)
  | bool b => exact applies_iff_of_scalar (by simp) (by simp) (by simp)
  | int i => exact applies_iff_of_scalar (by simp) (by simp) (by simp)
  | float f => exact applies_iff_of_scalar (by simp) (by simp) (by simp)
  | str t =>
    cases subpath with
    | none => exact applies_of_selects (.target t) fun w hw => by cases hw; rfl
    | some s => exact applies_of_not_selects fun v hv => nomatch hv
  | arr items =>
    cases subpath with
    | none => exact applies_of_selects (.alternatives items) fun w hw => by cases hw; rfl
    | some s => exact applies_of_not_selects fun v hv => nomatch hv
  | obj members =>
    cases subpath with
    | some s => exact applies_obj_some_iff
    | none => exact applies_obj_none_iff

end Resolve

end ImportSurvey
