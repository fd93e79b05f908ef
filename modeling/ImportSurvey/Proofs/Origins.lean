import ImportSurvey.Script.Extract

/-
  Where references come from.

  Each system has a rule of its own for what it sees in a node, and each of these rules makes a reference from the
  name alone, in one of a few ways (`Origin`).  Which tags and flags a reference has, and which system it belongs
  to, can be read off the way it was made, with no look at the nodes.
-/
namespace ImportSurvey.Script

/-- The ways in which a system makes a reference of a name. -/
inductive Origin (exotic : List String) : ModuleSystem → Reference → Prop
  | imported (name : String) : Origin exotic .es6 (.plain name .es6)
  | reExported (name : String) : Origin exotic .es6 (reExport name)
  | loaded (name : String) : Origin exotic .es6 (Reference.plain name .es6).asDynamic
  | required (name : String) : Origin exotic .cjs (.plain name .cjs)
  | listed (name : String) : Origin exotic .amd (.plain name .amd)
  | typeImported (name : String) : Origin exotic .tsType (typeOnly name)
  | typeReExported (name : String) : Origin exotic .tsType ((typeOnly name).tagged .reExport)
  | configured {f : String} (hf : f ∈ exotic) (name : String) :
      Origin exotic .exoticRequire ((Reference.plain name .exoticRequire).viaExotic f)

variable {exotic : List String} {system : ModuleSystem} {make : String → Reference} {x : Sighting}

theorem origin_of_mem_sight {l : Literal} (hx : x ∈ sight l make)
    (h : ∀ name, Origin exotic system (make name)) : Origin exotic system x.reference := by
  rw [sight] at hx
  split at hx
  · cases hx
  · rw [List.mem_singleton.mp hx]
    exact h _

theorem origin_of_mem_sight? {l : Option Literal} (hx : x ∈ sight? l make)
    (h : ∀ name, Origin exotic system (make name)) : Origin exotic system x.reference := by
  cases l with
  | none => cases hx
  | some l => exact origin_of_mem_sight hx h

theorem origin_of_mem_listedSightings {arguments : List Node} (hx : x ∈ listedSightings arguments) :
    Origin exotic .amd x.reference := by
  obtain ⟨l, -, hx⟩ := List.mem_flatMap.mp hx
  exact origin_of_mem_sight hx .listed

/-- **Whatever a system sees in a node, the reference is made in one of its ways.** -/
theorem origin_of_mem_sightings {v : Node.Visit} (hx : x ∈ sightings exotic system v) :
    Origin exotic system x.reference := by
  obtain ⟨depth, n⟩ := v
  cases system with
  | es6 =>
    change x ∈ es6Sightings n at hx
    unfold es6Sightings at hx
    split at hx
    · exact origin_of_mem_sight hx .imported
    · exact origin_of_mem_sight hx .reExported
    · exact origin_of_mem_sight? hx .reExported
    · exact origin_of_mem_sight? hx .loaded
    · cases hx
  | cjs =>
    change x ∈ cjsSightings n at hx
    unfold cjsSightings at hx
    split at hx
    · exact origin_of_mem_sight? hx .required
    · exact origin_of_mem_sight? hx .required
    · cases hx
  | amd =>
    change x ∈ amdSightings depth n at hx
    unfold amdSightings at hx
    split at hx
    · exact origin_of_mem_listedSightings hx
    · rcases List.mem_append.mp hx with hx | hx
      · exact origin_of_mem_listedSightings hx
      · split at hx
        · cases hx
        · exact origin_of_mem_sight? hx .listed
    · cases hx
  | tsType =>
    change x ∈ typeSightings n at hx
    unfold typeSightings at hx
    split at hx
    · exact origin_of_mem_sight hx .typeImported
    · exact origin_of_mem_sight hx .typeReExported
    · exact origin_of_mem_sight? hx .typeReExported
    · exact origin_of_mem_sight? hx .typeImported
    · cases hx
  | exoticRequire =>
    change x ∈ exoticSightings exotic n at hx
    unfold exoticSightings at hx
    split at hx
    · split at hx
      · split at hx
        · rename_i hf
          exact origin_of_mem_sight? hx (.configured (List.contains_iff_mem.mp hf))
        · cases hx
      · cases hx
    · cases hx

theorem origin_of_mem_allSightings {tree : Node} (hx : x ∈ allSightings exotic system tree) :
    Origin exotic system x.reference := by
  obtain ⟨v, -, hx⟩ := List.mem_flatMap.mp hx
  exact origin_of_mem_sightings hx

/-- A system reports its own references only. -/
theorem Origin.moduleSystem_eq {r : Reference} (h : Origin exotic system r) : r.moduleSystem = system := by
  cases h <;> rfl

end ImportSurvey.Script
