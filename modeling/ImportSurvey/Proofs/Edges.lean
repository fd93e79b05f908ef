import ImportSurvey.Proofs.Integrity

/-
  Which edges a built graph has, and which reference each of them was made by.

  A module gets its edges all at once, when its references come, and keeps them: later additions change no
  module that is followed.  So the edges of a built graph are the edges of the files it was built from, file by
  file (`exists_file_of_edge`), and no file loses its edges as long as no two files have one id
  (`exists_module_of_file`).  An edge in turn was made by the first reference that is kept under its text
  (`exists_maker`), and what only that reference can tell, such as where it led, the edge tells of it.
-/
namespace ImportSurvey

/-! ## The maker of an edge -/

/-- The reference is the first of those that the survey does not leave out to be kept under its text, so an
edge was made for it. -/
def Makes (resolve : Resolver) (includeOnly : Option Regex) (owner : String) (references : List Reference)
    (r : Reference) : Prop :=
  (resolve.withText owner (included resolve includeOnly owner references) (resolve.outcome owner r).text).head? =
    some r

section

variable {resolve : Resolver} {includeOnly : Option Regex} {owner : String} {references : List Reference}

/-- A maker is one of the references, and it is not left out. -/
theorem Makes.mem_included {r : Reference} (h : Makes resolve includeOnly owner references r) :
    r ∈ included resolve includeOnly owner references :=
  (List.mem_filter.mp (List.mem_of_head? h)).1

/-- Where nothing is left out, the first reference makes an edge. -/
theorem makes_first (resolve : Resolver) (owner : String) (r : Reference) (rest : List Reference) :
    Makes resolve none owner (r :: rest) r := by
  have hincluded : included resolve none owner (r :: rest) = r :: included resolve none owner rest :=
    List.filter_cons_of_pos rfl
  rw [Makes, hincluded, Resolver.withText, List.filter_cons, if_pos (decide_eq_true rfl), List.head?_cons]

/-- **Every edge of a module was made by a reference**, and stands for all that are kept under the same text. -/
theorem exists_maker {e : Dependency} (he : e ∈ edgesOf resolve includeOnly owner references) :
    ∃ r, Makes resolve includeOnly owner references r ∧
      Merged resolve owner (resolve.outcome owner r)
        (resolve.withText owner (included resolve includeOnly owner references) (resolve.outcome owner r).text)
        e := by
  obtain ⟨t, -, r, hr, hm⟩ := exists_of_mem_right (edgesOf_mergedByText resolve includeOnly owner references) he
  obtain rfl : (resolve.outcome owner r).text = t :=
    of_decide_eq_true (List.mem_filter.mp (List.mem_of_head? hr)).2
  exact ⟨r, hr, hm⟩

/-- A reference that is not left out is kept under its text by some edge. -/
theorem exists_edge_of_included {r : Reference} (hr : r ∈ included resolve includeOnly owner references) :
    ∃ e ∈ edgesOf resolve includeOnly owner references, e.resolved = (resolve.outcome owner r).text := by
  have htexts := (edgesOf_mergedByText resolve includeOnly owner references).map_resolved
  have hmem : (resolve.outcome owner r).text ∈
      (edgesOf resolve includeOnly owner references).map (·.resolved) := by
    rw [htexts, List.mem_eraseDups]
    exact List.mem_map_of_mem hr
  exact List.mem_map.mp hmem

/-- The edge of a text tells of its maker what only one reference can tell. -/
theorem Merged.of_maker {r : Reference} {group : List Reference} {e : Dependency} {o : Outcome}
    (h : Merged resolve owner o group e) (hr : group.head? = some r) :
    e.coreModule = (resolve r.moduleName owner).coreModule ∧
      ∀ t, e.dependencyTypes.has t ↔
        (∃ r' ∈ group, r'.dependencyTypes.has t) ∨ t = (resolve r.moduleName owner).tag o.text := by
  obtain ⟨r', hr', -, -, hcore, htypes⟩ := h.first
  obtain rfl := Option.some.inj (hr'.symm.trans hr)
  exact ⟨hcore, htypes⟩

/-- What a resolver says leads nowhere has an outcome that leads nowhere, and the edge says so. -/
theorem Outcome.IsOf.couldNotResolve_eq {r : Reference} {e : Dependency}
    (h : (resolve.outcome owner r).IsOf e) :
    e.couldNotResolve = (resolve r.moduleName owner).leadsNowhere := by
  revert h
  rw [Resolver.outcome, Resolution.outcome, Resolution.leadsNowhere]
  cases (resolve r.moduleName owner).resolved with
  | none =>
    intro h
    rw [h.2.1, Option.isNone_none, Bool.or_true]
  | some id =>
    cases (resolve r.moduleName owner).couldNotResolve with
    | true => exact fun h => h.2.1
    | false => exact fun h => h.2.1

end

namespace Graph

/-! ## The edges of a file -/

section

variable (resolve : Resolver) (includeOnly : Option Regex)

theorem addAll_concat (files : List (String × List Reference)) (f : String × List Reference) :
    addAll resolve includeOnly (files ++ [f]) =
      (addAll resolve includeOnly files).addModule resolve includeOnly f.1 f.2 := by
  rw [addAll, List.foldl_append]
  rfl

/-- A module has no edges, or those of a file of its id. -/
theorem dependencies_addAll (files : List (String × List Reference)) {m : Module}
    (hm : m ∈ (addAll resolve includeOnly files).modules) :
    m.dependencies = [] ∨
      ∃ f ∈ files, f.1 = m.id ∧ m.dependencies = edgesOf resolve includeOnly f.1 f.2 := by
  induction files using List.reverseRecOn generalizing m with
  | nil => exact absurd hm List.not_mem_nil
  | append_singleton files f ih =>
    have hold : ∀ {m : Module}, m ∈ (addAll resolve includeOnly files).modules → m.dependencies = [] ∨
        ∃ f' ∈ files ++ [f], f'.1 = m.id ∧ m.dependencies = edgesOf resolve includeOnly f'.1 f'.2 := by
      intro m hm
      refine (ih hm).imp_right fun ⟨f', hf', h⟩ => ⟨f', List.mem_append_left _ hf', h⟩
    rw [addAll_concat] at hm
    -- a file whose id is followed already is left out
    by_cases hf : ((addAll resolve includeOnly files).get? f.1).any (·.followed) = true
    · rw [addModule, if_pos hf] at hm
      exact hold hm
    · have hindexed := (building_addAll resolve includeOnly files).indexed
      have hadded := added_addModule resolve includeOnly hindexed (Bool.eq_false_iff.mpr hf) f.2
      by_cases hid : m.id = f.1
      · have hlast : f ∈ files ++ [f] := List.mem_append_right _ (List.mem_singleton.mpr rfl)
        exact Or.inr ⟨f, hlast, hid.symm, (hadded.owner m hm hid).2.2.2⟩
      · rcases hadded.others m hm hid with hm | ⟨-, _, -, hc, -⟩
        · exact hold hm
        · left
          rw [hc]
          rfl

/-- **Every edge of a built graph is an edge of the file of its module.** -/
theorem exists_file_of_edge (files : List (String × List Reference)) {m : Module} {e : Dependency}
    (hm : m ∈ (build resolve includeOnly files).modules) (he : e ∈ m.dependencies) :
    ∃ f ∈ files, f.1 = m.id ∧ e ∈ edgesOf resolve includeOnly f.1 f.2 := by
  rcases dependencies_addAll resolve includeOnly files ((mem_sortById _ m).mp hm) with hnone | ⟨f, hf, hid, hdeps⟩
  · rw [hnone] at he
    exact absurd he List.not_mem_nil
  · exact ⟨f, hf, hid, hdeps ▸ he⟩

/-- **Every file has its edges in the built graph**, where no two files have one id. -/
theorem exists_module_of_file {files : List (String × List Reference)} (hids : (files.map (·.1)).Nodup)
    {f : String × List Reference} (hf : f ∈ files) :
    ∃ m ∈ (build resolve includeOnly files).modules, m.id = f.1 ∧
      m.dependencies = edgesOf resolve includeOnly f.1 f.2 := by
  suffices h : ∃ m ∈ (addAll resolve includeOnly files).modules, m.id = f.1 ∧
      m.dependencies = edgesOf resolve includeOnly f.1 f.2 by
    obtain ⟨m, hm, h⟩ := h
    exact ⟨m, (mem_sortById _ m).mpr hm, h⟩
  induction files using List.reverseRecOn with
  | nil => exact absurd hf List.not_mem_nil
  | append_singleton files g ih =>
    rw [List.map_append, List.nodup_append] at hids
    obtain ⟨hnodup, -, hfresh⟩ := hids
    have hbuilding := building_addAll resolve includeOnly files
    have hnot : ∀ f' ∈ files, f'.1 ≠ g.1 := fun f' hf' =>
      hfresh f'.1 (List.mem_map_of_mem hf') g.1 (List.mem_singleton.mpr rfl)
    -- whatever is followed so far is an earlier file, and none of them has this id
    have hnew : ((addAll resolve includeOnly files).get? g.1).any (·.followed) = false := by
      rw [Bool.eq_false_iff]
      intro hany
      obtain ⟨m, hget, hfollowed⟩ := (Option.any_eq_true _ _).mp hany
      obtain ⟨hm, hid⟩ := hbuilding.indexed.get?_eq_some.mp hget
      obtain ⟨f', hf', hid'⟩ := List.mem_map.mp ((hbuilding.followed m hm).mp hfollowed)
      exact hnot f' hf' (hid'.trans hid)
    have hadded := added_addModule resolve includeOnly hbuilding.indexed hnew g.2
    rw [addAll_concat]
    rcases List.mem_append.mp hf with hf | hf
    · obtain ⟨m, hm, hid, hdeps⟩ := ih hnodup hf
      exact ⟨m, hadded.kept m hm (hid ▸ hnot f hf), hid, hdeps⟩
    · obtain rfl := List.mem_singleton.mp hf
      exact hadded.exists_owner

end

end Graph

end ImportSurvey
