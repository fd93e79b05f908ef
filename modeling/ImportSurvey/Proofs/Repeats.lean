import ImportSurvey.Proofs.Adding

/-
  References that are declared again.

  A survey may come upon one declaration more than once, and a script may name one module many times in the same
  words.  Neither may change the graph.  The reason is that an edge which has taken in a reference has nothing left
  to take from it: the tags of the reference are among its own, it is dynamic if the reference is, and it names a
  configured function if the reference does (`Dependency.Covers`).

  1. **One edge.**  What an edge covers it does not notice (`Covers.absorb_eq`), and it covers what it was made from
     and what it took in, for good: references that come later only add to it.

  2. **All edges of a module.**  Behind every reference that is not left out there is an edge of its target, and each
     edge of that target covers it (`Settled`).  Merging one reference settles it and unsettles none, so after a list of
     references all of them are settled (`settled_edgesOf`), by induction on the list.

  3. **Lists.**  A reference that is settled changes nothing, so a list may be followed by any of its members again
     (`Graph.addModule_append_of_subset`), and of equal references only the first counts (`edgesOf_eraseDups`).
-/
namespace ImportSurvey

/-! ## One edge -/

namespace Dependency

/-- The edge says already all that the reference could add to it. -/
structure Covers (e : Dependency) (r : Reference) : Prop where
  types : ∀ t, r.dependencyTypes.has t = true → e.dependencyTypes.has t = true
  dynamic : r.dynamic = true → e.dynamic = true
  exotic : r.exoticRequire.isSome = true → e.exoticRequire.isSome = true

/-- **What an edge covers it does not notice.** -/
theorem Covers.absorb_eq {e : Dependency} {r : Reference} (h : e.Covers r) : e.absorb r = e := by
  have htypes : e.dependencyTypes.union r.dependencyTypes = e.dependencyTypes := by
    refine TypeSet.ext fun t => ?_
    rw [TypeSet.has_union, Bool.or_eq_left_iff_imp]
    exact h.types t
  have hdynamic : (e.dynamic || r.dynamic) = e.dynamic := Bool.or_eq_left_iff_imp.mpr h.dynamic
  have hexotic : (e.exoticRequire <|> r.exoticRequire) = e.exoticRequire := by
    cases hown : e.exoticRequire with
    | some f => rfl
    | none =>
      have hnone := mt h.exotic (by rw [hown]; decide)
      rw [Option.not_isSome_iff_eq_none.mp hnone]
      rfl
  rw [absorb, htypes, hdynamic, hexotic]

/-- An edge covers what it has taken in. -/
theorem covers_absorb (e : Dependency) (r : Reference) : (e.absorb r).Covers r where
  types := by
    intro t ht
    show (e.dependencyTypes.union r.dependencyTypes).has t = true
    rw [TypeSet.has_union, ht, Bool.or_true]
  dynamic := by
    intro hdynamic
    show (e.dynamic || r.dynamic) = true
    rw [hdynamic, Bool.or_true]
  exotic := by
    intro hexotic
    show (e.exoticRequire.orElse fun _ => r.exoticRequire).isSome = true
    rw [Option.orElse_eq_or, Option.isSome_or, hexotic, Bool.or_true]

/-- An edge goes on to cover what it covers. -/
theorem Covers.absorb {e : Dependency} {r : Reference} (h : e.Covers r) (r' : Reference) :
    (e.absorb r').Covers r where
  types := by
    intro t ht
    show (e.dependencyTypes.union r'.dependencyTypes).has t = true
    rw [TypeSet.has_union, h.types t ht, Bool.true_or]
  dynamic := by
    intro hdynamic
    show (e.dynamic || r'.dynamic) = true
    rw [h.dynamic hdynamic, Bool.true_or]
  exotic := by
    intro hexotic
    show (e.exoticRequire.orElse fun _ => r'.exoticRequire).isSome = true
    rw [Option.orElse_eq_or, Option.isSome_or, h.exotic hexotic, Bool.true_or]

/-- An edge covers what it was made from. -/
theorem covers_ofReference (owner : String) (r : Reference) (res : Resolution) : (ofReference owner r res).Covers r where
  types := by
    intro t ht
    show (r.dependencyTypes.insert _).has t = true
    rw [TypeSet.has_insert, ht, Bool.or_true]
  dynamic := id
  exotic := id

end Dependency

/-! ## The edges of a module -/

/-- There is an edge of the target, and every edge of the target covers the reference. -/
structure Settled (edges : List Dependency) (target : String) (r : Reference) : Prop where
  found : ∃ e ∈ edges, e.resolved = target
  covered : ∀ e ∈ edges, e.resolved = target → e.Covers r

section

variable {owner : String} {edges : List Dependency}

theorem any_resolved_iff (edges : List Dependency) (target : String) :
    edges.any (·.resolved = target) = true ↔ ∃ e ∈ edges, e.resolved = target := by
  rw [List.any_eq_true]
  simp only [decide_eq_true_eq]

/-- **A reference that is settled changes no edge.** -/
theorem Settled.mergeEdge_eq {r : Reference} {res : Resolution} (h : Settled edges (res.target r.moduleName) r) :
    mergeEdge owner edges r res = edges := by
  rw [mergeEdge, if_pos ((any_resolved_iff _ _).mpr h.found)]
  conv_rhs => rw [← List.map_id edges]
  refine List.map_congr_left fun e he => ?_
  by_cases ht : e.resolved = res.target r.moduleName
  · rw [if_pos ht, (h.covered e he ht).absorb_eq]
    rfl
  · rw [if_neg ht]
    rfl

/-- **Merging settles a reference.** -/
theorem settled_mergeEdge (owner : String) (edges : List Dependency) (r : Reference) (res : Resolution) :
    Settled (mergeEdge owner edges r res) (res.target r.moduleName) r := by
  rw [mergeEdge]
  split
  · rename_i hany
    obtain ⟨e, he, ht⟩ := (any_resolved_iff _ _).mp hany
    refine ⟨⟨_, List.mem_map_of_mem he, ?_⟩, fun e' he' ht' => ?_⟩
    · rw [if_pos ht]
      exact ht
    · obtain ⟨e, -, rfl⟩ := List.mem_map.mp he'
      by_cases ht : e.resolved = res.target r.moduleName
      · rw [if_pos ht]
        exact e.covers_absorb r
      · rw [if_neg ht] at ht'
        exact absurd ht' ht
  · rename_i hnone
    have hmade := Dependency.covers_ofReference owner r res
    refine ⟨⟨_, List.mem_append_right _ (List.mem_singleton_self _), rfl⟩, fun e he ht => ?_⟩
    rcases List.mem_append.mp he with he | he
    · exact absurd ((any_resolved_iff _ _).mpr ⟨e, he, ht⟩) hnone
    · rw [List.mem_singleton.mp he]
      exact hmade

/-- **Merging unsettles no other reference.** -/
theorem Settled.mergeEdge {target : String} {r : Reference} (h : Settled edges target r) (owner : String)
    (r' : Reference) (res : Resolution) : Settled (mergeEdge owner edges r' res) target r := by
  obtain ⟨⟨e, he, ht⟩, hcovered⟩ := h
  rw [ImportSurvey.mergeEdge]
  split
  · refine ⟨⟨_, List.mem_map_of_mem he, ?_⟩, fun e' he' ht' => ?_⟩
    · split
      · exact ht
      · exact ht
    · obtain ⟨e, he, rfl⟩ := List.mem_map.mp he'
      split at ht'
      · rename_i hsame
        rw [if_pos hsame]
        exact (hcovered e he ht').absorb r'
      · rename_i hother
        rw [if_neg hother]
        exact hcovered e he ht'
  · rename_i hnone
    refine ⟨⟨e, List.mem_append_left _ he, ht⟩, fun e' he' ht' => ?_⟩
    rcases List.mem_append.mp he' with he' | he'
    · exact hcovered e' he' ht'
    · -- the new edge has a target that no edge had so far
      obtain rfl := List.mem_singleton.mp he'
      exact absurd ((any_resolved_iff _ _).mpr ⟨e, he, ht.trans ht'.symm⟩) hnone

end

section

variable (resolve : Resolver) (includeOnly : Option Regex) (owner : String)

/-- One reference more is merged, or left out. -/
theorem edgesOf_concat (references : List Reference) (r : Reference) :
    edgesOf resolve includeOnly owner (references ++ [r]) =
      if isIncluded includeOnly ((resolve r.moduleName owner).target r.moduleName) then
        mergeEdge owner (edgesOf resolve includeOnly owner references) r (resolve r.moduleName owner)
      else edgesOf resolve includeOnly owner references := by
  rw [edgesOf, List.foldl_append]
  rfl

/-- **All references of a module are settled**, but for those that are left out. -/
theorem settled_edgesOf {references : List Reference} {r : Reference} (hr : r ∈ references)
    (hin : isIncluded includeOnly ((resolve r.moduleName owner).target r.moduleName) = true) :
    Settled (edgesOf resolve includeOnly owner references) ((resolve r.moduleName owner).target r.moduleName) r := by
  induction references using List.reverseRecOn with
  | nil => exact absurd hr List.not_mem_nil
  | append_singleton references r' ih =>
    rw [edgesOf_concat]
    rcases List.mem_append.mp hr with hr | hr
    · split
      · exact (ih hr).mergeEdge owner r' _
      · exact ih hr
    · obtain rfl := List.mem_singleton.mp hr
      rw [if_pos hin]
      exact settled_mergeEdge owner _ r _

/-- A reference that is declared again changes no edge. -/
theorem edgesOf_concat_of_mem {references : List Reference} {r : Reference} (hr : r ∈ references) :
    edgesOf resolve includeOnly owner (references ++ [r]) = edgesOf resolve includeOnly owner references := by
  rw [edgesOf_concat]
  by_cases hin : isIncluded includeOnly ((resolve r.moduleName owner).target r.moduleName) = true
  · rw [if_pos hin]
    exact (settled_edgesOf resolve includeOnly owner hr hin).mergeEdge_eq
  · rw [if_neg hin]

theorem edgesOf_append_of_subset {references again : List Reference} (h : again ⊆ references) :
    edgesOf resolve includeOnly owner (references ++ again) = edgesOf resolve includeOnly owner references := by
  induction again using List.reverseRecOn with
  | nil => rw [List.append_nil]
  | append_singleton again r ih =>
    obtain ⟨hagain, hr⟩ := List.append_subset.mp h
    have hmem : r ∈ references ++ again := List.mem_append_left again (hr (List.mem_singleton_self r))
    rw [← List.append_assoc, edgesOf_concat_of_mem resolve includeOnly owner hmem, ih hagain]

/-- **Of equal references only the first counts**, wherever the others stand. -/
theorem edgesOf_eraseDups (references : List Reference) :
    edgesOf resolve includeOnly owner references.eraseDups = edgesOf resolve includeOnly owner references := by
  induction references using List.reverseRecOn with
  | nil => rfl
  | append_singleton references r ih =>
    rw [eraseDups_concat]
    by_cases hr : r ∈ references
    · rw [if_pos hr, ih, edgesOf_concat_of_mem resolve includeOnly owner hr]
    · rw [if_neg hr, edgesOf_concat, edgesOf_concat, ih]

end

namespace Graph

/-- **References that are declared again change neither the edges of their module nor the graph**, which so has the same
leaves. -/
theorem addModule_append_of_subset (resolve : Resolver) (includeOnly : Option Regex) (id : String)
    {references again : List Reference} (h : again ⊆ references) :
    edgesOf resolve includeOnly id (references ++ again) = edgesOf resolve includeOnly id references ∧
      ∀ g : Graph, g.addModule resolve includeOnly id (references ++ again) =
        g.addModule resolve includeOnly id references := by
  have hedges := edgesOf_append_of_subset resolve includeOnly id h
  refine ⟨hedges, fun g => ?_⟩
  -- besides the edges, only the first reference tells something of the module
  have hhead : (references ++ again).head? = references.head? := by
    cases references with
    | nil => rw [List.subset_nil.mp h, List.append_nil]
    | cons r references => rfl
  have hmodule (m : Module) (edges : List Dependency) :
      m.withReferences (references ++ again) edges = m.withReferences references edges := by
    rw [Module.withReferences, hhead, Module.withReferences]
  rw [addModule, addModule, hedges]
  simp only [hmodule]

/-- Three references with two targets, and then the last and the second once more. -/
theorem addModule_append_of_repeated :
    let references : List Reference := [.plain "./b" .es6, .plain "c.js" .es6, .asDynamic (.plain "./b" .cjs)]
    let again : List Reference := [.asDynamic (.plain "./b" .cjs), .plain "c.js" .es6]
    again ⊆ references ∧
      edgesOf onlyByPath none "a.js" (references ++ again) = edgesOf onlyByPath none "a.js" references ∧
      ∀ g : Graph, g.addModule onlyByPath none "a.js" (references ++ again) =
        g.addModule onlyByPath none "a.js" references :=
  ⟨by decide, addModule_append_of_subset onlyByPath none "a.js" (by decide)⟩

end Graph

end ImportSurvey
