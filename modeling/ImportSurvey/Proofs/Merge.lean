import Mathlib.Data.List.Forall2
import Mathlib.Data.List.Induction
import ImportSurvey.Graph.Build
import ImportSurvey.Proofs.Distinct

/-
  How the references of a module become edges.

  The edges of a module are kept apart by one text, which is the id of the target, or the reference itself
  where nothing was found.  `Merged` says what an edge tells of the references it stands for, and the crux
  is that every edge stands for all references of one text, in the order in which the texts first appear
  (`edgesOf_mergedByText`).

  Where a reference leads is more than that text: it leads to a module or it leads nowhere (`Outcome`).
  The edges stand for the outcomes exactly if no text is both the id of a target and a reference that led
  nowhere (`MergedByText.byOutcome_iff`).  Otherwise the reference that comes second is taken for one more to
  the place of the first.
-/
namespace ImportSurvey

/-- Where a reference leads: to a module, or nowhere. -/
inductive Outcome where
  | resolved (id : String)
  | unresolved (reference : String)
deriving DecidableEq, Repr

namespace Outcome

/-- The text that the edge is kept under. -/
def text : Outcome → String
  | resolved id => id
  | unresolved reference => reference

/-- The edge says that it leads there. -/
def IsOf : Outcome → Dependency → Prop
  | resolved id, e => e.to = some id ∧ e.couldNotResolve = false ∧ e.resolved = id
  | unresolved reference, e => e.to = none ∧ e.couldNotResolve = true ∧ e.resolved = reference

theorem IsOf.resolved_eq {o : Outcome} {e : Dependency} (h : o.IsOf e) : e.resolved = o.text := by
  cases o with
  | resolved id => exact h.2.2
  | unresolved reference => exact h.2.2

end Outcome

/-- What a resolver says about a reference, as an outcome. -/
def Resolution.outcome (res : Resolution) (reference : String) : Outcome :=
  match res.resolved with
  | some id => if res.couldNotResolve then .unresolved reference else .resolved id
  | none => .unresolved reference

theorem Resolution.target_eq (res : Resolution) (reference : String) :
    res.target reference = (res.outcome reference).text := by
  rw [target, outcome]
  cases res.resolved with
  | none => rfl
  | some id =>
    show (if res.couldNotResolve then reference else id) =
      (if res.couldNotResolve then Outcome.unresolved reference else Outcome.resolved id).text
    split
    · rfl
    · rfl

/-- Where a reference of the module `owner` leads. -/
def Resolver.outcome (resolve : Resolver) (owner : String) (r : Reference) : Outcome :=
  (resolve r.moduleName owner).outcome r.moduleName

theorem Resolver.target_eq (resolve : Resolver) (owner : String) (r : Reference) :
    (resolve r.moduleName owner).target r.moduleName = (resolve.outcome owner r).text :=
  Resolution.target_eq ..

/-- The references that the survey does not leave out. -/
def included (resolve : Resolver) (includeOnly : Option Regex) (owner : String) (references : List Reference) :
    List Reference :=
  references.filter fun r => isIncluded includeOnly (resolve.outcome owner r).text

/-- The edge of `owner` for a group of references of which the first has the outcome `o`: it tells what the
first said, except that tags add up, that one dynamic reference makes it dynamic, and that the first
configured function stays. -/
structure Merged (resolve : Resolver) (owner : String) (o : Outcome) (group : List Reference) (e : Dependency) :
    Prop where
  outcome : o.IsOf e
  owner_eq : e.from = owner
  first : ∃ r, group.head? = some r ∧ e.moduleName = r.moduleName ∧ e.moduleSystem = r.moduleSystem ∧
    e.coreModule = (resolve r.moduleName owner).coreModule ∧
    ∀ t, e.dependencyTypes.has t ↔
      (∃ r' ∈ group, r'.dependencyTypes.has t) ∨ t = (resolve r.moduleName owner).tag o.text
  dynamic : e.dynamic = group.any (·.dynamic)
  exotic : e.exoticRequire = group.findSome? (·.exoticRequire)
  bare : e.circular = false ∧ e.valid = true ∧ e.rules = []

/-! ## One reference more -/

theorem isOf_ofReference (owner : String) (r : Reference) (res : Resolution) :
    (res.outcome r.moduleName).IsOf (.ofReference owner r res) := by
  rw [Resolution.outcome, Dependency.ofReference, Resolution.leadsNowhere, Resolution.target]
  cases res.resolved with
  | none => exact ⟨by simp, by simp, rfl⟩
  | some id =>
    cases res.couldNotResolve with
    | true => exact ⟨rfl, rfl, rfl⟩
    | false => exact ⟨rfl, rfl, rfl⟩

theorem merged_ofReference (resolve : Resolver) (owner : String) (r : Reference) :
    Merged resolve owner (resolve.outcome owner r) [r] (.ofReference owner r (resolve r.moduleName owner)) where
  outcome := isOf_ofReference owner r _
  owner_eq := rfl
  first := by
    refine ⟨r, rfl, rfl, rfl, rfl, fun t => ?_⟩
    show ((r.dependencyTypes.insert _).has t) = true ↔ _
    rw [TypeSet.has_insert, Resolution.target_eq, Bool.or_eq_true, decide_eq_true_eq, or_comm]
    simp [Resolver.outcome]
  dynamic := by simp [Dependency.ofReference]
  exotic := by
    cases h : r.exoticRequire with
    | none => simp [Dependency.ofReference, h]
    | some f => simp [Dependency.ofReference, h]
  bare := ⟨rfl, rfl, rfl⟩

theorem Merged.absorb {resolve : Resolver} {owner : String} {o : Outcome} {group : List Reference}
    {e : Dependency} (h : Merged resolve owner o group e) (r : Reference) :
    Merged resolve owner o (group ++ [r]) (e.absorb r) where
  outcome := by
    have := h.outcome
    cases o with
    | resolved id => exact this
    | unresolved reference => exact this
  owner_eq := h.owner_eq
  first := by
    obtain ⟨f, hf, hname, hsystem, hcore, htypes⟩ := h.first
    refine ⟨f, by rw [List.head?_append, hf, Option.some_or], hname, hsystem, hcore, fun t => ?_⟩
    show ((e.dependencyTypes.union r.dependencyTypes).has t) = true ↔ _
    rw [TypeSet.has_union, Bool.or_eq_true, htypes t]
    constructor
    · rintro ((⟨r', hr', ht⟩ | ht) | ht)
      · exact Or.inl ⟨r', List.mem_append_left _ hr', ht⟩
      · exact Or.inr ht
      · exact Or.inl ⟨r, List.mem_append_right _ (List.mem_singleton.mpr rfl), ht⟩
    · rintro (⟨r', hr', ht⟩ | ht)
      · rcases List.mem_append.mp hr' with hr' | hr'
        · exact Or.inl (Or.inl ⟨r', hr', ht⟩)
        · exact Or.inr (List.mem_singleton.mp hr' ▸ ht)
      · exact Or.inl (Or.inr ht)
  dynamic := by
    show (e.dynamic || r.dynamic) = _
    rw [h.dynamic, List.any_append, List.any_cons, List.any_nil, Bool.or_false]
  exotic := by
    show (e.exoticRequire.orElse fun _ => r.exoticRequire) = _
    rw [Option.orElse_eq_or, h.exotic, List.findSome?_append, List.findSome?_singleton]
  bare := h.bare

/-! ## The edges by their texts -/

/-- The references that are kept under one text. -/
def Resolver.withText (resolve : Resolver) (owner : String) (references : List Reference) (t : String) :
    List Reference :=
  references.filter fun r => (resolve.outcome owner r).text = t

/-- There is one edge for each text, in the order in which the texts first appear, and it stands for all
references of this text. -/
def MergedByText (resolve : Resolver) (owner : String) (references : List Reference) (edges : List Dependency) :
    Prop :=
  List.Forall₂ (fun t e => ∃ r, (resolve.withText owner references t).head? = some r ∧
      Merged resolve owner (resolve.outcome owner r) (resolve.withText owner references t) e)
    (references.map fun r => (resolve.outcome owner r).text).eraseDups edges

theorem MergedByText.map_resolved {resolve : Resolver} {owner : String} {references : List Reference}
    {edges : List Dependency} (h : MergedByText resolve owner references edges) :
    edges.map (·.resolved) = (references.map fun r => (resolve.outcome owner r).text).eraseDups := by
  rw [eq_comm, ← List.forall₂_eq_eq_eq, List.forall₂_map_right_iff]
  refine h.imp fun t e he => ?_
  obtain ⟨r, hr, hm⟩ := he
  have ht := (List.mem_filter.mp (List.mem_of_head? hr)).2
  rw [hm.outcome.resolved_eq]
  exact (of_decide_eq_true ht).symm

theorem withText_concat (resolve : Resolver) (owner : String) (references : List Reference) (r : Reference)
    (t : String) : resolve.withText owner (references ++ [r]) t = resolve.withText owner references t ++
      if (resolve.outcome owner r).text = t then [r] else [] := by
  rw [Resolver.withText, List.filter_append]
  congr 1
  by_cases ht : (resolve.outcome owner r).text = t
  · rw [if_pos ht, List.filter_cons_of_pos (by rw [decide_eq_true_eq]; exact ht), List.filter_nil]
  · rw [if_neg ht, List.filter_cons_of_neg (by rw [decide_eq_true_eq]; exact ht), List.filter_nil]

/-- **One reference more keeps the edges in step**: it joins the edge of its text, or starts one. -/
theorem MergedByText.concat {resolve : Resolver} {owner : String} {references : List Reference}
    {edges : List Dependency} (h : MergedByText resolve owner references edges) (r : Reference) :
    MergedByText resolve owner (references ++ [r])
      (mergeEdge owner edges r (resolve r.moduleName owner)) := by
  have hany : (edges.any (·.resolved = (resolve.outcome owner r).text)) = true ↔
      (resolve.outcome owner r).text ∈ references.map fun r => (resolve.outcome owner r).text := by
    rw [← List.mem_eraseDups, ← h.map_resolved, List.any_eq_true, List.mem_map]
    simp only [decide_eq_true_eq]
  rw [MergedByText, List.map_append, List.map_singleton, eraseDups_concat, mergeEdge, Resolver.target_eq]
  by_cases hmem : (resolve.outcome owner r).text ∈ references.map fun r => (resolve.outcome owner r).text
  · rw [if_pos hmem, if_pos (hany.mpr hmem), List.forall₂_map_right_iff]
    refine h.imp fun t e he => ?_
    obtain ⟨f, hf, hm⟩ := he
    have ht : (resolve.outcome owner f).text = t :=
      of_decide_eq_true (List.mem_filter.mp (List.mem_of_head? hf)).2
    rw [withText_concat, List.head?_append, hf, Option.some_or, hm.outcome.resolved_eq, ht]
    refine ⟨f, rfl, ?_⟩
    by_cases hr : (resolve.outcome owner r).text = t
    · rw [if_pos hr, if_pos hr.symm]
      exact hm.absorb r
    · rw [if_neg hr, if_neg (Ne.symm hr), List.append_nil]
      exact hm
  · rw [if_neg hmem, if_neg (fun ha => hmem (hany.mp ha))]
    refine List.rel_append (h.imp fun t e he => ?_) (.cons ?_ .nil)
    · -- the text is another one, since this one has no reference yet
      obtain ⟨f, hf, hm⟩ := he
      have hr : (resolve.outcome owner r).text ≠ t := by
        intro hr
        obtain ⟨hin, ht⟩ := List.mem_filter.mp (List.mem_of_head? hf)
        exact hmem (List.mem_map.mpr ⟨f, hin, (of_decide_eq_true ht).trans hr.symm⟩)
      rw [withText_concat, if_neg hr, List.append_nil]
      exact ⟨f, hf, hm⟩
    · have hnone : resolve.withText owner references (resolve.outcome owner r).text = [] := by
        rw [Resolver.withText, List.filter_eq_nil_iff]
        intro r' hr' ht
        exact hmem (List.mem_map.mpr ⟨r', hr', of_decide_eq_true ht⟩)
      rw [withText_concat, hnone, if_pos rfl, List.nil_append]
      exact ⟨r, rfl, merged_ofReference resolve owner r⟩

/-- **The edges of a module stand for its references by their texts.** -/
theorem edgesOf_mergedByText (resolve : Resolver) (includeOnly : Option Regex) (owner : String)
    (references : List Reference) :
    MergedByText resolve owner (included resolve includeOnly owner references)
      (edgesOf resolve includeOnly owner references) := by
  induction references using List.reverseRecOn with
  | nil => exact .nil
  | append_singleton references r ih =>
    have hsplit : included resolve includeOnly owner (references ++ [r]) =
        included resolve includeOnly owner references ++ included resolve includeOnly owner [r] :=
      List.filter_append ..
    rw [edgesOf, List.foldl_append, hsplit]
    show MergedByText resolve owner _
      (if isIncluded includeOnly ((resolve r.moduleName owner).target r.moduleName) = true then
        mergeEdge owner (edgesOf resolve includeOnly owner references) r (resolve r.moduleName owner)
      else edgesOf resolve includeOnly owner references)
    rw [Resolver.target_eq]
    by_cases hin : isIncluded includeOnly (resolve.outcome owner r).text = true
    · have hone : included resolve includeOnly owner [r] = [r] := List.filter_cons_of_pos hin
      rw [hone, if_pos hin]
      exact ih.concat r
    · have hnone : included resolve includeOnly owner [r] = [] := List.filter_cons_of_neg hin
      rw [hnone, List.append_nil, if_neg hin]
      exact ih

/-- Every edge of a module is the edge of some reference that is not left out. -/
theorem mem_edgesOf {resolve : Resolver} {includeOnly : Option Regex} {owner : String}
    {references : List Reference} {e : Dependency} (he : e ∈ edgesOf resolve includeOnly owner references) :
    ∃ r ∈ included resolve includeOnly owner references, ∃ group,
      Merged resolve owner (resolve.outcome owner r) group e := by
  obtain ⟨t, -, r, hr, hm⟩ := exists_of_mem_right (edgesOf_mergedByText resolve includeOnly owner references) he
  exact ⟨r, (List.mem_filter.mp (List.mem_of_head? hr)).1, _, hm⟩

theorem nodup_resolved_edgesOf (resolve : Resolver) (includeOnly : Option Regex) (owner : String)
    (references : List Reference) :
    ((edgesOf resolve includeOnly owner references).map (·.resolved)).Nodup := by
  rw [(edgesOf_mergedByText resolve includeOnly owner references).map_resolved]
  exact nodup_eraseDups _

/-! ## The edges by their outcomes -/

/-- The references that have one outcome. -/
def Resolver.withOutcome (resolve : Resolver) (owner : String) (references : List Reference) (o : Outcome) :
    List Reference :=
  references.filter fun r => resolve.outcome owner r = o

/-- There is one edge for each outcome, in the order in which the outcomes first appear, and it stands for
all references of this outcome. -/
def MergedByOutcome (resolve : Resolver) (owner : String) (references : List Reference)
    (edges : List Dependency) : Prop :=
  List.Forall₂ (fun o e => Merged resolve owner o (resolve.withOutcome owner references o) e)
    (references.map (resolve.outcome owner)).eraseDups edges

/-- No text is both the id of a target and a reference that led nowhere. -/
def NoClash (resolve : Resolver) (owner : String) (references : List Reference) : Prop :=
  ∀ r ∈ references, ∀ r' ∈ references,
    (resolve.outcome owner r).text = (resolve.outcome owner r').text →
      resolve.outcome owner r = resolve.outcome owner r'

instance (resolve : Resolver) (owner : String) (references : List Reference) :
    Decidable (NoClash resolve owner references) :=
  inferInstanceAs (Decidable (∀ r ∈ references, ∀ r' ∈ references, _ → _))

theorem MergedByOutcome.map_resolved {resolve : Resolver} {owner : String} {references : List Reference}
    {edges : List Dependency} (h : MergedByOutcome resolve owner references edges) :
    edges.map (·.resolved) = (references.map (resolve.outcome owner)).eraseDups.map Outcome.text := by
  rw [eq_comm, ← List.forall₂_eq_eq_eq, List.forall₂_map_right_iff, List.forall₂_map_left_iff]
  exact h.imp fun o e he => he.outcome.resolved_eq.symm

/-- **Edges by text are edges by outcome iff no two outcomes share a text.** -/
theorem MergedByText.byOutcome_iff {resolve : Resolver} {owner : String} {references : List Reference}
    {edges : List Dependency} (h : MergedByText resolve owner references edges) :
    MergedByOutcome resolve owner references edges ↔ NoClash resolve owner references := by
  constructor
  · intro ho r hr r' hr' htext
    have hnd : ((references.map (resolve.outcome owner)).eraseDups.map Outcome.text).Nodup := by
      rw [← ho.map_resolved, h.map_resolved]
      exact nodup_eraseDups _
    exact List.inj_on_of_nodup_map hnd (List.mem_eraseDups.mpr (List.mem_map_of_mem hr))
      (List.mem_eraseDups.mpr (List.mem_map_of_mem hr')) htext
  · intro hclash
    have hinj : ∀ o ∈ references.map (resolve.outcome owner), ∀ o' ∈ references.map (resolve.outcome owner),
        o.text = o'.text → o = o' := by
      intro o ho o' ho' htext
      obtain ⟨r, hr, rfl⟩ := List.mem_map.mp ho
      obtain ⟨r', hr', rfl⟩ := List.mem_map.mp ho'
      exact hclash r hr r' hr' htext
    have htexts : (references.map fun r => (resolve.outcome owner r).text).eraseDups =
        (references.map (resolve.outcome owner)).eraseDups.map Outcome.text := by
      rw [← eraseDups_map_of_inj _ _ hinj, List.map_map]
      rfl
    rw [MergedByText, htexts, List.forall₂_map_left_iff] at h
    have hmem : ∀ o ∈ (references.map (resolve.outcome owner)).eraseDups,
        o ∈ references.map (resolve.outcome owner) := fun o ho => List.mem_eraseDups.mp ho
    refine ((List.forall₂_and_left _ _).mpr ⟨hmem, h⟩).imp fun o e he => ?_
    obtain ⟨ho, f, hf, hm⟩ := he
    have hgroup : resolve.withText owner references o.text = resolve.withOutcome owner references o := by
      apply List.filter_congr
      intro r hr
      rw [decide_eq_decide]
      exact ⟨hinj _ (List.mem_map_of_mem hr) o ho, fun h => h ▸ rfl⟩
    rw [hgroup] at hf hm
    have hfo : resolve.outcome owner f = o :=
      of_decide_eq_true (List.mem_filter.mp (List.mem_of_head? hf)).2
    rw [hfo] at hm
    exact hm

end ImportSurvey
