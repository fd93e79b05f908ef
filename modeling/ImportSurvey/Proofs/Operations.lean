import ImportSurvey.Rules.Validate
import ImportSurvey.Proofs.Annotations
import ImportSurvey.Proofs.Integrity

/-
  Whatever is done to a graph, its row of modules and its index stay in step.

  What is found out is written back by position, so a position and an id have to mean the same module at all times,
  while modules are added, changed one by one, sorted and passed over.

  1. **The invariant** is `Indexed`, and every operation keeps it (`Indexed.apply`).

  2. **The crux** is what an operation makes of a module, wherever it stands (`Indexed.change_mem_apply`).  As the ids
     differ, this tells what is found under its id afterwards: what is appended and noted goes to the module that it is
     meant for, and the order of the row does not come into it.

  3. **A history** then tells for every id which module is found (`get?_foldl`): none if no module of that id was
     added, and else the first one that was, with all that was done to it since.  But for what analysis and validation
     note, this is the module as it was added with the edges that were appended to it (`unmarked_changed`).
-/
namespace ImportSurvey

/-! ## Modules without what is found out about them -/

/-- The edge without anything that analysis and validation write. -/
def Dependency.unmarked (d : Dependency) : Dependency := { d with circular := false, valid := true, rules := [] }

namespace Module

/-- The module without anything that analysis and validation write. -/
def unmarked (m : Module) : Module :=
  { m with
    orphan := false
    reachable := []
    reaches := []
    valid := true
    rules := []
    dependencies := m.dependencies.map Dependency.unmarked }

/-- The module with more edges behind its own. -/
def withEdges (m : Module) (edges : List Dependency) : Module :=
  { m with dependencies := m.dependencies ++ edges }

/-- What is written on edges is not seen on the module either. -/
theorem unmarked_map (m : Module) (f : Dependency → Dependency) (hf : ∀ d, (f d).unmarked = d.unmarked) :
    ({ m with dependencies := m.dependencies.map f } : Module).unmarked = m.unmarked := by
  have hedges : (m.dependencies.map f).map Dependency.unmarked = m.dependencies.map Dependency.unmarked := by
    rw [List.map_map]
    exact List.map_congr_left fun d _ => hf d
  rw [unmarked, hedges]
  rfl

theorem unmarked_clearDerived (m : Module) : m.clearDerived.unmarked = m.unmarked :=
  m.unmarked_map (fun d => { d with circular := false }) fun _ => rfl

theorem unmarked_withEdges (m : Module) (edges : List Dependency) :
    (m.withEdges edges).unmarked = m.unmarked.withEdges (edges.map Dependency.unmarked) := by
  have hedges : (m.withEdges edges).dependencies.map Dependency.unmarked =
      m.dependencies.map Dependency.unmarked ++ edges.map Dependency.unmarked := List.map_append
  rw [unmarked, hedges]
  rfl

theorem withEdges_withEdges (m : Module) (edges edges' : List Dependency) :
    (m.withEdges edges).withEdges edges' = m.withEdges (edges ++ edges') := by
  rw [withEdges, withEdges, withEdges, List.append_assoc]

end Module

namespace Graph

/-! ## Operations -/

/-- What can be done to a graph. -/
inductive Operation where
  | add (m : Module)
  | edge (id : String) (d : Dependency)
  | clear (id : String)
  | sort
  | analysis (s : RuleSet)
  | validation (s : RuleSet) (validate : Bool)

/-- The edge that an operation appends to the module of an id. -/
def Operation.edgeTo? (id : String) : Operation → Option Dependency
  | .edge id' d => if id' = id then some d else none
  | _ => none

/-- The edges that operations append to the module of an id. -/
def edgesTo (id : String) (operations : List Operation) : List Dependency :=
  operations.filterMap (Operation.edgeTo? id)

theorem edgesTo_cons (id : String) (o : Operation) (operations : List Operation) :
    edgesTo id (o :: operations) = (o.edgeTo? id).toList ++ edgesTo id operations := by
  rw [edgesTo, edgesTo]
  cases ho : o.edgeTo? id with
  | none => rw [List.filterMap_cons_none ho]; rfl
  | some d => rw [List.filterMap_cons_some ho]; rfl

section

variable (components : Topology → List (List Nat))

def Operation.apply (g : Graph) : Operation → Graph
  | .add m => g.add m
  | .edge id d => g.addEdge id d
  | .clear id => g.modify id Module.clearDerived
  | .sort => g.sortById
  | .analysis s => g.analyzeWith components s
  | .validation s validate => g.validate s validate

/-- The graph that operations make of the empty one. -/
def made (operations : List Operation) : Graph := operations.foldl (Operation.apply components) empty

/-- What an operation on the graph `g` makes of a module that stands there. -/
def Operation.change (g : Graph) (m : Module) : Operation → Module
  | .add _ => m
  | .edge id d => if id = m.id then m.withEdges [d] else m
  | .clear id => if id = m.id then m.clearDerived else m
  | .sort => m
  | .analysis s => analyzed components g s ((g.indexOf m.id).getD 0) m
  | .validation s validate => s.judge validate m

/-- What operations, one after the other, make of a module that stands in the graph `g` at first. -/
def changed : Graph → Module → List Operation → Module
  | _, m, [] => m
  | g, m, o :: operations => changed (o.apply components g) (o.change components g m) operations

end

/-! ## One operation -/

theorem Indexed.get?_eq_none {g : Graph} (hg : g.Indexed) {id : String} : g.get? id = none ↔ id ∉ g.ids := by
  rw [ids, List.mem_map, Option.eq_none_iff_forall_ne_some]
  constructor
  · rintro hnone ⟨m, hm⟩
    exact hnone m (hg.get?_eq_some.mpr hm)
  · intro hnone m hm
    exact hnone ⟨m, hg.get?_eq_some.mp hm⟩

theorem get?_sortById {g : Graph} (hg : g.Indexed) (id : String) : g.sortById.get? id = g.get? id := by
  apply Option.ext
  intro m
  rw [hg.sortById.get?_eq_some, hg.get?_eq_some, mem_sortById]

theorem ids_validate (g : Graph) (s : RuleSet) (validate : Bool) : (g.validate s validate).ids = g.ids := by
  show (g.modules.map (s.judge validate)).map _ = _
  rw [List.map_map]
  rfl

theorem id_change (components : Topology → List (List Nat)) (g : Graph) (m : Module) (o : Operation) :
    (o.change components g m).id = m.id := by
  cases o with
  | add n => rfl
  | edge id d =>
    rw [Operation.change]
    split
    · rfl
    · rfl
  | clear id =>
    rw [Operation.change]
    split
    · rfl
    · rfl
  | sort => rfl
  | analysis s => rfl
  | validation s validate => rfl

section

variable {components : Topology → List (List Nat)} {g : Graph} (hg : g.Indexed)
include hg

/-- **Every operation keeps the row and the index in step.** -/
theorem Indexed.apply (o : Operation) : (o.apply components g).Indexed := by
  cases o with
  | add m => exact hg.add m
  | edge id d => exact hg.modify id fun _ => rfl
  | clear id => exact hg.modify id fun _ => rfl
  | sort => exact hg.sortById
  | analysis s => exact hg.analyzeWith components s
  | validation s validate => exact hg.congr (ids_validate g s validate) rfl

/-- Only an addition brings an id in. -/
theorem Indexed.mem_ids_apply (o : Operation) (id : String) :
    id ∈ (o.apply components g).ids ↔ id ∈ g.ids ∨ ∃ m, o = .add m ∧ m.id = id := by
  have hkept {g' : Graph} (hids : g'.ids = g.ids) (hno : ∀ m, o ≠ .add m) :
      id ∈ g'.ids ↔ id ∈ g.ids ∨ ∃ m, o = .add m ∧ m.id = id := by
    rw [hids]
    exact ⟨.inl, fun h => h.resolve_right fun ⟨m, hadd, _⟩ => hno m hadd⟩
  cases o with
  | add m =>
    refine (mem_ids_add hg m id).trans (or_congr_right ⟨fun hid => ⟨m, rfl, hid.symm⟩, ?_⟩)
    rintro ⟨_, hadd, rfl⟩
    rw [Operation.add.inj hadd]
  | edge id' d => exact hkept (ids_modify g id' fun _ => rfl) nofun
  | clear id' => exact hkept (ids_modify g id' fun _ => rfl) nofun
  | sort => exact (mem_ids_sortById g id).trans (hkept rfl nofun)
  | analysis s => exact hkept (ids_analyzeWith components g s) nofun
  | validation s validate => exact hkept (ids_validate g s validate) nofun

theorem Indexed.change_mem_modify {m : Module} (hm : m ∈ g.modules) (id : String) (change : Module → Module) :
    (if id = m.id then change m else m) ∈ (g.modify id change).modules := by
  rw [hg.mem_modify]
  split
  · rename_i hid
    exact .inr ⟨m, hm, hid.symm, rfl⟩
  · rename_i hid
    exact .inl ⟨hm, Ne.symm hid⟩

/-- **An operation changes every module as it is meant to**, wherever the module stands. -/
theorem Indexed.change_mem_apply {m : Module} (hm : m ∈ g.modules) (o : Operation) :
    o.change components g m ∈ (o.apply components g).modules := by
  cases o with
  | add n => exact (mem_add hg n m).mpr (.inl hm)
  | edge id d => exact hg.change_mem_modify hm id (·.withEdges [d])
  | clear id => exact hg.change_mem_modify hm id Module.clearDerived
  | sort => exact (mem_sortById g m).mpr hm
  | analysis s =>
    obtain ⟨i, hi⟩ := List.mem_iff_getElem?.mp hm
    have hindex := (hg m.id i).mpr (getElem?_ids_of_module hi)
    refine (mem_analyzeWith components g s _).mpr ⟨i, m, hi, ?_⟩
    rw [Operation.change, hindex, Option.getD_some]
  | validation s validate => exact List.mem_map_of_mem hm

theorem Indexed.get?_apply {id : String} {m : Module} (hm : g.get? id = some m) (o : Operation) :
    (o.apply components g).get? id = some (o.change components g m) := by
  obtain ⟨hmem, hid⟩ := hg.get?_eq_some.mp hm
  exact (hg.apply o).get?_eq_some.mpr ⟨hg.change_mem_apply hmem o, (id_change components g m o).trans hid⟩

end

/-! ## Any number of operations -/

section

variable (components : Topology → List (List Nat))

theorem made_concat (operations : List Operation) (o : Operation) :
    made components (operations ++ [o]) = o.apply components (made components operations) := by
  rw [made, List.foldl_append]
  rfl

theorem indexed_made (operations : List Operation) : (made components operations).Indexed := by
  induction operations using List.reverseRecOn with
  | nil => exact empty_indexed
  | append_singleton operations o ih =>
    rw [made_concat]
    exact ih.apply o

theorem mem_ids_made (operations : List Operation) (id : String) :
    id ∈ (made components operations).ids ↔ ∃ m, .add m ∈ operations ∧ m.id = id := by
  induction operations using List.reverseRecOn with
  | nil => exact ⟨fun h => absurd h List.not_mem_nil, fun ⟨_, h, _⟩ => absurd h List.not_mem_nil⟩
  | append_singleton operations o ih =>
    rw [made_concat, (indexed_made components operations).mem_ids_apply, ih, ← exists_or]
    refine exists_congr fun m => ?_
    rw [List.mem_append, List.mem_singleton, or_and_right, @eq_comm _ o]

/-- **What operations make of a module is found under its id**, by induction on how many there are. -/
theorem get?_foldl {g : Graph} (hg : g.Indexed) {id : String} {m : Module} (hm : g.get? id = some m)
    (operations : List Operation) :
    (operations.foldl (Operation.apply components) g).get? id = some (changed components g m operations) := by
  induction operations generalizing g m with
  | nil => exact hm
  | cons o operations ih => exact ih (hg.apply o) (hg.get?_apply hm o)

theorem unmarked_analyzed (g : Graph) (s : RuleSet) (i : Nat) (m : Module) :
    (analyzed components g s i m).unmarked = m.unmarked :=
  m.unmarked_map (fun d => { d with circular := circularAt (components g.topology) g i d }) fun _ => rfl

theorem unmarked_judge (s : RuleSet) (validate : Bool) (m : Module) : (s.judge validate m).unmarked = m.unmarked :=
  m.unmarked_map (fun d => d.applyVerdict (s.judgeDependency validate m d)) fun _ => rfl

/-- One operation appends at most an edge, but for what analysis and validation write. -/
theorem unmarked_change (g : Graph) (m : Module) (o : Operation) :
    (o.change components g m).unmarked = (m.withEdges (o.edgeTo? m.id).toList).unmarked := by
  have hnone {m' : Module} (hunmarked : m'.unmarked = m.unmarked) (hedge : o.edgeTo? m.id = none) :
      m'.unmarked = (m.withEdges (o.edgeTo? m.id).toList).unmarked := by
    rw [hunmarked, hedge, Option.toList_none, Module.withEdges, List.append_nil]
  cases o with
  | add n => exact hnone rfl rfl
  | edge id d =>
    rw [Operation.change]
    split
    · rename_i hid
      rw [Operation.edgeTo?, if_pos hid, Option.toList_some]
    · rename_i hid
      exact hnone rfl (if_neg hid)
  | clear id =>
    rw [Operation.change]
    split
    · exact hnone m.unmarked_clearDerived rfl
    · exact hnone rfl rfl
  | sort => exact hnone rfl rfl
  | analysis s => exact hnone (unmarked_analyzed components g s _ m) rfl
  | validation s validate => exact hnone (unmarked_judge s validate m) rfl

/-- **Operations append the edges that are meant for a module**, but for what analysis and validation write. -/
theorem unmarked_changed (g : Graph) (m : Module) (operations : List Operation) :
    (changed components g m operations).unmarked = (m.withEdges (edgesTo m.id operations)).unmarked := by
  induction operations generalizing g m with
  | nil => rw [changed, edgesTo, List.filterMap_nil, Module.withEdges, List.append_nil]
  | cons o operations ih =>
    rw [changed, ih, id_change, Module.unmarked_withEdges, unmarked_change, ← Module.unmarked_withEdges,
      Module.withEdges_withEdges, edgesTo_cons]

/-- What can be relied on after some operations. -/
structure InStep (operations : List Operation) : Prop where
  distinct : (made components operations).ids.Nodup
  /-- the index tells where the module of an id stands -/
  index : ∀ id i, (made components operations).indexOf id = some i ↔
    ∃ m, (made components operations).modules[i]? = some m ∧ m.id = id
  /-- nothing is found under an id that no module was added under -/
  unknown : ∀ id, (made components operations).get? id = none ↔ ∀ m, .add m ∈ operations → m.id ≠ id
  /-- the first module that was added under an id is found there, with what was done to it since -/
  first : ∀ before m since, operations = before ++ .add m :: since → (∀ n, .add n ∈ before → n.id ≠ m.id) →
    ∃ m', (made components operations).get? m.id = some m' ∧
      m' = changed components ((made components before).add m) m since ∧
      m'.unmarked = (m.withEdges (edgesTo m.id since)).unmarked
  /-- under an id that is there, nothing is added -/
  again : ∀ m, m.id ∈ (made components operations).ids →
    (made components operations).add m = made components operations
  /-- sorting moves modules about, and each is found as before -/
  sorted : (made components operations).sortById.modules.Perm (made components operations).modules ∧
    ∀ id, (made components operations).sortById.get? id = (made components operations).get? id

/-- **The row and the index stay in step**, whatever is done to the graph and in whatever order. -/
theorem inStep_made (operations : List Operation) : InStep components operations where
  distinct := (indexed_made components operations).nodup
  index := by
    intro id i
    rw [indexed_made components operations id i, getElem?_ids, Option.map_eq_some_iff]
  unknown := by
    intro id
    rw [(indexed_made components operations).get?_eq_none, mem_ids_made]
    exact ⟨fun hnone m hadd hid => hnone ⟨m, hadd, hid⟩, fun hnone ⟨m, hadd, hid⟩ => hnone m hadd hid⟩
  first := by
    rintro before m since rfl hfirst
    have hbefore := indexed_made components before
    have hnew : m.id ∉ (made components before).ids := fun hin =>
      let ⟨n, hadd, hid⟩ := (mem_ids_made components before m.id).mp hin
      hfirst n hadd hid
    have hadded : ((made components before).add m).get? m.id = some m :=
      (hbefore.add m).get?_eq_some.mpr ⟨(mem_add hbefore m m).mpr (.inr ⟨hnew, rfl⟩), rfl⟩
    refine ⟨_, ?_, rfl, unmarked_changed components _ m since⟩
    rw [made, List.foldl_append, List.foldl_cons]
    exact get?_foldl components (hbefore.add m) hadded since
  again := fun _ hm => add_of_mem (indexed_made components operations) hm
  sorted := ⟨List.mergeSort_perm _ _, get?_sortById (indexed_made components operations)⟩

end

end Graph

end ImportSurvey
