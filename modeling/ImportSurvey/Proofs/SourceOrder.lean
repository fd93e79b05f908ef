import Mathlib.Data.List.Flatten
import ImportSurvey.Script.Extract
import ImportSurvey.Proofs.ReadingOrderStatements

/-
  References in the order of the text.

  The literals of a tree ascend, but a node is looked at before its parts, and what a system sees at a node can
  be a name that stands behind other names: a list of dependencies after the callback that calls `require`, or
  the name in a call whose types hold a computed key.  So the references of one system are in the order of the
  text iff what it sees at a node always stands before what it sees inside the node (`Leads`).

  What a system sees at a node is what the node holds itself, or what one of its parts shows of itself (`shown`), so
  it is seen at literals of the node and in their order (`sublist_sightings`).

  One direction is about any tree: the nodes inside a node are visited in one run behind it.  The other one is by
  induction over the parts of a node and needs that the literals ascend: all that is seen in a part is at
  literals of that part (`position_mem`), and those of one part stand before those of the next.

  A declaration holds its name itself, before its parts (`leads_of_ownLiterals`).  A call has its name as a part,
  in which nothing else is seen, so only the parts before the name matter (`leads_of_part`).  Before the name of a
  dynamic import there are none, hence imports and exports are always in order; before the name of a call of
  `require` there are only the types that the call is given.
-/
namespace ImportSurvey.Script

variable {exotic : List String} {system : ModuleSystem} {n : Node} {depth : Nat}

/-! ## What is seen in a tree -/

/-- What a system sees in a tree with `depth` calls of `define` around it. -/
def seenIn (exotic : List String) (system : ModuleSystem) (depth : Nat) (n : Node) : List Sighting :=
  (n.visit depth).flatMap (sightings exotic system)

/-- What a system sees inside a node, the node itself left out. -/
def seenInside (exotic : List String) (system : ModuleSystem) (v : Node.Visit) : List Sighting :=
  v.node.parts.flatMap (seenIn exotic system (v.node.within v.depth))

/-- What a system sees at a node stands before all that it sees inside the node. -/
def Leads (exotic : List String) (system : ModuleSystem) (v : Node.Visit) : Prop :=
  ∀ x ∈ sightings exotic system v, ∀ y ∈ seenInside exotic system v, x.position < y.position

instance (exotic : List String) (system : ModuleSystem) (v : Node.Visit) : Decidable (Leads exotic system v) :=
  inferInstanceAs (Decidable (∀ x ∈ _, ∀ y ∈ _, _))

/-- The types that a call is given. -/
def Node.typeArguments : Node → List Node
  | .call _ types _ => types
  | _ => []

theorem seenIn_eq (exotic : List String) (system : ModuleSystem) (depth : Nat) (n : Node) :
    seenIn exotic system depth n = sightings exotic system ⟨depth, n⟩ ++ seenInside exotic system ⟨depth, n⟩ := by
  rw [seenIn, Node.visit_eq, List.flatMap_cons, List.flatMap_assoc]
  rfl

/-! ### Positions at one node -/

theorem sublist_sight (l : Literal) (r : String → Reference) :
    ((sight l r).map (·.position)).Sublist [l.position] := by
  rw [sight]
  split
  · exact List.nil_sublist _
  · exact List.Sublist.refl _

theorem sublist_sight? (l : Option Literal) (r : String → Reference) :
    ((sight? l r).map (·.position)).Sublist (positions l) := by
  cases l with
  | none => exact List.Sublist.refl _
  | some l => exact sublist_sight l r

theorem positions_literal? (n : Node) : (positions n.literal?).Sublist (positions n) := by
  cases n <;> simp [Node.literal?]

theorem positions_filterMap (f : Node → Option Literal) (es : List Node) :
    positions (es.filterMap f) = es.flatMap fun e => positions (f e) := by
  induction es with
  | nil => rfl
  | cons e es ih =>
    rw [List.filterMap_cons, List.flatMap_cons, ← ih]
    cases f e with
    | none => rfl
    | some l => simp

/-- An array lists literals that are its parts. -/
theorem sublist_listedLiterals (n : Node) :
    (positions (listedLiterals n)).Sublist (n.parts.flatMap fun m => positions m.literal?) := by
  cases n with
  | array es =>
    rw [listedLiterals, positions_filterMap]
    refine List.Sublist.flatMap_right es fun e _ => ?_
    cases e with
    | text l =>
      dsimp only
      split
      · exact List.nil_sublist _
      · exact List.Sublist.refl _
    | _ => exact List.nil_sublist _
  | _ => exact List.nil_sublist _

theorem listedSightings_of_onlyLiteral {ns : List Node} {l : Literal} (h : onlyLiteral ns = some l) :
    listedSightings ns = [] := by
  rcases ns with - | ⟨n, - | ⟨m, rest⟩⟩
  · cases h
  · cases n <;> first | rfl | cases h
  · cases h

/-- What is gone once types are checked is said by declarations, which hold the names themselves. -/
theorem sublist_typeSightings (n : Node) :
    ((typeSightings n).map (·.position)).Sublist (positions n.ownLiterals) := by
  unfold typeSightings
  split
  · exact sublist_sight _ _
  · exact sublist_sight _ _
  · exact sublist_sight? _ _
  · exact sublist_sight? _ _
  · exact List.nil_sublist _

theorem sublist_es6Sightings {n : Node} (h : ∀ source options, n ≠ .importCall source options) :
    ((es6Sightings n).map (·.position)).Sublist (positions n.ownLiterals) := by
  unfold es6Sightings
  split
  · exact sublist_sight _ _
  · exact sublist_sight _ _
  · exact sublist_sight? _ _
  · exact absurd rfl (h _ _)
  · exact List.nil_sublist _

/-- What is seen at a node is a name that the node holds itself, or the first argument of a function with a name. -/
inductive AtName : Node → List Nat → Prop
  | own {n : Node} {seen : List Nat} (h : seen.Sublist (positions n.ownLiterals)) : AtName n seen
  | argument {callee argument : Node} {types rest : List Node} {f : String} {seen : List Nat}
      (hcallee : callee.dotted? = some f) (h : seen.Sublist (positions argument.literal?)) :
      AtName (.call callee types (argument :: rest)) seen

theorem atName_cjsSightings (n : Node) : AtName n ((cjsSightings n).map (·.position)) := by
  unfold cjsSightings
  split
  · rename_i types arguments
    rcases arguments with - | ⟨argument, - | ⟨_, _⟩⟩
    · exact .own (List.nil_sublist _)
    · exact .argument rfl (sublist_sight? _ _)
    · exact .own (List.nil_sublist _)
  · exact .own (sublist_sight? _ _)
  · exact .own (List.nil_sublist _)

theorem atName_exoticSightings (exotic : List String) (n : Node) :
    AtName n ((exoticSightings exotic n).map (·.position)) := by
  unfold exoticSightings
  split
  · split
    · rename_i f hcallee
      split
      · exact .argument hcallee (sublist_sight? _ _)
      · exact .own (List.nil_sublist _)
    · exact .own (List.nil_sublist _)
  · exact .own (List.nil_sublist _)

/-! ### What a part shows -/

/-- Where the names stand that a node shows to the node above it. -/
def shown (n : Node) : List Nat := positions n.literal? ++ positions (listedLiterals n)

theorem sublist_shown_literal (n : Node) : (positions n.literal?).Sublist (shown n) :=
  List.sublist_append_left _ _

theorem sublist_shown_listed (n : Node) : (positions (listedLiterals n)).Sublist (shown n) :=
  List.sublist_append_right _ _

theorem sublist_flatMap_shown {m : Node} {parts : List Node} (h : m ∈ parts) :
    (shown m).Sublist (parts.flatMap shown) :=
  List.sublist_flatten_of_mem (List.mem_map_of_mem h)

theorem sublist_flatMap_arguments (callee : Node) (types arguments : List Node) :
    (arguments.flatMap shown).Sublist ((Node.call callee types arguments).parts.flatMap shown) := by
  have hparts : (Node.call callee types arguments).parts = callee :: (types ++ arguments) := rfl
  rw [hparts, List.flatMap_cons, List.flatMap_append]
  exact (List.sublist_append_right _ _).trans (List.sublist_append_right _ _)

theorem sublist_listedSightings_shown (ns : List Node) :
    ((listedSightings ns).map (·.position)).Sublist (ns.flatMap shown) := by
  rw [listedSightings, List.map_flatMap, List.flatMap_assoc]
  refine List.Sublist.flatMap_right ns fun n _ => ?_
  exact (List.Sublist.flatMap_right _ fun l _ => sublist_sight l _).trans (sublist_shown_listed n)

theorem sublist_onlyLiteral_shown (ns : List Node) : (positions (onlyLiteral ns)).Sublist (ns.flatMap shown) := by
  rcases ns with - | ⟨n, - | ⟨m, rest⟩⟩
  · exact List.nil_sublist _
  · exact (sublist_shown_literal n).trans (sublist_flatMap_shown (List.mem_singleton_self n))
  · exact List.nil_sublist _

theorem AtName.sublist_shown {n : Node} {seen : List Nat} (h : AtName n seen) :
    seen.Sublist (positions n.ownLiterals ++ n.parts.flatMap shown) := by
  cases h with
  | own h => exact h.trans (List.sublist_append_left _ _)
  | @argument callee argument types rest _ _ _ h =>
    have hshown : seen.Sublist ((argument :: rest).flatMap shown) :=
      (h.trans (sublist_shown_literal argument)).trans (sublist_flatMap_shown List.mem_cons_self)
    exact (hshown.trans (sublist_flatMap_arguments callee types _)).trans (List.sublist_append_right _ _)

/-- **What a system sees at a node is what the node holds itself, or what its parts show.** -/
theorem sublist_sightings_shown (exotic : List String) (system : ModuleSystem) (v : Node.Visit) :
    ((sightings exotic system v).map (·.position)).Sublist
      (positions v.node.ownLiterals ++ v.node.parts.flatMap shown) := by
  obtain ⟨depth, n⟩ := v
  cases system with
  | es6 =>
    by_cases h : ∃ source options, n = .importCall source options
    · obtain ⟨source, options, rfl⟩ := h
      have hshown : ((es6Sightings (.importCall source options)).map (·.position)).Sublist (shown source) :=
        (sublist_sight? _ _).trans (sublist_shown_literal source)
      exact hshown.trans (sublist_flatMap_shown List.mem_cons_self)
    · push Not at h
      exact (sublist_es6Sightings h).trans (List.sublist_append_left _ _)
  | cjs => exact (atName_cjsSightings n).sublist_shown
  | amd =>
    show ((amdSightings depth n).map _).Sublist (positions n.ownLiterals ++ n.parts.flatMap shown)
    unfold amdSightings
    split
    · exact (sublist_listedSightings_shown _).trans (sublist_flatMap_arguments _ _ _)
    · rename_i types arguments
      refine List.Sublist.trans ?_ (sublist_flatMap_arguments _ types arguments)
      cases honly : onlyLiteral arguments with
      | none => simpa [sight?] using sublist_listedSightings_shown arguments
      | some l =>
        rw [listedSightings_of_onlyLiteral honly, List.nil_append, ← honly]
        split
        · exact List.nil_sublist _
        · exact (sublist_sight? _ _).trans (sublist_onlyLiteral_shown _)
    · exact List.nil_sublist _
  | tsType => exact (sublist_typeSightings n).trans (List.sublist_append_left _ _)
  | exoticRequire => exact (atName_exoticSightings exotic n).sublist_shown

/-- What a node shows is at its literals: none but a literal and an array shows anything. -/
theorem sublist_shown (n : Node) : (shown n).Sublist (positions n) := by
  cases n with
  | text l => exact List.Sublist.refl _
  | template l => exact List.Sublist.refl _
  | array es =>
    refine (sublist_listedLiterals (.array es)).trans ?_
    rw [positions_node]
    exact List.Sublist.flatMap_right _ fun m _ => positions_literal? m
  | _ => exact List.nil_sublist _

/-- **What a system sees at a node is at literals of the node, in their order.** -/
theorem sublist_sightings (exotic : List String) (system : ModuleSystem) (v : Node.Visit) :
    ((sightings exotic system v).map (·.position)).Sublist (positions v.node) := by
  refine (sublist_sightings_shown exotic system v).trans ?_
  rw [positions_node]
  exact (List.Sublist.flatMap_right _ fun m _ => sublist_shown m).append_left _

/-! ### Positions in a tree -/

theorem position_mem {x : Sighting} (h : x ∈ seenIn exotic system depth n) : x.position ∈ positions n := by
  induction n using Node.ofParts generalizing depth with
  | node n ih =>
    rw [seenIn_eq] at h
    rcases List.mem_append.mp h with h | h
    · exact (sublist_sightings exotic system ⟨depth, n⟩).subset (List.mem_map_of_mem h)
    · obtain ⟨m, hm, hx⟩ := List.mem_flatMap.mp h
      rw [positions_node]
      exact List.mem_append_right _ (List.mem_flatMap.mpr ⟨m, hm, ih m hm hx⟩)

/-- The nodes inside a node are visited in one run. -/
theorem sublist_visit {v : Node.Visit} (h : v ∈ n.visit depth) : (v.node.visit v.depth).Sublist (n.visit depth) := by
  induction n using Node.ofParts generalizing depth with
  | node n ih =>
    rw [Node.visit_eq] at h
    rcases List.mem_cons.mp h with rfl | h
    · exact List.Sublist.refl _
    · obtain ⟨m, hm, hv⟩ := List.mem_flatMap.mp h
      rw [Node.visit_eq depth n]
      exact ((ih m hm hv).trans (List.sublist_flatten_of_mem (List.mem_map_of_mem hm))).cons _

theorem sublist_positions {v : Node.Visit} (h : v ∈ n.visit depth) : (positions v.node).Sublist (positions n) := by
  have hnodes : v.node.nodes.Sublist n.nodes := by
    rw [← Node.map_node_visit v.depth, ← Node.map_node_visit depth n]
    exact (sublist_visit h).map _
  exact hnodes.flatMap _

/-! ## When references ascend -/

theorem leads_of_ascending {v : Node.Visit} (hv : v ∈ n.visit depth)
    (h : ((seenIn exotic system depth n).map (·.position)).Pairwise (· < ·)) : Leads exotic system v := by
  have hsub : (seenIn exotic system v.depth v.node).Sublist (seenIn exotic system depth n) :=
    (sublist_visit hv).flatMap _
  have hseen := h.sublist (hsub.map _)
  rw [seenIn_eq, List.map_append] at hseen
  obtain ⟨-, -, hacross⟩ := List.pairwise_append.mp hseen
  exact fun x hx y hy => hacross _ (List.mem_map_of_mem hx) _ (List.mem_map_of_mem hy)

/-- **What is seen ascends if the literals do** and each node leads what is inside it. -/
theorem ascending_of_leads (hpositions : (positions n).Pairwise (· < ·))
    (h : ∀ v ∈ n.visit depth, Leads exotic system v) :
    ((seenIn exotic system depth n).map (·.position)).Pairwise (· < ·) := by
  induction n using Node.ofParts generalizing depth with
  | node n ih =>
    rw [seenIn_eq, List.map_append, List.pairwise_append]
    rw [Node.visit_eq] at h
    have hown := hpositions.sublist (sublist_sightings exotic system ⟨depth, n⟩)
    rw [positions_node] at hpositions
    obtain ⟨-, hparts, -⟩ := List.pairwise_append.mp hpositions
    obtain ⟨hpart, hacross⟩ := List.pairwise_flatMap.mp hparts
    refine ⟨hown, ?_, ?_⟩
    · -- in one part by induction, and from one part to a later one because their literals are apart
      rw [seenInside, List.map_flatMap, List.pairwise_flatMap]
      refine ⟨fun m hm => ih m hm (hpart m hm) fun v hv => ?_, hacross.imp fun hlt x hx y hy => ?_⟩
      · exact h v (List.mem_cons_of_mem _ (List.mem_flatMap.mpr ⟨m, hm, hv⟩))
      · obtain ⟨_, hsee, rfl⟩ := List.mem_map.mp hx
        obtain ⟨_, hsee', rfl⟩ := List.mem_map.mp hy
        exact hlt _ (position_mem hsee) _ (position_mem hsee')
    · -- the one step that the literals do not give: from the node to its parts
      intro x hx y hy
      obtain ⟨own, hown, rfl⟩ := List.mem_map.mp hx
      obtain ⟨inside, hinside, rfl⟩ := List.mem_map.mp hy
      exact h _ List.mem_cons_self own hown inside hinside

/-- A node that sees only the names it holds itself leads what is inside it. -/
theorem leads_of_ownLiterals {v : Node.Visit} (hpositions : (positions v.node).Pairwise (· < ·))
    (h : ((sightings exotic system v).map (·.position)).Sublist (positions v.node.ownLiterals)) :
    Leads exotic system v := by
  rw [positions_node] at hpositions
  obtain ⟨-, -, hacross⟩ := List.pairwise_append.mp hpositions
  intro x hx y hy
  obtain ⟨m, hm, hy⟩ := List.mem_flatMap.mp hy
  exact hacross _ (h.subset (List.mem_map_of_mem hx)) _ (List.mem_flatMap.mpr ⟨m, hm, position_mem hy⟩)

theorem seenIn_of_literal {l : Literal} (h : n.literal? = some l) : seenIn exotic system depth n = [] := by
  cases n with
  | text l' => cases system <;> rfl
  | template l' => cases system <;> rfl
  | _ => cases h

theorem seenIn_of_dotted {f : String} (h : n.dotted? = some f) : seenIn exotic system depth n = [] := by
  induction n using Node.ofParts generalizing depth f with
  | node n ih =>
    cases n with
    | name w => cases system <;> rfl
    | member o w =>
      obtain ⟨inner, hinner, -⟩ := Option.map_eq_some_iff.mp h
      have hown : sightings exotic system ⟨depth, .member o w⟩ = [] := by cases system <;> rfl
      rw [seenIn_eq, hown, List.nil_append, seenInside]
      exact List.flatMap_eq_nil_iff.mpr fun m hm => by
        obtain rfl := List.mem_singleton.mp hm
        exact ih m hm hinner
    | _ => cases h

/-- A node that sees only a part which is a literal leads what is inside it, if nothing is seen before that part. -/
theorem leads_of_part {v : Node.Visit} (hpositions : (positions v.node).Pairwise (· < ·)) {first rest : List Node}
    {m : Node} (hparts : v.node.parts = first ++ m :: rest)
    (hfirst : ∀ q ∈ first, seenIn exotic system (v.node.within v.depth) q = [])
    (h : ((sightings exotic system v).map (·.position)).Sublist (positions m.literal?)) :
    Leads exotic system v := by
  intro x hx y hy
  have hposition := h.subset (List.mem_map_of_mem hx)
  -- something is seen, so the part is a literal, and nothing is seen in it
  obtain ⟨l, hliteral⟩ : ∃ l, m.literal? = some l := by
    cases hm : m.literal? with
    | none =>
      rw [hm] at hposition
      cases hposition
    | some l => exact ⟨l, rfl⟩
  rw [positions_node, hparts, positions_append, positions_cons] at hpositions
  obtain ⟨-, hinside, -⟩ := List.pairwise_append.mp hpositions
  obtain ⟨-, hbehind, -⟩ := List.pairwise_append.mp hinside
  obtain ⟨-, -, hacross⟩ := List.pairwise_append.mp hbehind
  obtain ⟨q, hq, hseen⟩ := List.mem_flatMap.mp hy
  rw [hparts] at hq
  rcases List.mem_append.mp hq with hq | hq
  · rw [hfirst q hq] at hseen
    cases hseen
  rcases List.mem_cons.mp hq with rfl | hq
  · rw [seenIn_of_literal hliteral] at hseen
    cases hseen
  · have hname := (positions_literal? m).subset hposition
    exact hacross _ hname _ (List.mem_flatMap.mpr ⟨q, hq, position_mem hseen⟩)

theorem leads_es6 {v : Node.Visit} (hpositions : (positions v.node).Pairwise (· < ·)) : Leads exotic .es6 v := by
  by_cases h : ∃ source options, v.node = .importCall source options
  · obtain ⟨source, options, hnode⟩ := h
    have hparts : v.node.parts = [] ++ source :: options := by rw [hnode]; rfl
    have hseen : sightings exotic .es6 v = es6Sightings (.importCall source options) := by rw [← hnode]; rfl
    refine leads_of_part hpositions hparts nofun ?_
    rw [hseen]
    exact sublist_sight? _ _
  · push Not at h
    exact leads_of_ownLiterals hpositions (sublist_es6Sightings h)

theorem AtName.leads {v : Node.Visit} (h : AtName v.node ((sightings exotic system v).map (·.position)))
    (hpositions : (positions v.node).Pairwise (· < ·))
    (htypes : ∀ t ∈ v.node.typeArguments, seenIn exotic system (v.node.within v.depth) t = []) :
    Leads exotic system v := by
  generalize hseen : (sightings exotic system v).map (·.position) = seen at h
  obtain ⟨depth, n⟩ := v
  cases h with
  | own h => exact leads_of_ownLiterals hpositions (hseen ▸ h)
  | @argument callee argument types rest f _ hcallee h =>
    have hparts : (Node.call callee types (argument :: rest)).parts = (callee :: types) ++ argument :: rest := rfl
    refine leads_of_part hpositions hparts (fun q hq => ?_) (hseen ▸ h)
    rcases List.mem_cons.mp hq with rfl | hq
    · exact seenIn_of_dotted hcallee
    · exact htypes q hq

/-- **The references of one system are in the order of the text iff what the system sees at a node always stands
before what it sees inside the node.**  This is so for imports and exports, of values and of types, and for calls of
`require` and of functions like it, as long as no calls are seen in the types that a call is given. -/
theorem ascending_iff {d : Dialect} {text : String} {p : Program} (h : Program.read? d text = some p)
    (exotic : List String) (system : ModuleSystem) :
    (((allSightings exotic system p.tree).map (·.position)).Pairwise (· < ·) ↔
      ∀ v ∈ p.tree.visit 0, Leads exotic system v) ∧
    (system = .es6 ∨ system = .tsType →
      ((allSightings exotic system p.tree).map (·.position)).Pairwise (· < ·)) ∧
    (system = .cjs ∨ system = .exoticRequire →
      (∀ v ∈ p.tree.visit 0, ∀ t ∈ v.node.typeArguments, seenIn exotic system (v.node.within v.depth) t = []) →
      ((allSightings exotic system p.tree).map (·.position)).Pairwise (· < ·)) := by
  have hpositions := Program.ascending_positions h
  have hnode : ∀ v ∈ p.tree.visit 0, (positions v.node).Pairwise (· < ·) := fun v hv =>
    hpositions.sublist (sublist_positions hv)
  have hiff : ((seenIn exotic system 0 p.tree).map (·.position)).Pairwise (· < ·) ↔
      ∀ v ∈ p.tree.visit 0, Leads exotic system v :=
    ⟨fun hseen v hv => leads_of_ascending hv hseen, ascending_of_leads hpositions⟩
  refine ⟨hiff, fun hsystem => hiff.mpr fun v hv => ?_, fun hsystem htypes => hiff.mpr fun v hv => ?_⟩
  · rcases hsystem with rfl | rfl
    · exact leads_es6 (hnode v hv)
    · exact leads_of_ownLiterals (hnode v hv) (sublist_typeSightings v.node)
  · rcases hsystem with rfl | rfl
    · exact (atName_cjsSightings v.node).leads (hnode v hv) (htypes v hv)
    · exact (atName_exoticSightings exotic v.node).leads (hnode v hv) (htypes v hv)

/-- A definition whose list of dependencies stands before its callback. -/
theorem ascending_iff_of_list_first :
    ∃ p, Program.read? { language := .plain } "define([\"a\"], function () \x7b require(\"x\"); \x7d);" = some p ∧
      (allSightings [] .amd p.tree).map (·.position) = [8, 36] ∧
      (∀ v ∈ p.tree.visit 0, Leads [] .amd v) ∧
      (allSightings [] .cjs p.tree).map (·.position) = [36] ∧
      ((allSightings [] .cjs p.tree).map (·.position)).Pairwise (· < ·) := by
  have hread : (Program.read? { language := .plain }
      "define([\"a\"], function () \x7b require(\"x\"); \x7d);").map
        (fun p => ((allSightings [] .amd p.tree).map (·.position), (allSightings [] .cjs p.tree).map (·.position),
          decide (∀ v ∈ p.tree.visit 0, ∀ t ∈ v.node.typeArguments, seenIn [] .cjs (v.node.within v.depth) t = []))) =
      some ([8, 36], [36], true) := by decide +kernel
  obtain ⟨p, hread, hp⟩ := Option.map_eq_some_iff.mp hread
  obtain ⟨hamd, hp⟩ := Prod.mk.inj hp
  obtain ⟨hcjs, htypes⟩ := Prod.mk.inj hp
  refine ⟨p, hread, hamd, (ascending_iff hread [] .amd).1.mp ?_, hcjs, ?_⟩
  · rw [hamd]
    decide
  · exact (ascending_iff hread [] .cjs).2.2 (.inl rfl) (of_decide_eq_true htypes)

/-- A list of dependencies behind the callback is seen before what the callback calls. -/
theorem not_ascending_of_list_last : ¬ ∀ (d : Dialect) (text : String) (p : Program) (exotic : List String)
    (system : ModuleSystem), Program.read? d text = some p →
      ((allSightings exotic system p.tree).map (·.position)).Pairwise (· < ·) := by
  intro h
  have hpositions : (Program.read? { language := .plain }
      "define(function () \x7b require(\"x\"); \x7d, [\"a\"]);").map
        (fun p => (allSightings [] .amd p.tree).map (·.position)) = some [39, 29] := by decide +kernel
  obtain ⟨p, hread, hp⟩ := Option.map_eq_some_iff.mp hpositions
  have hascending := h _ _ p [] .amd hread
  rw [hp] at hascending
  exact absurd hascending (by decide)

end ImportSurvey.Script
