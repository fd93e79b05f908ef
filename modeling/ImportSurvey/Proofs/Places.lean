import ImportSurvey.Script.Tree
import ImportSurvey.Proofs.Enumeration

/-
  The nodes of a tree by their places.

  Two nodes of a tree can be alike, so a statement that speaks of every declaration of a script, or of the calls
  around one, cannot speak of nodes.  It speaks of places: a place is the way down from the root, as the numbers
  of the parts it goes through (`Node.at?`), and what is around a place are the nodes on the way.

  The reading order visits each place once and no other place (`Node.mem_tour_iff`, `Node.nodup_tour`), and
  the depth it counts says what it is meant to say (`Node.lt_depth_iff`): it is more than at the root iff a call of
  `define` is around the place.  The first is shown for `Node.tour`, which is the reading order with the places
  written down.  All of it is by induction over the parts of a node (`Node.ofParts`), for which one equation
  (`Node.visit_eq`) stands for all kinds of node.
-/
namespace ImportSurvey.Script.Node

/-! ## Parts -/

/-- The nodes that a node is made of, in reading order. -/
def parts : Node → List Node
  | .member object _ => [object]
  | .array elements => elements
  | .call callee types arguments => callee :: (types ++ arguments)
  | .importCall source options => source :: options
  | .exportNamed _ _ inner => inner
  | .group parts => parts
  | .name _ | .text _ | .template _ | .importFrom .. | .exportAll .. | .importEquals .. => []

theorem sizeOf_lt_of_mem_parts {m n : Node} (h : m ∈ n.parts) : sizeOf m < sizeOf n := by
  have hlt : ∀ ms : List Node, m ∈ ms → sizeOf m < sizeOf ms := fun ms h => List.sizeOf_lt_of_mem h
  cases n with
  | member object p =>
    obtain rfl := List.mem_singleton.mp h
    simp only [member.sizeOf_spec]
    omega
  | array elements =>
    have := hlt elements h
    simp only [array.sizeOf_spec]
    omega
  | group parts =>
    have := hlt parts h
    simp only [group.sizeOf_spec]
    omega
  | exportNamed typeOnly source inner =>
    have := hlt inner h
    simp only [exportNamed.sizeOf_spec]
    omega
  | call callee types arguments =>
    simp only [call.sizeOf_spec]
    rcases List.mem_cons.mp h with rfl | h
    · omega
    · rcases List.mem_append.mp h with h | h
      · have := hlt types h
        omega
      · have := hlt arguments h
        omega
  | importCall source options =>
    simp only [importCall.sizeOf_spec]
    rcases List.mem_cons.mp h with rfl | h
    · omega
    · have := hlt options h
      omega
  | name | text | template | importFrom | exportAll | importEquals => exact absurd h List.not_mem_nil

/-- What holds of a node whenever it holds of its parts holds of all nodes. -/
theorem ofParts {motive : Node → Prop} (node : ∀ n, (∀ m ∈ n.parts, motive m) → motive n) (n : Node) :
    motive n := node n fun m _ => ofParts node m
termination_by sizeOf n
decreasing_by exact sizeOf_lt_of_mem_parts ‹_›

/-- How many calls of `define` are around the parts of a node that has `depth` of them around it. -/
def within (depth : Nat) (n : Node) : Nat := if n.calls "define" then depth + 1 else depth

theorem visitAll_eq (depth : Nat) (ns : List Node) : visitAll depth ns = ns.flatMap (visit depth) := by
  induction ns with
  | nil => rfl
  | cons n ns ih => rw [visitAll, ih, List.flatMap_cons]

/-- A node is visited first, and then its parts. -/
theorem visit_eq (depth : Nat) (n : Node) :
    n.visit depth = ⟨depth, n⟩ :: n.parts.flatMap (visit (n.within depth)) := by
  cases n <;> simp [visit, parts, within, visitAll_eq, calls]

/-! ## Places -/

/-- The way from the root of a tree to a node, by the numbers of the parts it goes through. -/
abbrev Place := List Nat

/-- The node at a place. -/
def at? : Node → Place → Option Node
  | n, [] => some n
  | n, i :: rest => n.parts[i]?.bind fun m => m.at? rest

/-- A call of `define` is around the place. -/
def InDefine (tree : Node) (place : Place) : Prop :=
  ∃ front i back types arguments,
    place = front ++ i :: back ∧ tree.at? front = some (.call (.name "define") types arguments)

/-- What is visited at a place. -/
def visitAt? : Nat → Node → Place → Option Visit
  | depth, n, [] => some ⟨depth, n⟩
  | depth, n, i :: rest => n.parts[i]?.bind fun m => m.visitAt? (n.within depth) rest

theorem at?_eq_some_iff (depth : Nat) {n m : Node} {place : Place} :
    n.at? place = some m ↔ ∃ k, n.visitAt? depth place = some ⟨k, m⟩ := by
  induction place generalizing n depth with
  | nil => simp [at?, visitAt?]
  | cons i rest ih =>
    rw [at?, visitAt?]
    cases n.parts[i]? with
    | none => simp
    | some m' => exact ih _

theorem calls_define_iff (n : Node) :
    n.calls "define" = true ↔ ∃ types arguments, n = .call (.name "define") types arguments := by
  constructor
  · intro h
    rw [calls.eq_def] at h
    split at h
    · exact ⟨_, _, by rw [beq_iff_eq.mp h]⟩
    · cases h
  · rintro ⟨types, arguments, rfl⟩
    rfl

theorem not_inDefine_nil (n : Node) : ¬ n.InDefine [] := by
  rintro ⟨front, i, back, -, -, hplace, -⟩
  exact List.append_ne_nil_of_right_ne_nil front (List.cons_ne_nil i back) hplace.symm

theorem inDefine_cons_iff {n m : Node} {i : Nat} {rest : Place} (hm : n.parts[i]? = some m) :
    n.InDefine (i :: rest) ↔ n.calls "define" = true ∨ m.InDefine rest := by
  constructor
  · rintro ⟨front, j, back, types, arguments, hplace, hat⟩
    cases front with
    | nil => exact .inl ((calls_define_iff n).mpr ⟨types, arguments, Option.some.inj hat⟩)
    | cons k front =>
      obtain ⟨rfl, rfl⟩ := List.cons.inj hplace
      rw [at?, hm, Option.bind_some] at hat
      exact .inr ⟨front, j, back, types, arguments, rfl, hat⟩
  · rintro (h | ⟨front, j, back, types, arguments, rfl, hat⟩)
    · obtain ⟨types, arguments, rfl⟩ := (calls_define_iff n).mp h
      exact ⟨[], i, rest, types, arguments, rfl, rfl⟩
    · exact ⟨i :: front, j, back, types, arguments, rfl, by rwa [at?, hm, Option.bind_some]⟩

/-- The depth never falls below that of the root, and is more than that where a call of `define` is around. -/
theorem depth_of_visitAt? {n : Node} {depth : Nat} {place : Place} {v : Visit}
    (h : n.visitAt? depth place = some v) : depth ≤ v.depth ∧ (depth < v.depth ↔ n.InDefine place) := by
  induction place generalizing n depth with
  | nil =>
    obtain rfl := Option.some.inj h
    exact ⟨Nat.le_refl _, iff_of_false (Nat.lt_irrefl _) n.not_inDefine_nil⟩
  | cons i rest ih =>
    rw [visitAt?] at h
    obtain ⟨m, hm, hv⟩ := Option.bind_eq_some_iff.mp h
    obtain ⟨hle, hiff⟩ := ih hv
    rw [inDefine_cons_iff hm]
    rw [within] at hle hiff
    by_cases hn : n.calls "define" = true
    · rw [if_pos hn] at hle
      exact ⟨by omega, iff_of_true (by omega) (.inl hn)⟩
    · rw [if_neg hn] at hle hiff
      exact ⟨hle, hiff.trans (or_iff_right hn).symm⟩

/-- **The depth tells what is around a place.** -/
theorem lt_depth_iff {tree : Node} {place : Place} {v : Visit} (h : tree.visitAt? 0 place = some v) :
    0 < v.depth ↔ tree.InDefine place := (depth_of_visitAt? h).2

/-! ## The reading order, with places -/

/-- All nodes of a tree in reading order, each with its place. -/
def tour (depth : Nat) (n : Node) : List (Place × Visit) :=
  ([], ⟨depth, n⟩) ::
    (n.parts.attach.mapIdx fun i m => (m.1.tour (n.within depth)).map fun v => (i :: v.1, v.2)).flatten
termination_by sizeOf n
decreasing_by exact sizeOf_lt_of_mem_parts m.2

theorem tour_eq (depth : Nat) (n : Node) :
    n.tour depth = ([], ⟨depth, n⟩) ::
      (n.parts.mapIdx fun i m => (m.tour (n.within depth)).map fun v => (i :: v.1, v.2)).flatten := by
  rw [tour]
  congr 2
  refine List.ext_getElem (by simp) fun i hi _ => ?_
  rw [List.getElem_mapIdx, List.getElem_mapIdx, List.getElem_attach]

theorem map_visit_tour (depth : Nat) (n : Node) : (n.tour depth).map (·.2) = n.visit depth := by
  induction n using ofParts generalizing depth with
  | node n ih =>
    rw [tour_eq, visit_eq, List.map_cons, List.map_flatten, List.flatMap]
    congr 2
    refine List.ext_getElem (by simp) fun i hi _ => ?_
    have hlt : i < n.parts.length := by simpa using hi
    rw [List.getElem_map, List.getElem_mapIdx, List.getElem_map, List.map_map,
      ← ih n.parts[i] (List.getElem_mem hlt)]
    rfl

theorem mem_tour_cases {depth : Nat} {n : Node} {place : Place} {v : Visit} :
    (place, v) ∈ n.tour depth ↔ (place = [] ∧ v = ⟨depth, n⟩) ∨
      ∃ i m rest, place = i :: rest ∧ n.parts[i]? = some m ∧ (rest, v) ∈ m.tour (n.within depth) := by
  rw [tour_eq, List.mem_cons, Prod.mk.injEq, List.mem_flatten]
  refine or_congr_right ⟨?_, ?_⟩
  · rintro ⟨l, hl, hmem⟩
    obtain ⟨i, hi, rfl⟩ := List.mem_mapIdx.mp hl
    obtain ⟨⟨rest, w⟩, hw, heq⟩ := List.mem_map.mp hmem
    obtain ⟨rfl, rfl⟩ := Prod.mk.inj heq
    exact ⟨i, n.parts[i], rest, rfl, List.getElem?_eq_getElem hi, hw⟩
  · rintro ⟨i, m, rest, rfl, hm, hw⟩
    obtain ⟨hi, rfl⟩ := List.getElem?_eq_some_iff.mp hm
    exact ⟨_, List.mem_mapIdx.mpr ⟨i, hi, rfl⟩, List.mem_map.mpr ⟨(rest, v), hw, rfl⟩⟩

/-- **Every place of a tree is visited, and nothing else.** -/
theorem mem_tour_iff {depth : Nat} {n : Node} {place : Place} {v : Visit} :
    (place, v) ∈ n.tour depth ↔ n.visitAt? depth place = some v := by
  induction place generalizing n depth with
  | nil =>
    rw [mem_tour_cases, visitAt?, Option.some.injEq, eq_comm (a := v)]
    refine ⟨?_, fun h => .inl ⟨rfl, h⟩⟩
    rintro (⟨-, h⟩ | ⟨i, m, rest, hnil, -⟩)
    · exact h
    · exact absurd hnil.symm (List.cons_ne_nil i rest)
  | cons i rest ih =>
    rw [mem_tour_cases, visitAt?, Option.bind_eq_some_iff]
    constructor
    · rintro (⟨hnil, -⟩ | ⟨j, m, rest', hplace, hm, hmem⟩)
      · exact absurd hnil (List.cons_ne_nil i rest)
      · obtain ⟨rfl, rfl⟩ := List.cons.inj hplace
        exact ⟨m, hm, ih.mp hmem⟩
    · rintro ⟨m, hm, hv⟩
      exact .inr ⟨i, m, rest, rfl, hm, ih.mpr hv⟩

/-- **No place is visited twice.** -/
theorem nodup_tour (depth : Nat) (n : Node) : ((n.tour depth).map (·.1)).Nodup := by
  induction n using ofParts generalizing depth with
  | node n ih =>
    -- the ways into one part start with its number
    have hin : ∀ {i : Nat} {ts : List (Place × Visit)} {place : Place},
        place ∈ (ts.map fun v => (i :: v.1, v.2)).map (·.1) → ∃ rest, place = i :: rest := by
      intro i ts place h
      obtain ⟨w, hw, rfl⟩ := List.mem_map.mp h
      obtain ⟨u, -, rfl⟩ := List.mem_map.mp hw
      exact ⟨u.1, rfl⟩
    rw [tour_eq, List.map_cons, List.nodup_cons, List.map_flatten, List.nodup_flatten]
    refine ⟨?_, ?_, ?_⟩
    · intro h
      obtain ⟨l, hl, hmem⟩ := List.mem_flatten.mp h
      obtain ⟨l', hl', rfl⟩ := List.mem_map.mp hl
      obtain ⟨i, hi, rfl⟩ := List.mem_mapIdx.mp hl'
      obtain ⟨rest, hrest⟩ := hin hmem
      exact absurd hrest.symm (List.cons_ne_nil i rest)
    · intro l hl
      obtain ⟨l', hl', rfl⟩ := List.mem_map.mp hl
      obtain ⟨i, hi, rfl⟩ := List.mem_mapIdx.mp hl'
      rw [List.map_map]
      have hpart := ih n.parts[i] (List.getElem_mem hi) (n.within depth)
      have hcons : ((i :: ·) ∘ fun v : Place × Visit => v.1) = Prod.fst ∘ fun v => (i :: v.1, v.2) := rfl
      rw [← hcons, ← List.map_map]
      exact hpart.map (List.cons_injective)
    · rw [List.pairwise_map, List.pairwise_iff_getElem]
      intro i j hi hj hij place hfirst hsecond
      rw [List.getElem_mapIdx] at hfirst hsecond
      obtain ⟨rest, rfl⟩ := hin hfirst
      obtain ⟨rest', heq⟩ := hin hsecond
      have := (List.cons.inj heq).1
      omega

theorem enumerates_visit (depth : Nat) (n : Node) :
    Enumerates (fun place v => n.visitAt? depth place = some v) (n.visit depth) :=
  ⟨n.tour depth, n.nodup_tour depth, fun _ _ => mem_tour_iff, n.map_visit_tour depth⟩

end ImportSurvey.Script.Node
