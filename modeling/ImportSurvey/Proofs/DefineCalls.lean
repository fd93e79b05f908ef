import ImportSurvey.Script.Extract
import ImportSurvey.Proofs.Places

/-
  References inside calls of `define`.

  A call of `require` names a dependency of a definition only if a call of `define` is around it, however deep it
  stands in functions, lists and other calls, and wherever other definitions begin and end beside it.  The rule for
  such scripts counts the calls around a node, and `Node.Gives` says in terms of places what the count is for:
  which names are found, in lists of dependencies and in calls inside a definition.  The rule finds each of these
  once and no others (`enumerates_amd`).

  The count comes down the tree with the walk.  A walk that keeps one counter instead, which goes up at a call of
  `define` and down behind it, comes to the same, because the counter is back where it was after every subtree
  (`countedWalk_eq`); the induction is over the parts of a node, with just that as the invariant.
-/
namespace ImportSurvey.Script

variable {r : Reference}

/-! ## Names in lists of dependencies -/

def elementsOf : Node → List Node
  | .array elements => elements
  | _ => []

/-- The reference that an element of a list of dependencies is. -/
def listedReference? : Node → Option Reference
  | .text l => if l.value ∈ magicNames ∨ l.value = "" then none else some (.plain l.value .amd)
  | _ => none

theorem listedReference?_eq_some_iff {n : Node} : listedReference? n = some r ↔
    ∃ l, n = .text l ∧ l.value ≠ "" ∧ l.value ∉ magicNames ∧ r = .plain l.value .amd := by
  cases n with
  | text l =>
    rw [listedReference?, Option.ite_none_left_eq_some, not_or, Option.some.injEq]
    constructor
    · rintro ⟨⟨hmagic, hname⟩, rfl⟩
      exact ⟨l, rfl, hname, hmagic, rfl⟩
    · rintro ⟨l', hl, hname, hmagic, rfl⟩
      obtain rfl := Node.text.inj hl
      exact ⟨⟨hmagic, hname⟩, rfl⟩
  | _ => exact ⟨nofun, nofun⟩

theorem map_sight_plain (l : Literal) : (sight l (.plain · .amd)).map (·.reference) =
    (if l.value = "" then none else some (Reference.plain l.value .amd)).toList := by
  rw [sight]
  by_cases hempty : l.value = ""
  · rw [if_pos (by simpa using hempty), if_pos hempty]
    rfl
  · rw [if_neg (by simpa using hempty), if_neg hempty]
    rfl

theorem map_listedLiterals (a : Node) :
    (listedLiterals a).flatMap (fun l => (sight l (.plain · .amd)).map (·.reference)) =
      (elementsOf a).flatMap fun e => (listedReference? e).toList := by
  cases a with
  | array elements =>
    rw [listedLiterals, elementsOf]
    induction elements with
    | nil => rfl
    | cons e elements ih =>
      rw [List.filterMap_cons, List.flatMap_cons, ← ih]
      cases e with
      | text l =>
        by_cases hmagic : l.value ∈ magicNames
        · have hlist : magicNames.contains l.value = true := List.contains_iff_mem.mpr hmagic
          simp only [listedReference?, hlist, hmagic, if_true, true_or, Option.toList_none, List.nil_append]
        · have hlist : magicNames.contains l.value = false := by simpa using hmagic
          simp only [listedReference?, hlist, hmagic, Bool.false_eq_true, if_false, false_or, List.flatMap_cons,
            map_sight_plain]
      | _ => rfl
  | _ => rfl

/-- The lists among the arguments of a call give a reference for each of their elements that names something. -/
theorem enumerates_listed (arguments : List Node) :
    Enumerates (fun (o : Nat × Nat) r => ∃ elements l, arguments[o.1]? = some (.array elements) ∧
        elements[o.2]? = some (.text l) ∧ l.value ≠ "" ∧ l.value ∉ magicNames ∧ r = .plain l.value .amd)
      ((listedSightings arguments).map (·.reference)) := by
  have hlist : (listedSightings arguments).map (·.reference) =
      arguments.flatMap fun a => (elementsOf a).flatMap fun e => (listedReference? e).toList := by
    rw [listedSightings, List.flatMap_assoc, List.map_flatMap]
    refine List.flatMap_congr fun a _ => ?_
    rw [List.map_flatMap]
    exact map_listedLiterals a
  have helements (a : Node) := (Enumerates.positions (elementsOf a)).flatMap fun e =>
    Enumerates.ofOption (listedReference? e)
  have hlists := ((Enumerates.positions arguments).flatMap helements).relabel
    (e := fun o => (o.1, o.2.1)) fun o o' h => by
      obtain ⟨h1, h2⟩ := Prod.mk.inj h
      exact Prod.ext h1 (Prod.ext h2 rfl)
  rw [hlist]
  refine hlists.congr fun ⟨i, j⟩ r => ⟨?_, ?_⟩
  · rintro ⟨⟨i', j', _⟩, heq, a, ha, e, he, hr⟩
    obtain ⟨rfl, rfl⟩ := Prod.mk.inj heq
    obtain ⟨l, rfl, hname, hmagic, rfl⟩ := listedReference?_eq_some_iff.mp hr
    cases a with
    | array elements => exact ⟨elements, l, ha, he, hname, hmagic, rfl⟩
    | _ => cases he
  · rintro ⟨elements, l, ha, he, hname, hmagic, rfl⟩
    exact ⟨(i, j, ()), rfl, .array elements, ha, .text l, he,
      listedReference?_eq_some_iff.mpr ⟨l, rfl, hname, hmagic, rfl⟩⟩

/-! ## One call -/

/-- Where in a call a name is found. -/
inductive Finding where
  /-- an element of a list that is an argument -/
  | listed (argument element : Nat)
  /-- the only argument of the call -/
  | alone
deriving DecidableEq, Repr

/-- What a call says, with `depth` calls of `define` around it. -/
inductive CallGives (depth : Nat) : Node → Finding → Reference → Prop where
  | listed {f : String} {types arguments elements : List Node} {i j : Nat} {l : Literal} :
    f = "define" ∨ f = "require" → arguments[i]? = some (.array elements) → elements[j]? = some (.text l) →
    l.value ≠ "" → l.value ∉ ["require", "exports", "module"] →
    CallGives depth (.call (.name f) types arguments) (.listed i j) (.plain l.value .amd)
  | alone {types : List Node} {argument : Node} {l : Literal} :
    0 < depth → argument.literal? = some l → l.value ≠ "" →
    CallGives depth (.call (.name "require") types [argument]) .alone (.plain l.value .amd)

theorem onlyLiteral_eq_some_iff {arguments : List Node} {l : Literal} :
    onlyLiteral arguments = some l ↔ ∃ argument, arguments = [argument] ∧ argument.literal? = some l := by
  rcases arguments with - | ⟨argument, - | ⟨argument', rest⟩⟩
  · exact ⟨nofun, nofun⟩
  · exact ⟨fun h => ⟨argument, rfl, h⟩, fun ⟨_, heq, h⟩ => (List.cons.inj heq).1 ▸ h⟩
  · exact ⟨nofun, nofun⟩

theorem enumerates_listed_call {f : String} (hf : f = "define" ∨ f = "require") (depth : Nat)
    (types arguments : List Node) :
    Enumerates (fun o r => (∃ i j, o = .listed i j) ∧ CallGives depth (.call (.name f) types arguments) o r)
      ((listedSightings arguments).map (·.reference)) := by
  have hlisted := (enumerates_listed arguments).relabel (e := fun o => Finding.listed o.1 o.2) fun o o' h =>
    Prod.ext (Finding.listed.inj h).1 (Finding.listed.inj h).2
  refine hlisted.congr fun o r => ⟨?_, ?_⟩
  · rintro ⟨⟨i, j⟩, rfl, elements, l, ha, he, hname, hmagic, rfl⟩
    exact ⟨⟨i, j, rfl⟩, .listed hf ha he hname hmagic⟩
  · rintro ⟨⟨i, j, rfl⟩, hgives⟩
    cases hgives with
    | listed hf ha he hname hmagic => exact ⟨(i, j), rfl, _, _, ha, he, hname, hmagic, rfl⟩

theorem enumerates_alone (depth : Nat) (types arguments : List Node) :
    Enumerates (fun o r => o = .alone ∧ CallGives depth (.call (.name "require") types arguments) o r)
      ((if depth = 0 then [] else sight? (onlyLiteral arguments) (.plain · .amd)).map (·.reference)) := by
  have hoption : (if depth = 0 then [] else sight? (onlyLiteral arguments) (.plain · .amd)).map (·.reference) =
      (if depth = 0 then none else (onlyLiteral arguments).bind fun l =>
        if l.value = "" then none else some (Reference.plain l.value .amd)).toList := by
    by_cases hdepth : depth = 0
    · rw [if_pos hdepth, if_pos hdepth]
      rfl
    · rw [if_neg hdepth, if_neg hdepth]
      cases onlyLiteral arguments with
      | none => rfl
      | some l => exact map_sight_plain l
  rw [hoption]
  refine ((Enumerates.ofOption _).relabel (e := fun _ => Finding.alone) fun _ _ _ => rfl).congr fun o r => ⟨?_, ?_⟩
  · rintro ⟨-, rfl, hsome⟩
    obtain ⟨hdepth, hbind⟩ := Option.ite_none_left_eq_some.mp hsome
    obtain ⟨l, honly, hplain⟩ := Option.bind_eq_some_iff.mp hbind
    obtain ⟨hname, hr⟩ := Option.ite_none_left_eq_some.mp hplain
    obtain ⟨argument, rfl, hl⟩ := onlyLiteral_eq_some_iff.mp honly
    obtain rfl := Option.some.inj hr
    exact ⟨rfl, .alone (Nat.pos_of_ne_zero hdepth) hl hname⟩
  · rintro ⟨rfl, hgives⟩
    cases hgives with
    | alone hdepth hl hname =>
      refine ⟨(), rfl, Option.ite_none_left_eq_some.mpr ⟨Nat.ne_of_gt hdepth, Option.bind_eq_some_iff.mpr ⟨_, hl, ?_⟩⟩⟩
      exact Option.ite_none_left_eq_some.mpr ⟨hname, rfl⟩

theorem amdSightings_of_other {n : Node} (hdefine : ∀ types arguments, n ≠ .call (.name "define") types arguments)
    (hrequire : ∀ types arguments, n ≠ .call (.name "require") types arguments) (depth : Nat) :
    amdSightings depth n = [] := by
  rw [amdSightings.eq_def]
  split
  · exact absurd rfl (hdefine _ _)
  · exact absurd rfl (hrequire _ _)
  · rfl

/-- **What the rule sees at a node is what a call there says.** -/
theorem enumerates_amdSightings (depth : Nat) (n : Node) :
    Enumerates (CallGives depth n) ((amdSightings depth n).map (·.reference)) := by
  by_cases hdefine : ∃ types arguments, n = .call (.name "define") types arguments
  · obtain ⟨types, arguments, rfl⟩ := hdefine
    refine (enumerates_listed_call (.inl rfl) depth types arguments).congr fun o r => ⟨And.right, fun h => ⟨?_, h⟩⟩
    generalize hcall : Node.call (.name "define") types arguments = n at h
    cases h with
    | listed => exact ⟨_, _, rfl⟩
    | alone => exact absurd (Node.name.inj (Node.call.inj hcall).1) (by decide)
  by_cases hrequire : ∃ types arguments, n = .call (.name "require") types arguments
  · obtain ⟨types, arguments, rfl⟩ := hrequire
    rw [amdSightings, List.map_append]
    refine ((enumerates_listed_call (.inr rfl) depth types arguments).append
      (enumerates_alone depth types arguments) ?_).congr fun o r => ⟨?_, fun h => ?_⟩
    · rintro o r r' ⟨⟨i, j, rfl⟩, -⟩ ⟨heq, -⟩
      cases heq
    · rintro (⟨-, h⟩ | ⟨-, h⟩) <;> exact h
    · cases h with
      | listed hf ha he hname hmagic => exact .inl ⟨⟨_, _, rfl⟩, .listed hf ha he hname hmagic⟩
      | alone hdepth hl hname => exact .inr ⟨rfl, .alone hdepth hl hname⟩
  · push Not at hdefine hrequire
    rw [amdSightings_of_other hdefine hrequire]
    refine ⟨[], List.nodup_nil, fun o r => ⟨nofun, fun h => ?_⟩, rfl⟩
    cases h with
    | listed hf =>
      rcases hf with rfl | rfl
      · exact absurd rfl (hdefine _ _)
      · exact absurd rfl (hrequire _ _)
    | alone => exact absurd rfl (hrequire _ _)

/-! ## Whole scripts -/

/-- What the calls of a script say: a name in a list that is an argument of a call of `define` or `require`, and
the name that is the only argument of a call of `require` inside a call of `define`. -/
inductive Node.Gives (tree : Node) : Node.Place × Finding → Reference → Prop where
  | listed {place : Node.Place} {f : String} {types arguments elements : List Node} {i j : Nat} {l : Literal} :
    tree.at? place = some (.call (.name f) types arguments) → f = "define" ∨ f = "require" →
    arguments[i]? = some (.array elements) → elements[j]? = some (.text l) →
    l.value ≠ "" → l.value ∉ ["require", "exports", "module"] →
    Gives tree (place, .listed i j) (.plain l.value .amd)
  | alone {place : Node.Place} {types : List Node} {argument : Node} {l : Literal} :
    tree.at? place = some (.call (.name "require") types [argument]) → tree.InDefine place →
    argument.literal? = some l → l.value ≠ "" →
    Gives tree (place, .alone) (.plain l.value .amd)

/-- The rule for `define` and `require` finds what the calls of a script say, each of it once. -/
theorem enumerates_amd (exotic : List String) (tree : Node) :
    Enumerates tree.Gives (references ⟨[.amd], exotic⟩ tree) := by
  have hlist : references ⟨[.amd], exotic⟩ tree =
      (tree.visit 0).flatMap fun v => (amdSightings v.depth v.node).map (·.reference) := by
    rw [references, List.flatMap_cons, List.flatMap_nil, List.append_nil, allSightings, List.map_flatMap]
    rfl
  rw [hlist]
  refine ((tree.enumerates_visit 0).flatMap fun v => enumerates_amdSightings v.depth v.node).congr ?_
  rintro ⟨place, o⟩ r
  constructor
  · rintro ⟨⟨depth, n⟩, hv, hgives⟩
    have hat := fun {m : Node} (hm : n = m) => (Node.at?_eq_some_iff 0).mpr ⟨depth, hm ▸ hv⟩
    cases hgives with
    | listed hf ha he hname hmagic => exact .listed (hat rfl) hf ha he hname hmagic
    | alone hdepth hl hname => exact .alone (hat rfl) ((Node.lt_depth_iff hv).mp hdepth) hl hname
  · intro hgives
    cases hgives with
    | listed hat hf ha he hname hmagic =>
      obtain ⟨depth, hv⟩ := (Node.at?_eq_some_iff 0).mp hat
      exact ⟨_, hv, .listed hf ha he hname hmagic⟩
    | alone hat hdefine hl hname =>
      obtain ⟨depth, hv⟩ := (Node.at?_eq_some_iff 0).mp hat
      exact ⟨_, hv, .alone ((Node.lt_depth_iff hv).mpr hdefine) hl hname⟩

/-! ## One counter for the whole walk -/

/-- What the rule for `define` and `require` sees in a tree, walked with one counter that goes up at a call
of `define` and down behind it. -/
def countedWalk (n : Node) : StateM Nat (List Sighting) := do
  let seen := amdSightings (← get) n
  if n.calls "define" then modify (· + 1)
  let inside ← n.parts.attach.mapM fun m => countedWalk m.1
  if n.calls "define" then modify (· - 1)
  return seen ++ inside.flatten
termination_by sizeOf n
decreasing_by exact Node.sizeOf_lt_of_mem_parts m.2

theorem bind_stateM_eq {α β σ : Type} {walk : StateM σ α} {next : α → StateM σ β} {state state' : σ} {a : α}
    (h : walk state = (a, state')) : (walk >>= next) state = next a state' := by
  have hbind : (walk >>= next) state = next (walk state).1 (walk state).2 := rfl
  rw [hbind, h]

/-- A walk over several things, each of which leaves the state as it was. -/
theorem mapM_stateM_eq {α β σ : Type} {walk : α → StateM σ β} {f : α → β} {state : σ} {xs : List α}
    (h : ∀ x ∈ xs, walk x state = (f x, state)) : xs.mapM walk state = (xs.map f, state) := by
  induction xs with
  | nil => rfl
  | cons x xs ih =>
    have hfirst := h x List.mem_cons_self
    have hrest := ih fun y hy => h y (List.mem_cons_of_mem x hy)
    rw [List.mapM_cons, bind_stateM_eq hfirst, bind_stateM_eq hrest]
    rfl

/-- What is seen at a node, and then in its parts. -/
theorem seen_eq (n : Node) (depth : Nat) :
    (n.visit depth).flatMap (fun v => amdSightings v.depth v.node) = amdSightings depth n ++
      (n.parts.attach.map fun m => (m.1.visit (n.within depth)).flatMap fun v =>
        amdSightings v.depth v.node).flatten := by
  have hattach (f : Node → List Sighting) : (n.parts.attach.map fun m => f m.1) = n.parts.map f := by
    rw [List.map_attach_eq_pmap, List.pmap_eq_map]
  rw [Node.visit_eq, List.flatMap_cons, List.flatMap_assoc, List.flatMap_def,
    hattach fun m => (m.visit (n.within depth)).flatMap fun v => amdSightings v.depth v.node]

/-- **The counter is back where it was after every subtree**, and what is seen is what the rule sees. -/
theorem countedWalk_eq (n : Node) (depth : Nat) :
    countedWalk n depth = ((n.visit depth).flatMap fun v => amdSightings v.depth v.node, depth) := by
  induction n using Node.ofParts generalizing depth with
  | node n ih =>
    have hparts : n.parts.attach.mapM (fun m => countedWalk m.1) (n.within depth) =
        (n.parts.attach.map fun m => (m.1.visit (n.within depth)).flatMap fun v => amdSightings v.depth v.node,
          n.within depth) := mapM_stateM_eq fun m _ => ih m.1 m.2 (n.within depth)
    rw [countedWalk, seen_eq]
    rw [Node.within] at hparts ⊢
    have hget : (get : StateM Nat Nat) depth = (depth, depth) := rfl
    rw [bind_stateM_eq hget]
    by_cases hdefine : n.calls "define" = true
    · rw [if_pos hdefine] at hparts ⊢
      have hup : (modify (· + 1) : StateM Nat Unit) depth = ((), depth + 1) := rfl
      simp only [hdefine, if_true]
      rw [bind_stateM_eq hup, bind_stateM_eq hparts]
      rfl
    · rw [if_neg hdefine] at hparts ⊢
      simp only [hdefine]
      exact bind_stateM_eq hparts

/-- **References of this kind are found by what is around them**: the rule finds what the calls of a script
say, each of it once, and a walk with one counter sees the same and leaves the counter as it was. -/
theorem found_by_nesting (exotic : List String) (tree : Node) :
    Enumerates tree.Gives (references ⟨[.amd], exotic⟩ tree) ∧
      ∀ (n : Node) (depth : Nat), countedWalk n depth =
        ((n.visit depth).flatMap fun v => amdSightings v.depth v.node, depth) :=
  ⟨enumerates_amd exotic tree, countedWalk_eq⟩

end ImportSurvey.Script
