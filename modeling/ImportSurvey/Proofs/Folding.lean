import Mathlib.Data.List.Basic
import ImportSurvey.Proofs.Spelling

/-
  What simplification leaves of a path.

  On paper, a path is simplified on a stack (`settle`): a step up takes back the name before it, goes nowhere right
  under the root, and stays where a relative path has no name before it.  The steps up that find no name to take
  back are the *unmatched* ones; all names that stay are the same, whatever becomes of these steps.

  `fold` treats unmatched steps in its own way: it takes back whatever was put down last, a step up as well, and
  puts a step up on the root.  So of `k` unmatched steps it keeps `k % 2`, below a root as elsewhere
  (`components_normalize`), and that is the lexical simplification iff the path is relative and `k` is at most one,
  or it is absolute and `k` is even (`isLexical_normalize_iff`).

  Both stacks have one form at all times, so one induction does for both (`foldl_shape`).
-/
namespace ImportSurvey.Path

/-! ## Components of a path that is made of components -/

/-- The components of a path made of folded components are these. -/
theorem Folded.components_ofComponents {cs : List Component} (h : Folded cs) : (ofComponents cs).components = cs := by
  have hback {l : List Component} (hl : ∀ c ∈ l, c.Ordinary) :
      (l.map (·.text.toList)).filterMap Component.ofSegment? = l := by
    rw [List.filterMap_map]
    exact (List.filterMap_congr fun c hc => (hl c hc).stands).trans (List.filterMap_some)
  have hsegments {c : Component} {l : List Component} (hl : ∀ c' ∈ c :: l, c'.Ordinary) :
      segments (spell (c :: l)) = (c :: l).map (·.text.toList) := by
    refine segments_intercalate (List.cons_ne_nil _ _) fun s hs => ?_
    obtain ⟨c', hc', rfl⟩ := List.mem_map.mp hs
    exact (hl c' hc').no_sep
  rcases h with hall | ⟨below, rfl, hall⟩
  · cases cs with
    | nil => decide
    | cons c cs =>
      have hc := hall c List.mem_cons_self
      have htext : (ofComponents (c :: cs)).text.toList = spell (c :: cs) :=
        ofComponents_of_ne_root fun rest hf => hc.ne_root (List.cons.inj hf).1
      have hsegs := (congrArg segments htext).trans (hsegments hall)
      rw [List.map_cons] at hsegs
      rw [components, hsegs]
      dsimp only
      rw [if_neg fun habs => hc.solid.1 ((isAbsolute_iff hsegs).mp habs).1, if_neg hc.solid.2, hc.stands,
        hback fun c' hc' => hall c' (List.mem_cons_of_mem c hc')]
      rfl
  · cases below with
    | nil => decide
    | cons c cs =>
      have hsegs : segments (ofComponents (.root :: c :: cs)).text.toList = [] :: (c :: cs).map (·.text.toList) := by
        rw [ofComponents_root, segments_sep, hsegments hall]
      rw [components, hsegs]
      dsimp only
      rw [if_pos ((isAbsolute_iff hsegs).mpr ⟨rfl, List.cons_ne_nil _ _⟩), hback hall]

/-! ## Simplification on paper -/

/-- One component onto the stack: a step up takes back the name before it, goes nowhere right under the root, and
stays if there is nothing to take back but steps up. -/
def settle (stack : List Component) : Component → List Component
  | .here => stack
  | .root => [.root]
  | .name n => stack ++ [.name n]
  | .up =>
    match stack.getLast? with
    | some (.name _) => stack.dropLast
    | some .root => stack
    | _ => stack ++ [.up]

/-- The path simplified component by component, from left to right. -/
def lexical (p : Path) : Path := ofComponents (p.components.foldl settle [])

/-- How many steps up find no name to take back, with `names` names in front. -/
def unmatchedFrom : Nat → List Component → Nat
  | _, [] => 0
  | names, .name _ :: rest => unmatchedFrom (names + 1) rest
  | 0, .up :: rest => unmatchedFrom 0 rest + 1
  | names + 1, .up :: rest => unmatchedFrom names rest
  | names, .root :: rest => unmatchedFrom names rest
  | names, .here :: rest => unmatchedFrom names rest

/-- How many steps up have no name before them to take back. -/
def unmatched (p : Path) : Nat := unmatchedFrom 0 p.components

/-- What is to be said of the simplification `q` of a path. -/
structure IsLexical (p q : Path) : Prop where
  eq : q = p.lexical
  /-- no step up stays below a root -/
  absolute : p.isAbsolute = true → .up ∉ q.components
  /-- elsewhere the unmatched ones stay, in front of the names -/
  relative : p.isAbsolute = false →
    ∃ names : List String, q.components = List.replicate p.unmatched .up ++ names.map .name

/-! ## Both stacks -/

/-- The names that are not taken back, those of `names` first. -/
def survivorsFrom : List String → List Component → List String
  | names, [] => names
  | names, .name n :: rest => survivorsFrom (names ++ [n]) rest
  | names, .up :: rest => survivorsFrom names.dropLast rest
  | names, .root :: rest => survivorsFrom names rest
  | names, .here :: rest => survivorsFrom names rest

def survivors (p : Path) : List String := survivorsFrom [] p.components

/-- Steps up and then names, below a root or not. -/
def shape (absolute : Bool) (ups : Nat) (names : List String) : List Component :=
  (if absolute then [.root] else []) ++ List.replicate ups .up ++ names.map .name

theorem shape_append (absolute : Bool) (ups : Nat) (names more : List String) :
    shape absolute ups (names ++ more) = shape absolute ups names ++ more.map .name := by
  rw [shape, shape, List.map_append, List.append_assoc _ _ (List.map _ _)]

theorem count_up_shape (absolute : Bool) (ups : Nat) (names : List String) :
    (shape absolute ups names).count .up = ups := by
  have hnames : (names.map Component.name).count .up = 0 := by simp [List.count_eq_zero]
  have hfront : (if absolute then [Component.root] else []).count .up = 0 := by cases absolute <;> rfl
  rw [shape, List.count_append, List.count_append, List.count_replicate_self, hnames, hfront]
  omega

section

variable {absolute : Bool} {ups : Nat} {names : List String}

theorem fold_up_names (n : String) : fold (shape absolute ups (names ++ [n])) .up = shape absolute ups names := by
  rw [shape_append, fold]
  simp

theorem fold_up_bare (k : Nat) : fold (shape absolute (k % 2) []) .up = shape absolute ((k + 1) % 2) [] := by
  have hnext : k % 2 = 0 ∧ (k + 1) % 2 = 1 ∨ k % 2 = 1 ∧ (k + 1) % 2 = 0 := by omega
  rcases hnext with ⟨h, h'⟩ | ⟨h, h'⟩
  · rw [h, h']
    cases absolute with
    | false => rfl
    | true => rfl
  · rw [h, h']
    cases absolute with
    | false => rfl
    | true => rfl

theorem settle_up_names (n : String) : settle (shape absolute ups (names ++ [n])) .up = shape absolute ups names := by
  rw [shape_append, settle]
  simp

theorem settle_up_relative (k : Nat) : settle (shape false k []) .up = shape false (k + 1) [] := by
  have hlast : (shape false k []).getLast? = none ∨ (shape false k []).getLast? = some .up := by
    cases k with
    | zero => exact .inl rfl
    | succ k =>
      right
      simp [shape, List.replicate_succ']
  have hmore : shape false k [] ++ [.up] = shape false (k + 1) [] := by
    simp [shape, List.replicate_succ']
  rw [settle, ← hmore]
  rcases hlast with h | h
  · rw [h]
  · rw [h]

end

/-- **Names are put down and taken back; what becomes of the unmatched steps up depends on their number alone.** -/
theorem foldl_shape {step : List Component → Component → List Component} {absolute : Bool} {ups : Nat → Nat}
    (hname : ∀ stack n, step stack (.name n) = stack ++ [.name n])
    (hback : ∀ k names n, step (shape absolute k (names ++ [n])) .up = shape absolute k names)
    (hup : ∀ k, step (shape absolute (ups k) []) .up = shape absolute (ups (k + 1)) [])
    {cs : List Component} (hcs : ∀ c ∈ cs, c.Ordinary) (k : Nat) (names : List String) :
    cs.foldl step (shape absolute (ups k) names) =
      shape absolute (ups (k + unmatchedFrom names.length cs)) (survivorsFrom names cs) := by
  induction cs generalizing k names with
  | nil => rfl
  | cons c cs ih =>
    have hrest : ∀ c' ∈ cs, c'.Ordinary := fun c' hc' => hcs c' (List.mem_cons_of_mem c hc')
    rw [List.foldl_cons]
    cases c with
    | root => exact absurd rfl (hcs .root List.mem_cons_self).ne_root
    | here => exact absurd rfl (hcs .here List.mem_cons_self).solid.2
    | name n =>
      have happend := (shape_append absolute (ups k) names [n]).symm
      rw [hname, show [Component.name n] = [n].map .name from rfl, happend, ih hrest, List.length_append]
      rfl
    | up =>
      -- the step is unmatched iff no name is left to take back
      rcases List.eq_nil_or_concat names with rfl | ⟨names, n, rfl⟩
      · rw [hup, ih hrest, show k + 1 + unmatchedFrom [].length cs = k + (unmatchedFrom 0 cs + 1) by
          rw [List.length_nil]; omega]
        rfl
      · rw [List.concat_eq_append, hback, ih hrest, survivorsFrom, List.dropLast_concat, List.length_append]
        rfl

/-- A path is simplified on a stack that starts with the root, or empty. -/
theorem foldl_components {step : List Component → Component → List Component} (hhere : ∀ s, step s .here = s)
    (hroot : step [] .root = [.root]) (ups : Nat → Nat) (hzero : ups 0 = 0) (p : Path)
    (hrun : ∀ cs, (∀ c ∈ cs, c.Ordinary) → ∀ k names, cs.foldl step (shape p.isAbsolute (ups k) names) =
      shape p.isAbsolute (ups (k + unmatchedFrom names.length cs)) (survivorsFrom names cs)) :
    p.components.foldl step [] = shape p.isAbsolute (ups p.unmatched) p.survivors := by
  have hstart (cs : List Component) (hcs : ∀ c ∈ cs, c.Ordinary) :=
    (hrun cs hcs 0 []).trans (by rw [Nat.zero_add, List.length_nil])
  rw [hzero] at hstart
  rw [unmatched, survivors]
  cases habs : p.isAbsolute with
  | true =>
    obtain ⟨cs, hcs, hall⟩ := components_of_absolute habs
    rw [habs] at hstart
    rw [hcs, List.foldl_cons, hroot]
    exact hstart cs hall
  | false =>
    rw [habs] at hstart
    obtain ⟨cs, hcs | hcs, hall⟩ := components_of_relative habs
    · rw [hcs]
      exact hstart cs hall
    · rw [hcs, List.foldl_cons, hhere]
      exact hstart cs hall

theorem foldl_fold (p : Path) :
    p.components.foldl fold [] = shape p.isAbsolute (p.unmatched % 2) p.survivors := by
  refine foldl_components (fun _ => rfl) rfl (fun k => k % 2) rfl p fun cs hcs k names => ?_
  exact foldl_shape (fun _ _ => rfl) (fun _ _ n => fold_up_names n) fold_up_bare hcs k names

/-- How many of the unmatched steps up stay on paper: none below a root. -/
def kept (absolute : Bool) (k : Nat) : Nat := if absolute then 0 else k

theorem foldl_settle (p : Path) :
    p.components.foldl settle [] = shape p.isAbsolute (kept p.isAbsolute p.unmatched) p.survivors := by
  refine foldl_components (fun _ => rfl) rfl (kept p.isAbsolute) ?_ p fun cs hcs k names => ?_
  · cases p.isAbsolute with
    | false => rfl
    | true => rfl
  · refine foldl_shape (fun _ _ => rfl) (fun _ _ n => settle_up_names n) (fun k => ?_) hcs k names
    cases p.isAbsolute with
    | false => exact settle_up_relative k
    | true => rfl

/-! ## The two simplifications -/

/-- The names that stay are names of the path. -/
theorem ordinary_survivorsFrom {cs : List Component} (hcs : ∀ c ∈ cs, c = .root ∨ c = .here ∨ c.Ordinary)
    {names : List String} (hnames : ∀ n ∈ names, (Component.name n).Ordinary) :
    ∀ n ∈ survivorsFrom names cs, (Component.name n).Ordinary := by
  induction cs generalizing names with
  | nil => exact hnames
  | cons c cs ih =>
    have hrest : ∀ c' ∈ cs, c' = .root ∨ c' = .here ∨ c'.Ordinary :=
      fun c' hc' => hcs c' (List.mem_cons_of_mem c hc')
    cases c with
    | root => exact ih hrest hnames
    | here => exact ih hrest hnames
    | up => exact ih hrest fun n hn => hnames n (List.dropLast_subset names hn)
    | name n =>
      have hn : (Component.name n).Ordinary :=
        ((hcs _ List.mem_cons_self).resolve_left Component.noConfusion).resolve_left Component.noConfusion
      refine ih hrest fun n' hn' => ?_
      rcases List.mem_append.mp hn' with hn' | hn'
      · exact hnames n' hn'
      · exact List.mem_singleton.mp hn' ▸ hn

theorem folded_shape (absolute : Bool) (ups : Nat) {names : List String}
    (h : ∀ n ∈ names, (Component.name n).Ordinary) : Folded (shape absolute ups names) := by
  have hall : ∀ c ∈ List.replicate ups .up ++ names.map Component.name, c.Ordinary := by
    intro c hc
    rcases List.mem_append.mp hc with hc | hc
    · exact List.eq_of_mem_replicate hc ▸ Component.ordinary_up
    · obtain ⟨n, hn, rfl⟩ := List.mem_map.mp hc
      exact h n hn
  cases absolute with
  | false => exact .inl hall
  | true => exact .inr ⟨_, rfl, hall⟩

theorem ordinary_survivors (p : Path) : ∀ n ∈ p.survivors, (Component.name n).Ordinary :=
  ordinary_survivorsFrom (fun _ hc => mem_components hc) fun _ hn => absurd hn List.not_mem_nil

/-- **Of the unmatched steps up every second one takes back the one before.** -/
theorem components_normalize (p : Path) :
    p.normalize.components = shape p.isAbsolute (p.unmatched % 2) p.survivors := by
  rw [normalize, foldl_fold, (folded_shape _ _ p.ordinary_survivors).components_ofComponents]

/-- On paper they all stay, or none does. -/
theorem components_lexical (p : Path) :
    p.lexical.components = shape p.isAbsolute (kept p.isAbsolute p.unmatched) p.survivors := by
  rw [lexical, foldl_settle, (folded_shape _ _ p.ordinary_survivors).components_ofComponents]

theorem isLexical_lexical (p : Path) : p.IsLexical p.lexical where
  eq := rfl
  absolute := by
    intro habs
    rw [← List.count_eq_zero, components_lexical, count_up_shape, habs]
    rfl
  relative := by
    intro habs
    refine ⟨p.survivors, ?_⟩
    rw [components_lexical, habs]
    rfl

theorem normalize_eq_lexical_iff (p : Path) :
    p.normalize = p.lexical ↔ p.unmatched % 2 = kept p.isAbsolute p.unmatched := by
  constructor
  · intro h
    have hups := congrArg (fun q : Path => q.components.count .up) h
    simp only [components_normalize, components_lexical, count_up_shape] at hups
    exact hups
  · intro h
    rw [normalize, lexical, foldl_fold, foldl_settle, h]

/-- **Simplification is lexical iff at most one step up is unmatched, or, below a root, an even number.** -/
theorem isLexical_normalize_iff (p : Path) :
    p.IsLexical p.normalize ↔ if p.isAbsolute then p.unmatched % 2 = 0 else p.unmatched ≤ 1 := by
  have hkept : p.unmatched % 2 = kept p.isAbsolute p.unmatched ↔
      if p.isAbsolute then p.unmatched % 2 = 0 else p.unmatched ≤ 1 := by
    rw [kept]
    split
    · exact Iff.rfl
    · omega
  rw [← hkept, ← normalize_eq_lexical_iff]
  constructor
  · intro h
    exact h.eq
  · intro h
    rw [h]
    exact p.isLexical_lexical

/-- Two steps up from a relative path take each other back, and a step up from the root stays. -/
theorem not_isLexical_of_steps_up :
    ¬ (⟨"../.."⟩ : Path).IsLexical (normalize ⟨"../.."⟩) ∧ ¬ (⟨"/.."⟩ : Path).IsLexical (normalize ⟨"/.."⟩) := by
  constructor
  · intro h
    exact absurd h.eq (by decide)
  · intro h
    exact absurd (h.absolute rfl) (by decide)

end ImportSurvey.Path
