import ImportSurvey.Script.Program
import ImportSurvey.Proofs.Places

/-
  Reading in the order of the text.

  A production looks ahead, tries readings that it gives up, and puts its tree together from parts that it kept for
  a while.  That the literals of a tree stand in it in the order in which they stand in the text is said for one
  production by `Orderly`: if the literals that it has got from elsewhere are in order and before the current
  token, those of its answer are in order and before the token that it comes to.  This is kept by sequencing
  (`Orderly.bind`), so it holds for every production by the way the production is put together.

  What an answer holds of literals is a matter of its type (`Literals`).  `InOrder` is the same as `Orderly` for
  a production that has got nothing from elsewhere, and is a class, so that the productions that a production runs
  one after the other need not be named again.

  Most productions put the parts together as they read them (`bind`), and may leave parts out of the answer: the
  literals of an answer need only be among those that were read, in their order.  A few change what they are given
  (`framed`, `through`), such as the chain of calls and members that takes the value before it into each link.
-/
namespace ImportSurvey.Script

variable {α β γ : Type}

/-! ## Ascending positions -/

/-- The positions ascend from `low` on, and none of them is `high` or behind it. -/
structure Spans (low high : Nat) (ps : List Nat) : Prop where
  le : low ≤ high
  ascending : ps.Pairwise (· < ·)
  inside : ∀ x ∈ ps, low ≤ x ∧ x < high

namespace Spans

variable {low mid high : Nat} {ps qs : List Nat}

theorem nil (h : low ≤ high) : Spans low high [] := ⟨h, List.Pairwise.nil, nofun⟩

theorem singleton {x : Nat} (hlow : low ≤ x) (hhigh : x < high) : Spans low high [x] := by
  refine ⟨by omega, List.pairwise_singleton _ _, fun y hy => ?_⟩
  obtain rfl := List.mem_singleton.mp hy
  exact ⟨hlow, hhigh⟩

theorem sublist (h : Spans low high qs) (hsub : ps.Sublist qs) : Spans low high ps :=
  ⟨h.le, h.ascending.sublist hsub, fun x hx => h.inside x (hsub.subset hx)⟩

theorem mono {low' high' : Nat} (h : Spans low high ps) (hlow : low' ≤ low) (hhigh : high ≤ high') :
    Spans low' high' ps := by
  refine ⟨by have := h.le; omega, h.ascending, fun x hx => ?_⟩
  have := h.inside x hx
  omega

theorem append (h : Spans low mid ps) (h' : Spans mid high qs) : Spans low high (ps ++ qs) := by
  refine ⟨Nat.le_trans h.le h'.le, List.pairwise_append.mpr ⟨h.ascending, h'.ascending, ?_⟩, fun x hx => ?_⟩
  · intro x hx y hy
    have := h.inside x hx
    have := h'.inside y hy
    omega
  · rcases List.mem_append.mp hx with hx | hx
    · have := h.inside x hx
      have := h'.le
      omega
    · have := h'.inside x hx
      have := h.le
      omega

theorem split (h : Spans low high (ps ++ qs)) : ∃ mid, Spans low mid ps ∧ Spans mid high qs := by
  have hps := h.sublist (List.sublist_append_left ps qs)
  have hqs := h.sublist (List.sublist_append_right ps qs)
  cases qs with
  | nil => exact ⟨high, hps, nil (Nat.le_refl high)⟩
  | cons x rest =>
    obtain ⟨-, -, hacross⟩ := List.pairwise_append.mp h.ascending
    have hx := hqs.inside x List.mem_cons_self
    refine ⟨x, ⟨hx.1, hps.ascending, fun y hy => ⟨(hps.inside y hy).1, hacross y hy x List.mem_cons_self⟩⟩,
      ⟨Nat.le_of_lt hx.2, hqs.ascending, fun y hy => ⟨?_, (hqs.inside y hy).2⟩⟩⟩
    rcases List.mem_cons.mp hy with rfl | hy
    · exact Nat.le_refl y
    · exact Nat.le_of_lt (List.rel_of_pairwise_cons hqs.ascending hy)

end Spans

/-! ## Literals in a tree -/

namespace Node

/-- All nodes of a tree in reading order. -/
def nodes (n : Node) : List Node := (n.visit 0).map (·.node)

theorem map_node_visit (depth : Nat) (n : Node) : (n.visit depth).map (·.node) = n.nodes := by
  rw [nodes]
  induction n using ofParts generalizing depth with
  | node n ih =>
    rw [visit_eq depth, visit_eq 0, List.map_cons, List.map_cons, List.map_flatMap, List.map_flatMap]
    congr 1
    exact List.flatMap_congr fun m hm => (ih m hm _).trans (ih m hm _).symm

theorem nodes_eq (n : Node) : n.nodes = n :: n.parts.flatMap nodes := by
  rw [nodes, visit_eq, List.map_cons, List.map_flatMap]
  congr 1
  exact List.flatMap_congr fun m _ => map_node_visit _ m

/-- The literals that a node holds itself. -/
def ownLiterals : Node → List Literal
  | .text l | .template l | .importFrom _ l | .exportAll _ l => [l]
  | .exportNamed _ source _ | .importEquals _ source => source.toList
  | _ => []

/-- Where the literals of a tree stand, in reading order. -/
def literalPositions (n : Node) : List Nat := n.nodes.flatMap fun m => m.ownLiterals.map (·.position)

theorem literalPositions_eq (n : Node) : n.literalPositions =
    n.ownLiterals.map (·.position) ++ n.parts.flatMap literalPositions := by
  rw [literalPositions, nodes_eq, List.flatMap_cons, List.flatMap_assoc]
  rfl

end Node

/-! ## Literals in what is read -/

/-- Where the literals in a value of the type stand, in reading order. -/
class Literals (α : Type) where
  positions : α → List Nat

export Literals (positions)

instance (priority := low) : Literals α := ⟨fun _ => []⟩

instance : Literals Literal := ⟨fun l => [l.position]⟩
instance : Literals Node := ⟨Node.literalPositions⟩
instance [Literals α] : Literals (List α) := ⟨fun as => as.flatMap positions⟩
instance [Literals α] : Literals (Option α) := ⟨fun a => a.toList.flatMap positions⟩
instance [Literals α] [Literals β] : Literals (α × β) := ⟨fun x => positions x.1 ++ positions x.2⟩
instance : Literals Phrase := ⟨fun p => positions p.node⟩
instance : Literals Binding := ⟨fun b => positions b.nodes⟩
instance : Literals Key := ⟨fun k => positions k.parts⟩
instance : Literals Parameters := ⟨fun ps => positions ps.parts⟩
instance : Literals Function.Parts := ⟨fun p => positions p.nodes⟩
instance : Literals Function.Declared := ⟨fun d => positions d.node⟩
instance : Literals Function.Head := ⟨fun h => positions h.nodes⟩
instance : Literals Expression.Part := ⟨fun p => positions p.nodes⟩
instance : Literals Expression.Chain := ⟨fun c => positions c.node ++ positions c.types⟩
instance : Literals Declaration.Declared := ⟨fun d => positions d.node⟩
instance : Literals Declaration.Variables := ⟨fun v => positions v.nodes⟩

/-- A type whose values hold no literals. -/
class Plain (α : Type) [Literals α] : Prop where
  positions_eq (a : α) : positions a = []

instance : Plain Unit := ⟨fun _ => rfl⟩
instance : Plain Bool := ⟨fun _ => rfl⟩
instance : Plain Nat := ⟨fun _ => rfl⟩
instance : Plain String := ⟨fun _ => rfl⟩
instance : Plain Token := ⟨fun _ => rfl⟩
instance : Plain Context := ⟨fun _ => rfl⟩
instance : Plain State := ⟨fun _ => rfl⟩
instance : Plain (ForInStep Unit) := ⟨fun _ => rfl⟩
instance : Plain Linkage.Specifier := ⟨fun _ => rfl⟩
instance : Plain Expression.Guess := ⟨fun _ => rfl⟩

section Positions

variable [Literals α] [Literals β]

@[simp] theorem positions_plain [Plain α] (a : α) : positions a = [] := Plain.positions_eq a

@[simp] theorem positions_nil : positions ([] : List α) = [] := rfl

@[simp] theorem positions_cons (a : α) (as : List α) : positions (a :: as) = positions a ++ positions as := rfl

@[simp] theorem positions_append (as bs : List α) : positions (as ++ bs) = positions as ++ positions bs :=
  List.flatMap_append

@[simp] theorem positions_flatten (as : List (List α)) : positions as.flatten = positions as := by
  induction as with
  | nil => rfl
  | cons a as ih => rw [List.flatten_cons, positions_append, positions_cons, ih]

theorem positions_flatMap {f : α → List β} (h : ∀ a, positions (f a) = positions a) (as : List α) :
    positions (as.flatMap f) = positions as := by
  induction as with
  | nil => rfl
  | cons a as ih => rw [List.flatMap_cons, positions_append, positions_cons, h, ih]

@[simp] theorem positions_none : positions (none : Option α) = [] := rfl

@[simp] theorem positions_some (a : α) : positions (some a) = positions a := List.append_nil _

@[simp] theorem positions_getD (as : Option (List α)) : positions (as.getD []) = positions as := by
  cases as <;> simp

@[simp] theorem positions_pair (x : α × β) : positions x = positions x.1 ++ positions x.2 := rfl

instance [Plain α] : Plain (List α) := ⟨fun _ => List.flatMap_eq_nil_iff.mpr fun a _ => Plain.positions_eq a⟩

instance [Plain α] : Plain (Option α) :=
  ⟨fun _ => List.flatMap_eq_nil_iff.mpr fun a _ => Plain.positions_eq a⟩

instance [Plain α] [Plain β] : Plain (α × β) := ⟨fun x => by simp⟩

end Positions

@[simp] theorem positions_literal (l : Literal) : positions l = [l.position] := rfl

/-- A value that holds no literals. -/
class Blank [Literals α] (a : α) : Prop where
  positions_eq : positions a = []

section Blanks

variable [Literals α]

instance [Plain α] (a : α) : Blank a := ⟨positions_plain a⟩

instance : Blank ([] : List α) := ⟨rfl⟩

instance : Blank (none : Option α) := ⟨rfl⟩

instance (a : α) [h : Blank a] : Blank (some a) := ⟨by rw [positions_some, h.positions_eq]⟩

end Blanks

section Nodes

open Node

theorem positions_node (n : Node) : positions n = positions n.ownLiterals ++ positions n.parts := by
  have hown : positions n.ownLiterals = n.ownLiterals.map (·.position) := (List.map_eq_flatMap).symm
  rw [hown]
  exact literalPositions_eq n

@[simp] theorem positions_name (w : String) : positions (name w) = [] := positions_node (name w)

@[simp] theorem positions_member (o : Node) (w : String) : positions (member o w) = positions o := by
  rw [positions_node (member o w)]
  exact List.append_nil (positions o)

@[simp] theorem positions_text (l : Literal) : positions (text l) = [l.position] := positions_node (text l)

@[simp] theorem positions_template (l : Literal) : positions (template l) = [l.position] := positions_node (template l)

@[simp] theorem positions_array (es : List Node) : positions (array es) = positions es := positions_node (array es)

@[simp] theorem positions_call (c : Node) (ts as : List Node) :
    positions (call c ts as) = positions c ++ (positions ts ++ positions as) := by
  rw [← positions_append, ← positions_cons]
  exact positions_node (call c ts as)

@[simp] theorem positions_importCall (s : Node) (os : List Node) :
    positions (importCall s os) = positions s ++ positions os := positions_node (importCall s os)

@[simp] theorem positions_importFrom (t : Bool) (l : Literal) : positions (importFrom t l) = [l.position] :=
  positions_node (importFrom t l)

@[simp] theorem positions_exportAll (t : Bool) (l : Literal) : positions (exportAll t l) = [l.position] :=
  positions_node (exportAll t l)

@[simp] theorem positions_exportNamed (t : Bool) (l : Option Literal) (inner : List Node) :
    positions (exportNamed t l inner) = positions l ++ positions inner := positions_node (exportNamed t l inner)

@[simp] theorem positions_importEquals (t : Bool) (l : Option Literal) :
    positions (importEquals t l) = positions l := by
  rw [positions_node (importEquals t l)]
  exact List.append_nil (positions l)

@[simp] theorem positions_group (ps : List Node) : positions (group ps) = positions ps := positions_node (group ps)

end Nodes

@[simp] theorem positions_phrase (p : Phrase) : positions p = positions p.node := rfl
@[simp] theorem positions_binding (b : Binding) : positions b = positions b.nodes := rfl
@[simp] theorem positions_key (k : Key) : positions k = positions k.parts := rfl
@[simp] theorem positions_parameters (ps : Parameters) : positions ps = positions ps.parts := rfl
@[simp] theorem positions_parts (p : Function.Parts) : positions p = positions p.nodes := rfl
@[simp] theorem positions_function (d : Function.Declared) : positions d = positions d.node := rfl
@[simp] theorem positions_head (h : Function.Head) : positions h = positions h.nodes := rfl
@[simp] theorem positions_part (p : Expression.Part) : positions p = positions p.nodes := rfl
@[simp] theorem positions_chain (c : Expression.Chain) : positions c = positions c.node ++ positions c.types := rfl
@[simp] theorem positions_declared (d : Declaration.Declared) : positions d = positions d.node := rfl
@[simp] theorem positions_variables (v : Declaration.Variables) : positions v = positions v.nodes := rfl

/-! ## Places in a text -/

/-- Where the current token starts. -/
def State.here (s : State) : Nat := s.token.start

/-- How many characters a token has at least, as far as it matters: literals are not empty, and from some
signs a character is taken off. -/
def Lexeme.extent : Lexeme → Nat
  | .text _ | .template _ => 1
  | .sign "<<" | .sign "<=" | .sign "/=" => 2
  | _ => 0

/-- What follows the token is not before its end. -/
def State.Sound (s : State) : Prop := s.here + s.token.lexeme.extent ≤ s.position

/-! ## Productions that keep the order -/

/-- With literals read `before` that are in order and stand before the current token, the production answers
with literals that are in order and stand before the token it comes to. -/
def Orderly [Literals α] (before : List Nat) (p : Parse α) : Prop :=
  ∀ ⦃c s low a s'⦄, p c s = (some a, s') → s.Sound → Spans low s.here before →
    s'.Sound ∧ s.here ≤ s'.here ∧ Spans low s'.here (positions a)

/-- The literals in what the production answers are those that it read, in order. -/
class InOrder [Literals α] (p : Parse α) : Prop where
  orderly : Orderly [] p

section Rules

variable [Literals α] [Literals β] [Literals γ] {before : List Nat}

namespace Orderly

theorem mono {before' : List Nat} {p : Parse α} (h : Orderly before p) (hsub : before.Sublist before') :
    Orderly before' p :=
  fun _ _ _ _ _ hrun hsound hbefore => h hrun hsound (hbefore.sublist hsub)

/-- What was read before may be left out of the answer. -/
theorem last {p : Parse α} [h : InOrder p] : Orderly before p := h.orderly.mono (List.nil_sublist before)

theorem giveUp : Orderly before (Parse.giveUp : Parse α) := fun _ _ _ _ _ hrun => nomatch hrun

theorem pure {a : α} (h : (positions a).Sublist before) : Orderly before (Pure.pure a) := by
  intro c s low a' s' hrun hsound hbefore
  obtain ⟨ha, rfl⟩ := Prod.mk.inj hrun
  obtain rfl := Option.some.inj ha
  exact ⟨hsound, Nat.le_refl _, hbefore.sublist h⟩

end Orderly

omit [Literals α] [Literals β] in
theorem bind_eq_some {p : Parse α} {f : α → Parse β} {c : Context} {s s'' : State} {b : β}
    (h : (p >>= f) c s = (some b, s'')) : ∃ a s', p c s = (some a, s') ∧ f a c s' = (some b, s'') := by
  simp only [Bind.bind, ReaderT.bind, OptionT.bind, OptionT.mk, StateT.bind] at h
  rcases hp : p c s with ⟨_ | a, s'⟩
  · rw [hp] at h
    cases h
  · rw [hp] at h
    exact ⟨a, s', rfl, h⟩

namespace Orderly

/-- A production that takes what was read last. -/
theorem framed (before : List Nat) {own : List Nat} {p : Parse α} {f : α → Parse β} (hp : Orderly own p)
    (hf : ∀ a, Orderly (before ++ positions a) (f a)) : Orderly (before ++ own) (p >>= f) := by
  intro c s low b s'' hrun hsound hbefore
  obtain ⟨a, s', hfirst, hrest⟩ := bind_eq_some hrun
  obtain ⟨mid, hbefore, hown⟩ := hbefore.split
  obtain ⟨hsound', hle, hspans⟩ := hp hfirst hsound hown
  obtain ⟨hsound'', hle', hspans'⟩ := hf a hrest hsound' (hbefore.append hspans)
  exact ⟨hsound'', Nat.le_trans hle hle', hspans'⟩

/-- A production that takes all that was read before. -/
theorem through {p : Parse α} {f : α → Parse β} (hp : Orderly before p) (hf : ∀ a, Orderly (positions a) (f a)) :
    Orderly before (p >>= f) := framed [] hp hf

/-- A production that takes what was read before, where what follows goes on with its answer or, in its place, with
what was read before. -/
theorem throughOrBack {p : Parse α} {f : α → Parse β} (hp : Orderly before p)
    (hf : ∀ a, Orderly (positions a) (f a) ∨ Orderly before (f a)) : Orderly before (p >>= f) := by
  intro c s low b s'' hrun hsound hbefore
  obtain ⟨a, s', hfirst, hrest⟩ := bind_eq_some hrun
  obtain ⟨hsound', hle, hspans⟩ := hp hfirst hsound hbefore
  -- what was read before is still in place if the answer is dropped: the place has only moved on
  obtain ⟨hsound'', hle', hspans'⟩ := (hf a).elim (fun h => h hrest hsound' hspans) fun h =>
    h hrest hsound' (hbefore.mono (Nat.le_refl low) hle)
  exact ⟨hsound'', Nat.le_trans hle hle', hspans'⟩

/-- **Sequencing keeps the order**: what the first production reads stands behind what was read before. -/
theorem seq {p : Parse α} {f : α → Parse β} (hp : Orderly [] p) (hf : ∀ a, Orderly (before ++ positions a) (f a)) :
    Orderly before (p >>= f) := by simpa using framed before hp hf

theorem bind {p : Parse α} [hp : InOrder p] {f : α → Parse β} (hf : ∀ a, Orderly (before ++ positions a) (f a)) :
    Orderly before (p >>= f) := hp.orderly.seq hf

theorem ite {c : Prop} [Decidable c] {p q : Parse α} (hp : Orderly before p) (hq : Orderly before q) :
    Orderly before (if c then p else q) := by
  split
  · exact hp
  · exact hq

omit [Literals β] in
theorem pure_bind {b : β} {f : β → Parse α} (h : Orderly before (f b)) : Orderly before (Pure.pure b >>= f) := h

/-- A production that may be left out. -/
theorem optional {c : Prop} [Decidable c] {p : Parse Unit} [InOrder p] {f : Unit → Parse α}
    (hf : ∀ u, Orderly before (f u)) : Orderly before (if c then p >>= f else f ()) :=
  .ite (.bind fun u => by simpa using hf u) (hf ())

/-- A production that is left out if something holds. -/
theorem otherwise {c : Prop} [Decidable c] {p : Parse Unit} [InOrder p] {f : Unit → Parse α}
    (hf : ∀ u, Orderly before (f u)) : Orderly before (if c then f () else p >>= f) :=
  .ite (hf ()) (.bind fun u => by simpa using hf u)

/-- One of two productions, and then the same for both. -/
theorem either {c : Prop} [Decidable c] {p q : Parse β} [InOrder p] [InOrder q] {f : β → Parse α}
    (hf : ∀ b, Orderly (before ++ positions b) (f b)) : Orderly before (if c then p >>= f else q >>= f) :=
  .ite (.bind hf) (.bind hf)

end Orderly

/-! ## Combinators -/

instance inOrder_pure {a : α} [h : Blank a] : InOrder (pure a) :=
  ⟨.pure (by rw [h.positions_eq])⟩

instance inOrder_giveUp : InOrder (Parse.giveUp : Parse α) := ⟨.giveUp⟩

/-- Productions one after the other, of which only the last answers with literals. -/
instance inOrder_bind [Plain α] {p : Parse α} {f : α → Parse β} [InOrder p] [hf : ∀ a, InOrder (f a)] :
    InOrder (p >>= f) := ⟨.bind fun a => by simpa using (hf a).orderly⟩

instance inOrder_ite {c : Prop} [Decidable c] {p q : Parse α} [hp : InOrder p] [hq : InOrder q] :
    InOrder (if c then p else q) := ⟨.ite hp.orderly hq.orderly⟩

instance inOrder_read : InOrder (read : Parse Context) := by
  refine ⟨fun c s low a s' hrun hsound hbefore => ?_⟩
  obtain ⟨ha, rfl⟩ := Prod.mk.inj hrun
  exact ⟨hsound, Nat.le_refl _, by simpa using hbefore⟩

instance inOrder_get : InOrder (get : Parse State) := by
  refine ⟨fun c s low a s' hrun hsound hbefore => ?_⟩
  obtain ⟨ha, rfl⟩ := Prod.mk.inj hrun
  exact ⟨hsound, Nat.le_refl _, by simpa using hbefore⟩

theorem inOrder_modify {f : State → State} (hsound : ∀ s, s.Sound → (f s).Sound)
    (hhere : ∀ s, s.Sound → s.here ≤ (f s).here) : InOrder (modify f : Parse Unit) := by
  refine ⟨fun c s low a s' hrun hs hbefore => ?_⟩
  obtain ⟨-, rfl⟩ := Prod.mk.inj hrun
  exact ⟨hsound s hs, hhere s hs, by simpa using hbefore.mono (Nat.le_refl _) (hhere s hs)⟩

theorem Orderly.discard {p : Parse α} (h : Orderly [] p) : Orderly [] (discard p) :=
  h.seq fun _ => .pure (List.nil_sublist _)

instance inOrder_discard {p : Parse α} [h : InOrder p] : InOrder (discard p) := ⟨h.orderly.discard⟩

theorem Orderly.within {change : Context → Context} {p : Parse α} (h : Orderly before p) :
    Orderly before (Parse.within change p) := fun _ _ _ _ _ hrun => h hrun

instance inOrder_within {change : Context → Context} {p : Parse α} [h : InOrder p] :
    InOrder (Parse.within change p) := ⟨h.orderly.within⟩

instance inOrder_freely {p : Parse α} [h : InOrder p] : InOrder (Parse.freely p) := ⟨h.orderly.within⟩

/-- Whatever is looked at ahead, the place stays the same. -/
instance inOrder_ahead [Plain α] (p : Parse α) : InOrder (Parse.ahead p) := by
  refine ⟨fun c s low a s' hrun hsound hbefore => ?_⟩
  obtain ⟨-, rfl⟩ := Prod.mk.inj hrun
  rw [positions_plain]
  exact ⟨hsound, Nat.le_refl _, hbefore⟩

instance inOrder_looksLike (p : Parse Bool) : InOrder (Parse.looksLike p) := by
  unfold Parse.looksLike
  infer_instance

theorem Orderly.attempt {p : Parse α} (h : Orderly [] p) : Orderly [] (Parse.attempt p) := by
  intro c s low a s' hrun hsound hbefore
  rw [Parse.attempt] at hrun
  rcases hp : p c s with ⟨_ | b, s''⟩
  · rw [hp] at hrun
    obtain ⟨ha, rfl⟩ := Prod.mk.inj hrun
    obtain rfl := Option.some.inj ha
    exact ⟨hsound, Nat.le_refl _, hbefore⟩
  · rw [hp] at hrun
    obtain ⟨ha, rfl⟩ := Prod.mk.inj hrun
    obtain rfl := Option.some.inj ha
    rw [positions_some]
    exact h hp hsound hbefore

instance inOrder_attempt {p : Parse α} [h : InOrder p] : InOrder (Parse.attempt p) := ⟨h.orderly.attempt⟩

instance inOrder_bound : InOrder Parse.bound := by
  unfold Parse.bound
  infer_instance

theorem Orderly.collect {p : Parse (Option α)} (h : Orderly [] p) (n : Nat) : Orderly [] (Parse.collect p n) := by
  induction n with
  | zero => exact .giveUp
  | succ n ih =>
    rw [Parse.collect]
    refine .seq h fun a => ?_
    cases a with
    | none => exact .pure (List.nil_sublist _)
    | some a => exact .seq ih fun as => .pure (by simp)

theorem Orderly.many {p : Parse (Option α)} (h : Orderly [] p) : Orderly [] (Parse.many p) :=
  .bind fun n => (h.collect n).mono (List.nil_sublist _)

instance inOrder_many {p : Parse (Option α)} [h : InOrder p] : InOrder (Parse.many p) := ⟨h.orderly.many⟩

end Rules

end ImportSurvey.Script
