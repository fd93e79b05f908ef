import Mathlib.Data.List.Forall2
import ImportSurvey.Proofs.CarryingGroups

/-
  Texts joined by bars.

  Reading alternatives, a reader that comes to the bar behind a text goes on with the next text in the state that
  the text left (`readBranches_continues`): the alternatives found are put down, and flags and the names of groups
  stay.  So the alternatives of a joined text are those of its texts, one after the other, if each text leaves the
  flags as they are at the start and no two name a group alike (`readBranches_joined`).  Fuel is no matter: a text
  costs one for each alternative, of which it has at most one more than characters, and there are eight for each
  character.
-/
namespace ImportSurvey.Regex

/-! ## Alternatives before they are put together -/

/-- The alternatives up to the end of the group or of the text, one by one. -/
def readBranches : Nat → List Piece → Read (List Piece)
  | 0, _ => fail .nestedTooDeep
  | fuel + 1, done => do
    let p ← readSequence fuel []
    if (← peek) = some '|' then
      bump
      readBranches fuel (done ++ [p])
    else return done ++ [p]

theorem readAlternatives_eq (n : Nat) (done : List Piece) :
    readAlternatives n done = readBranches n done >>= fun ps => pure (alternation ps) := by
  induction n generalizing done with
  | zero => rfl
  | succ n ih =>
    rw [readAlternatives, readBranches, bind_assoc]
    refine congrArg _ (funext fun p => ?_)
    rw [bind_assoc]
    refine congrArg _ (funext fun c => ?_)
    by_cases hc : c = some '|'
    · rw [if_pos hc, if_pos hc, bind_assoc, ih]
    · rw [if_neg hc, if_neg hc, pure_bind]

/-- What follows a sequence: nothing, or a bar and further alternatives. -/
def goOn (fuel : Nat) (done : List Piece) : Read (List Piece) := do
  if (← peek) = some '|' then
    bump
    readBranches fuel done
  else return done

theorem readBranches_succ (n : Nat) (done : List Piece) :
    readBranches (n + 1) done = readSequence n [] >>= fun p => goOn n (done ++ [p]) := rfl

section

variable {s t : ReadState} {n : Nat} {done ps : List Piece}

theorem goOn_of_bar {cs : List Char} (hs : s.rest = '|' :: cs) :
    goOn n done s = readBranches n done { s with rest := cs } := by
  show (if s.rest.head? = some '|' then (do bump; readBranches n done) else pure done : Read _) s = _
  rw [hs, List.head?_cons, if_pos rfl]
  show readBranches n done { s with rest := s.rest.tail } = _
  rw [hs, List.tail_cons]

theorem goOn_of_no_bar (hs : s.rest.head? ≠ some '|') : goOn n done s = .ok (done, s) := by
  show (if s.rest.head? = some '|' then (do bump; readBranches n done) else pure done : Read _) s = _
  rw [if_neg hs]
  rfl

/-- How the alternatives that end in `t` go on where there is more behind, `new` being those found. -/
structure Continued (x : List Char) (known : List (List Char)) (s : ReadState) (n : Nat) (t : ReadState)
    (new : List Piece) : Prop where
  names : ∀ m ∈ s.names, m ∈ t.names
  some : new ≠ []
  few : new.length ≤ s.rest.length + 1
  goesOn : (∀ m ∈ t.names, m ∉ known) → ∀ n' done, n ≤ n' →
    readBranches n' done (s.extend x known) = goOn (n' - new.length) (done ++ new) (t.extend x known)

/-- **At the bar, a reader goes on with what it has found.**  By induction on the fuel, a bar within the text taking
one and the text behind the last sequence being what is behind the whole. -/
theorem readBranches_continues {x : List Char} (hx : Barred x) (known : List (List Char))
    (h : readBranches n done s = .ok (ps, t)) (hend : t.rest = []) (hfree : ¬ Stuck x t) :
    ∃ new, ps = done ++ new ∧ Continued x known s n t new := by
  induction n generalizing s done with
  | zero => cases h
  | succ n ih =>
    rw [readBranches_succ] at h
    obtain ⟨p, u, hsequence, hbehind⟩ := bind_eq_ok.mp h
    have hcarried (n' : Nat) (hle : n ≤ n') : CarriedTo x known s (readSequence n' []) p u :=
      (carriesGroups hx hle).sequence s [] p u hsequence
    have hfirst (hu : ¬ Stuck x u) (hnames : ∀ m ∈ u.names, m ∉ known) (n' : Nat) (done : List Piece)
        (hle : n + 1 ≤ n') :
        readBranches n' done (s.extend x known) = goOn (n' - 1) (done ++ [p]) (u.extend x known) := by
      obtain ⟨n', rfl⟩ : ∃ m, n' = m + 1 := ⟨n' - 1, by omega⟩
      have hrun := (hcarried n' (Nat.le_of_succ_le_succ hle)).carries.resolve_left hu hnames
      rw [readBranches_succ, bind_congr_run (k := fun _ => .ok (p, u.extend x known)) hrun]
      rfl
    have hnames := (hcarried n (le_refl n)).names
    have hshrinks := (hcarried n (le_refl n)).shrinks
    by_cases hbar : u.rest.head? = some '|'
    · obtain ⟨cs, hu⟩ : ∃ cs, u.rest = '|' :: cs := List.head?_eq_some_iff.mp hbar
      -- a bar of the text itself: the sequence before it is not at the end, so it cannot be stuck there
      rw [goOn_of_bar hu] at hbehind
      obtain ⟨new, rfl, hmore⟩ := ih hbehind
      refine ⟨p :: new, by rw [List.append_assoc]; rfl, fun m hm => hmore.names m (hnames m hm),
        List.cons_ne_nil p new, ?_, fun hknown n' done hle => ?_⟩
      · have hfew := hmore.few
        rw [hu] at hshrinks
        simp only [List.length_cons] at hshrinks hfew ⊢
        omega
      · have hrest : (u.extend x known).rest = '|' :: (cs ++ x) := by
          rw [ReadState.rest_extend, hu]
          rfl
        have hfree : ¬ Stuck x u := fun hstuck => by
          rw [hstuck.2.1] at hu
          cases hu
        rw [hfirst hfree (fun m hm => hknown m (hmore.names m hm)) n' done hle, goOn_of_bar hrest]
        have hgoes := hmore.goesOn hknown (n' - 1) (done ++ [p]) (by omega)
        rw [List.append_assoc, Nat.sub_sub, Nat.add_comm 1] at hgoes
        exact hgoes
    · -- the last sequence, and what is behind it is what is behind the whole
      rw [goOn_of_no_bar hbar] at hbehind
      obtain ⟨rfl, rfl⟩ := Prod.mk.inj (Except.ok.inj hbehind)
      exact ⟨[p], rfl, hnames, List.cons_ne_nil p [], Nat.le_add_left _ _, hfirst hfree⟩

end

/-! ## What a text is read as -/

/-- The alternatives of a text, and what holds behind it. -/
structure Reading where
  branches : List Piece
  flags : Flags
  names : List (List Char)

/-- The fuel for a text of this length. -/
def fuelFor (length : Nat) : Nat := 8 * length + 16

/-- What the text of a pattern is read as, if it is read to its end. -/
def reading? (cs : List Char) : Option Reading :=
  match (readBranches (fuelFor cs.length) []).run { rest := cs } with
  | .ok (branches, s) => if s.rest.isEmpty then some { branches, flags := s.flags, names := s.names } else none
  | .error _ => none

theorem reading?_eq_some_iff {cs : List Char} {d : Reading} : reading? cs = some d ↔
    readBranches (fuelFor cs.length) [] { rest := cs } =
      .ok (d.branches, { rest := [], flags := d.flags, names := d.names }) := by
  show (match readBranches (fuelFor cs.length) [] { rest := cs } with
    | .ok (branches, s) => if s.rest.isEmpty then some { branches, flags := s.flags, names := s.names } else none
    | .error _ => none) = some d ↔ _
  cases readBranches (fuelFor cs.length) [] { rest := cs } with
  | error f => exact ⟨fun h => (by cases h), fun h => (by cases h)⟩
  | ok r =>
    obtain ⟨branches, rest, flags, names⟩ := r
    constructor
    · intro h
      cases rest with
      | cons c rest => cases h
      | nil =>
        obtain rfl := Option.some.inj h
        rfl
    · intro h
      obtain ⟨rfl, hstate⟩ := Prod.mk.inj (Except.ok.inj h)
      obtain ⟨rfl, rfl, rfl⟩ := ReadState.mk.inj hstate
      rfl

/-- Behind the text, the reader is in the state that the text leaves. -/
structure Reading.Continues (d : Reading) (cs : List Char) : Prop where
  some : d.branches ≠ []
  few : d.branches.length ≤ cs.length + 1
  goesOn : ∀ x, Barred x → x = [] ∨ d.flags = {} → ∀ known, (∀ m ∈ d.names, m ∉ known) →
    ∀ n done, fuelFor cs.length ≤ n →
      readBranches n done { rest := cs ++ x, names := known } =
        goOn (n - d.branches.length) (done ++ d.branches) { rest := x, flags := d.flags, names := d.names ++ known }

theorem continues_of_reading? {cs : List Char} {d : Reading} (h : reading? cs = some d) : d.Continues cs := by
  have hrun := reading?_eq_some_iff.mp h
  have hcontinued (x : List Char) (hx : Barred x) (hflags : x = [] ∨ d.flags = {}) (known : List (List Char)) :
      Continued x known { rest := cs } (fuelFor cs.length) { rest := [], flags := d.flags, names := d.names }
        d.branches := by
    obtain ⟨new, hnew, hcontinued⟩ := readBranches_continues hx known hrun rfl fun hstuck =>
      hflags.elim hstuck.1 fun hflags => by
        have hspace := hstuck.2.2
        rw [hflags] at hspace
        cases hspace
    rwa [hnew, List.nil_append]
  have halone := hcontinued [] (.inl rfl) (.inl rfl) []
  exact ⟨halone.some, halone.few, fun x hx hflags known hnames n done hle =>
    (hcontinued x hx hflags known).goesOn hnames n done hle⟩

/-- Each text but the last leaves the flags as they are at the start, and no two name a group alike. -/
structure Separate (ds : List Reading) : Prop where
  flags : ∀ d ∈ ds.dropLast, d.flags = {}
  names : ds.Pairwise fun d e => ∀ m ∈ d.names, m ∉ e.names

theorem Separate.flags_head {d d' : Reading} {ds : List Reading} (h : Separate (d :: d' :: ds)) : d.flags = {} := by
  refine h.flags d ?_
  rw [List.dropLast_cons_of_ne_nil (List.cons_ne_nil d' ds)]
  exact List.mem_cons_self ..

theorem Separate.tail {d d' : Reading} {ds : List Reading} (h : Separate (d :: d' :: ds)) : Separate (d' :: ds) := by
  refine ⟨fun e he => h.flags e ?_, (List.pairwise_cons.mp h.names).2⟩
  rw [List.dropLast_cons_of_ne_nil (List.cons_ne_nil d' ds)]
  exact List.mem_cons_of_mem d he

/-- The names of the first text are new to the others as well. -/
theorem Separate.unknown {d : Reading} {ds : List Reading} (h : Separate (d :: ds)) {known : List (List Char)}
    (hknown : ∀ e ∈ d :: ds, ∀ m ∈ e.names, m ∉ known) : ∀ e ∈ ds, ∀ m ∈ e.names, m ∉ d.names ++ known := by
  intro e he m hm hknow
  rcases List.mem_append.mp hknow with hknow | hknow
  · exact (List.pairwise_cons.mp h.names).1 e he m hknow hm
  · exact hknown e (List.mem_cons_of_mem d he) m hm hknow

/-- The alternatives of a joined text are those of its texts. -/
theorem readBranches_joined {css : List (List Char)} {ds : List Reading}
    (h : List.Forall₂ (fun cs d => reading? cs = some d) css ds) (hne : css ≠ []) (hds : Separate ds)
    (known : List (List Char)) (hknown : ∀ d ∈ ds, ∀ m ∈ d.names, m ∉ known) {n : Nat} (done : List Piece)
    (hn : fuelFor (['|'].intercalate css).length ≤ n) :
    ∃ t, readBranches n done { rest := ['|'].intercalate css, names := known } =
      .ok (done ++ ds.flatMap (·.branches), t) ∧ t.rest = [] := by
  induction h generalizing known n done with
  | nil => exact absurd rfl hne
  | @cons cs d css ds hcs hmore ih =>
    have hcontinues := continues_of_reading? hcs
    have hnames := hknown d (List.mem_cons_self ..)
    cases hmore with
    | nil =>
      rw [List.intercalate_singleton] at hn ⊢
      have hrun := hcontinues.goesOn [] (.inl rfl) (.inl rfl) known hnames n done hn
      rw [List.append_nil, goOn_of_no_bar (by rintro ⟨⟩)] at hrun
      rw [List.flatMap_singleton]
      exact ⟨_, hrun, rfl⟩
    | @cons cs' d' css ds hcs' hmore =>
      rw [List.intercalate_cons_cons, List.append_assoc, List.singleton_append] at hn ⊢
      generalize hrest : ['|'].intercalate (cs' :: css) = rest at hn ih ⊢
      have hflags := hds.flags_head
      have hfew := hcontinues.few
      rw [fuelFor, List.length_append, List.length_cons] at hn
      have hrun := hcontinues.goesOn ('|' :: rest) (.inr ⟨rest, rfl⟩) (.inr hflags) known hnames n done (by
        rw [fuelFor]
        omega)
      -- with the flags from the start, the rest is read as if it were all
      rw [goOn_of_bar rfl, hflags] at hrun
      rw [hrun, List.flatMap_cons, ← List.append_assoc]
      refine ih (List.cons_ne_nil cs' css) hds.tail (d.names ++ known) (hds.unknown hknown) (done ++ d.branches) ?_
      rw [fuelFor]
      omega

end ImportSurvey.Regex
