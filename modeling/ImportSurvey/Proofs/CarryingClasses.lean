import ImportSurvey.Proofs.Carrying

/-
  Escapes and classes with more text behind them.

  A class is read to its closing bracket, so what stands behind it does not matter.  Three readers look further
  than they take: a range asks for the character after the present one, a named class looks for its colon, and
  the hyphens that open a class are counted by what is left.  For each of them something that only more text
  supplies is ruled out: by an end that would be reached, by the bar that no name holds, by hyphens that are
  taken one by one.
-/
namespace ImportSurvey.Regex

section

variable {α β : Type} {x : List Char} {known : List (List Char)} {s : ReadState}

/-! ## Escapes -/

theorem carried_charOfCode (n : Nat) : Carried x known s (charOfCode n) (charOfCode n) := by
  by_cases h : n.isValidChar
  · rw [charOfCode, dif_pos h]
    exact carried_pure _
  · rw [charOfCode, dif_neg h]
    exact carried_fail _ _

theorem carried_readHex (hx : Barred x) (width : Nat) : Carried x known s (readHex width) (readHex width) := by
  rw [readHex]
  refine carried_skipSpace.bind fun _ t _ => carried_peek_bind hx (fun _ _ _ => carried_fail _ _) fun c ht => ?_
  split
  · exact carried_fail _ _
  · refine (carried_bump ht).bind fun _ u _ => carried_takeUntil_bind rfl fun digits v => carried_get_bind ?_
    dsimp only [ReadState.extend]
    refine Carried.ite (fun _ => carried_fail_bind _ _ _) fun _ => ?_
    cases hexValue _ with
    | none => exact carried_fail _ _
    | some n => exact carried_charOfCode n
  · refine carried_get_bind ?_
    dsimp only
    rw [ReadState.rest_extend, ReadState.flags_extend]
    by_cases hlong : (t.rest.take width).length < width
    · rw [if_pos hlong]
      exact carried_fail_bind _ _ _
    · have hwidth : width ≤ t.rest.length := by
        rw [List.length_take] at hlong
        omega
      rw [List.take_append_of_le_length hwidth, List.drop_append_of_le_length hwidth, if_neg hlong, if_neg hlong]
      cases hexValue (t.rest.take width) with
      | none => exact carried_fail _ _
      | some n =>
        refine (carried_set (t.rest.drop width) (by simp) rfl).bind fun _ u _ => ?_
        exact Carried.ite (fun _ => carried_fail_bind _ _ _) fun _ => carried_charOfCode n

/-- The set of a property, if there is one of the name. -/
def propertyFound (negated : Bool) : Option CharSet → Read CharSet
  | none => fail .unknownProperty
  | some set => do
    let set := foldSet (← get).flags set
    return if negated then .complement set else set

theorem carried_readProperty (hx : Barred x) (negated : Bool) :
    Carried x known s (readProperty negated) (readProperty negated) := by
  rw [readProperty]
  refine carried_get_bind ?_
  dsimp only [ReadState.extend]
  refine Carried.ite (fun _ => carried_fail_bind _ _ _) fun _ => ?_
  have hfound (found : Option CharSet) (t : ReadState) :
      Carried x known t (propertyFound negated found) (propertyFound negated found) := by
    cases found with
    | none => exact carried_fail _ _
    | some set => exact carried_get_bind (carried_pure _)
  refine carried_skipSpace.bind fun _ t _ => carried_peek_bind hx (fun _ _ _ => carried_fail_bind _ _ _)
    fun c ht => ?_
  split
  · exact carried_fail_bind _ _ _
  · exact carried_fail_bind _ _ _
  · refine (carried_bump ht).bind fun _ u _ => carried_takeUntil_bind rfl fun name v => ?_
    dsimp only
    split
    · exact (carried_pure _).bind fun found w _ => hfound found w
    · split
      · exact (carried_pure _).bind fun found w _ => hfound found w
      · exact (carried_pure _).bind fun found w _ => hfound found w
  · exact (carried_bump ht).bind fun _ u _ => (carried_pure _).bind fun found v _ => hfound found v

theorem skipped_append {flag : Bool} {cs : List Char} {d : Char} {ds : List Char}
    (h : (if flag then withoutSpace cs else cs) = d :: ds) (x : List Char) :
    (if flag then withoutSpace (cs ++ x) else cs ++ x) = d :: (ds ++ x) := by
  cases flag with
  | false =>
    rw [if_neg Bool.false_ne_true] at h ⊢
    rw [h, List.cons_append]
  | true =>
    rw [if_pos rfl] at h ⊢
    rw [(withoutSpace_append cs x).1 (by rw [h]; exact List.cons_ne_nil d ds), h, List.cons_append]

theorem length_skipped_le (flag : Bool) (cs : List Char) :
    (if flag then withoutSpace cs else cs).length ≤ cs.length := by
  split
  · exact (length_withoutSpace_le cs).1
  · exact le_refl _

theorem carried_readWordBoundary (hx : Barred x) : Carried x known s readWordBoundary readWordBoundary := by
  rw [readWordBoundary]
  refine carried_get_bind ?_
  rw [ReadState.rest_extend, ReadState.flags_extend]
  cases hs : s.rest with
  | nil =>
    rcases hx with rfl | ⟨y, rfl⟩
    · exact carried_pure _
    · exact carried_pure _
  | cons c cs =>
    by_cases hc : c = '{'
    · subst hc
      rw [List.cons_append]
      cases hskipped : (if s.flags.ignoreSpace = true then withoutSpace cs else cs) with
      | nil =>
        simp only [hskipped]
        exact carried_fail _ _
      | cons d ds =>
        simp only [hskipped, skipped_append hskipped x]
        have hshrinks : (d :: ds).length ≤ s.rest.length := by
          rw [← hskipped, hs]
          exact Nat.le_succ_of_le (length_skipped_le _ cs)
        refine Carried.ite (fun _ => carried_pure _) fun _ => (carried_set (d :: ds) hshrinks rfl).bind fun _ t _ => ?_
        refine carried_takeUntil_bind rfl fun name u => ?_
        dsimp only
        split
        · exact carried_pure _
        · exact carried_pure _
        · exact carried_pure _
        · exact carried_pure _
        · exact carried_fail _ _
    · rw [List.cons_append]
      split
      · rename_i heq
        exact absurd (List.cons.inj heq).1 hc
      · split
        · rename_i heq
          exact absurd (List.cons.inj heq).1 hc
        · exact carried_pure _

theorem carried_readEscape (hx : Barred x) : Carried x known s readEscape readEscape := by
  rw [readEscape]
  refine carried_peek_bind hx (fun _ _ _ => carried_fail _ _) fun c hs => ?_
  dsimp only
  refine carried_get_bind ((carried_bump hs).bind fun _ t _ => ?_)
  rw [ReadState.flags_extend]
  refine Carried.ite (fun _ => carried_fail_bind _ _ _) fun _ => Carried.ite (fun _ => carried_pure _) fun _ => ?_
  split
  · exact (carried_readHex hx 2).bind fun _ _ _ => carried_pure _
  · exact (carried_readHex hx 4).bind fun _ _ _ => carried_pure _
  · exact (carried_readHex hx 8).bind fun _ _ _ => carried_pure _
  · exact (carried_readProperty hx false).bind fun _ _ _ => carried_pure _
  · exact (carried_readProperty hx true).bind fun _ _ _ => carried_pure _
  all_goals first | exact carried_pure _ | skip
  · exact (carried_readWordBoundary hx).bind fun _ _ _ => carried_pure _
  · exact Carried.ite (fun _ => carried_pure _) fun _ => carried_fail _ _

/-! ## Classes -/

theorem carried_readClassItem (hx : Barred x) : Carried x known s readClassItem readClassItem := by
  rw [readClassItem]
  refine carried_peek_bind hx (fun _ _ _ => carried_fail _ _) fun c hs => ?_
  split
  · exact carried_fail _ _
  · exact (carried_bump hs).bind fun _ _ _ => carried_readEscape hx
  · exact (carried_bump hs).bind fun _ _ _ => carried_pure _

/-- What comes after the present character decides, if something has to come. -/
theorem carried_peekNext_bind {f f' : Option Char → Read β} (hs : s.rest ≠ [])
    (hend : (if s.flags.ignoreSpace then withoutSpace s.rest.tail else s.rest.tail) = [] →
      ∀ b t, f none s ≠ .ok (b, t))
    (hnext : ∀ c, Carried x known s (f (some c)) (f' (some c))) :
    Carried x known s (peekNext >>= f) (peekNext >>= f') := by
  have hrun (k : Option Char → Read β) (u : ReadState) : (peekNext >>= k) u =
      k (if u.flags.ignoreSpace then withoutSpace u.rest.tail else u.rest.tail).head? u := rfl
  cases hskipped : (if s.flags.ignoreSpace then withoutSpace s.rest.tail else s.rest.tail) with
  | nil =>
    intro b t h
    rw [hrun, hskipped] at h
    exact absurd h (hend hskipped b t)
  | cons d ds =>
    refine (hnext d).congr (by rw [hrun, hskipped]; rfl) ?_
    have htail : (s.extend x known).rest.tail = s.rest.tail ++ x := List.tail_append_of_ne_nil hs
    rw [hrun, htail, ReadState.flags_extend, skipped_append hskipped x]
    rfl

/-- At the end of the text no range can go on. -/
theorem bumpSpace_bind_of_end {f : Read β}
    (h : (if s.flags.ignoreSpace then withoutSpace s.rest.tail else s.rest.tail) = []) :
    (bumpSpace >>= fun _ => f) s = f { s with rest := [] } := by
  have hrun : bumpSpace s = .ok ((), { s with rest := [] }) := by
    show Except.ok ((), if s.flags.ignoreSpace then { s with rest := withoutSpace s.rest.tail } else
      { s with rest := s.rest.tail }) = _
    cases hflag : s.flags.ignoreSpace with
    | false =>
      rw [hflag, if_neg Bool.false_ne_true] at h
      rw [if_neg Bool.false_ne_true, h]
    | true =>
      rw [hflag, if_pos rfl] at h
      rw [if_pos rfl, h]
  rw [bind_congr_run (k := fun _ => .ok ((), { s with rest := [] })) hrun]
  rfl

/-- An item that no range begins with. -/
def alone : Escape → Read CharSet
  | .char c => return .single c
  | .set set => return set
  | .look _ => fail .unknownEscape

theorem carried_alone (first : Escape) : Carried x known s (alone first) (alone first) := by
  cases first with
  | char c => exact carried_pure _
  | set set => exact carried_pure _
  | look a => exact carried_fail _ _

theorem carried_readClassRange (hx : Barred x) : Carried x known s readClassRange readClassRange := by
  rw [readClassRange]
  refine (carried_readClassItem hx).bind fun first t _ => carried_skipSpace.bind fun _ u _ => carried_get_bind ?_
  rw [ReadState.flags_extend]
  refine carried_peek_bind hx (fun _ _ _ => carried_fail _ _) fun c hu => ?_
  split
  · exact carried_fail _ _
  · -- a hyphen that nothing follows opens a range that never ends, so this run fails
    refine carried_peekNext_bind hu (fun hend b v h => ?_) fun d => ?_
    · dsimp only at h
      rw [bumpSpace_bind_of_end hend] at h
      cases h
    · split
      · exact carried_alone first
      · exact carried_alone first
      · refine (carried_bumpSpace hu).bind fun _ v _ => carried_peek_bind hx
          (fun _ _ _ => carried_if_pos rfl (carried_fail_bind _ _ _)) fun e _ => ?_
        refine Carried.ite (fun _ => carried_fail_bind _ _ _) fun _ => ?_
        refine (carried_readClassItem hx).bind fun last w _ => ?_
        split
        · refine Carried.ite (fun _ => carried_fail_bind _ _ _) fun _ => ?_
          exact Carried.ite (fun _ => carried_fail_bind _ _ _) fun _ => carried_pure _
        · exact carried_fail _ _
  · exact carried_alone first

theorem asciiClass?_of_bar {name : String} (h : '|' ∈ name.toList) : asciiClass? name = none := by
  unfold asciiClass?
  split
  all_goals first | rfl | exact absurd h (by decide)

/-- Whether a named class is negated, and what stands behind the sign. -/
def signOf : List Char → Bool × List Char
  | '^' :: body => (true, body)
  | body => (false, body)

theorem signOf_append (hx : Barred x) (cs : List Char) : signOf (cs ++ x) = ((signOf cs).1, (signOf cs).2 ++ x) := by
  cases cs with
  | nil => rcases hx with rfl | ⟨y, rfl⟩ <;> rfl
  | cons c cs =>
    by_cases hc : c = '^'
    · subst hc
      rfl
    · have hsign (ds : List Char) : signOf (c :: ds) = (false, c :: ds) := by
        rw [signOf]
        intro body heq
        exact hc (List.cons.inj heq).1
      rw [List.cons_append, hsign, hsign]
      rfl

/-- The name of a class, and what stands behind it. -/
structure Named (body : List Char) (set : CharSet) (after : List Char) : Prop where
  known : asciiClass? (.ofList (body.takeWhile (· ≠ ':'))) = some set
  closed : body.dropWhile (· ≠ ':') = ':' :: ']' :: after

/-- A named class from behind its sign. -/
def namedClass (flags : Flags) (sign : Bool × List Char) : Read (Option CharSet) :=
  match sign.2.dropWhile (· ≠ ':'), asciiClass? (.ofList (sign.2.takeWhile (· ≠ ':'))) with
  | ':' :: ']' :: after, some set => do
    modify fun s => { s with rest := after }
    let set := foldSet flags set
    return some (if sign.1 then .complement set else set)
  | _, _ => return none

theorem readAsciiClass?_of_named {rest after : List Char} {set : CharSet} (hs : s.rest = '[' :: ':' :: rest)
    (h : Named (signOf rest).2 set after) : readAsciiClass? s =
      .ok (some (if (signOf rest).1 then .complement (foldSet s.flags set) else foldSet s.flags set),
        { s with rest := after }) := by
  have hrun : readAsciiClass? s = namedClass s.flags (signOf rest) s := by
    rw [readAsciiClass?, get_bind_run, hs]
    rfl
  rw [hrun, namedClass, h.known, h.closed]
  rfl

theorem readAsciiClass?_of_not_named (h : ∀ rest set after, s.rest = '[' :: ':' :: rest →
    ¬ Named (signOf rest).2 set after) : readAsciiClass? s = .ok (none, s) := by
  rw [readAsciiClass?, get_bind_run]
  generalize s.rest = cs at h
  split
  · rename_i rest
    dsimp only
    split
    · rename_i after set hclosed hknown
      exact absurd ⟨hknown, hclosed⟩ (h rest set after rfl)
    · rfl
  · rfl

theorem Named.append {body after : List Char} {set : CharSet} (h : Named body set after) (x : List Char) :
    Named (body ++ x) set (after ++ x) := by
  obtain ⟨hname, hbehind⟩ := taken_append h.closed x
  exact ⟨by rw [hname]; exact h.known, hbehind⟩

theorem Named.of_append (hx : Barred x) {body after : List Char} {set : CharSet} (h : Named (body ++ x) set after) :
    ∃ before, Named body set before := by
  cases hbehind : body.dropWhile (· ≠ ':') with
  | nil =>
    -- the name would go on behind the bar
    have hx' : x.dropWhile (· ≠ ':') = ':' :: ']' :: after := by
      rw [← h.closed, List.dropWhile_append, hbehind]
      rfl
    obtain ⟨y, rfl⟩ : ∃ y, x = '|' :: y := hx.resolve_left fun hnil => by
      rw [hnil] at hx'
      cases hx'
    have hall : body.takeWhile (· ≠ ':') = body := by
      have happ := List.takeWhile_append_dropWhile (p := (· ≠ ':')) (l := body)
      rwa [hbehind, List.append_nil] at happ
    have hbar : asciiClass? (.ofList ((body ++ '|' :: y).takeWhile (· ≠ ':'))) = none := by
      refine asciiClass?_of_bar ?_
      rw [String.toList_ofList, List.takeWhile_append, if_pos (congrArg List.length hall)]
      exact List.mem_append_right body (List.mem_cons_self ..)
    rw [h.known] at hbar
    cases hbar
  | cons c rest =>
    obtain ⟨hname, hlonger⟩ := taken_append hbehind x
    obtain ⟨hc, hrest⟩ := List.cons.inj (hlonger.symm.trans h.closed)
    cases rest with
    | nil =>
      have hbracket : ']' = '|' := hx.head (by rw [← List.nil_append x, hrest]; rfl)
      exact absurd hbracket (by decide)
    | cons d rest =>
      obtain ⟨hd, -⟩ := List.cons.inj hrest
      exact ⟨rest, hname ▸ h.known, by rw [hbehind, hc, hd]⟩

theorem Named.length_le {body after : List Char} {set : CharSet} (h : Named body set after) :
    after.length ≤ body.length := by
  have hlength := (List.dropWhile_sublist (l := body) (· ≠ ':')).length_le
  rw [h.closed] at hlength
  exact Nat.le_of_succ_le (Nat.le_of_succ_le hlength)

theorem length_signOf_le (cs : List Char) : (signOf cs).2.length ≤ cs.length := by
  rw [signOf.eq_def]
  split
  · exact Nat.le_succ _
  · exact le_refl _

theorem carried_readAsciiClass? (hx : Barred x) : Carried x known s readAsciiClass? readAsciiClass? := by
  by_cases h : ∃ rest set after, s.rest = '[' :: ':' :: rest ∧ Named (signOf rest).2 set after
  · obtain ⟨rest, set, after, hs, hnamed⟩ := h
    have hlonger : (s.extend x known).rest = '[' :: ':' :: (rest ++ x) := by
      rw [ReadState.rest_extend, hs]
      rfl
    have hsign := signOf_append hx rest
    have hnamed' : Named (signOf (rest ++ x)).2 set (after ++ x) := by
      rw [hsign]
      exact hnamed.append x
    refine carried_of_rest _ after (readAsciiClass?_of_named hs hnamed) ?_ ?_
    · rw [hs]
      exact le_trans hnamed.length_le (le_trans (length_signOf_le rest) (Nat.le_add_right _ 2))
    · rw [readAsciiClass?_of_named hlonger hnamed', hsign]
      rfl
  · have hnot : ∀ rest set after, s.rest = '[' :: ':' :: rest → ¬ Named (signOf rest).2 set after :=
      fun rest set after hs hnamed => h ⟨rest, set, after, hs, hnamed⟩
    refine carried_of_rest none s.rest (readAsciiClass?_of_not_named hnot) (le_refl _) ?_
    rw [readAsciiClass?_of_not_named]
    intro rest set after hs hnamed
    have hopen : ['[', ':'] <+: s.rest := hx.prefix_of_append (by decide) ⟨rest, hs.symm⟩
    obtain ⟨rest', hrest'⟩ := hopen
    have hrest : rest = rest' ++ x := by
      rw [ReadState.rest_extend, ← hrest'] at hs
      exact ((List.cons.inj (List.cons.inj hs).2).2).symm
    rw [hrest, signOf_append hx] at hnamed
    obtain ⟨before, hbefore⟩ := hnamed.of_append hx
    exact hnot rest' set before hrest'.symm hbefore

theorem eq_of_readAsciiClass?_eq_none {t : ReadState} (h : readAsciiClass? s = .ok (none, t)) : t = s := by
  by_cases hnamed : ∃ rest set after, s.rest = '[' :: ':' :: rest ∧ Named (signOf rest).2 set after
  · obtain ⟨rest, set, after, hs, hnamed⟩ := hnamed
    rw [readAsciiClass?_of_named hs hnamed] at h
    cases h
  · rw [readAsciiClass?_of_not_named fun rest set after hs hn => hnamed ⟨rest, set, after, hs, hn⟩] at h
    exact (Prod.mk.inj (Except.ok.inj h)).2.symm

/-- All hyphens are taken, so more fuel changes nothing. -/
theorem carried_leadingHyphens (hx : Barred x) {n n' : Nat} (hn : s.rest.length ≤ n) (hle : n ≤ n')
    (st : ClassState) : Carried x known s (leadingHyphens n st) (leadingHyphens n' st) := by
  induction n generalizing s n' st with
  | zero =>
    have hs : s.rest = [] := List.length_eq_zero_iff.mp (Nat.le_zero.mp hn)
    cases n' with
    | zero => exact carried_pure st
    | succ n' =>
      have hrun : leadingHyphens 0 st = peek >>= fun _ => pure st := rfl
      rw [hrun, leadingHyphens]
      refine carried_peek_bind hx (fun _ c hc => ?_) fun c hne => absurd hs hne
      rw [if_neg (mt (next_at_end hc (by decide)).mpr (by rintro ⟨⟩))]
      exact carried_pure st
  | succ n ih =>
    obtain ⟨n', rfl⟩ := Nat.exists_eq_add_of_le' hle
    rw [leadingHyphens, ← Nat.add_assoc, leadingHyphens]
    refine carried_peek_bind hx (fun _ c hc => ?_) fun c hs => ?_
    · exact Carried.ite_iff (next_at_end hc (by decide)) (fun h => (by cases h)) fun _ => carried_pure st
    · refine Carried.ite (fun _ => (carried_bumpSpace hs).bind fun _ t ht => ?_) fun _ => carried_pure st
      exact ih (Nat.le_of_lt_succ (Nat.lt_of_lt_of_le (length_of_bumpSpace hs ht) hn)) (Nat.le_add_left n n') _

/-- A class from behind its sign. -/
def classFrom (fuel : Nat) (sign : CharSet → CharSet) : Read (CharSet × Nat) := do
  let st ← leadingHyphens (← get).rest.length {}
  let st ← if st.opened = 0 && (← peek) = some ']' then do
      bumpSpace
      pure (st.add (.single ']'))
    else pure st
  let st ← readClassBody fuel st
  let flags := (← get).flags
  return (sign (foldSet flags (st.close flags)), st.depth + 1)

theorem readClass_succ (fuel : Nat) : readClass (fuel + 1) = (do
    skipSpace
    if (← peek) = some '^' then
      bumpSpace
      classFrom fuel .complement
    else classFrom fuel id) := by
  rw [readClass]
  refine congrArg _ (funext fun _ => congrArg _ (funext fun c => ?_))
  by_cases hc : c = some '^'
  · rw [if_pos hc]
    simp only [if_pos hc]
    rfl
  · rw [if_neg hc]
    simp only [if_neg hc]
    rfl

/-- With this much fuel, classes are carried over. -/
structure CarriesClasses (x : List Char) (known : List (List Char)) (n n' : Nat) : Prop where
  readClass : ∀ s, Carried x known s (readClass n) (readClass n')
  body : ∀ s st, Carried x known s (readClassBody n st) (readClassBody n' st)
  operator : ∀ s st op, s.rest.tail ≠ [] → Carried x known s (operator n st op) (operator n' st op)

theorem CarriesClasses.classFrom (hx : Barred x) {n n' : Nat} (h : CarriesClasses x known n n') (s : ReadState)
    (sign : CharSet → CharSet) : Carried x known s (classFrom n sign) (classFrom n' sign) := by
  rw [Regex.classFrom, Regex.classFrom]
  refine carried_get_bind ?_
  refine (carried_leadingHyphens hx (le_refl _) (s.length_le_extend x known) {}).bind fun st t _ => ?_
  have hbody (st : ClassState) (u : ReadState) : Carried x known u
      (do
        let st ← readClassBody n st
        let flags := (← get).flags
        return (sign (foldSet flags (st.close flags)), st.depth + 1))
      (do
        let st ← readClassBody n' st
        let flags := (← get).flags
        return (sign (foldSet flags (st.close flags)), st.depth + 1)) :=
    (h.body u st).bind fun _ _ _ => carried_get_bind (carried_pure _)
  refine carried_peek_bind hx (fun _ c hc => ?_) fun c ht => ?_
  · have hbracket := next_at_end hc (d := ']') (by decide)
    refine Carried.ite_iff (by simp only [hbracket]) (fun h => ?_) fun _ => ?_
    · simp at h
    · exact (carried_pure st).bind fun st u _ => hbody st u
  · refine Carried.ite (fun _ => (carried_bumpSpace ht).bind fun _ u _ => ?_) fun _ => ?_
    · exact (carried_pure _).bind fun st u _ => hbody st u
    · exact (carried_pure st).bind fun st u _ => hbody st u

theorem CarriesClasses.readClass_succ (hx : Barred x) {n n' : Nat} (h : CarriesClasses x known n n')
    (s : ReadState) : Carried x known s (Regex.readClass (n + 1)) (Regex.readClass (n' + 1)) := by
  rw [Regex.readClass_succ, Regex.readClass_succ]
  refine carried_skipSpace.bind fun _ t _ => carried_peek_bind hx (fun _ c hc => ?_) fun c ht => ?_
  · exact Carried.ite_iff (next_at_end hc (by decide)) (fun h => (by cases h)) fun _ => h.classFrom hx t id
  · exact Carried.ite (fun _ => (carried_bumpSpace ht).bind fun _ u _ => h.classFrom hx u _)
      fun _ => h.classFrom hx t id

theorem CarriesClasses.operator_succ {n n' : Nat} (h : CarriesClasses x known n n') (s : ReadState)
    (st : ClassState) (op : SetOp) (hs : s.rest.tail ≠ []) :
    Carried x known s (Regex.operator (n + 1) st op) (Regex.operator (n' + 1) st op) := by
  rw [Regex.operator, Regex.operator]
  have hne : s.rest ≠ [] := fun hnil => hs (by rw [hnil]; rfl)
  refine (carried_bump hne).bind fun _ t ht => (carried_bump (rest_of_bump ht ▸ hs)).bind fun _ u _ => ?_
  exact carried_get_bind (h.body u _)

/-- What comes next in a class. -/
inductive ClassTurn where
  | ended
  | closed
  | nested
  | operated (op : SetOp)
  | item

def turnOf : List Char → ClassTurn
  | [] => .ended
  | ']' :: _ => .closed
  | '[' :: _ => .nested
  | '&' :: '&' :: _ => .operated .inter
  | '-' :: '-' :: _ => .operated .diff
  | '~' :: '~' :: _ => .operated .symmDiff
  | _ => .item

theorem readClassBody_succ (n : Nat) (st : ClassState) : readClassBody (n + 1) st = (do
    skipSpace
    match turnOf (← get).rest with
    | .ended => fail .unclosedClass
    | .closed =>
      bump
      return st
    | .nested =>
      match ← readAsciiClass? with
      | some set => readClassBody n (st.add set)
      | none =>
        bump
        let (set, depth) ← readClass n
        readClassBody n { st.add set with depth := max st.depth (depth + 1) }
    | .operated op => operator n st op
    | .item =>
      let set ← readClassRange
      readClassBody n (st.add set)) := by
  rw [readClassBody]
  refine congrArg _ (funext fun _ => congrArg _ (funext fun s => ?_))
  dsimp only
  generalize s.rest = cs
  split
  case h_7 hempty hclosed hnested hinter hdiff hsymm =>
    rw [turnOf.eq_7 cs hempty hclosed hnested hinter hdiff hsymm]
  all_goals rfl

/-- The bar is no part of what comes next. -/
theorem turnOf_append (hx : Barred x) {cs : List Char} (hcs : cs ≠ []) : turnOf (cs ++ x) = turnOf cs := by
  have hfront {p after : List Char} (hp : '|' ∉ p) (h : cs ++ x = p ++ after) : ∃ before, cs = p ++ before :=
    (hx.prefix_of_append hp ⟨after, h.symm⟩).imp fun _ h => h.symm
  rw [turnOf.eq_def cs]
  split
  case h_1 => exact absurd rfl hcs
  case h_7 hempty hclosed hnested hinter hdiff hsymm =>
    refine turnOf.eq_7 _ (fun h => hcs (List.append_eq_nil_iff.mp h).1) ?_ ?_ ?_ ?_ ?_
    · exact fun after h => (hfront (p := [']']) (by decide) h).elim hclosed
    · exact fun after h => (hfront (p := ['[']) (by decide) h).elim hnested
    · exact fun after h => (hfront (p := ['&', '&']) (by decide) h).elim hinter
    · exact fun after h => (hfront (p := ['-', '-']) (by decide) h).elim hdiff
    · exact fun after h => (hfront (p := ['~', '~']) (by decide) h).elim hsymm
  all_goals rfl

theorem two_of_operated {cs : List Char} {op : SetOp} (h : turnOf cs = .operated op) : cs.tail ≠ [] := by
  rw [turnOf.eq_def] at h
  split at h
  all_goals first | cases h; done | exact List.cons_ne_nil _ _

theorem CarriesClasses.body_succ (hx : Barred x) {n n' : Nat} (h : CarriesClasses x known n n') (s : ReadState)
    (st : ClassState) : Carried x known s (readClassBody (n + 1) st) (readClassBody (n' + 1) st) := by
  rw [readClassBody_succ, readClassBody_succ]
  refine carried_skipSpace.bind fun _ t _ => carried_get_bind ?_
  rw [ReadState.rest_extend]
  by_cases hne : t.rest = []
  · rw [hne]
    exact carried_fail _ _
  · rw [turnOf_append hx hne]
    cases hturn : turnOf t.rest with
    | ended => exact carried_fail _ _
    | closed => exact (carried_bump hne).bind fun _ _ _ => carried_pure _
    | nested =>
      refine (carried_readAsciiClass? hx).bind fun named u hu => ?_
      cases named with
      | some set => exact h.body u _
      | none =>
        obtain rfl := eq_of_readAsciiClass?_eq_none hu
        exact (carried_bump hne).bind fun _ v _ => (h.readClass v).bind fun r w _ => h.body w _
    | operated op => exact h.operator t st op (two_of_operated hturn)
    | item => exact (carried_readClassRange hx).bind fun set u _ => h.body u _

theorem carriesClasses (hx : Barred x) {n n' : Nat} (hle : n ≤ n') : CarriesClasses x known n n' := by
  induction n generalizing n' with
  | zero => exact ⟨fun _ => carried_fail _ _, fun _ _ => carried_fail _ _, fun _ _ _ _ => carried_fail _ _⟩
  | succ n ih =>
    obtain ⟨n', rfl⟩ := Nat.exists_eq_add_of_le' hle
    have h := ih (Nat.le_add_left n n')
    exact ⟨h.readClass_succ hx, h.body_succ hx, h.operator_succ⟩

end

end ImportSurvey.Regex
