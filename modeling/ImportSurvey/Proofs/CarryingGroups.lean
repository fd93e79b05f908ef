import ImportSurvey.Proofs.CarryingClasses

/-
  Repetitions, groups and sequences with more text behind them.

  A group is read to its closing parenthesis, as a class is to its bracket, so within it even alternatives are
  carried over: the run that stops at the end of the text fails (`closeGroup`).  Flags that a group sets are put
  back behind the parenthesis, which may be the last character, so closing and putting back are one step
  (`carried_leave`).
-/
namespace ImportSurvey.Regex

section

variable {α β : Type} {x : List Char} {known : List (List Char)} {s : ReadState}

/-! ## Repetitions -/

/-- What is taken as long as no bar can be taken does not depend on what stands behind. -/
theorem while_append (hx : Barred x) {p : Char → Bool} (hp : p '|' = false) (cs : List Char) :
    (cs ++ x).takeWhile p = cs.takeWhile p ∧ (cs ++ x).dropWhile p = cs.dropWhile p ++ x := by
  induction cs with
  | nil =>
    rcases hx with rfl | ⟨y, rfl⟩
    · exact ⟨rfl, rfl⟩
    · rw [List.nil_append, List.takeWhile_cons, List.dropWhile_cons, hp]
      exact ⟨rfl, rfl⟩
  | cons c cs ih =>
    rw [List.cons_append, List.takeWhile_cons, List.takeWhile_cons, List.dropWhile_cons, List.dropWhile_cons]
    split
    · exact ⟨congrArg _ ih.1, ih.2⟩
    · exact ⟨rfl, rfl⟩

theorem carried_readCount (hx : Barred x) : Carried x known s readCount readCount := by
  rw [readCount]
  refine carried_skipSpace.bind fun _ t _ => carried_get_bind ?_
  obtain ⟨-, hblank⟩ := while_append hx (p := Unicode.isWhiteSpace) (by decide) t.rest
  obtain ⟨hdigits, -⟩ := while_append hx (p := Char.isDigit) (by decide) (t.rest.dropWhile Unicode.isWhiteSpace)
  rw [ReadState.rest_extend]
  dsimp only
  rw [hblank, hdigits]
  generalize hcs : t.rest.dropWhile Unicode.isWhiteSpace = cs at hdigits ⊢
  have hle : (cs.takeWhile Char.isDigit).length ≤ cs.length := (List.takeWhile_sublist _).length_le
  obtain ⟨-, hbehind⟩ := while_append hx (p := Unicode.isWhiteSpace) (by decide)
    (cs.drop (cs.takeWhile Char.isDigit).length)
  rw [List.drop_append_of_le_length hle, hbehind]
  refine (carried_set _ ?_ rfl).bind fun _ u _ => carried_skipSpace.bind fun _ v _ => ?_
  · have hlength : cs.length ≤ t.rest.length := hcs ▸ (List.dropWhile_sublist _).length_le
    refine le_trans (List.dropWhile_sublist _).length_le (le_trans ?_ hlength)
    rw [List.length_drop]
    exact Nat.sub_le _ _
  · exact Carried.ite (fun _ => carried_pure _) fun _ => Carried.ite (fun _ => carried_pure _)
      fun _ => carried_fail _ _

/-- The end of a count in braces. -/
def closeBounds (bounds : Nat × Option Nat) : Read (Nat × Option Nat) := do
  if (← peek) ≠ some '}' then fail .badCount
  bumpSpace
  match bounds with
  | (a, some b) => if b < a then fail .badCount else return bounds
  | _ => return bounds

/-- What follows the comma of a count in braces, `c` being its first character. -/
def upperBound (least : Nat) (c : Option Char) : Read (Nat × Option Nat) :=
  if c = some '}' then closeBounds (least, none)
  else do
    let some most ← readCount | fail .badCount
    closeBounds (least, some most)

theorem readBounds_eq : readBounds = (do
    let some least ← readCount | fail .badCount
    if (← peek) = some ',' then
      bumpSpace
      upperBound least (← peek)
    else closeBounds (least, some least)) := by
  rw [readBounds]
  refine congrArg _ (funext fun least => ?_)
  cases least with
  | none => rfl
  | some least =>
    refine congrArg (peek >>= ·) (funext fun c => ?_)
    by_cases hc : c = some ','
    · subst hc
      rw [if_pos rfl]
      refine congrArg (bumpSpace >>= ·) (funext fun _ => congrArg (peek >>= ·) (funext fun d => ?_))
      rw [upperBound]
      by_cases hd : d = some '}'
      · rw [if_pos hd, if_pos hd]
        rfl
      · rw [if_neg hd, if_neg hd]
        refine congrArg _ (funext fun most => ?_)
        cases most with
        | none => rfl
        | some most => rfl
    · dsimp only
      rw [if_neg hc]
      split
      · exact absurd rfl hc
      · rfl

theorem carried_closeBounds (hx : Barred x) (bounds : Nat × Option Nat) :
    Carried x known s (closeBounds bounds) (closeBounds bounds) := by
  obtain ⟨least, most⟩ := bounds
  unfold closeBounds
  refine carried_peek_bind hx (fun _ _ _ => carried_if_pos (by decide) (carried_fail_bind _ _ _)) fun c hs => ?_
  refine Carried.ite (fun _ => carried_fail_bind _ _ _) fun _ => (carried_bumpSpace hs).bind fun _ t _ => ?_
  cases most with
  | none => exact carried_pure _
  | some most => exact Carried.ite (fun _ => carried_fail _ _) fun _ => carried_pure _

theorem carried_upperBound (hx : Barred x) (least : Nat) {c c' : Option Char} (hc : c = some '}' ↔ c' = some '}') :
    Carried x known s (upperBound least c) (upperBound least c') := by
  refine Carried.ite_iff hc (fun _ => carried_closeBounds hx _) fun _ => (carried_readCount hx).bind fun most t _ => ?_
  cases most with
  | none => exact carried_fail _ _
  | some most => exact carried_closeBounds hx _

theorem carried_readBounds (hx : Barred x) : Carried x known s readBounds readBounds := by
  rw [readBounds_eq]
  refine (carried_readCount hx).bind fun least t _ => ?_
  cases least with
  | none => exact carried_fail _ _
  | some least =>
    have hbehind (u : ReadState) : Carried x known u (peek >>= upperBound least) (peek >>= upperBound least) :=
      carried_peek_bind hx (fun _ c hc => carried_upperBound hx least (next_at_end hc (by decide)))
        fun c _ => carried_upperBound hx least Iff.rfl
    refine carried_peek_bind hx (fun _ c hc => ?_) fun c ht => ?_
    · exact Carried.ite_iff (next_at_end hc (by decide)) (fun h => (by cases h)) fun _ => carried_closeBounds hx _
    · exact Carried.ite (fun _ => (carried_bumpSpace ht).bind fun _ u _ => hbehind u) fun _ => carried_closeBounds hx _

theorem carried_repeated (hx : Barred x) (p : Piece) (least : Nat) (most : Option Nat) :
    Carried x known s (repeated p least most) (repeated p least most) := by
  rw [repeated]
  refine Carried.ite (fun _ => carried_fail_bind _ _ _) fun _ => carried_peek_bind hx (fun _ c hc => ?_)
    fun c hs => ?_
  · rcases hc with rfl | rfl
    · exact carried_pure _
    · exact carried_pure _
  · exact Carried.ite (fun _ => (carried_bump hs).bind fun _ _ _ => carried_pure _) fun _ => carried_pure _

theorem skipSpace_of_rest_eq_nil (hs : s.rest = []) : skipSpace s = (pure () : Read Unit) s := by
  obtain ⟨rest, flags, names⟩ := s
  obtain rfl : rest = [] := hs
  show Except.ok ((), if flags.ignoreSpace then _ else _) = _
  rw [withoutSpace, ite_self]
  rfl

/-- All repetitions are taken, so more fuel changes nothing. -/
theorem carried_readRepeats (hx : Barred x) {n n' : Nat} (hn : s.rest.length ≤ n) (hle : n ≤ n') (p : Piece) :
    Carried x known s (readRepeats n p) (readRepeats n' p) := by
  induction n generalizing s n' p with
  | zero =>
    have hs : s.rest = [] := List.length_eq_zero_iff.mp (Nat.le_zero.mp hn)
    cases n' with
    | zero => exact carried_pure p
    | succ n' =>
      have hrun : readRepeats 0 p s = (skipSpace >>= fun _ => peek >>= fun _ => pure p) s :=
        (bind_congr_run (skipSpace_of_rest_eq_nil hs) fun _ => peek >>= fun _ => pure p).symm
      rw [readRepeats]
      refine Carried.congr (carried_skipSpace.bind fun _ t ht => ?_) hrun rfl
      refine carried_peek_bind hx (fun _ c hc => ?_) fun c hne => ?_
      · -- with more behind there is fuel to look, and nothing to repeat with
        rcases hc with rfl | rfl
        · exact carried_pure p
        · exact carried_pure p
      · have hlength := carried_skipSpace.length_le ht
        rw [hs] at hlength
        exact absurd (List.length_eq_zero_iff.mp (Nat.le_zero.mp hlength)) hne
  | succ n ih =>
    obtain ⟨n', rfl⟩ := Nat.exists_eq_add_of_le' hle
    rw [readRepeats, ← Nat.add_assoc, readRepeats]
    refine carried_skipSpace.bind fun _ t ht => carried_peek_bind hx (fun _ c hc => ?_) fun c hne => ?_
    · rcases hc with rfl | rfl
      · exact carried_pure _
      · exact carried_pure _
    · have htn : t.rest.length ≤ n + 1 := le_trans (carried_skipSpace.length_le ht) hn
      have hmore (least : Nat) (most : Option Nat) : Carried x known t
          (do bump; readRepeats n (← repeated p least most))
          (do bump; readRepeats (n' + n) (← repeated p least most)) := by
        refine (carried_bump hne).bind fun _ u hu => (carried_repeated hx p least most).bind fun q v hv => ?_
        have huv := (carried_repeated (.inl rfl) p least most).length_le hv
        have htu := length_of_bump hne hu
        exact ih (by omega) (Nat.le_add_left n n') _
      split
      · exact hmore 0 none
      · exact hmore 1 none
      · exact hmore 0 (some 1)
      · refine Carried.ite (fun _ => carried_fail_bind _ _ _) fun _ => ?_
        refine (carried_bump hne).bind fun _ u hu => (carried_readBounds hx).bind fun bounds v hv => ?_
        refine (carried_repeated hx p bounds.1 bounds.2).bind fun q w hw => ?_
        have hvw := (carried_repeated (.inl rfl) p bounds.1 bounds.2).length_le hw
        have huv := (carried_readBounds (.inl rfl)).length_le hv
        have htu := length_of_bump hne hu
        exact ih (by omega) (Nat.le_add_left n n') _
      · exact carried_pure p

/-! ## Flags and names -/

theorem carried_readFlags (cs : List Char) (hcs : cs.length ≤ s.rest.length) (flags : Flags)
    (negated dangling : Bool) (seen : List Char) :
    Carried x known s (readFlags cs flags negated dangling seen) (readFlags (cs ++ x) flags negated dangling seen) := by
  induction cs generalizing flags negated dangling seen with
  | nil => exact carried_fail _ _
  | cons c cs ih =>
    have hmore := ih (Nat.le_of_succ_le hcs)
    rw [List.cons_append, readFlags, readFlags]
    refine Carried.ite (fun _ => Carried.ite (fun _ => carried_fail_bind _ _ _) fun _ => ?_) fun _ =>
      Carried.ite (fun _ => carried_fail _ _) fun _ => Carried.ite (fun _ => hmore _ _ _ _) fun _ => ?_
    · exact carried_of_rest (flags, seen) (c :: cs) rfl hcs rfl
    · dsimp only
      split
      all_goals first | exact hmore _ _ _ _ | exact carried_fail _ _

/-- The colon or the parenthesis behind the flags is left. -/
theorem rest_of_readFlags {cs : List Char} {flags : Flags} {negated dangling : Bool} {seen : List Char}
    {r : Flags × List Char} {t : ReadState} (h : readFlags cs flags negated dangling seen s = .ok (r, t)) :
    t.rest ≠ [] := by
  induction cs generalizing flags negated dangling seen with
  | nil => cases h
  | cons c cs ih =>
    rw [readFlags] at h
    split at h
    · cases dangling with
      | true => cases h
      | false =>
        obtain ⟨-, rfl⟩ := Prod.mk.inj (Except.ok.inj h)
        exact List.cons_ne_nil c cs
    · split at h
      · cases h
      · split at h
        · exact ih h
        · dsimp only at h
          split at h
          all_goals first | exact ih h | cases h

theorem carried_readGroupName : Carried x known s readGroupName readGroupName := by
  rw [readGroupName]
  refine carried_takeUntil_bind rfl fun name t => ?_
  dsimp only
  refine Carried.ite (fun _ => carried_fail_bind _ _ _) fun _ => carried_get_bind ?_
  intro a u h
  by_cases hknown : t.names.contains name = true
  · rw [if_pos hknown] at h
    cases h
  · rw [if_neg hknown] at h
    obtain ⟨-, rfl⟩ := Prod.mk.inj (Except.ok.inj h)
    refine ⟨fun n hn => List.mem_cons_of_mem name hn, le_refl _, fun _ => rfl, .inr fun hnames => ?_⟩
    have hnew : ¬ (t.names ++ known).contains name = true := by
      rw [List.contains_iff_mem, List.mem_append]
      rw [List.contains_iff_mem] at hknown
      exact fun h => h.elim hknown (hnames name (List.mem_cons_self ..))
    rw [ReadState.names_extend, if_neg hnew]
    rfl

/-! ## Groups -/

/-- A character that is there is taken, and other flags hold behind it. -/
theorem carried_leave (hs : s.rest ≠ []) (flags : Flags) {k k' : Read β}
    (hk : ∀ t, Carried x known t k k') :
    Carried x known s (do bump; modify fun s => { s with flags }; k)
      (do bump; modify fun s => { s with flags }; k') := by
  have hleave : Carried x known s (do bump; modify fun s => { s with flags })
      (do bump; modify fun s => { s with flags }) := by
    intro a t h
    obtain ⟨-, rfl⟩ := Prod.mk.inj (Except.ok.inj h)
    refine ⟨fun _ hn => hn, by simp, fun hend => absurd hend hs, .inr fun _ => ?_⟩
    show Except.ok ((), { s.extend x known with rest := (s.rest ++ x).tail, flags := flags }) = _
    rw [List.tail_append_of_ne_nil hs]
    rfl
  exact (hleave.bind fun _ t _ => hk t).congr rfl rfl

/-- The end of a group, behind which the flags are again those from before. -/
def closeGroup (outer : Flags) (p : Piece) : Read Piece := do
  if (← peek) ≠ some ')' then fail .unclosedGroup
  bump
  modify fun s => { s with flags := outer }
  return { regex := p.regex, depth := p.depth + 1 }

theorem carried_closeGroup_of_end (hs : s.rest = []) (outer : Flags) (p : Piece) (m' : Read Piece) :
    Carried x known s (closeGroup outer p) m' := by
  have hrun : closeGroup outer p s = .error .unclosedGroup := by
    rw [closeGroup]
    show (if s.rest.head? ≠ some ')' then _ else _ : Read Piece) s = _
    rw [hs]
    rfl
  intro a t h
  rw [hrun] at h
  cases h

theorem carried_closeGroup (hx : Barred x) (outer : Flags) (p : Piece) :
    Carried x known s (closeGroup outer p) (closeGroup outer p) := by
  rw [closeGroup]
  refine carried_peek_bind hx (fun _ _ _ => carried_if_pos (by decide) (carried_fail_bind _ _ _)) fun c hs => ?_
  exact Carried.ite (fun _ => carried_fail_bind _ _ _) fun _ => carried_leave hs outer fun _ => carried_pure _

theorem carried_stepOf (flags : Flags) (set : CharSet) :
    Carried x known s (stepOf flags set) (stepOf flags set) :=
  Carried.ite (fun _ => carried_fail _ _) fun _ => carried_pure _

/-- A group from behind the question mark that flags follow. -/
def flaggedGroup (fuel : Nat) (outer : Flags) : Read Piece := do
  let (flags, seen) ← readFlags (← get).rest outer false false []
  if (← peek) = some ')' then
    if seen.isEmpty then fail .nothingToRepeat
    bump
    modify fun s => { s with flags }
    return { regex := .empty, repeatable := false }
  else
    bump
    modify fun s => { s with flags }
    groupBody fuel outer

/-- A group from behind the brackets that a name may open with. -/
def groupFrom (fuel : Nat) (outer : Flags) (named : Bool) : Read Piece := do
  if named then
    readGroupName
    groupBody fuel outer
  else if ← eat "?" then flaggedGroup fuel outer
  else groupBody fuel outer

theorem readGroup_succ (fuel : Nat) : readGroup (fuel + 1) = (do
    skipSpace
    let outer := (← get).flags
    if (← eat "?=") || (← eat "?!") || (← eat "?<=") || (← eat "?<!") then fail .lookAround
    if ← eat "?P<" then groupFrom fuel outer true
    else groupFrom fuel outer (← eat "?<")) := by
  rw [readGroup]
  rfl

/-- With this much fuel, sequences and groups are carried over. -/
structure CarriesGroups (x : List Char) (known : List (List Char)) (n n' : Nat) : Prop where
  sequence : ∀ s done, Carried x known s (readSequence n done) (readSequence n' done)
  atom : ∀ s c, Carried x known s (readAtom n c) (readAtom n' c)
  group : ∀ s, Carried x known s (readGroup n) (readGroup n')
  body : ∀ s outer, Carried x known s (groupBody n outer) (groupBody n' outer)
  closed : ∀ s done outer,
    Carried x known s (readAlternatives n done >>= closeGroup outer) (readAlternatives n' done >>= closeGroup outer)

section

variable {n n' : Nat}

theorem CarriesGroups.sequence_succ (hx : Barred x) (h : CarriesGroups x known n n') (s : ReadState)
    (done : List Piece) : Carried x known s (readSequence (n + 1) done) (readSequence (n' + 1) done) := by
  rw [readSequence, readSequence]
  refine carried_skipSpace.bind fun _ t _ => carried_peek_bind hx (fun _ c hc => ?_) fun c ht => ?_
  · rcases hc with rfl | rfl
    · exact carried_pure _
    · exact carried_pure _
  · split
    · exact carried_pure _
    · exact carried_pure _
    · exact carried_pure _
    · refine (carried_bump ht).bind fun _ u _ => (h.atom u _).bind fun p v _ => carried_get_bind ?_
      exact (carried_readRepeats hx (le_refl _) (v.length_le_extend x known) p).bind fun q w _ => h.sequence w _

theorem CarriesGroups.atom_succ (hx : Barred x) (hle : n ≤ n') (h : CarriesGroups x known n n') (s : ReadState)
    (c : Char) : Carried x known s (readAtom (n + 1) c) (readAtom (n' + 1) c) := by
  rw [readAtom, readAtom]
  refine carried_get_bind ?_
  rw [ReadState.flags_extend]
  dsimp only
  split
  · exact h.group s
  · refine ((carriesClasses hx hle).readClass s).bind fun r t _ => ?_
    exact (carried_stepOf _ _).bind fun _ _ _ => carried_pure _
  · exact carried_fail _ _
  · exact carried_fail _ _
  · exact carried_fail _ _
  · exact carried_fail _ _
  · exact (carried_stepOf _ _).bind fun _ _ _ => carried_pure _
  · exact carried_pure _
  · exact carried_pure _
  · refine (carried_readEscape hx).bind fun e t _ => ?_
    cases e with
    | char c => exact carried_pure _
    | set set => exact (carried_stepOf _ _).bind fun _ _ _ => carried_pure _
    | look a => exact carried_pure _
  · exact carried_pure _

theorem CarriesGroups.flagged (hx : Barred x) (h : CarriesGroups x known n n') (s : ReadState) (outer : Flags) :
    Carried x known s (flaggedGroup n outer) (flaggedGroup n' outer) := by
  rw [flaggedGroup, flaggedGroup]
  refine carried_get_bind ((carried_readFlags s.rest (le_refl _) outer false false []).bind fun r t ht => ?_)
  refine carried_peek_bind hx (fun hend _ _ => absurd hend (rest_of_readFlags ht)) fun c hne => ?_
  refine Carried.ite (fun _ => ?_) fun _ => carried_leave hne r.1 fun u => h.body u outer
  exact Carried.ite (fun _ => carried_fail_bind _ _ _) fun _ => carried_leave hne r.1 fun _ => carried_pure _

theorem CarriesGroups.behindName (hx : Barred x) (h : CarriesGroups x known n n') (s : ReadState) (outer : Flags)
    (named : Bool) : Carried x known s (groupFrom n outer named) (groupFrom n' outer named) := by
  rw [groupFrom, groupFrom]
  refine Carried.ite (fun _ => carried_readGroupName.bind fun _ t _ => h.body t outer) fun _ => ?_
  refine (carried_eat hx (by decide)).bind fun _ t _ => ?_
  exact Carried.ite (fun _ => h.flagged hx t outer) fun _ => h.body t outer

theorem CarriesGroups.group_succ (hx : Barred x) (h : CarriesGroups x known n n') (s : ReadState) :
    Carried x known s (readGroup (n + 1)) (readGroup (n' + 1)) := by
  rw [readGroup_succ, readGroup_succ]
  refine carried_skipSpace.bind fun _ t _ => carried_get_bind ?_
  rw [ReadState.flags_extend]
  -- all four marks of a look-around are tried, also behind one that is there
  refine (carried_eat hx (by decide)).bind fun _ u _ => (carried_eat hx (by decide)).bind fun _ u _ => ?_
  refine (carried_eat hx (by decide)).bind fun _ u _ => (carried_eat hx (by decide)).bind fun _ u _ => ?_
  refine Carried.ite (fun _ => carried_fail_bind _ _ _) fun _ => (carried_eat hx (by decide)).bind fun _ u _ => ?_
  refine Carried.ite (fun _ => h.behindName hx u _ true) fun _ => ?_
  exact (carried_eat hx (by decide)).bind fun named u _ => h.behindName hx u _ named

theorem CarriesGroups.closed_succ (hx : Barred x) (h : CarriesGroups x known n n') (s : ReadState)
    (done : List Piece) (outer : Flags) : Carried x known s (readAlternatives (n + 1) done >>= closeGroup outer)
      (readAlternatives (n' + 1) done >>= closeGroup outer) := by
  rw [readAlternatives, readAlternatives, bind_assoc, bind_assoc]
  refine (h.sequence s []).bind fun p t _ => ?_
  rw [bind_assoc, bind_assoc]
  -- at the end of the text the group is open, so it does not matter that a bar behind would be taken
  refine carried_peek_bind hx (fun hend c _ => ?_) fun c ht => ?_
  · exact (carried_closeGroup_of_end hend outer (alternation (done ++ [p])) _).congr rfl rfl
  · by_cases hc : some c = some '|'
    · rw [if_pos hc, if_pos hc, bind_assoc, bind_assoc]
      exact (carried_bump ht).bind fun _ u _ => h.closed u _ outer
    · rw [if_neg hc, if_neg hc, pure_bind]
      exact carried_closeGroup hx outer _

end

theorem carriesGroups (hx : Barred x) {n n' : Nat} (hle : n ≤ n') : CarriesGroups x known n n' := by
  induction n generalizing n' with
  | zero =>
    exact ⟨fun _ _ => carried_fail _ _, fun _ _ => carried_fail _ _, fun _ => carried_fail _ _,
      fun _ _ => carried_fail _ _, fun _ _ _ => carried_fail_bind _ _ _⟩
  | succ n ih =>
    obtain ⟨n', rfl⟩ := Nat.exists_eq_add_of_le' hle
    have hle := Nat.le_add_left n n'
    have h := ih hle
    exact ⟨h.sequence_succ hx, h.atom_succ hx hle, h.group_succ hx, fun s outer => h.closed s [] outer,
      h.closed_succ hx⟩

end

end ImportSurvey.Regex
