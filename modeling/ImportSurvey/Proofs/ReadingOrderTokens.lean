import ImportSurvey.Proofs.ReadingOrder

/-
  Tokens, literals and lists are read in the order of the text.

  The one place where a position comes into a tree is a literal, which is the current token and is passed over at
  once.  The next token is behind it: what is skipped has no negative length (`le_position_skip`), a cut is as
  long as its token (`fits_next`), and no literal is shorter than one character.

  Two signs that were read as one are cut in two by giving a character back to the text, so the place in the text
  can go back, but never behind the start of the token.  This is why `State.Sound` speaks of the length of some
  signs too.

  A few productions depend on the token that they found: a literal, and the signs of which a character is given
  back.  For these `OrderlyAt` says what `Orderly` says, at places with a certain token.
-/
namespace ImportSurvey.Script

variable {α β : Type}

/-! ## Moving on -/

theorem le_position_skip (script : Bool) (gap : Gap) (cs : List Char) (n : Nat) (newline : Bool) :
    n ≤ (skip script gap cs n newline).position := by
  fun_induction skip script gap cs n newline <;> first | omega | exact Nat.le_refl _

/-- A cut is at least as long as its token has to be. -/
def Cut.Fits (cut : Cut) : Prop := cut.lexeme.extent ≤ cut.length

theorem Cut.fits_of_extent_eq_zero {cut : Cut} (h : cut.lexeme.extent = 0) : cut.Fits := by
  rw [Fits, h]
  exact Nat.zero_le _

theorem fits_sign (cs : List Char) : (sign cs).Fits := by
  have hsigns : ∀ x ∈ signs, (Lexeme.sign x.1).extent ≤ x.2.length := by decide
  unfold sign
  split
  · split <;> exact Cut.fits_of_extent_eq_zero rfl
  · split
    · rename_i hfind
      exact hsigns _ (List.mem_of_find?_eq_some hfind)
    · exact Cut.fits_of_extent_eq_zero rfl

theorem fits_quotedText (q : Char) (rest : List Char) : (quotedText q rest).Fits := by
  unfold quotedText
  split
  · exact Nat.le_add_left _ _
  · exact Cut.fits_of_extent_eq_zero rfl

theorem fits_templatePiece (first : Bool) (rest : List Char) : (templatePiece first rest).Fits := by
  unfold templatePiece
  split
  · exact Cut.fits_of_extent_eq_zero rfl
  · rename_i n closed _
    show Lexeme.extent _ ≤ _
    cases first <;> cases closed <;> simp [Lexeme.extent]

theorem extent_templatePiece (rest : List Char) : (templatePiece false rest).lexeme.extent = 0 := by
  unfold templatePiece
  split
  · rfl
  · rename_i n closed _
    cases closed <;> rfl

theorem extent_regex (cs : List Char) : (regex cs).lexeme.extent = 0 := by
  unfold regex
  split <;> rfl

theorem fits_number (length : Option Nat) (cs : List Char) : (number length cs).Fits := by
  unfold number
  split
  · split <;> exact Cut.fits_of_extent_eq_zero rfl
  · exact Cut.fits_of_extent_eq_zero rfl

theorem fits_next (cs : List Char) : (next cs).Fits := by
  unfold next
  split
  · exact Cut.fits_of_extent_eq_zero rfl
  split
  · split <;> exact Cut.fits_of_extent_eq_zero rfl
  split
  · exact fits_quotedText _ _
  split
  · exact fits_templatePiece _ _
  split
  · exact fits_number _ _
  split
  · exact fits_number _ _
  split
  · split
    · split <;> exact Cut.fits_of_extent_eq_zero rfl
    · exact Cut.fits_of_extent_eq_zero rfl
  · exact fits_sign _

theorem fits_betweenTags (cs : List Char) : (betweenTags cs).Fits := by
  unfold betweenTags
  split <;> exact Cut.fits_of_extent_eq_zero rfl

theorem fits_tagValue (cs : List Char) : (tagValue cs).Fits := by
  unfold tagValue
  split
  · dsimp only
    split
    · exact Nat.le_add_left _ _
    · exact Cut.fits_of_extent_eq_zero rfl
  · exact Cut.fits_of_extent_eq_zero rfl

theorem State.sound_after {cut : Cut} (h : cut.Fits) (s : State) (rest : List Char) (position : Nat)
    (newline : Bool) : (s.after cut rest position newline).Sound := Nat.add_le_add_left h position

namespace Parse

theorem move_spec {c : Context} {s s' : State} {a : Unit} (h : move c s = (some a, s')) :
    s'.Sound ∧ s.position ≤ s'.here := by
  obtain ⟨c', s₁, hread, hmodify⟩ := bind_eq_some h
  obtain ⟨-, rfl⟩ := Prod.mk.inj hread
  obtain ⟨-, rfl⟩ := Prod.mk.inj hmodify
  exact ⟨State.sound_after (fits_next _) _ _ _ _, le_position_skip _ _ _ _ _⟩

theorem faultIf_spec {wrong : Bool} {c : Context} {s s' : State} {a : Unit}
    (h : faultIf wrong c s = (some a, s')) : s'.token = s.token ∧ s'.position = s.position := by
  cases wrong <;> obtain ⟨-, rfl⟩ := Prod.mk.inj h <;> exact ⟨rfl, rfl⟩

theorem advance_spec {c : Context} {s s' : State} {a : Unit} (h : advance c s = (some a, s')) :
    s'.Sound ∧ s.position ≤ s'.here := by
  obtain ⟨t, s₁, hcurrent, h⟩ := bind_eq_some h
  obtain ⟨-, rfl⟩ := Prod.mk.inj hcurrent
  rcases t with ⟨lexeme, start, newline⟩
  cases lexeme with
  | word w escaped =>
    cases escaped with
    | true =>
      obtain ⟨u, s₂, hfault, hmove⟩ := bind_eq_some h
      obtain ⟨-, hposition⟩ := faultIf_spec hfault
      exact hposition ▸ move_spec hmove
    | false => exact move_spec h
  | _ => exact move_spec h

end Parse

theorem State.Sound.here_le {s : State} (h : s.Sound) : s.here ≤ s.position := Nat.le_of_add_right_le h

instance inOrder_fault (count : Nat) : InOrder (Parse.fault count) :=
  inOrder_modify (fun _ h => h) fun _ _ => Nat.le_refl _

instance inOrder_faultIf (wrong : Bool) : InOrder (Parse.faultIf wrong) := by
  unfold Parse.faultIf
  infer_instance

instance inOrder_require (p : Bool) : InOrder (Parse.require p) := by
  unfold Parse.require
  infer_instance

instance inOrder_isTyped : InOrder Parse.isTyped := by
  unfold Parse.isTyped
  infer_instance

instance inOrder_current : InOrder Parse.current := by
  unfold Parse.current
  infer_instance

theorem inOrder_jump {scan : List Char → Cut} (h : ∀ cs, (scan cs).Fits) : InOrder (Parse.jump scan) :=
  inOrder_modify (fun s _ => State.sound_after (h _) s _ _ _) fun _ hs => hs.here_le

instance inOrder_advance : InOrder Parse.advance := by
  refine ⟨fun c s low a s' hrun hsound hbefore => ?_⟩
  obtain ⟨hsound', hle⟩ := Parse.advance_spec hrun
  have hhere := Nat.le_trans hsound.here_le hle
  exact ⟨hsound', hhere, hbefore.mono (Nat.le_refl _) hhere⟩

instance inOrder_skipWord : InOrder Parse.skipWord := by
  refine ⟨fun c s low a s' hrun hsound hbefore => ?_⟩
  obtain ⟨hsound', hle⟩ := Parse.move_spec hrun
  have hhere := Nat.le_trans hsound.here_le hle
  exact ⟨hsound', hhere, hbefore.mono (Nat.le_refl _) hhere⟩

section Signs

variable (w : String)

instance inOrder_peek : InOrder Parse.peek := by
  unfold Parse.peek
  infer_instance

instance inOrder_atSign : InOrder (Parse.atSign w) := by
  unfold Parse.atSign
  infer_instance

instance inOrder_atWord : InOrder (Parse.atWord w) := by
  unfold Parse.atWord
  infer_instance

instance inOrder_atName : InOrder Parse.atName := by
  unfold Parse.atName
  infer_instance

instance inOrder_onNewLine : InOrder Parse.onNewLine := by
  unfold Parse.onNewLine
  infer_instance

instance inOrder_eatSign : InOrder (Parse.eatSign w) := by
  unfold Parse.eatSign
  infer_instance

instance inOrder_eatWord : InOrder (Parse.eatWord w) := by
  unfold Parse.eatWord
  infer_instance

instance inOrder_expectSign : InOrder (Parse.expectSign w) := by
  unfold Parse.expectSign
  infer_instance

instance inOrder_expectWord : InOrder (Parse.expectWord w) := by
  unfold Parse.expectWord
  infer_instance

instance inOrder_canEnd : InOrder Parse.canEnd := by
  unfold Parse.canEnd
  infer_instance

instance inOrder_endStatement : InOrder Parse.endStatement := by
  unfold Parse.endStatement
  infer_instance

instance inOrder_checkName : InOrder (Parse.checkName w) := by
  unfold Parse.checkName
  infer_instance

end Signs

/-! ## Where the current token is known -/

section Known

variable [Literals α] [Literals β] {before : List Nat} {t : Token}

/-- The same as `Orderly`, where the current token is `t`. -/
def OrderlyAt (t : Token) (before : List Nat) (p : Parse α) : Prop :=
  ∀ ⦃c s low a s'⦄, s.token = t → p c s = (some a, s') → s.Sound → Spans low s.here before →
    s'.Sound ∧ s.here ≤ s'.here ∧ Spans low s'.here (positions a)

theorem OrderlyAt.of {p : Parse α} (h : Orderly before p) : OrderlyAt t before p := fun _ _ _ _ _ _ hrun => h hrun

theorem Orderly.current {f : Token → Parse α} (h : ∀ t, OrderlyAt t before (f t)) :
    Orderly before (Parse.current >>= f) := by
  intro c s low a s' hrun
  obtain ⟨t, s₁, hcurrent, hrest⟩ := bind_eq_some hrun
  obtain ⟨ht, rfl⟩ := Prod.mk.inj hcurrent
  exact h t (Option.some.inj ht) hrest

theorem OrderlyAt.seq {p : Parse α} {f : α → Parse β} (hp : OrderlyAt t [] p)
    (hf : ∀ a, Orderly (before ++ positions a) (f a)) : OrderlyAt t before (p >>= f) := by
  intro c s low b s'' ht hrun hsound hbefore
  obtain ⟨a, s', hfirst, hrest⟩ := bind_eq_some hrun
  obtain ⟨hsound', hle, hspans⟩ := hp ht hfirst hsound (.nil (Nat.le_refl s.here))
  obtain ⟨hsound'', hle', hspans'⟩ := hf a hrest hsound' (hbefore.append hspans)
  exact ⟨hsound'', Nat.le_trans hle hle', hspans'⟩

/-- **Behind a literal its place has been read.** -/
theorem OrderlyAt.passed {p : Parse α} (ht : 0 < t.lexeme.extent) (h : Orderly (before ++ [t.start]) p) :
    OrderlyAt t before (Parse.advance >>= fun _ => p) := by
  intro c s low b s'' heq hrun hsound hbefore
  obtain ⟨a, s', hfirst, hrest⟩ := bind_eq_some hrun
  obtain ⟨hsound', hle⟩ := Parse.advance_spec hfirst
  rw [State.Sound, heq] at hsound
  have hpassed : Spans s.here s'.here [t.start] := by
    rw [← heq]
    exact .singleton (Nat.le_refl _) (by unfold State.here at *; omega)
  obtain ⟨hsound'', hle', hspans⟩ := h hrest hsound' (hbefore.append hpassed)
  exact ⟨hsound'', Nat.le_trans hpassed.le hle', hspans⟩

/-- A token may be scanned anew, with characters of it given back, if it is long enough for that. -/
theorem OrderlyAt.rescan {scan : List Char → Cut} {back : List Char}
    (h : ∀ cs, (scan cs).lexeme.extent + back.length ≤ t.lexeme.extent + (scan cs).length) :
    OrderlyAt t [] (Parse.rescan scan back) := by
  intro c s low a s' ht hrun hsound hbefore
  obtain ⟨-, rfl⟩ := Prod.mk.inj hrun
  refine ⟨?_, Nat.le_refl _, hbefore⟩
  have := h (back ++ s.rest)
  rw [State.Sound, ht] at hsound
  show s.here + (scan (back ++ s.rest)).lexeme.extent ≤ s.position - back.length + (scan (back ++ s.rest)).length
  omega

theorem inOrder_rescan {scan : List Char → Cut} (h : ∀ cs, (scan cs).lexeme.extent = 0) :
    InOrder (Parse.rescan scan []) := by
  refine ⟨fun c s low a s' => OrderlyAt.rescan (fun cs => ?_) rfl⟩
  rw [h cs, List.length_nil]
  exact Nat.zero_le _

end Known

theorem of_isSign {t : Token} {w : String} (h : t.isSign w = true) : t.lexeme = .sign w := beq_iff_eq.mp h

instance inOrder_joinGreater : InOrder Parse.joinGreater := by
  unfold Parse.joinGreater
  have hextent : ∀ w ∈ [">>>=", ">>>", ">>=", ">>", ">="], (Lexeme.sign w).extent = 0 := by decide
  have hjoin {w : String} (hw : w ∈ [">>>=", ">>>", ">>=", ">>", ">="]) :
      InOrder (Parse.rescan (fun _ => ⟨.sign w, w.length - 1, 0⟩) []) := inOrder_rescan fun _ => hextent w hw
  refine ⟨.bind fun greater => .ite (.bind fun s => ?_) .last⟩
  dsimp only
  split
  · rename_i hfind
    have := hjoin (List.mem_of_find?_eq_some hfind)
    exact .last
  · exact .last

instance inOrder_splitLess : InOrder Parse.splitLess := by
  unfold Parse.splitLess
  -- what is left of the token is one character, and the rest is back in the text
  have hsplit {t : Token} {back : String} (h : back.toList.length ≤ t.lexeme.extent) :
      OrderlyAt t [] (Parse.rescan (fun _ => ⟨.sign "<", 0, 0⟩) back.toList >>= fun _ => pure true) :=
    .seq (.rescan fun _ => by simpa [Lexeme.extent] using h) fun _ => .last
  refine ⟨.current fun t => ?_⟩
  dsimp only
  split
  · rename_i hless
    exact hsplit (by rw [of_isSign hless]; decide)
  split
  · rename_i hless
    exact hsplit (by rw [of_isSign hless]; decide)
  · exact .of .last

/-! ## Names, literals and lists -/

instance inOrder_name : InOrder Parse.name := by
  unfold Parse.name
  refine ⟨.bind fun t => ?_⟩
  split
  · exact .last
  · exact .giveUp

instance inOrder_anyWord : InOrder Parse.anyWord := by
  unfold Parse.anyWord
  refine ⟨.bind fun t => ?_⟩
  split
  · exact .last
  · exact .giveUp

/-- **A string literal stands where it starts**, which is behind what was read before. -/
instance inOrder_literal : InOrder Parse.literal := by
  unfold Parse.literal
  refine ⟨.current fun t => ?_⟩
  split
  · rename_i htext
    exact .passed (by rw [htext]; exact Nat.one_pos) (.pure (by simp))
  · exact .of .giveUp

instance inOrder_template {tagged : Bool} {substitution : Parse (List Node)} [InOrder substitution] :
    InOrder (Parse.template tagged substitution) := by
  have hgo (piece : Bool → Parse Unit) (hpiece : ∀ sound, InOrder (piece sound)) (n : Nat) :
      Orderly [] (Parse.template.go substitution piece n) := by
    induction n with
    | zero => exact .giveUp
    | succ n ih =>
      rw [Parse.template.go]
      -- the bracket that closes a substitution is read again as the start of the next piece
      have : InOrder (Parse.rescan (fun cs => { templatePiece false cs with
          length := (templatePiece false cs).length - 1 }) []) := by
        exact inOrder_rescan fun cs => extent_templatePiece cs
      refine .bind fun parts => .bind fun _ => .bind fun _ => .bind fun _ => .bind fun t => ?_
      split
      · exact .bind fun _ => .bind fun _ => .seq ih fun more => .pure (by simp)
      · exact .bind fun _ => .bind fun _ => .pure (by simp)
      · exact .giveUp
  unfold Parse.template
  refine ⟨.current fun t => ?_⟩
  dsimp only
  split
  · rename_i htemplate
    exact .passed (by rw [htemplate]; exact Nat.one_pos) (.pure (by simp))
  · exact .of (.bind fun _ => .bind fun _ => .pure (by simp))
  · refine .of (.bind fun _ => .bind fun _ => .bind fun n => ?_)
    exact .seq (hgo _ (fun _ => inferInstance) n) fun parts => .pure (by simp)
  · exact .of .giveUp

section Lists

variable [Literals α]

theorem Orderly.listUntil {closed : Parse Bool} [InOrder closed] {item : Parse α} (h : Orderly [] item) :
    Orderly [] (Parse.listUntil closed item) := by
  have hgo (n : Nat) : Orderly [] (Parse.listUntil.go closed item n) := by
    induction n with
    | zero => exact .giveUp
    | succ n ih =>
      rw [Parse.listUntil.go]
      refine .seq h fun a => .bind fun isClosed => .ite (.pure (by simp)) ?_
      refine .bind fun _ => .bind fun isClosed => .ite (.pure (by simp)) ?_
      exact .seq ih fun as => .pure (by simp)
  refine .bind fun isClosed => .ite (.pure (by simp)) ?_
  exact .bind fun n => (hgo n).mono (List.nil_sublist _)

theorem Orderly.listTo {close : String} {item : Parse α} (h : Orderly [] item) :
    Orderly [] (Parse.listTo close item) := .seq h.listUntil fun as => .pure (by simp)

instance inOrder_listUntil {closed : Parse Bool} [InOrder closed] {item : Parse α} [h : InOrder item] :
    InOrder (Parse.listUntil closed item) := ⟨h.orderly.listUntil⟩

instance inOrder_listTo {close : String} {item : Parse α} [h : InOrder item] : InOrder (Parse.listTo close item) :=
  ⟨h.orderly.listTo⟩

end Lists

end ImportSurvey.Script
