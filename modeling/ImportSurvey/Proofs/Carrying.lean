import Mathlib.Data.List.TakeWhile
import ImportSurvey.Regex.Reader

/-
  Reading an expression that has more text behind it.

  What a reader takes off the front of a text it takes as well if a bar and more text stand behind, as long as the
  names of groups that are known from before are others than its own.  There is one way for it to fail: blanks and
  comments are skipped where a flag says so, and a comment that the text leaves open swallows the bar.  Then the
  text is at its end and the flag is on (`Stuck`), and stays on.

  `Carried` says this for one reader, run from one state.  It is kept by sequencing (`Carried.bind`), so it holds
  for every reader by the way the reader is put together, and for those that call each other by induction on their
  fuel, of which there may be more with more text.  Readers of alternatives are the exception: they go on behind
  the bar, and `readBranches_continues` says with what.
-/
namespace ImportSurvey.Regex

/-! ## States with more behind them -/

/-- The state with text behind its text, and with names that are known from before. -/
def ReadState.extend (s : ReadState) (x : List Char) (known : List (List Char)) : ReadState :=
  { s with rest := s.rest ++ x, names := s.names ++ known }

@[simp] theorem ReadState.rest_extend (s : ReadState) (x : List Char) (known : List (List Char)) :
    (s.extend x known).rest = s.rest ++ x := rfl

@[simp] theorem ReadState.flags_extend (s : ReadState) (x : List Char) (known : List (List Char)) :
    (s.extend x known).flags = s.flags := rfl

@[simp] theorem ReadState.names_extend (s : ReadState) (x : List Char) (known : List (List Char)) :
    (s.extend x known).names = s.names ++ known := rfl

theorem ReadState.length_le_extend (s : ReadState) (x : List Char) (known : List (List Char)) :
    s.rest.length ≤ (s.extend x known).rest.length := by
  rw [rest_extend, List.length_append]
  exact Nat.le_add_right _ _

/-- A text that is empty or opens with a bar. -/
def Barred (x : List Char) : Prop := x = [] ∨ ∃ y, x = '|' :: y

theorem Barred.head {x : List Char} (h : Barred x) {c : Char} (hc : x.head? = some c) : c = '|' := by
  rcases h with rfl | ⟨y, rfl⟩
  · cases hc
  · exact (Option.some.inj hc).symm

/-- What holds no bar and stands in front of the whole stands in front of what is before the bar. -/
theorem Barred.prefix_of_append {x : List Char} (hx : Barred x) {ts cs : List Char} (hts : '|' ∉ ts)
    (h : ts <+: cs ++ x) : ts <+: cs := by
  rcases List.prefix_or_prefix_of_prefix h (List.prefix_append cs x) with h | ⟨more, rfl⟩
  · exact h
  · cases more with
    | nil => exact ⟨[], by rw [List.append_nil, List.append_nil]⟩
    | cons c more =>
      have hhead := (List.prefix_append_right_inj cs).mp h
      obtain ⟨y, hy⟩ := hhead
      have hbar : c = '|' := hx.head (by rw [← hy]; rfl)
      exact absurd (List.mem_append_right cs (hbar ▸ List.mem_cons_self ..)) hts

/-- Blanks or a comment were skipped up to the end, and would be with a bar behind it. -/
def Stuck (x : List Char) (t : ReadState) : Prop := x ≠ [] ∧ t.rest = [] ∧ t.flags.ignoreSpace = true

section

variable {α β : Type} {x : List Char} {known : List (List Char)} {s : ReadState}

/-- How a result is carried over from a run that ends in `t` to the run of `m'` with more behind. -/
structure CarriedTo (x : List Char) (known : List (List Char)) (s : ReadState) (m' : Read α) (a : α)
    (t : ReadState) : Prop where
  names : ∀ n ∈ s.names, n ∈ t.names
  shrinks : t.rest.length ≤ s.rest.length
  /-- no flag changes at the end of the text -/
  still : s.rest = [] → t.flags = s.flags
  carries : Stuck x t ∨ ((∀ n ∈ t.names, n ∉ known) → m' (s.extend x known) = .ok (a, t.extend x known))

theorem CarriedTo.rest_eq_nil {m' : Read α} {a : α} {t : ReadState} (h : CarriedTo x known s m' a t)
    (hs : s.rest = []) : t.rest = [] :=
  List.length_eq_zero_iff.mp (Nat.le_zero.mp (by simpa [hs] using h.shrinks))

/-- Whatever `m` reads from `s`, `m'` reads it with more behind. -/
def Carried (x : List Char) (known : List (List Char)) (s : ReadState) (m m' : Read α) : Prop :=
  ∀ a t, m s = .ok (a, t) → CarriedTo x known s m' a t

/-- What is carried over does not make the text longer. -/
theorem Carried.length_le {m : Read α} (h : Carried [] [] s m m) {a : α} {t : ReadState} (hrun : m s = .ok (a, t)) :
    t.rest.length ≤ s.rest.length := (h a t hrun).shrinks

/-! ## Sequencing -/

theorem bind_eq_ok {m : Read α} {f : α → Read β} {b : β} {t : ReadState} :
    (m >>= f) s = .ok (b, t) ↔ ∃ a s', m s = .ok (a, s') ∧ f a s' = .ok (b, t) := by
  show (m s >>= fun r => f r.1 r.2) = .ok (b, t) ↔ _
  cases m s with
  | error e => exact ⟨fun h => (by cases h), fun ⟨_, _, h, _⟩ => (by cases h)⟩
  | ok r => exact ⟨fun h => ⟨r.1, r.2, rfl, h⟩, fun ⟨_, _, h, hf⟩ => by cases h; exact hf⟩

theorem carried_pure (a : α) : Carried x known s (pure a) (pure a) := by
  intro b t h
  obtain ⟨rfl, rfl⟩ := Prod.mk.inj (Except.ok.inj h)
  exact ⟨fun _ hn => hn, le_refl _, fun _ => rfl, .inr fun _ => rfl⟩

theorem carried_fail (f : Fault) (m' : Read α) : Carried x known s (fail f) m' := fun _ _ h => by cases h

theorem carried_fail_bind (f : Fault) (k : α → Read β) (m' : Read β) : Carried x known s (fail f >>= k) m' :=
  fun _ _ h => by cases h

theorem Carried.bind {m m' : Read α} {f f' : α → Read β} (hm : Carried x known s m m')
    (hf : ∀ a t, m s = .ok (a, t) → Carried x known t (f a) (f' a)) :
    Carried x known s (m >>= f) (m' >>= f') := by
  intro b u h
  obtain ⟨a, t, hrun, hrest⟩ := bind_eq_ok.mp h
  have hfirst := hm a t hrun
  have hsecond := hf a t hrun b u hrest
  refine ⟨fun n hn => hsecond.names n (hfirst.names n hn), le_trans hsecond.shrinks hfirst.shrinks,
    fun hs => ?_, ?_⟩
  · exact (hsecond.still (hfirst.rest_eq_nil hs)).trans (hfirst.still hs)
  · rcases hfirst.carries with ⟨hx, hend, hflag⟩ | hfirst
    · exact .inl ⟨hx, hsecond.rest_eq_nil hend, by rw [hsecond.still hend, hflag]⟩
    · refine hsecond.carries.imp_right fun hsecond hnames =>
        bind_eq_ok.mpr ⟨a, t.extend x known, ?_, hsecond hnames⟩
      exact hfirst fun n hn => hnames n ((hf a t hrun b u hrest).names n hn)

theorem Carried.ite_iff {c c' : Prop} [Decidable c] [Decidable c'] {m m' k k' : Read α} (h : c ↔ c')
    (hm : c → Carried x known s m m') (hk : ¬ c → Carried x known s k k') :
    Carried x known s (if c then m else k) (if c' then m' else k') := by
  by_cases hc : c
  · rw [if_pos hc, if_pos (h.mp hc)]
    exact hm hc
  · rw [if_neg hc, if_neg (mt h.mpr hc)]
    exact hk hc

theorem Carried.ite {c : Prop} [Decidable c] {m m' k k' : Read α} (hm : c → Carried x known s m m')
    (hk : ¬ c → Carried x known s k k') : Carried x known s (if c then m else k) (if c then m' else k') :=
  .ite_iff Iff.rfl hm hk

theorem carried_if_pos {c : Prop} [Decidable c] (hc : c) {m k m' : Read α} (h : Carried x known s m m') :
    Carried x known s (if c then m else k) m' := by
  rw [if_pos hc]
  exact h

/-- Only what is done in the two states counts. -/
theorem Carried.congr {m m' k k' : Read α} (h : Carried x known s k k') (hm : m s = k s)
    (hm' : m' (s.extend x known) = k' (s.extend x known)) : Carried x known s m m' := by
  intro a t hrun
  obtain ⟨hnames, hshrinks, hstill, hcarries⟩ := h a t (hm ▸ hrun)
  exact ⟨hnames, hshrinks, hstill, hcarries.imp_right fun h hn => hm'.trans (h hn)⟩

theorem carried_get_bind {f f' : ReadState → Read β} (h : Carried x known s (f s) (f' (s.extend x known))) :
    Carried x known s (get >>= f) (get >>= f') := h.congr rfl rfl

/-- What comes next decides, and at the end of the text it is nothing or the bar. -/
theorem carried_peek_bind (hx : Barred x) {f f' : Option Char → Read β}
    (hend : s.rest = [] → ∀ c, c = none ∨ c = some '|' → Carried x known s (f none) (f' c))
    (hnext : ∀ c, s.rest ≠ [] → Carried x known s (f (some c)) (f' (some c))) :
    Carried x known s (peek >>= f) (peek >>= f') := by
  have hpeek (k : Option Char → Read β) (u : ReadState) : (peek >>= k) u = k u.rest.head? u := rfl
  cases hs : s.rest with
  | nil =>
    have hhead : (s.extend x known).rest.head? = x.head? := by rw [ReadState.rest_extend, hs, List.nil_append]
    have hnext : x.head? = none ∨ x.head? = some '|' := by
      rcases hx with rfl | ⟨y, rfl⟩
      · exact .inl rfl
      · exact .inr rfl
    exact (hend hs _ hnext).congr (by rw [hpeek, hs]; rfl) (by rw [hpeek, hhead])
  | cons c cs =>
    have hhead : (s.extend x known).rest.head? = some c := by rw [ReadState.rest_extend, hs]; rfl
    exact (hnext c (hs ▸ List.cons_ne_nil c cs)).congr (by rw [hpeek, hs]; rfl) (by rw [hpeek, hhead])

/-- At the end of the text, only the bar can come next with more behind. -/
theorem next_at_end {c : Option Char} (hc : c = none ∨ c = some '|') {d : Char} (hd : '|' ≠ d) :
    none = some d ↔ c = some d := by
  rcases hc with rfl | rfl
  · exact Iff.rfl
  · exact ⟨fun h => (by cases h), fun h => absurd (Option.some.inj h) hd⟩

/-! ## Taking characters -/

/-- A step that changes nothing but the text, and does the same to what stands before the end. -/
theorem carried_of_rest {m m' : Read α} (a : α) (rest : List Char) (hm : m s = .ok (a, { s with rest := rest }))
    (hshrinks : rest.length ≤ s.rest.length)
    (hm' : m' (s.extend x known) = .ok (a, ReadState.extend { s with rest := rest } x known)) :
    Carried x known s m m' := by
  intro b t h
  obtain ⟨rfl, rfl⟩ := Prod.mk.inj (Except.ok.inj (hm.symm.trans h))
  exact ⟨fun _ hn => hn, hshrinks, fun _ => rfl, .inr fun _ => hm'⟩

/-- A character that is there is taken with what stands behind it. -/
theorem carried_bump (hs : s.rest ≠ []) : Carried x known s bump bump := by
  refine carried_of_rest () s.rest.tail rfl (by simp) ?_
  show Except.ok ((), { s.extend x known with rest := (s.rest ++ x).tail }) = _
  rw [List.tail_append_of_ne_nil hs]
  rfl

theorem rest_of_bump {t : ReadState} {u : Unit} (h : bump s = .ok (u, t)) : t.rest = s.rest.tail := by
  obtain ⟨-, rfl⟩ := Prod.mk.inj (Except.ok.inj h)
  rfl

theorem length_of_bump (hs : s.rest ≠ []) {t : ReadState} {u : Unit} (h : bump s = .ok (u, t)) :
    t.rest.length < s.rest.length := by
  rw [rest_of_bump h, List.length_tail]
  exact Nat.sub_lt (List.length_pos_iff.mpr hs) Nat.one_pos

theorem length_withoutSpace_le (cs : List Char) :
    (withoutSpace cs).length ≤ cs.length ∧ (withoutSpace.comment cs).length ≤ cs.length := by
  induction cs with
  | nil => exact ⟨le_refl _, le_refl _⟩
  | cons c cs ih =>
    rw [withoutSpace, withoutSpace.comment]
    refine ⟨?_, ?_⟩
    · split
      · exact Nat.le_succ_of_le ih.1
      · split
        · exact Nat.le_succ_of_le ih.2
        · exact le_refl _
    · split
      · exact Nat.le_succ_of_le ih.1
      · exact Nat.le_succ_of_le ih.2

/-- Where something is left, nothing behind it is skipped. -/
theorem withoutSpace_append (cs x : List Char) :
    (withoutSpace cs ≠ [] → withoutSpace (cs ++ x) = withoutSpace cs ++ x) ∧
      (withoutSpace.comment cs ≠ [] → withoutSpace.comment (cs ++ x) = withoutSpace.comment cs ++ x) := by
  induction cs with
  | nil => exact ⟨fun h => absurd rfl h, fun h => absurd rfl h⟩
  | cons c cs ih =>
    rw [withoutSpace, withoutSpace.comment, List.cons_append, withoutSpace, withoutSpace.comment]
    refine ⟨fun h => ?_, fun h => ?_⟩
    · by_cases hspace : Unicode.isWhiteSpace c = true
      · rw [if_pos hspace] at h
        rw [if_pos hspace, if_pos hspace]
        exact ih.1 h
      · rw [if_neg hspace] at h
        rw [if_neg hspace, if_neg hspace]
        by_cases hhash : c = '#'
        · rw [if_pos hhash] at h
          rw [if_pos hhash, if_pos hhash]
          exact ih.2 h
        · rw [if_neg hhash, if_neg hhash]
          rfl
    · by_cases hline : c = '\n'
      · rw [if_pos hline] at h
        rw [if_pos hline, if_pos hline]
        exact ih.1 h
      · rw [if_neg hline] at h
        rw [if_neg hline, if_neg hline]
        exact ih.2 h

theorem carried_skipSpace : Carried x known s skipSpace skipSpace := by
  have hrun (u : ReadState) : skipSpace u =
      .ok ((), if u.flags.ignoreSpace then { u with rest := withoutSpace u.rest } else u) := rfl
  by_cases hflag : s.flags.ignoreSpace = true
  · by_cases hstuck : x ≠ [] ∧ withoutSpace s.rest = []
    · intro a t h
      rw [hrun, if_pos hflag] at h
      obtain ⟨-, rfl⟩ := Prod.mk.inj (Except.ok.inj h)
      exact ⟨fun _ hn => hn, (length_withoutSpace_le s.rest).1, fun _ => rfl, .inl ⟨hstuck.1, hstuck.2, hflag⟩⟩
    · have happ : withoutSpace (s.rest ++ x) = withoutSpace s.rest ++ x := by
        by_cases hx : x = []
        · rw [hx, List.append_nil, List.append_nil]
        · exact (withoutSpace_append s.rest x).1 fun hnil => hstuck ⟨hx, hnil⟩
      refine carried_of_rest () (withoutSpace s.rest) ?_ (length_withoutSpace_le s.rest).1 ?_
      · rw [hrun, if_pos hflag]
      · rw [hrun, ReadState.flags_extend, if_pos hflag, ReadState.extend, happ]
        rfl
  · refine carried_of_rest () s.rest ?_ (le_refl _) ?_
    · rw [hrun, if_neg hflag]
    · rw [hrun, ReadState.flags_extend, if_neg hflag]

theorem carried_bumpSpace (hs : s.rest ≠ []) : Carried x known s bumpSpace bumpSpace :=
  (carried_bump hs).bind fun _ _ _ => carried_skipSpace

theorem length_of_bumpSpace (hs : s.rest ≠ []) {t : ReadState} {u : Unit} (h : bumpSpace s = .ok (u, t)) :
    t.rest.length < s.rest.length := by
  obtain ⟨_, s', hbump, hskip⟩ := bind_eq_ok.mp h
  exact lt_of_le_of_lt (carried_skipSpace.length_le hskip) (length_of_bump hs hbump)

/-- A text without a bar stands at the front or does not, whatever stands behind. -/
theorem carried_eat (hx : Barred x) {text : String} (htext : '|' ∉ text.toList) :
    Carried x known s (eat text) (eat text) := by
  have hrun (u : ReadState) : eat text u = if text.toList.isPrefixOf u.rest then
      .ok (true, { u with rest := u.rest.drop text.length }) else .ok (false, u) := by
    show (if _ then _ else _ : Read Bool) u = _
    split <;> rfl
  have hfront : text.toList.isPrefixOf (s.rest ++ x) = text.toList.isPrefixOf s.rest := by
    rw [Bool.eq_iff_iff, List.isPrefixOf_iff_prefix, List.isPrefixOf_iff_prefix]
    exact ⟨hx.prefix_of_append htext, fun h => h.trans (List.prefix_append s.rest x)⟩
  by_cases hthere : text.toList.isPrefixOf s.rest = true
  · have hlength : text.length ≤ s.rest.length := (List.isPrefixOf_iff_prefix.mp hthere).length_le
    refine carried_of_rest true (s.rest.drop text.length) ?_ (by simp) ?_
    · rw [hrun, if_pos hthere]
    · rw [hrun, ReadState.extend, hfront, if_pos hthere, List.drop_append_of_le_length hlength]
      rfl
  · refine carried_of_rest false s.rest ?_ (le_refl _) ?_
    · rw [hrun, if_neg hthere]
    · rw [hrun, ReadState.extend, hfront, if_neg hthere]

/-- What is taken up to a character that is there does not depend on what stands behind. -/
theorem taken_append {p : Char → Bool} {cs after : List Char} {c : Char} (h : cs.dropWhile p = c :: after)
    (x : List Char) :
    (cs ++ x).takeWhile p = cs.takeWhile p ∧ (cs ++ x).dropWhile p = c :: (after ++ x) := by
  refine ⟨?_, by rw [List.dropWhile_append, h]; rfl⟩
  have happ := List.takeWhile_append_dropWhile (p := p) (l := cs)
  rw [h] at happ
  rw [List.takeWhile_append, if_neg]
  intro hall
  have hlength := congrArg List.length happ
  rw [List.length_append, hall, List.length_cons] at hlength
  omega

theorem get_bind_run (f : ReadState → Read β) (u : ReadState) : (get >>= f) u = f u u := rfl

theorem bind_congr_run {m k : Read α} (h : m s = k s) (f : α → Read β) : (m >>= f) s = (k >>= f) s := by
  show (m s >>= fun r => f r.1 r.2) = (k s >>= fun r => f r.1 r.2)
  rw [h]

/-- If the character is there, what stands before it is taken. -/
theorem carried_takeUntil_bind {stop : Char} {f f' : Option (List Char) → Read β} {e : Fault}
    (hnone : f none = fail e)
    (hsome : ∀ cs, ∀ t : ReadState, Carried x known t (f (some cs)) (f' (some cs))) :
    Carried x known s (takeUntil stop >>= f) (takeUntil stop >>= f') := by
  have hmissing {u : ReadState} (h : u.rest.dropWhile (· ≠ stop) = []) : takeUntil stop u = .ok (none, u) := by
    rw [takeUntil, get_bind_run, h]
    rfl
  have hthere {u : ReadState} {c : Char} {after : List Char} (h : u.rest.dropWhile (· ≠ stop) = c :: after) :
      takeUntil stop u = .ok (some (u.rest.takeWhile (· ≠ stop)), { u with rest := after }) := by
    rw [takeUntil, get_bind_run, h]
    rfl
  cases hdrop : s.rest.dropWhile (· ≠ stop) with
  | nil =>
    intro b t h
    obtain ⟨a, u, htaken, hrest⟩ := bind_eq_ok.mp h
    rw [hmissing hdrop] at htaken
    obtain ⟨rfl, rfl⟩ := Prod.mk.inj (Except.ok.inj htaken)
    rw [hnone] at hrest
    cases hrest
  | cons c after =>
    obtain ⟨hsame, hlonger⟩ := taken_append hdrop x
    have hshrinks : after.length ≤ s.rest.length := by
      have hlength := (List.dropWhile_sublist (l := s.rest) (· ≠ stop)).length_le
      rw [hdrop] at hlength
      exact Nat.le_of_succ_le hlength
    refine (Carried.bind ?_ fun a t h => ?_)
    · exact carried_of_rest (some (s.rest.takeWhile (· ≠ stop))) after (hthere hdrop) hshrinks (by
        rw [hthere hlonger, ReadState.extend, hsame]
        rfl)
    · rw [hthere hdrop] at h
      obtain ⟨rfl, rfl⟩ := Prod.mk.inj (Except.ok.inj h)
      exact hsome _ _

theorem carried_set (rest : List Char) (hshrinks : rest.length ≤ s.rest.length) {x' : List Char}
    (hx' : x' = rest ++ x) :
    Carried x known s (set { s with rest := rest }) (set { s.extend x known with rest := x' }) :=
  carried_of_rest () rest rfl hshrinks (by rw [hx']; rfl)

end

end ImportSurvey.Regex
