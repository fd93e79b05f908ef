import Mathlib.Data.List.Induction
import ImportSurvey.Proofs.Segments

/-
  Paths that are spelled as their components are.

  A path can be spelled in many ways: separators may be repeated and dots put in, its components stay the same.
  A path is tidy if no segment but the first is empty or a dot, and then it is what its components spell
  (`Tidy.ofComponents_components`): of all spellings there is one tidy one.  Whatever is simplified, joined with
  tidy names, stepped up from or given an extension is tidy again, so a path stays tidy wherever a search takes
  it.
-/
namespace ImportSurvey.Path

/-! ## Segments and components -/

/-- A segment that stands for a component wherever it stands. -/
def Solid (s : List Char) : Prop := s ≠ [] ∧ s ≠ ['.']

instance (s : List Char) : Decidable (Solid s) := inferInstanceAs (Decidable (_ ∧ _))

theorem ofSegment?_of_solid {s : List Char} (h : Solid s) :
    ∃ c, Component.ofSegment? s = some c ∧ c ≠ .root ∧ c.text.toList = s := by
  rw [Component.ofSegment?, if_neg (not_or.mpr h)]
  split
  · rename_i hup
    exact ⟨.up, rfl, Component.noConfusion, hup ▸ rfl⟩
  · exact ⟨.name (.ofList s), rfl, Component.noConfusion, String.toList_ofList⟩

theorem filterMap_ofSegment? {ss : List (List Char)} (h : ∀ s ∈ ss, Solid s) :
    (ss.filterMap Component.ofSegment?).map (·.text.toList) = ss := by
  induction ss with
  | nil => rfl
  | cons s ss ih =>
    obtain ⟨c, hc, -, hs⟩ := ofSegment?_of_solid (h s (List.mem_cons_self ..))
    rw [List.filterMap_cons_some hc, List.map_cons, hs, ih fun t ht => h t (List.mem_cons_of_mem s ht)]

/-- The characters that components spell behind each other. -/
def spell (cs : List Component) : List Char := ['/'].intercalate (cs.map (·.text.toList))

theorem toList_intercalate_text (cs : List Component) :
    ("/".intercalate (cs.map Component.text)).toList = spell cs := by
  rw [String.toList_intercalate, List.map_map]
  rfl

theorem ofComponents_root (cs : List Component) : (ofComponents (.root :: cs)).text.toList = '/' :: spell cs := by
  rw [ofComponents, String.toList_append, toList_intercalate_text]
  rfl

theorem ofComponents_of_ne_root {cs : List Component} (h : ∀ rest, cs ≠ .root :: rest) :
    (ofComponents cs).text.toList = spell cs := by
  rw [ofComponents]
  · exact toList_intercalate_text cs
  · exact h

/-! ## Tidy paths -/

/-- No segment but the first is empty or a dot. -/
def Tidy (p : Path) : Prop := p.text = "/" ∨ ∀ s ∈ (segments p.text.toList).tail, Solid s

theorem isAbsolute_iff {p : Path} {s : List Char} {ss : List (List Char)}
    (h : segments p.text.toList = s :: ss) : p.isAbsolute = true ↔ s = [] ∧ ss ≠ [] := by
  rw [isAbsolute]
  cases hcs : p.text.toList with
  | nil =>
    rw [hcs, segments_nil] at h
    cases h
    exact ⟨fun hf => (by cases hf), fun hf => absurd rfl hf.2⟩
  | cons c cs =>
    rw [hcs] at h
    by_cases hc : c = '/'
    · subst hc
      rw [segments_sep] at h
      cases h
      exact ⟨fun _ => ⟨rfl, segments_ne_nil cs⟩, fun _ => rfl⟩
    · obtain ⟨t, ts, ht⟩ := List.exists_cons_of_ne_nil (segments_ne_nil cs)
      rw [segments_cons hc ht] at h
      cases h
      exact ⟨fun hf => absurd (by simpa using hf) hc, fun hf => absurd hf.1 (List.cons_ne_nil _ _)⟩

/-- **A tidy path is what its components spell.** -/
theorem Tidy.ofComponents_components {p : Path} (h : Tidy p) : ofComponents p.components = p := by
  rcases h with hroot | hsolid
  · obtain rfl : p = ⟨"/"⟩ := by rw [← hroot]
    decide
  · have htext := intercalate_segments p.text.toList
    obtain ⟨s, ss, hss⟩ := List.exists_cons_of_ne_nil (segments_ne_nil p.text.toList)
    have habs := isAbsolute_iff hss
    rw [hss, List.tail_cons] at hsolid
    have hinner := filterMap_ofSegment? hsolid
    rw [hss] at htext
    suffices hlist : (ofComponents p.components).text.toList = p.text.toList by
      cases hp : ofComponents p.components with
      | mk text =>
        rw [hp] at hlist
        rw [show text = p.text from String.toList_inj.mp hlist]
    rw [← htext, components, hss]
    dsimp only
    split
    · rename_i hroot
      obtain ⟨rfl, hne⟩ := habs.mp hroot
      obtain ⟨t, ts, rfl⟩ := List.exists_cons_of_ne_nil hne
      rw [ofComponents_root, spell, hinner, List.intercalate_cons_cons]
      rfl
    · rename_i hroot
      split
      · rename_i hdot
        rw [ofComponents_of_ne_root (fun _ hf => (by cases hf)), spell, List.map_cons, hinner, hdot]
        rfl
      · rename_i hdot
        by_cases hempty : s = []
        · have hnil : ss = [] := not_not.mp fun hne => hroot (habs.mpr ⟨hempty, hne⟩)
          rw [hempty, hnil]
          rfl
        · obtain ⟨c, hc, hnotroot, hs⟩ := ofSegment?_of_solid ⟨hempty, hdot⟩
          rw [hc, Option.toList_some, List.singleton_append, ofComponents_of_ne_root, spell, List.map_cons, hinner, hs]
          intro rest hf
          exact hnotroot (List.cons.inj hf).1

/-- A text that is spelled with solid segments is tidy. -/
theorem tidy_intercalate {s : List Char} {ss : List (List Char)} (hs : '/' ∉ s)
    (hss : ∀ t ∈ ss, Solid t ∧ '/' ∉ t) {p : Path} (hp : p.text.toList = ['/'].intercalate (s :: ss)) : Tidy p := by
  have hsep : ∀ t ∈ s :: ss, '/' ∉ t := List.forall_mem_cons.mpr ⟨hs, fun t ht => (hss t ht).2⟩
  refine .inr fun t ht => ?_
  rw [hp, segments_intercalate (List.cons_ne_nil s ss) hsep] at ht
  exact (hss t ht).1

/-! ### Simplified paths -/

/-- A component with a text that stands for it wherever it stands. -/
structure Component.Ordinary (c : Component) : Prop where
  stands : Component.ofSegment? c.text.toList = some c
  no_sep : '/' ∉ c.text.toList

theorem Component.ordinary_up : Component.Ordinary .up := ⟨by decide, by decide⟩

theorem Component.Ordinary.solid {c : Component} (h : c.Ordinary) : Solid c.text.toList := by
  refine not_or.mp fun hjunk => ?_
  have hnone := h.stands
  rw [Component.ofSegment?, if_pos hjunk] at hnone
  cases hnone

theorem Component.Ordinary.ne_root {c : Component} (h : c.Ordinary) : c ≠ .root := by
  rintro rfl
  exact h.no_sep (by decide)

/-- Ordinary components, perhaps below a root. -/
def Folded (cs : List Component) : Prop :=
  (∀ c ∈ cs, c.Ordinary) ∨ ∃ below, cs = .root :: below ∧ ∀ c ∈ below, c.Ordinary

theorem ordinary_of_ofSegment? {s : List Char} {c : Component} (hs : '/' ∉ s)
    (h : Component.ofSegment? s = some c) : c.Ordinary := by
  have hsolid : Solid s := by
    refine not_or.mp fun hjunk => ?_
    rw [Component.ofSegment?, if_pos hjunk] at h
    cases h
  obtain ⟨c', hc', -, htext⟩ := ofSegment?_of_solid hsolid
  obtain rfl := Option.some.inj (h.symm.trans hc')
  exact ⟨htext ▸ h, htext ▸ hs⟩

/-- What stands for a component in a text without separator is ordinary. -/
theorem ordinary_of_mem_filterMap {ss : List (List Char)} (hsep : ∀ s ∈ ss, '/' ∉ s) :
    ∀ c ∈ ss.filterMap Component.ofSegment?, c.Ordinary := by
  intro c hc
  obtain ⟨s, hs, hc⟩ := List.mem_filterMap.mp hc
  exact ordinary_of_ofSegment? (hsep s hs) hc

/-- Behind the root of an absolute path all components are ordinary. -/
theorem components_of_absolute {p : Path} (h : p.isAbsolute = true) :
    ∃ cs, p.components = .root :: cs ∧ ∀ c ∈ cs, c.Ordinary := by
  obtain ⟨s, ss, hss⟩ := List.exists_cons_of_ne_nil (segments_ne_nil p.text.toList)
  have hsep : ∀ t ∈ ss, '/' ∉ t := fun t ht => not_mem_of_mem_segments (hss ▸ List.mem_cons_of_mem s ht)
  refine ⟨ss.filterMap Component.ofSegment?, ?_, ordinary_of_mem_filterMap hsep⟩
  rw [components, hss]
  exact if_pos h

/-- All components of a relative path are ordinary, but for a dot in front. -/
theorem components_of_relative {p : Path} (h : p.isAbsolute = false) :
    ∃ cs, (p.components = cs ∨ p.components = .here :: cs) ∧ ∀ c ∈ cs, c.Ordinary := by
  obtain ⟨s, ss, hss⟩ := List.exists_cons_of_ne_nil (segments_ne_nil p.text.toList)
  have hsep : ∀ t ∈ s :: ss, '/' ∉ t := fun t ht => not_mem_of_mem_segments (hss ▸ ht)
  rw [components, hss]
  dsimp only
  rw [if_neg (by rw [h]; exact Bool.false_ne_true)]
  by_cases hdot : s = ['.']
  · refine ⟨ss.filterMap Component.ofSegment?, .inr (if_pos hdot), ?_⟩
    exact ordinary_of_mem_filterMap fun t ht => hsep t (List.mem_cons_of_mem s ht)
  · refine ⟨(Component.ofSegment? s).toList ++ ss.filterMap Component.ofSegment?, .inl (if_neg hdot), ?_⟩
    have hall : (Component.ofSegment? s).toList ++ ss.filterMap Component.ofSegment? =
        (s :: ss).filterMap Component.ofSegment? := by
      cases hs : Component.ofSegment? s with
      | none => exact (List.filterMap_cons_none hs).symm
      | some c => exact (List.filterMap_cons_some hs).symm
    rw [hall]
    exact ordinary_of_mem_filterMap hsep

theorem mem_components {p : Path} {c : Component} (h : c ∈ p.components) :
    c = .root ∨ c = .here ∨ c.Ordinary := by
  cases habs : p.isAbsolute with
  | true =>
    obtain ⟨cs, hcs, hall⟩ := components_of_absolute habs
    rw [hcs] at h
    exact (List.mem_cons.mp h).imp_right fun h => .inr (hall c h)
  | false =>
    obtain ⟨cs, hcs | hcs, hall⟩ := components_of_relative habs
    · exact .inr (.inr (hall c (hcs ▸ h)))
    · rw [hcs] at h
      exact .inr ((List.mem_cons.mp h).imp_right (hall c))

theorem Folded.concat {cs : List Component} (h : Folded cs) {c : Component} (hc : c.Ordinary) :
    Folded (cs ++ [c]) := by
  have happend : ∀ {l : List Component}, (∀ c ∈ l, c.Ordinary) → ∀ c' ∈ l ++ [c], c'.Ordinary := by
    intro l hl c' hc'
    rcases List.mem_append.mp hc' with hc' | hc'
    · exact hl c' hc'
    · exact List.mem_singleton.mp hc' ▸ hc
  rcases h with h | ⟨below, rfl, h⟩
  · exact .inl (happend h)
  · exact .inr ⟨below ++ [c], rfl, happend h⟩

theorem Folded.fold {stack : List Component} (h : Folded stack) {c : Component}
    (hc : c = .root ∨ c = .here ∨ c.Ordinary) : Folded (fold stack c) := by
  cases c with
  | root => exact .inr ⟨[], rfl, fun c hc => absurd hc List.not_mem_nil⟩
  | here => exact h
  | name n => exact h.concat ((hc.resolve_left Component.noConfusion).resolve_left Component.noConfusion)
  | up =>
    rw [Path.fold]
    split
    · exact h.concat Component.ordinary_up
    · exact h.concat Component.ordinary_up
    · -- a step up takes the last name away; the root has no name, and nothing is above it
      rename_i last hroot hlast
      rcases h with h | ⟨below, rfl, h⟩
      · exact .inl fun c hc => h c ((List.dropLast_sublist stack).subset hc)
      · cases below with
        | nil => exact absurd (Option.some.inj hlast).symm hroot
        | cons b below =>
          rw [List.dropLast_cons_cons]
          exact .inr ⟨_, rfl, fun c hc => h c ((List.dropLast_sublist _).subset hc)⟩

theorem Folded.tidy {cs : List Component} (h : Folded cs) : Tidy (ofComponents cs) := by
  have hsolid : ∀ {l : List Component}, (∀ c ∈ l, c.Ordinary) →
      ∀ t ∈ l.map (·.text.toList), Solid t ∧ '/' ∉ t := by
    intro l hl t ht
    obtain ⟨c, hc, rfl⟩ := List.mem_map.mp ht
    exact ⟨(hl c hc).solid, (hl c hc).no_sep⟩
  rcases h with h | ⟨below, rfl, h⟩
  · cases cs with
    | nil => exact .inr fun s hs => absurd hs List.not_mem_nil
    | cons c cs =>
      have hall := hsolid h
      rw [List.map_cons, List.forall_mem_cons] at hall
      refine tidy_intercalate hall.1.2 hall.2 ?_
      exact ofComponents_of_ne_root fun rest hf => (h c (List.mem_cons_self ..)).ne_root (List.cons.inj hf).1
  · cases below with
    | nil => exact .inl (by decide)
    | cons c cs =>
      refine tidy_intercalate List.not_mem_nil (hsolid h) ?_
      rw [ofComponents_root, spell, List.map_cons, List.intercalate_cons_cons]
      rfl

/-- **What is simplified is tidy.** -/
theorem tidy_normalize (p : Path) : Tidy p.normalize := by
  have hfolded : ∀ cs : List Component, (∀ c ∈ cs, c = .root ∨ c = .here ∨ c.Ordinary) →
      Folded (cs.foldl Path.fold []) := by
    intro cs
    induction cs using List.reverseRecOn with
    | nil => exact fun _ => .inl fun c hc => absurd hc List.not_mem_nil
    | append_singleton cs c ih =>
      intro h
      rw [List.foldl_append, List.foldl_cons, List.foldl_nil]
      exact (ih fun c' hc' => h c' (List.mem_append_left _ hc')).fold
        (h c (List.mem_append_right _ (List.mem_singleton.mpr rfl)))
  exact (hfolded p.components fun c hc => mem_components hc).tidy

/-! ### Names behind a path -/

/-- A text of solid segments. -/
def Names (q : String) : Prop := ∀ s ∈ segments q.toList, Solid s

instance (q : String) : Decidable (Names q) := inferInstanceAs (Decidable (∀ s ∈ segments q.toList, Solid s))

theorem Names.not_absolute {q : String} (h : Names q) : isAbsolute ⟨q⟩ = false := by
  obtain ⟨s, ss, hss⟩ := List.exists_cons_of_ne_nil (segments_ne_nil q.toList)
  refine Bool.eq_false_iff.mpr fun habs => ?_
  have hempty := ((isAbsolute_iff (p := ⟨q⟩) hss).mp habs).1
  exact (h s (hss ▸ List.mem_cons_self ..)).1 hempty

theorem Names.ne_nil {q : String} (h : Names q) : q.toList ≠ [] := by
  intro hnil
  exact absurd rfl (h [] (by rw [hnil]; exact List.mem_singleton.mpr rfl)).1

theorem tail_segments_append_sep (cs ds : List Char) :
    ∃ s ss, segments cs = s :: ss ∧ segments (cs ++ '/' :: ds) = s :: (ss ++ segments ds) := by
  induction cs with
  | nil => exact ⟨[], [], rfl, segments_sep ds⟩
  | cons c cs ih =>
    obtain ⟨s, ss, hcs, happ⟩ := ih
    by_cases hc : c = '/'
    · subst hc
      exact ⟨[], s :: ss, by rw [segments_sep, hcs], by rw [List.cons_append, segments_sep, happ]; rfl⟩
    · exact ⟨c :: s, ss, segments_cons hc hcs, segments_cons hc happ⟩

/-- A tidy path that ends in a separator is the root. -/
theorem Tidy.eq_root {p : Path} (h : Tidy p) (hsep : p.text.toList.getLast? = some '/') : p.text = "/" := by
  refine h.resolve_right fun hsolid => ?_
  obtain ⟨cs, hcs⟩ := List.getLast?_eq_some_iff.mp hsep
  obtain ⟨s, ss, -, happ⟩ := tail_segments_append_sep cs []
  rw [hcs, happ] at hsolid
  exact (hsolid [] (List.mem_append_right ss (List.mem_singleton.mpr rfl))).1 rfl

/-- **Names behind a tidy path make a tidy path.** -/
theorem Tidy.join {p : Path} (h : Tidy p) {q : String} (hq : Names q) : Tidy (p.join q) := by
  rw [Path.join, hq.not_absolute, Bool.false_or]
  split
  · exact .inr fun s hs => hq s (List.mem_of_mem_tail hs)
  · split
    · rename_i hsep
      have hroot := h.eq_root (by simpa using hsep)
      refine .inr fun s hs => ?_
      rw [hroot, String.toList_append] at hs
      rw [show "/".toList ++ q.toList = '/' :: q.toList from rfl, segments_sep] at hs
      exact hq s hs
    · rename_i hempty hsep
      obtain ⟨s, ss, hss, happ⟩ := tail_segments_append_sep p.text.toList q.toList
      refine .inr fun t ht => ?_
      rw [show (p.text ++ "/" ++ q).toList = p.text.toList ++ '/' :: q.toList by
        rw [String.toList_append, String.toList_append, List.append_assoc]; rfl, happ] at ht
      rcases List.mem_append.mp ht with ht | ht
      · refine h.resolve_left (fun hroot => hsep ?_) t (by rw [hss]; exact ht)
        rw [hroot]
        decide
      · exact hq t ht

theorem segments_append {ds : List Char} (hds : '/' ∉ ds) (cs : List Char) :
    ∃ init last, segments cs = init ++ [last] ∧ segments (cs ++ ds) = init ++ [last ++ ds] := by
  induction cs with
  | nil => exact ⟨[], [], rfl, segments_of_not_mem hds⟩
  | cons c cs ih =>
    obtain ⟨init, last, hcs, happ⟩ := ih
    by_cases hc : c = '/'
    · subst hc
      exact ⟨[] :: init, last, by rw [segments_sep, hcs]; rfl, by rw [List.cons_append, segments_sep, happ]; rfl⟩
    · cases init with
      | nil => exact ⟨[], c :: last, segments_cons hc hcs, segments_cons hc happ⟩
      | cons s init => exact ⟨(c :: s) :: init, last, segments_cons hc hcs, segments_cons hc happ⟩

/-- A tidy path stays tidy with a dot and a name behind it. -/
theorem Tidy.withExtension {p : Path} (h : Tidy p) {e : String} (hne : e.toList ≠ []) (hsep : '/' ∉ e.toList) :
    Tidy ⟨p.text ++ "." ++ e⟩ := by
  have hdot : '/' ∉ '.' :: e.toList := by simp [hsep]
  have htext : (p.text ++ "." ++ e).toList = p.text.toList ++ '.' :: e.toList := by
    rw [String.toList_append, String.toList_append, List.append_assoc]
    rfl
  obtain ⟨init, last, hp, happ⟩ := segments_append hdot p.text.toList
  have hlast : Solid (last ++ '.' :: e.toList) := by
    refine ⟨by simp, fun hone => ?_⟩
    have hlength := congrArg List.length hone
    have hpos := List.length_pos_of_ne_nil hne
    rw [List.length_append, List.length_cons, List.length_singleton] at hlength
    omega
  refine .inr fun s hs => ?_
  rw [htext, happ] at hs
  -- the first segment does not count, and only the last one changes
  cases init with
  | nil => exact absurd hs List.not_mem_nil
  | cons first init =>
    rcases List.mem_append.mp hs with hs | hs
    · rcases h with hroot | hsolid
      · rw [hroot, show segments "/".toList = [[], []] from rfl] at hp
        cases init with
        | nil => exact absurd hs List.not_mem_nil
        | cons t init => simp at hp
      · exact hsolid s (by rw [hp]; exact List.mem_append_left _ hs)
    · rw [List.mem_singleton.mp hs]
      exact hlast

/-! ### Stepping up -/

theorem trimmed_of_solid {ss : List (List Char)} (h : ∀ s ∈ ss, Solid s) : trimmed ss = ss := by
  cases ss with
  | nil => rfl
  | cons s ss =>
    obtain ⟨hempty, hdot⟩ := h s (List.mem_cons_self ..)
    exact List.dropWhile_cons_of_neg (by simp [hempty, hdot])

theorem Tidy.parent {p q : Path} (h : Tidy p) (hq : p.parent = some q) : Tidy q := by
  rcases h with hroot | hsolid
  · obtain rfl : p = ⟨"/"⟩ := by rw [← hroot]
    have hnone : Path.parent ⟨"/"⟩ = none := by decide
    rw [hnone] at hq
    cases hq
  · have hempty : Tidy ⟨""⟩ := .inr fun s hs => absurd hs List.not_mem_nil
    have hsep (s : List Char) (hs : s ∈ segments p.text.toList) : '/' ∉ s := not_mem_of_mem_segments hs
    rw [Path.parent] at hq
    split at hq
    · cases hq
    · rename_i first rest hsegments
      rw [hsegments, List.tail_cons] at hsolid
      rw [hsegments] at hsep
      -- behind the first, no segment is empty or a dot, so nothing is trimmed
      rw [trimmed_of_solid fun s hs => hsolid s (List.mem_reverse.mp hs)] at hq
      split at hq
      · rename_i last before hrest
        have hbefore (s : List Char) (hs : s ∈ before) : s ∈ rest :=
          List.mem_reverse.mp (hrest ▸ List.mem_cons_of_mem last hs)
        rw [trimmed_of_solid fun s hs => hsolid s (hbefore s hs)] at hq
        dsimp only at hq
        split at hq
        · exact Option.some.inj hq ▸ .inl rfl
        · split at hq
          · exact Option.some.inj hq ▸ hempty
          · obtain rfl := Option.some.inj hq
            have hkept : ∀ s ∈ before.reverse, Solid s ∧ '/' ∉ s := by
              intro s hs
              have hs := hbefore s (List.mem_reverse.mp hs)
              exact ⟨hsolid s hs, hsep s (List.mem_cons_of_mem first hs)⟩
            refine tidy_intercalate (hsep first (List.mem_cons_self ..)) hkept ?_
            rw [String.toList_intercalate, List.map_map]
            simp
      · split at hq
        · cases hq
        · exact Option.some.inj hq ▸ hempty

theorem Tidy.ancestors {p q : Path} (h : Tidy p) (hq : q ∈ p.ancestors) : Tidy q := by
  rw [Path.ancestors] at hq
  generalize p.text.length = fuel at hq
  induction fuel generalizing p with
  | zero =>
    rw [Path.ancestors.go, List.mem_singleton] at hq
    exact hq ▸ h
  | succ fuel ih =>
    rw [Path.ancestors.go] at hq
    split at hq
    · rw [List.mem_singleton] at hq
      exact hq ▸ h
    · rename_i up hup
      rcases List.mem_cons.mp hq with rfl | hq
      · exact h
      · exact ih (h.parent hup) hq

end ImportSurvey.Path
