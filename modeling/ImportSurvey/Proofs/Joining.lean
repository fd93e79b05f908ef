import ImportSurvey.Proofs.Folding
import ImportSurvey.Proofs.Respelling

/-
  What a join adds to the components of a path.

  A relative text behind a path adds the components of its segments, and nothing else (`components_join`).  If it
  never steps up, these are names, and they stay behind whatever the path is simplified to
  (`components_normalize_join`): so a path with names behind it stays below itself.  An extension behind such a path
  belongs to the last name (`components_withExtension`); without a name behind the path it would be one of its own
  last name.
-/
namespace ImportSurvey.Path

/-! ## Texts of joins -/

/-- A join starts with the text of its first part. -/
theorem text_join {p : Path} (hp : p.text ≠ "") {q : String} (hq : isAbsolute ⟨q⟩ = false) :
    ∃ t, (p.join q).text = p.text ++ t := by
  have hempty : p.text.isEmpty = false := Bool.eq_false_iff.mpr fun h => hp (String.isEmpty_iff.mp h)
  rw [join, hq, hempty, Bool.false_or, if_neg Bool.false_ne_true]
  split
  · exact ⟨q, rfl⟩
  · exact ⟨"/" ++ q, String.append_assoc⟩

theorem isAbsolute_join {p : Path} (hp : p.text ≠ "") {q : String} (hq : isAbsolute ⟨q⟩ = false) :
    (p.join q).isAbsolute = p.isAbsolute := by
  obtain ⟨t, ht⟩ := text_join hp hq
  obtain ⟨c, cs, hcs⟩ := List.exists_cons_of_ne_nil (mt String.toList_eq_nil_iff.mp hp)
  rw [isAbsolute, isAbsolute, ht, String.toList_append, hcs]
  rfl

/-! ## Components of joins -/

/-- **A relative text adds the components that its segments stand for.** -/
theorem components_join {p : Path} (hp : p.text ≠ "") {q : String} (hq : isAbsolute ⟨q⟩ = false) :
    (p.join q).components = p.components ++ (segments q.toList).filterMap Component.ofSegment? := by
  obtain ⟨s, ss, junk, hjunk, hsegments, hjoin⟩ := segments_join hp hq
  have hnothing : junk.filterMap Component.ofSegment? = [] := by
    rcases hjunk with rfl | rfl
    · rfl
    · rfl
  rw [components, components, hjoin, hsegments, isAbsolute_join hp hq]
  dsimp only
  rw [List.filterMap_append, List.filterMap_append, hnothing, List.append_nil]
  split
  · rfl
  · split
    · rfl
    · rw [List.append_assoc]

/-- Relative, and without a step up. -/
structure Tame (q : String) : Prop where
  relative : isAbsolute ⟨q⟩ = false
  no_up : ['.', '.'] ∉ segments q.toList

instance (q : String) : Decidable (Tame q) :=
  decidable_of_iff (isAbsolute ⟨q⟩ = false ∧ ['.', '.'] ∉ segments q.toList)
    ⟨fun h => ⟨h.1, h.2⟩, fun h => ⟨h.relative, h.no_up⟩⟩

/-- The names that a text without step up is made of. -/
def namesOf (q : String) : List String := ((segments q.toList).filter (Solid ·)).map .ofList

theorem ofSegment?_of_ne_up {s : List Char} (h : s ≠ ['.', '.']) :
    Component.ofSegment? s = if Solid s then some (.name (.ofList s)) else none := by
  by_cases hsolid : Solid s
  · rw [Component.ofSegment?, if_neg (not_or.mpr hsolid), if_neg h, if_pos hsolid]
  · have hjunk : s = [] ∨ s = ['.'] := by
      rw [Solid, not_and_or, not_not, not_not] at hsolid
      exact hsolid
    rw [Component.ofSegment?, if_pos hjunk, if_neg hsolid]

theorem filterMap_of_no_up {ss : List (List Char)} (h : ['.', '.'] ∉ ss) :
    ss.filterMap Component.ofSegment? = ((ss.filter (Solid ·)).map .ofList).map .name := by
  induction ss with
  | nil => rfl
  | cons s ss ih =>
    obtain ⟨hs, hss⟩ := not_or.mp (mt List.mem_cons.mpr h)
    have hstep := ofSegment?_of_ne_up (Ne.symm hs)
    by_cases hsolid : Solid s
    · rw [if_pos hsolid] at hstep
      rw [List.filterMap_cons_some hstep, List.filter_cons_of_pos (by simpa using hsolid), ih hss]
      rfl
    · rw [if_neg hsolid] at hstep
      rw [List.filterMap_cons_none hstep, List.filter_cons_of_neg (by simpa using hsolid), ih hss]

theorem Tame.components_join {q : String} (hq : Tame q) {p : Path} (hp : p.text ≠ "") :
    (p.join q).components = p.components ++ (namesOf q).map .name := by
  rw [Path.components_join hp hq.relative, filterMap_of_no_up hq.no_up]
  rfl

theorem foldl_names (stack : List Component) (names : List String) :
    (names.map .name).foldl fold stack = stack ++ names.map .name := by
  induction names generalizing stack with
  | nil => rw [List.map_nil, List.append_nil]; rfl
  | cons n names ih => rw [List.map_cons, List.foldl_cons, fold, ih, List.append_assoc]; rfl

/-- The components of a simplified path are those that simplification leaves. -/
theorem components_normalize_eq (p : Path) : p.normalize.components = p.components.foldl fold [] := by
  rw [components_normalize, foldl_fold]

/-- **Names behind a path stay behind it when it is simplified.** -/
theorem Tame.components_normalize_join {q : String} (hq : Tame q) {p : Path} (hp : p.text ≠ "") :
    (p.join q).normalize.components = p.normalize.components ++ (namesOf q).map .name := by
  rw [components_normalize_eq, hq.components_join hp, List.foldl_append, foldl_names, components_normalize_eq]

/-- Simplification makes no path longer. -/
theorem length_components_normalize (p : Path) : p.normalize.components.length ≤ p.components.length := by
  rw [components_normalize_eq]
  induction p.components using List.reverseRecOn with
  | nil => exact Nat.le_refl 0
  | append_singleton cs c ih =>
    rw [List.foldl_append, List.foldl_cons, List.foldl_nil, List.length_append, List.length_singleton]
    have hstep (stack : List Component) : (fold stack c).length ≤ stack.length + 1 := by
      cases c with
      | here => exact Nat.le_succ _
      | root => exact Nat.succ_le_succ (Nat.zero_le _)
      | name n => simp [fold]
      | up =>
        rw [fold]
        split
        · simp
        · simp
        · rw [List.length_dropLast]
          omega
    exact (hstep _).trans (Nat.succ_le_succ ih)

/-! ## Extensions -/

theorem spell_append (cs : List Component) (n : String) (ds : List Char) :
    spell (cs ++ [.name n]) ++ ds = spell (cs ++ [.name (n ++ .ofList ds)]) := by
  have hlast : (Component.name (n ++ .ofList ds)).text.toList = (Component.name n).text.toList ++ ds := by
    rw [Component.text, String.toList_append, String.toList_ofList]
    rfl
  cases cs with
  | nil =>
    rw [List.nil_append, List.nil_append, spell, spell, List.map_singleton, List.map_singleton,
      List.intercalate_singleton, List.intercalate_singleton, hlast]
  | cons c cs =>
    rw [List.cons_append, List.cons_append, spell, spell, List.map_cons, List.map_cons, intercalate_cons, intercalate_cons,
      List.map_append, List.map_append, List.map_singleton, List.map_singleton, List.flatMap_append, List.flatMap_append,
      List.flatMap_singleton, List.flatMap_singleton, hlast]
    simp

/-- What is written behind the last name belongs to it. -/
theorem text_ofComponents_append (cs : List Component) (n r : String) :
    (⟨(ofComponents (cs ++ [.name n])).text ++ r⟩ : Path) = ofComponents (cs ++ [.name (n ++ r)]) := by
  have hspell := spell_append cs n r.toList
  rw [String.ofList_toList] at hspell
  suffices hlist : ((ofComponents (cs ++ [.name n])).text ++ r).toList = (ofComponents (cs ++ [.name (n ++ r)])).text.toList by
    rw [String.toList_inj.mp hlist]
  rw [String.toList_append]
  by_cases hroot : ∃ rest, cs = .root :: rest
  · obtain ⟨rest, rfl⟩ := hroot
    have hbelow := spell_append rest n r.toList
    rw [String.ofList_toList] at hbelow
    rw [List.cons_append, List.cons_append, ofComponents_root, ofComponents_root, List.cons_append, hbelow]
  · have hplain (m : String) (rest : List Component) : cs ++ [.name m] ≠ .root :: rest := by
      intro hf
      cases cs with
      | nil => cases hf
      | cons c cs => exact hroot ⟨cs, by rw [(List.cons.inj hf).1]⟩
    rw [ofComponents_of_ne_root (hplain n), ofComponents_of_ne_root (hplain (n ++ r)), hspell]

theorem Folded.of_append_name {cs : List Component} {n : String} (h : Folded (cs ++ [.name n])) :
    Folded cs ∧ (Component.name n).Ordinary := by
  rcases h with hall | ⟨below, hbelow, hall⟩
  · exact ⟨.inl fun c hc => hall c (List.mem_append_left _ hc), hall _ (List.mem_append_right cs List.mem_cons_self)⟩
  · cases cs with
    | nil => cases hbelow
    | cons c cs =>
      obtain ⟨rfl, rfl⟩ := List.cons.inj hbelow
      refine ⟨.inr ⟨cs, rfl, fun c hc => hall c (List.mem_append_left _ hc)⟩, ?_⟩
      exact hall _ (List.mem_append_right cs List.mem_cons_self)

/-- A name with an extension is a name. -/
theorem Component.Ordinary.withExtension {n : String} (hn : (Component.name n).Ordinary) {e : String}
    (hne : e.toList ≠ []) (hsep : '/' ∉ e.toList) : (Component.name (n ++ ("." ++ e))).Ordinary := by
  have htext : (n ++ ("." ++ e)).toList = n.toList ++ '.' :: e.toList := by
    rw [String.toList_append, String.toList_append]
    rfl
  have hlong : 3 ≤ (n.toList ++ '.' :: e.toList).length := by
    have hname := List.length_pos_of_ne_nil hn.solid.1
    have hend := List.length_pos_of_ne_nil hne
    rw [Component.text] at hname
    rw [List.length_append, List.length_cons]
    omega
  constructor
  · rw [Component.text, htext, Component.ofSegment?, if_neg, if_neg, ← htext, String.ofList_toList]
    · intro hup
      rw [hup] at hlong
      exact absurd hlong (by decide)
    · rintro (hempty | hdot)
      · rw [hempty] at hlong
        exact absurd hlong (by decide)
      · rw [hdot] at hlong
        exact absurd hlong (by decide)
  · have hnosep := hn.no_sep
    rw [Component.text] at hnosep
    rw [Component.text, htext, List.mem_append, List.mem_cons]
    rintro (hin | hin | hin)
    · exact hnosep hin
    · exact absurd hin (by decide)
    · exact hsep hin

/-- **An extension belongs to the last name.** -/
theorem components_withExtension {p : Path} {cs : List Component} {n : String}
    (hp : p.normalize.components = cs ++ [.name n]) {e : String} (hne : e.toList ≠ []) (hsep : '/' ∉ e.toList) :
    (⟨p.normalize.text ++ "." ++ e⟩ : Path).components = cs ++ [.name (n ++ ("." ++ e))] := by
  have hfolded : Folded (cs ++ [.name n]) := by
    rw [← hp, components_normalize]
    exact folded_shape _ _ p.ordinary_survivors
  obtain ⟨hcs, hn⟩ := hfolded.of_append_name
  have htext : p.normalize = ofComponents (cs ++ [.name n]) := by
    rw [← hp, (tidy_normalize p).ofComponents_components]
  rw [String.append_assoc, htext, text_ofComponents_append]
  exact (hcs.concat (hn.withExtension hne hsep)).components_ofComponents

end ImportSurvey.Path
