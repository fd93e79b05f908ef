import ImportSurvey.Proofs.Joining

/-
  Simplified paths, taken apart and put together.

  Simplification depends on the components of a path alone, and of what it leaves it leaves all
  (`foldl_fold_shape`).  So a path with the components of a simplified one is simplified to that one, however it is
  spelled (`normalize_of_components`).  This is the crux of all that takes a simplified path apart and puts it
  together again:

  1. **Joins.**  A text may be put behind a path before the path is simplified or after it
     (`normalize_join_normalize`), and what a simplified path has below another one leads back to it from there
     (`components_join_below`).

  2. **Steps up.**  The parent of a path has all its components but the last one (`exists_parent`).  If this is a
     name, nothing takes it back, so stepping up and simplifying may be done in either order (`parent_normalize`).
-/
namespace ImportSurvey.Path

/-! ## Simplifying again -/

theorem foldl_fold_shape (absolute : Bool) (k : Nat) (names : List String) :
    (shape absolute (k % 2) names).foldl fold [] = shape absolute (k % 2) names := by
  have hbare : (shape absolute (k % 2) []).foldl fold [] = shape absolute (k % 2) [] := by
    rcases Nat.mod_two_eq_zero_or_one k with h | h
    · rw [h]
      cases absolute with
      | false => rfl
      | true => rfl
    · rw [h]
      cases absolute with
      | false => rfl
      | true => rfl
  rw [← List.nil_append names, shape_append, List.foldl_append, foldl_names, hbare]

theorem foldl_fold_components_normalize (p : Path) :
    p.normalize.components.foldl fold [] = p.normalize.components := by
  rw [components_normalize, foldl_fold_shape]

theorem ofComponents_components_normalize (p : Path) : ofComponents p.normalize.components = p.normalize :=
  (tidy_normalize p).ofComponents_components

/-- **A path with the components of a simplified one is simplified to it.** -/
theorem normalize_of_components {p q : Path} (h : q.components = p.normalize.components) :
    q.normalize = p.normalize := by
  rw [normalize, h, foldl_fold_components_normalize, ofComponents_components_normalize]

theorem normalize_normalize (p : Path) : p.normalize.normalize = p.normalize := normalize_of_components rfl

theorem folded_components_normalize (p : Path) : Folded p.normalize.components := by
  rw [components_normalize]
  exact folded_shape _ _ p.ordinary_survivors

/-! ### No component is new -/

theorem mem_fold {stack : List Component} {c x : Component} (h : x ∈ fold stack c) : x ∈ stack ∨ x = c := by
  cases c with
  | here => exact .inl h
  | root => exact .inr (List.mem_singleton.mp h)
  | name n => exact (List.mem_append.mp h).imp_right List.mem_singleton.mp
  | up =>
    rw [fold] at h
    split at h
    · exact (List.mem_append.mp h).imp_right List.mem_singleton.mp
    · exact (List.mem_append.mp h).imp_right List.mem_singleton.mp
    · exact .inl ((List.dropLast_sublist stack).subset h)

theorem components_normalize_subset (p : Path) : p.normalize.components ⊆ p.components := by
  rw [components_normalize_eq]
  intro x hx
  generalize p.components = cs at hx ⊢
  induction cs using List.reverseRecOn with
  | nil => cases hx
  | append_singleton cs c ih =>
    rw [List.foldl_append] at hx
    rcases mem_fold hx with hx | rfl
    · exact List.mem_append_left _ (ih hx)
    · exact List.mem_append_right _ (List.mem_singleton_self x)

/-! ### The root -/

theorem isAbsolute_iff_head (p : Path) : p.isAbsolute = true ↔ p.components.head? = some .root := by
  constructor
  · intro habs
    obtain ⟨cs, hcs, -⟩ := components_of_absolute habs
    rw [hcs]
    rfl
  · intro hhead
    by_contra hrel
    obtain ⟨cs, hcs | hcs, hall⟩ := components_of_relative (Bool.eq_false_iff.mpr hrel)
    · rw [hcs] at hhead
      exact (hall .root (List.mem_of_mem_head? hhead)).ne_root rfl
    · rw [hcs] at hhead
      cases hhead

theorem isAbsolute_normalize {p : Path} (h : p.isAbsolute = true) : p.normalize.isAbsolute = true := by
  rw [isAbsolute_iff_head, components_normalize, h]
  rfl

theorem text_ne_empty {p : Path} (h : p.isAbsolute = true) : p.text ≠ "" := by
  intro hempty
  rw [isAbsolute, hempty] at h
  exact absurd h (by decide)

/-! ## Joins -/

/-- **A text may be put behind a path before the path is simplified or after it.** -/
theorem normalize_join_normalize {p : Path} (h : p.isAbsolute = true) (q : String) :
    (p.normalize.join q).normalize = (p.join q).normalize := by
  cases hq : isAbsolute ⟨q⟩ with
  | true =>
    rw [join, join, hq, Bool.true_or, Bool.true_or]
    rfl
  | false =>
    rw [normalize, components_join (text_ne_empty (isAbsolute_normalize h)) hq, List.foldl_append,
      foldl_fold_components_normalize, components_normalize_eq, ← List.foldl_append,
      ← components_join (text_ne_empty h) hq]
    rfl

/-- What the first segment of a path stands for. -/
def leading (absolute : Bool) (s : List Char) : List Component :=
  if absolute then [.root] else if s = ['.'] then [.here] else (Component.ofSegment? s).toList

theorem components_eq_leading {p : Path} {s : List Char} {ss : List (List Char)}
    (h : segments p.text.toList = s :: ss) :
    p.components = leading p.isAbsolute s ++ ss.filterMap Component.ofSegment? := by
  rw [components, h, leading]
  dsimp only
  split
  · rfl
  · split
    · rfl
    · rfl

/-- Of a relative path without a dot in front all segments count. -/
theorem filterMap_segments {p : Path} (hrel : p.isAbsolute = false) (hhere : .here ∉ p.components) :
    (segments p.text.toList).filterMap Component.ofSegment? = p.components := by
  obtain ⟨s, ss, hss⟩ := List.exists_cons_of_ne_nil (segments_ne_nil p.text.toList)
  have hcomponents := components_eq_leading hss
  rw [hrel, leading, if_neg Bool.false_ne_true] at hcomponents
  by_cases hdot : s = ['.']
  · rw [if_pos hdot] at hcomponents
    exact absurd (hcomponents ▸ List.mem_cons_self) hhere
  · rw [if_neg hdot] at hcomponents
    rw [hcomponents, hss]
    cases hs : Component.ofSegment? s with
    | none => rw [List.filterMap_cons_none hs]; rfl
    | some c => rw [List.filterMap_cons_some hs]; rfl

/-- **What a path has below another one leads back to it from there.** -/
theorem components_join_below {p base r : Path} (hbase : base.isAbsolute = true)
    (h : p.normalize.below? base.normalize = some r) :
    (base.normalize.join r.text).components = p.normalize.components := by
  rw [below?, startsWith] at h
  split at h
  · rename_i hprefix
    obtain ⟨rest, hrest⟩ := List.isPrefixOf_iff_prefix.mp hprefix
    rw [← hrest, List.drop_left] at h
    -- the root is in front, so the rest is ordinary
    have hordinary : ∀ c ∈ rest, c.Ordinary := by
      obtain ⟨bs, hbs, -⟩ := components_of_absolute (isAbsolute_normalize hbase)
      rw [hbs] at hrest
      rcases p.folded_components_normalize with hall | ⟨below, hbelow, hall⟩
      · exact absurd rfl (hall .root (hrest ▸ List.mem_cons_self)).ne_root
      · rw [hbelow] at hrest
        obtain rfl := (List.cons.inj hrest).2
        exact fun c hc => hall c (List.mem_append_right bs hc)
    have hcomponents : r.components = rest := by
      rw [← Option.some.inj h]
      exact Folded.components_ofComponents (.inl hordinary)
    have hrel : r.isAbsolute = false := by
      refine Bool.eq_false_iff.mpr fun habs => ?_
      rw [isAbsolute_iff_head, hcomponents] at habs
      exact (hordinary .root (List.mem_of_mem_head? habs)).ne_root rfl
    have hhere : .here ∉ r.components := by
      rw [hcomponents]
      exact fun hhere => (hordinary .here hhere).solid.2 rfl
    rw [components_join (text_ne_empty (isAbsolute_normalize hbase)) hrel, filterMap_segments hrel hhere, hcomponents,
      hrest]
  · cases h

/-! ## Steps up -/

/-- Segments at an end that stand for nothing may be dropped. -/
theorem filterMap_trimmed (ss : List (List Char)) :
    (trimmed ss).filterMap Component.ofSegment? = ss.filterMap Component.ofSegment? := by
  induction ss with
  | nil => rfl
  | cons s ss ih =>
    rw [trimmed]
    by_cases hjunk : s = [] ∨ s = ['.']
    · have hnone : Component.ofSegment? s = none := by rw [Component.ofSegment?, if_pos hjunk]
      rw [List.dropWhile_cons_of_pos (by simpa using hjunk), List.filterMap_cons_none hnone]
      exact ih
    · rw [List.dropWhile_cons_of_neg (by simpa using hjunk)]

theorem solid_of_trimmed {ss before : List (List Char)} {s : List Char} (h : trimmed ss = s :: before) : Solid s := by
  have hkept := List.head?_dropWhile_not (fun s : List Char => s = [] || s = ['.']) ss
  rw [← trimmed, h] at hkept
  exact not_or.mp (by simpa using hkept)

theorem filterMap_trimmed_reverse (ss : List (List Char)) :
    (trimmed ss.reverse).reverse.filterMap Component.ofSegment? = ss.filterMap Component.ofSegment? := by
  rw [List.filterMap_reverse, filterMap_trimmed, ← List.filterMap_reverse, List.reverse_reverse]

/-- What is kept when the last segment is dropped that stands for something. -/
theorem filterMap_of_trimmed {ss before : List (List Char)} {last : List Char}
    (h : trimmed ss.reverse = last :: before) :
    (trimmed before).reverse ⊆ ss ∧ ∃ c, ss.filterMap Component.ofSegment? =
      (trimmed before).reverse.filterMap Component.ofSegment? ++ [c] := by
  have hlast := filterMap_trimmed_reverse ss
  obtain ⟨c, hc, -, -⟩ := ofSegment?_of_solid (solid_of_trimmed h)
  rw [h, List.reverse_cons, List.filterMap_append, List.filterMap_cons_some hc] at hlast
  have hbefore := filterMap_trimmed_reverse before.reverse
  rw [List.reverse_reverse] at hbefore
  refine ⟨fun s hs => ?_, c, by rw [hbefore, ← hlast]; rfl⟩
  have hmem : s ∈ before := (List.dropWhile_sublist _).subset (List.mem_reverse.mp hs)
  exact List.mem_reverse.mp ((List.dropWhile_sublist _).subset (h ▸ List.mem_cons_of_mem last hmem))

/-- A path that keeps the first segment and some of the others. -/
theorem components_intercalate {p : Path} {s : List Char} {ss kept : List (List Char)}
    (h : segments p.text.toList = s :: ss) (hkept : kept ⊆ ss) (hempty : p.isAbsolute = true → kept ≠ []) :
    (⟨"/".intercalate ((s :: kept).map String.ofList)⟩ : Path).components =
      leading p.isAbsolute s ++ kept.filterMap Component.ofSegment? := by
  obtain ⟨q, hq⟩ : ∃ q : Path, q = ⟨"/".intercalate ((s :: kept).map String.ofList)⟩ := ⟨_, rfl⟩
  have htext : q.text.toList = ['/'].intercalate (s :: kept) := by
    rw [hq, String.toList_intercalate, List.map_map]
    simp
  have hsep : ∀ t ∈ s :: kept, '/' ∉ t := by
    intro t ht
    have hmem : t ∈ segments p.text.toList := h ▸ List.cons_subset_cons s hkept ht
    exact not_mem_of_mem_segments hmem
  have hsegments : segments q.text.toList = s :: kept := by
    rw [htext]
    exact segments_intercalate (List.cons_ne_nil s kept) hsep
  have hsame : q.isAbsolute = p.isAbsolute := by
    rw [Bool.eq_iff_iff, isAbsolute_iff hsegments]
    refine ⟨fun hq => (isAbsolute_iff h).mpr ⟨hq.1, ?_⟩, fun hp => ⟨((isAbsolute_iff h).mp hp).1, hempty hp⟩⟩
    rintro rfl
    exact hq.2 (List.subset_nil.mp hkept)
  rw [← hq, components_eq_leading hsegments, hsame]

theorem length_leading_le (absolute : Bool) (s : List Char) : (leading absolute s).length ≤ 1 := by
  rw [leading]
  split
  · exact Nat.le_refl 1
  · split
    · exact Nat.le_refl 1
    · exact Option.length_toList_le

/-- Nothing in front is no component, or the root. -/
theorem leading_nil_ne_concat {absolute : Bool} {cs : List Component} {c : Component} (hc : c ≠ .root) :
    leading absolute [] ≠ cs ++ [c] := by
  intro h
  cases absolute with
  | false => exact absurd h.symm (List.concat_ne_nil c cs)
  | true =>
    have hconcat : [] ++ [Component.root] = cs ++ [c] := h
    obtain ⟨-, hroot⟩ := List.append_inj' hconcat rfl
    exact hc (List.singleton_inj.mp hroot).symm

/-- **The parent of a path has all its components but the last one.** -/
theorem exists_parent {p : Path} {cs : List Component} {c : Component} (hp : p.components = cs ++ [c])
    (hc : c ≠ .root) : ∃ q, p.parent = some q ∧ q.components = cs := by
  obtain ⟨first, rest, hsegments⟩ := List.exists_cons_of_ne_nil (segments_ne_nil p.text.toList)
  rw [components_eq_leading hsegments] at hp
  rw [parent, hsegments]
  dsimp only
  cases htrimmed : trimmed rest.reverse with
  | nil =>
    -- the first segment stands for the only component
    rw [← filterMap_trimmed_reverse, htrimmed, List.reverse_nil, List.filterMap_nil, List.append_nil] at hp
    have hfirst : first ≠ [] := by
      rintro rfl
      exact leading_nil_ne_concat hc hp
    have hshort := length_leading_le p.isAbsolute first
    rw [hp, List.length_append, List.length_singleton] at hshort
    have hnil : cs = [] := List.length_eq_zero_iff.mp (by omega)
    refine ⟨⟨""⟩, ?_, by rw [hnil]; decide⟩
    dsimp only
    rw [if_neg (by simpa using hfirst)]
  | cons last before =>
    obtain ⟨hsub, c', hlast⟩ := filterMap_of_trimmed htrimmed
    rw [hlast, ← List.append_assoc] at hp
    obtain ⟨hcs, -⟩ := List.append_inj' hp rfl
    have hne : rest ≠ [] := by
      rintro rfl
      cases htrimmed
    dsimp only
    split
    · rename_i hroot
      obtain ⟨habs, hempty⟩ := Bool.and_eq_true_iff.mp hroot
      refine ⟨⟨"/"⟩, rfl, ?_⟩
      rw [← hcs, habs, List.isEmpty_iff.mp hempty]
      rfl
    · rename_i hroot
      have hfirst : ¬ (first.isEmpty && !p.isAbsolute) = true := by
        intro hempty
        obtain ⟨hnil, hrel⟩ := Bool.and_eq_true_iff.mp hempty
        rw [(isAbsolute_iff hsegments).mpr ⟨List.isEmpty_iff.mp hnil, hne⟩] at hrel
        cases hrel
      rw [if_neg hfirst]
      refine ⟨_, rfl, (components_intercalate hsegments hsub fun habs hempty => hroot ?_).trans hcs⟩
      rw [habs, hempty]
      rfl

theorem components_of_fileName {p : Path} {n : String} (h : p.fileName = some n) :
    ∃ cs, p.components = cs ++ [.name n] := by
  rw [fileName] at h
  split at h
  · rename_i hlast
    obtain rfl := Option.some.inj h
    exact List.getLast?_eq_some_iff.mp hlast
  · cases h

/-- **Above a name it is the same to step up and simplify, in either order.** -/
theorem parent_normalize {p : Path} {n : String} (h : p.fileName = some n) :
    ∃ q, p.parent = some q ∧ p.normalize.parent = some q.normalize ∧ (p.isAbsolute = true → q.isAbsolute = true) := by
  obtain ⟨cs, hcs⟩ := components_of_fileName h
  obtain ⟨q, hq, hqs⟩ := exists_parent hcs Component.noConfusion
  have hnormal : p.normalize.components = q.normalize.components ++ [.name n] := by
    rw [components_normalize_eq, components_normalize_eq, hcs, hqs, List.foldl_append]
    rfl
  obtain ⟨q', hq', hqs'⟩ := exists_parent hnormal Component.noConfusion
  have htidy := (tidy_normalize p).parent hq'
  refine ⟨q, hq, ?_, fun habs => ?_⟩
  · rw [hq', ← htidy.ofComponents_components, hqs', ofComponents_components_normalize]
  · rw [isAbsolute_iff_head, hcs] at habs
    rw [isAbsolute_iff_head, hqs]
    cases cs with
    | nil => cases habs
    | cons c cs => exact habs

end ImportSurvey.Path
