import Mathlib.Algebra.GroupWithZero.Nat
import ImportSurvey.Proofs.Alternatives
import ImportSurvey.Rules.Basic

/-
  A list of patterns means any of them.

  A list is compiled from its texts joined by bars, so what it means hangs on how the joined text is read.  It is
  read as the alternatives of the texts, and some alternative of the whole matches exactly if one of a text does
  (`search_alternation`).  What the list asks of its patterns for that is `Joinable`: there is one, each can be read
  by itself and leaves no flag behind for the next, they share no name of a group, and together they keep within
  the limits.  Without it a list can mean something else; the last section has lists that do.
-/
namespace ImportSurvey

namespace Regex

/-! ## Searching for one of several -/

theorem dropRepeats_eq_nil_iff (ps : List Nat) : dropRepeats ps = [] ↔ ps = [] := by
  induction ps with
  | nil => exact ⟨fun _ => rfl, fun _ => rfl⟩
  | cons p ps ih =>
    cases ps with
    | nil => exact Iff.rfl
    | cons q ps =>
      rw [dropRepeats]
      split
      · rw [ih]
        exact ⟨fun h => (by cases h), fun h => (by cases h)⟩
      · exact ⟨fun h => (by cases h), fun h => (by cases h)⟩

theorem isEmpty_unite (a b : List Nat) : (unite a b).isEmpty = (a.isEmpty && b.isEmpty) := by
  rw [Bool.eq_iff_iff, Bool.and_eq_true, List.isEmpty_iff, List.isEmpty_iff, List.isEmpty_iff, unite,
    dropRepeats_eq_nil_iff, ← List.length_eq_zero_iff, List.length_merge, Nat.add_eq_zero_iff,
    List.length_eq_zero_iff, List.length_eq_zero_iff]

theorem search_alt (a b : Regex) (text : String) : (alt a b).search text = (a.search text || b.search text) := by
  rw [search, search, search, ends, isEmpty_unite, Bool.not_and]

theorem regex_alternation (p : Piece) (ps : List Piece) :
    (alternation (p :: ps)).regex = ps.foldl (fun r p => .alt r p.regex) p.regex := by
  cases ps with
  | nil => rfl
  | cons q ps => rfl

theorem search_alternation {ps : List Piece} (h : ps ≠ []) (text : String) :
    (alternation ps).regex.search text = ps.any (·.regex.search text) := by
  have hfold (r : Regex) (ps : List Piece) : (ps.foldl (fun r p => .alt r p.regex) r).search text =
      (r.search text || ps.any (·.regex.search text)) := by
    induction ps generalizing r with
    | nil => exact (Bool.or_false _).symm
    | cons p ps ih => rw [List.foldl_cons, ih, search_alt, List.any_cons, Bool.or_assoc]
  cases ps with
  | nil => exact absurd rfl h
  | cons p ps => rw [regex_alternation, hfold, List.any_cons]

/-- The bars weigh as much as one less than the alternatives. -/
theorem weight_alternation {ps : List Piece} (h : ps ≠ []) :
    (alternation ps).regex.weight + 40 = (ps.map (·.regex.weight + 40)).sum := by
  have hfold (r : Regex) (ps : List Piece) : (ps.foldl (fun r p => .alt r p.regex) r).weight =
      r.weight + (ps.map (·.regex.weight + 40)).sum := by
    induction ps generalizing r with
    | nil => rfl
    | cons p ps ih =>
      rw [List.foldl_cons, ih, weight, List.map_cons, List.sum_cons]
      omega
  cases ps with
  | nil => exact absurd rfl h
  | cons p ps =>
    rw [regex_alternation, hfold, List.map_cons, List.sum_cons]
    omega

theorem depth_alternation_le {ps : List Piece} {n : Nat} (h : ∀ p ∈ ps, p.depth ≤ n) :
    (alternation ps).depth ≤ n + 1 := by
  have hfold (d : Nat) (ps : List Piece) (hd : d ≤ n) (hps : ∀ p ∈ ps, p.depth ≤ n) :
      ps.foldl (fun d p => max d p.depth) d ≤ n := by
    induction ps generalizing d with
    | nil => exact hd
    | cons p ps ih =>
      exact ih _ (max_le hd (hps p (List.mem_cons_self ..))) fun q hq => hps q (List.mem_cons_of_mem p hq)
  cases ps with
  | nil => exact Nat.zero_le _
  | cons p ps =>
    cases ps with
    | nil => exact Nat.le_succ_of_le (h p (List.mem_cons_self ..))
    | cons q ps => exact Nat.succ_le_succ (hfold 0 _ (Nat.zero_le n) h)

/-! ## Joined patterns -/

/-- A pattern whose alternatives are found is read, if it ends there and they keep within the limits. -/
theorem read?_of_readBranches {pattern : String} {bs : List Piece} {s : ReadState}
    (h : readBranches (fuelFor pattern.toList.length) [] { rest := pattern.toList } = .ok (bs, s)) :
    read? pattern =
      if !s.rest.isEmpty then .error .unopenedGroup
      else if (alternation bs).depth > maxDepth then .error .nestedTooDeep
      else if (alternation bs).regex.weight > maxWeight then .error .tooLarge
      else .ok (alternation bs).regex := by
  have hrun : (readAlternatives (8 * pattern.toList.length + 16) []).run { rest := pattern.toList } =
      .ok (alternation bs, s) := by
    rw [readAlternatives_eq]
    exact bind_eq_ok.mpr ⟨bs, s, h, rfl⟩
  have hlimit {c : Prop} [Decidable c] (f : Fault) {k : Except Fault Regex} :
      (if c then (throw f >>= fun _ : Unit => k) else k) = if c then .error f else k := by
    split
    · rfl
    · rfl
  rw [read?]
  dsimp only
  rw [hrun]
  show (if (!s.rest.isEmpty) = true then (throw _ >>= fun _ : Unit => _) else _) = _
  rw [hlimit, hlimit, hlimit]
  rfl

theorem read?_eq_ok {pattern : String} {bs : List Piece} {s : ReadState}
    (h : readBranches (fuelFor pattern.toList.length) [] { rest := pattern.toList } = .ok (bs, s))
    (hend : s.rest = []) (hdepth : (alternation bs).depth ≤ maxDepth)
    (hweight : (alternation bs).regex.weight ≤ maxWeight) : read? pattern = .ok (alternation bs).regex := by
  rw [read?_of_readBranches h, hend, List.isEmpty_nil, Bool.not_true, if_neg Bool.false_ne_true,
    if_neg (Nat.not_lt_of_le hdepth), if_neg (Nat.not_lt_of_le hweight)]

/-- A pattern is read by itself as what its text is read as, within the limits. -/
theorem read?_eq_ok_iff {pattern : String} {r : Regex} : read? pattern = .ok r ↔
    ∃ d, reading? pattern.toList = some d ∧ (alternation d.branches).regex = r ∧
      (alternation d.branches).depth ≤ maxDepth ∧ r.weight ≤ maxWeight := by
  constructor
  · intro h
    cases hrun : readBranches (fuelFor pattern.toList.length) [] { rest := pattern.toList } with
    | error f =>
      have hnone : (readAlternatives (8 * pattern.toList.length + 16) []).run { rest := pattern.toList } =
          .error f := by
        rw [readAlternatives_eq]
        show (readBranches (fuelFor pattern.toList.length) [] { rest := pattern.toList } >>= _) = _
        rw [hrun]
        rfl
      rw [read?] at h
      dsimp only at h
      rw [hnone] at h
      cases h
    | ok r =>
      obtain ⟨bs, rest, flags, names⟩ := r
      rw [read?_of_readBranches hrun] at h
      split_ifs at h with hrest hdepth hweight
      obtain rfl : rest = [] := by simpa using hrest
      obtain rfl := Except.ok.inj h
      exact ⟨⟨bs, flags, names⟩, reading?_eq_some_iff.mpr hrun, rfl, Nat.le_of_not_lt hdepth,
        Nat.le_of_not_lt hweight⟩
  · rintro ⟨d, hd, rfl, hdepth, hweight⟩
    exact read?_eq_ok (reading?_eq_some_iff.mp hd) rfl hdepth hweight

/-- What a pattern is read as; nothing if it cannot be read. -/
def Reading.of (pattern : String) : Reading :=
  (reading? pattern.toList).getD { branches := [], flags := {}, names := [] }

/-- The patterns of a list that are understood as when each stands by itself. -/
structure Joinable (ps : List String) : Prop where
  some : ps ≠ []
  valid : ∀ p ∈ ps, ∃ r, read? p = .ok r
  /-- at the end of every pattern but the last the flags are those from the start -/
  flags : ∀ p ∈ ps.dropLast, (Reading.of p).flags = {}
  names : ps.Pairwise fun p q => ∀ m ∈ (Reading.of p).names, m ∉ (Reading.of q).names
  /-- alternatives nest one deeper -/
  shallow : 1 < ps.length → ∀ p ∈ ps, ∀ b ∈ (Reading.of p).branches, b.depth < maxDepth
  /-- the expressions and the bars between them -/
  light : (ps.map fun p => (alternation (Reading.of p).branches).regex.weight + 40).sum ≤ maxWeight + 40

/-- The pattern by itself matches the path. -/
def Matches (pattern source : String) : Prop := ∃ r, read? pattern = .ok r ∧ r.search source = true

theorem reading?_of_valid {p : String} (h : ∃ r, read? p = .ok r) : reading? p.toList = some (Reading.of p) := by
  obtain ⟨r, hr⟩ := h
  obtain ⟨d, hd, -⟩ := read?_eq_ok_iff.mp hr
  rw [Reading.of, hd]
  rfl

theorem branches_ne_nil {p : String} (h : ∃ r, read? p = .ok r) : (Reading.of p).branches ≠ [] :=
  (continues_of_reading? (reading?_of_valid h)).some

theorem matches_iff {p : String} (h : ∃ r, read? p = .ok r) (source : String) :
    Matches p source ↔ ∃ b ∈ (Reading.of p).branches, b.regex.search source = true := by
  have hreading := reading?_of_valid h
  have hsearch := search_alternation (branches_ne_nil h) source
  obtain ⟨r, hr⟩ := h
  obtain ⟨d, hd, hregex, -⟩ := read?_eq_ok_iff.mp hr
  obtain rfl := Option.some.inj (hd.symm.trans hreading)
  rw [← List.any_eq_true, ← hsearch, hregex]
  constructor
  · rintro ⟨r', hr', hmatches⟩
    obtain rfl := Except.ok.inj (hr.symm.trans hr')
    exact hmatches
  · exact fun hmatches => ⟨r, hr, hmatches⟩

theorem Joinable.branches_ne_nil {ps : List String} (h : Joinable ps) :
    ps.flatMap (fun p => (Reading.of p).branches) ≠ [] := by
  obtain ⟨p, hp⟩ := List.exists_mem_of_ne_nil ps h.some
  obtain ⟨b, hb⟩ := List.exists_mem_of_ne_nil _ (Regex.branches_ne_nil (h.valid p hp))
  exact List.ne_nil_of_mem (List.mem_flatMap.mpr ⟨p, hp, hb⟩)

theorem Joinable.depth_le {ps : List String} (h : Joinable ps) :
    (alternation (ps.flatMap fun p => (Reading.of p).branches)).depth ≤ maxDepth := by
  by_cases hmany : 1 < ps.length
  · refine depth_alternation_le fun b hb => Nat.le_of_lt_succ ?_
    obtain ⟨p, hp, hb⟩ := List.mem_flatMap.mp hb
    exact h.shallow hmany p hp b hb
  · -- nothing is joined, so the pattern is read as by itself
    have hone : ps.length = 1 := le_antisymm (Nat.le_of_not_lt hmany) (List.length_pos_iff.mpr h.some)
    obtain ⟨p, rfl⟩ := List.length_eq_one_iff.mp hone
    obtain ⟨r, hr⟩ := h.valid p (List.mem_singleton_self p)
    obtain ⟨d, hd, -, hdepth, -⟩ := read?_eq_ok_iff.mp hr
    rw [List.flatMap_singleton, Reading.of, hd]
    exact hdepth

theorem Joinable.weight_le {ps : List String} (h : Joinable ps) :
    (alternation (ps.flatMap fun p => (Reading.of p).branches)).regex.weight ≤ maxWeight := by
  refine Nat.le_of_add_le_add_right (b := 40) ?_
  calc (alternation (ps.flatMap fun p => (Reading.of p).branches)).regex.weight + 40
      = ((ps.flatMap fun p => (Reading.of p).branches).map (·.regex.weight + 40)).sum :=
        weight_alternation h.branches_ne_nil
    _ = (ps.map fun p => ((Reading.of p).branches.map (·.regex.weight + 40)).sum).sum := by
        rw [List.map_flatMap, List.flatMap_def, List.sum_flatten, List.map_map]
        rfl
    _ = (ps.map fun p => (alternation (Reading.of p).branches).regex.weight + 40).sum :=
        congrArg List.sum (List.map_congr_left fun p hp =>
          (weight_alternation (Regex.branches_ne_nil (h.valid p hp))).symm)
    _ ≤ maxWeight + 40 := h.light

/-- **The joined text is read, and what it is read as matches exactly what one of the patterns does.** -/
theorem read?_joined {ps : List String} (h : Joinable ps) : ∃ r, read? ("|".intercalate ps) = .ok r ∧
    ∀ source, r.search source = true ↔ ∃ p ∈ ps, Matches p source := by
  have hreadings : List.Forall₂ (fun cs d => reading? cs = some d) (ps.map String.toList) (ps.map Reading.of) := by
    rw [List.forall₂_map_left_iff, List.forall₂_map_right_iff, List.forall₂_same]
    exact fun p hp => reading?_of_valid (h.valid p hp)
  have hseparate : Separate (ps.map Reading.of) := by
    refine ⟨fun d hd => ?_, List.pairwise_map.mpr h.names⟩
    rw [← List.map_dropLast] at hd
    obtain ⟨p, hp, rfl⟩ := List.mem_map.mp hd
    exact h.flags p hp
  have htext : ("|".intercalate ps).toList = ['|'].intercalate (ps.map String.toList) := String.toList_intercalate
  obtain ⟨t, hrun, hend⟩ := readBranches_joined hreadings (fun hnil => h.some (List.map_eq_nil_iff.mp hnil))
    hseparate [] (fun _ _ _ _ hm => by cases hm) [] (le_refl _)
  rw [← htext, List.nil_append, List.flatMap_map] at hrun
  refine ⟨(alternation (ps.flatMap fun p => (Reading.of p).branches)).regex, ?_, fun source => ?_⟩
  · exact read?_eq_ok hrun hend h.depth_le h.weight_le
  · rw [search_alternation h.branches_ne_nil, List.any_flatMap, List.any_eq_true]
    refine exists_congr fun p => and_congr_right fun hp => ?_
    rw [matches_iff (h.valid p hp), List.any_eq_true]

end Regex

/-! ## Patterns in rules -/

/-- Steps of which the second succeeds or not whatever the first gives. -/
theorem bind_ok_iff {ε α β : Type} {x : Except ε α} {f : α → Except ε β} {P : Prop}
    (hf : ∀ a, (∃ b, f a = .ok b) ↔ P) : (∃ b, x >>= f = .ok b) ↔ (∃ a, x = .ok a) ∧ P := by
  cases x with
  | error e => exact ⟨fun ⟨_, h⟩ => (by cases h), fun ⟨⟨_, h⟩, _⟩ => (by cases h)⟩
  | ok a => exact ⟨fun h => ⟨⟨a, rfl⟩, (hf a).mp h⟩, fun h => (hf a).mpr h.2⟩

theorem throw_unless_ok_iff {ε β : Type} {c : Prop} [Decidable c] {e : ε} {x : Except ε β} :
    (∃ b, (if c then (throw e >>= fun _ : Unit => x) else x) = .ok b) ↔ ¬ c ∧ ∃ b, x = .ok b := by
  split
  · rename_i hc
    exact ⟨fun ⟨_, h⟩ => (by cases h), fun h => absurd hc h.1⟩
  · rename_i hc
    exact ⟨fun h => ⟨hc, h⟩, fun h => h.2⟩

/-- There is no pattern, or one that can be read. -/
def Readable (pattern : Option PathPattern) : Prop := ∀ p ∈ pattern, ∃ r, Regex.read? p.expression = .ok r

namespace PathFilter

theorem pattern?_ok_iff (rule side field : String) (pattern : Option PathPattern) :
    (∃ r, pattern? rule side field pattern = .ok r) ↔ Readable pattern := by
  cases pattern with
  | none => exact ⟨fun _ p hp => (by cases hp), fun _ => ⟨none, rfl⟩⟩
  | some p =>
    rw [pattern?, Readable]
    cases hread : Regex.read? p.expression with
    | error f =>
      refine ⟨fun ⟨_, h⟩ => (by cases h), fun h => ?_⟩
      obtain ⟨r, hr⟩ := h p rfl
      rw [hread] at hr
      cases hr
    | ok r =>
      refine ⟨fun _ q hq => ?_, fun _ => ⟨some r, rfl⟩⟩
      obtain rfl := Option.some.inj hq
      exact ⟨r, hread⟩

theorem ofSpec?_ok_iff (rule side : String) (path pathNot : Option PathPattern) :
    (∃ f, ofSpec? rule side path pathNot = .ok f) ↔ Readable path ∧ Readable pathNot := by
  rw [← pattern?_ok_iff rule side "path", ← pattern?_ok_iff rule side "pathNot", ofSpec?]
  refine bind_ok_iff fun f => (bind_ok_iff (P := True) fun g => ?_).trans (iff_of_eq (and_true _))
  exact ⟨fun _ => trivial, fun _ => ⟨_, rfl⟩⟩

end PathFilter

/-- A rule that does not ask both for whole modules and for edges. -/
def RuleSpec.Plain (s : RuleSpec) : Prop :=
  ¬ (s.from.orphan.isSome && s.to.hasEdgePredicates) = true ∧
    ¬ (s.to.reachable.isSome && s.to.hasEdgePredicates) = true

theorem Rule.ofSpec?_ok_iff (s : RuleSpec) : (∃ r, Rule.ofSpec? s = .ok r) ↔
    s.Plain ∧ (Readable s.from.path ∧ Readable s.from.pathNot) ∧ Readable s.to.path ∧ Readable s.to.pathNot := by
  rw [← PathFilter.ofSpec?_ok_iff s.name "from", ← PathFilter.ofSpec?_ok_iff s.name "to", Rule.ofSpec?,
    RuleSpec.Plain, and_assoc]
  refine throw_unless_ok_iff.trans (and_congr_right fun _ => throw_unless_ok_iff.trans (and_congr_right fun _ => ?_))
  refine bind_ok_iff fun f => (bind_ok_iff (P := True) fun g => ?_).trans (iff_of_eq (and_true _))
  exact ⟨fun _ => trivial, fun _ => ⟨_, rfl⟩⟩

/-- A place for a pattern in a rule. -/
inductive PatternPlace where
  | fromPath
  | fromPathNot
  | toPath
  | toPathNot

def PatternPlace.put (pattern : Option PathPattern) (s : RuleSpec) : PatternPlace → RuleSpec
  | .fromPath => { s with «from» := { s.from with path := pattern } }
  | .fromPathNot => { s with «from» := { s.from with pathNot := pattern } }
  | .toPath => { s with «to» := { s.to with path := pattern } }
  | .toPathNot => { s with «to» := { s.to with pathNot := pattern } }

/-- A rule compiles with a pattern if it does without and the pattern can be read. -/
theorem PatternPlace.put_ok_iff (place : PatternPlace) (pattern : Option PathPattern) (s : RuleSpec) :
    (∃ r, Rule.ofSpec? (place.put pattern s) = .ok r) ↔
      (∃ r, Rule.ofSpec? (place.put none s) = .ok r) ∧ Readable pattern := by
  have habsent : Readable none := fun p hp => by cases hp
  rw [Rule.ofSpec?_ok_iff, Rule.ofSpec?_ok_iff]
  cases place with
  | fromPath =>
    show s.Plain ∧ (Readable pattern ∧ Readable s.from.pathNot) ∧ Readable s.to.path ∧ Readable s.to.pathNot ↔
      (s.Plain ∧ (Readable none ∧ Readable s.from.pathNot) ∧ Readable s.to.path ∧ Readable s.to.pathNot) ∧ _
    tauto
  | fromPathNot =>
    show s.Plain ∧ (Readable s.from.path ∧ Readable pattern) ∧ Readable s.to.path ∧ Readable s.to.pathNot ↔
      (s.Plain ∧ (Readable s.from.path ∧ Readable none) ∧ Readable s.to.path ∧ Readable s.to.pathNot) ∧ _
    tauto
  | toPath =>
    show s.Plain ∧ (Readable s.from.path ∧ Readable s.from.pathNot) ∧ Readable pattern ∧ Readable s.to.pathNot ↔
      (s.Plain ∧ (Readable s.from.path ∧ Readable s.from.pathNot) ∧ Readable none ∧ Readable s.to.pathNot) ∧ _
    tauto
  | toPathNot =>
    show s.Plain ∧ (Readable s.from.path ∧ Readable s.from.pathNot) ∧ Readable s.to.path ∧ Readable pattern ↔
      (s.Plain ∧ (Readable s.from.path ∧ Readable s.from.pathNot) ∧ Readable s.to.path ∧ Readable none) ∧ _
    tauto

/-- What a list of patterns is for: as a filter it stands for any of them, and a rule may have it where each of them
can be read. -/
structure MeansAny (ps : List String) : Prop where
  path : ∀ rule side other, Readable other → ∃ f, PathFilter.ofSpec? rule side (some (.any ps)) other = .ok f ∧
    ∀ source, f.matchesPath source = true ↔ ∃ p ∈ ps, Regex.Matches p source
  pathNot : ∀ rule side other, Readable other → ∃ f, PathFilter.ofSpec? rule side other (some (.any ps)) = .ok f ∧
    ∀ source, f.matchesPathNot source = true ↔ ¬ ∃ p ∈ ps, Regex.Matches p source
  rule : ∀ (place : PatternPlace) (s : RuleSpec), (∃ r, Rule.ofSpec? (place.put (some (.any ps)) s) = .ok r) ↔
    (∃ r, Rule.ofSpec? (place.put none s) = .ok r) ∧ ∀ p ∈ ps, ∃ r, Regex.read? p = .ok r

theorem PathFilter.pattern?_eq_ok {p : PathPattern} {r : Regex} (h : Regex.read? p.expression = .ok r)
    (rule side field : String) : pattern? rule side field (some p) = .ok (some r) := by
  rw [pattern?, h]

/-- **A list of patterns means any of them, if they can be joined.** -/
theorem meansAny_of_joinable {ps : List String} (h : Regex.Joinable ps) : MeansAny ps := by
  obtain ⟨r, hr, hsearch⟩ := Regex.read?_joined h
  have hread : Regex.read? (PathPattern.any ps).expression = .ok r := hr
  refine ⟨fun rule side other hother => ?_, fun rule side other hother => ?_, fun place s => ?_⟩
  · obtain ⟨n, hn⟩ := (PathFilter.pattern?_ok_iff rule side "pathNot" other).mpr hother
    refine ⟨{ path := some r, pathNot := n }, ?_, hsearch⟩
    rw [PathFilter.ofSpec?, PathFilter.pattern?_eq_ok hread, hn]
    rfl
  · obtain ⟨q, hq⟩ := (PathFilter.pattern?_ok_iff rule side "path" other).mpr hother
    refine ⟨{ path := q, pathNot := some r }, ?_, fun source => ?_⟩
    · rw [PathFilter.ofSpec?, PathFilter.pattern?_eq_ok hread, hq]
      rfl
    · rw [← hsearch source]
      show (!r.search source) = true ↔ _
      rw [Bool.not_eq_true', Bool.not_eq_true]
  · have hlist : Readable (some (.any ps)) := fun q hq => by
      obtain rfl := Option.some.inj hq
      exact ⟨r, hread⟩
    rw [place.put_ok_iff]
    exact and_congr_right fun _ => ⟨fun _ => h.valid, fun _ => hlist⟩

/-- The files of two directories. -/
theorem meansAny_of_two_directories :
    Regex.Joinable ["^src/a", "^src/b"] ∧ MeansAny ["^src/a", "^src/b"] := by
  have hshallow (bs : List Regex.Piece) (h : bs.all (fun b => decide (b.depth < Regex.maxDepth)) = true) :
      ∀ b ∈ bs, b.depth < Regex.maxDepth := fun b hb => of_decide_eq_true (List.all_eq_true.mp h b hb)
  have hjoinable : Regex.Joinable ["^src/a", "^src/b"] := by
    refine ⟨List.cons_ne_nil _ _, fun p hp => ?_, fun p hp => ?_, ?_, fun _ p hp => ?_, ?_⟩
    · rcases List.mem_pair.mp hp with rfl | rfl
      · exact ⟨_, rfl⟩
      · exact ⟨_, rfl⟩
    · obtain rfl := List.mem_singleton.mp hp
      rfl
    · refine List.pairwise_pair.mpr fun m hm => ?_
      have hnone : (Regex.Reading.of "^src/a").names = [] := rfl
      rw [hnone] at hm
      cases hm
    · rcases List.mem_pair.mp hp with rfl | rfl
      · exact hshallow _ rfl
      · exact hshallow _ rfl
    · exact Nat.le_of_ble_eq_true rfl
  exact ⟨hjoinable, meansAny_of_joinable hjoinable⟩

/-! ## Lists that mean something else -/

/-- The empty list stands for the empty text, which matches everything. -/
theorem not_meansAny_nil : ¬ MeansAny [] := by
  intro h
  obtain ⟨f, hf, hmatches⟩ := h.path "r" "from" none fun _ hp => by cases hp
  have hempty : PathFilter.ofSpec? "r" "from" (some (.any [])) none = .ok { path := some .empty } := rfl
  obtain rfl := Except.ok.inj (hempty.symm.trans hf)
  obtain ⟨p, hp, -⟩ := (hmatches "a.js").mp rfl
  cases hp

/-- A flag that is set in one pattern holds in the next. -/
theorem not_meansAny_of_open_flag : ¬ MeansAny ["(?i)a", "b"] := by
  intro h
  obtain ⟨f, hf, hmatches⟩ := h.path "r" "from" none fun _ hp => by cases hp
  have htext : (PathPattern.any ["(?i)a", "b"]).expression = "(?i)a|b" := by
    rw [PathPattern.expression, ← String.toList_inj, String.toList_intercalate]
    rfl
  have hvalid {p : String} (h : (Regex.read? p).toOption.isSome = true) : ∃ r, Regex.read? p = .ok r := by
    cases hread : Regex.read? p with
    | error f =>
      rw [hread] at h
      cases h
    | ok r => exact ⟨r, rfl⟩
  have hmatches_iff {p : String} (h : (Regex.read? p).toOption.isSome = true) : Regex.Matches p "B" ↔
      (Regex.Reading.of p).branches.any (·.regex.search "B") = true := by
    rw [Regex.matches_iff (hvalid h), List.any_eq_true]
  -- joined, the second pattern ignores case; by itself, it does not
  obtain ⟨r, hjoined, hsearch⟩ : Regex.Matches "(?i)a|b" "B" :=
    (hmatches_iff (by decide +kernel)).mpr (by decide +kernel)
  have hfilter : PathFilter.ofSpec? "r" "from" (some (.any ["(?i)a", "b"])) none = .ok { path := some r } := by
    rw [PathFilter.ofSpec?, PathFilter.pattern?_eq_ok (htext ▸ hjoined)]
    rfl
  obtain rfl := Except.ok.inj (hfilter.symm.trans hf)
  obtain ⟨p, hp, halone⟩ := (hmatches "B").mp hsearch
  rcases List.mem_pair.mp hp with rfl | rfl
  · exact absurd ((hmatches_iff (by decide +kernel)).mp halone) (by decide +kernel)
  · exact absurd ((hmatches_iff (by decide +kernel)).mp halone) (by decide +kernel)

end ImportSurvey
