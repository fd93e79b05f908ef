import Mathlib.Data.Finset.Card
import Mathlib.Data.Nat.Digits.Lemmas
import ImportSurvey.Settings.File
import ImportSurvey.Proofs.Accepted
import ImportSurvey.Proofs.Keys
import ImportSurvey.Proofs.RealNames

/-
  What a settings file inherits from the files it extends.

  A chain of files is followed until a file cannot be read, comes a second time, or extends no other
  (`SettingsFile.Inherits`).  There is no fourth way, because a chain does not go on forever: while no file comes
  twice, no path does, and there are only so many texts that the system takes as a path (`length_le_pathCount`).
  So the fuel of `readChain` is never used up, and the first of the three that happens decides
  (`inherits_read`).

  Which paths lead to one file is told there by the keys that reading keeps, canonical paths where there are some.
  The keys tell what they should, the real files, as long as every path of the chain that leads somewhere has a
  canonical path and one that leads nowhere does not read like one (`Recognizable`).  A path that leads nowhere
  is its own key, and only for the system is `a.toml/` another path than `a.toml`
  (`not_inherits_of_trailing_slash`).
-/
namespace ImportSurvey

/-! ## How many texts there are -/

/-- The bytes of a text as the digits of a number, with a one in front. -/
def codeOf (s : String) : Nat := Nat.ofDigits 256 (s.toByteArray.data.toList.map UInt8.toNat ++ [1])

theorem digit_lt {s : String} {n : Nat} (h : n ∈ s.toByteArray.data.toList.map UInt8.toNat ++ [1]) : n < 256 := by
  rcases List.mem_append.mp h with h | h
  · obtain ⟨byte, -, rfl⟩ := List.mem_map.mp h
    exact byte.toNat_lt
  · rw [List.mem_singleton.mp h]
    omega

theorem codeOf_lt {s : String} {size : Nat} (h : s.utf8ByteSize < size) : codeOf s < 256 ^ size := by
  refine lt_of_lt_of_le (Nat.ofDigits_lt_base_pow_length (by omega) fun _ => digit_lt) ?_
  refine Nat.pow_le_pow_right (by omega) ?_
  rw [List.length_append, List.length_map, Array.length_toList, List.length_singleton]
  exact h

theorem codeOf_injective : Function.Injective codeOf := by
  have hdigits : ∀ s, Nat.digits 256 (codeOf s) = s.toByteArray.data.toList.map UInt8.toNat ++ [1] := fun s =>
    Nat.digits_ofDigits 256 (by omega) _ (fun _ => digit_lt) fun _ => by
      rw [List.getLast_append_singleton]
      omega
  intro s t h
  have hlist := (hdigits s).symm.trans ((congrArg _ h).trans (hdigits t))
  have hbytes : s.toByteArray.data.toList = t.toByteArray.data.toList :=
    List.map_injective_iff.mpr (fun _ _ => UInt8.toNat_inj.mp) (List.append_cancel_right hlist)
  exact String.toByteArray_inj.mp (ByteArray.ext (Array.toList_inj.mp hbytes))

/-- **There are no more different texts of some size than numbers of that many digits.** -/
theorem length_le_of_nodup {texts : List String} {size : Nat} (hnodup : texts.Nodup)
    (hsize : ∀ s ∈ texts, s.utf8ByteSize < size) : texts.length ≤ SettingsFile.textCount size := by
  have hcodes : (texts.map codeOf).Nodup := hnodup.map codeOf_injective
  have hbelow : (texts.map codeOf).toFinset ⊆ Finset.range (256 ^ size) := by
    intro n hn
    obtain ⟨s, hs, rfl⟩ := List.mem_map.mp (List.mem_toFinset.mp hn)
    exact Finset.mem_range.mpr (codeOf_lt (hsize s hs))
  have hcard := Finset.card_le_card hbelow
  rwa [List.toFinset_card_of_nodup hcodes, List.length_map, Finset.card_range] at hcard

/-! ## Chains -/

section

variable {α : Type} {R : α → α → Prop}

theorem exists_next_of_isChain {l : List α} {last : α} (h : (l ++ [last]).IsChain R) :
    ∀ a ∈ l, ∃ next, R a next := by
  induction l with
  | nil => exact fun a ha => absurd ha List.not_mem_nil
  | cons b l ih =>
    have hhead : ∃ next, R b next := by
      cases l with
      | nil => exact ⟨last, (List.isChain_cons_cons.mp h).1⟩
      | cons c l => exact ⟨c, (List.isChain_cons_cons.mp h).1⟩
    have htail : (l ++ [last]).IsChain R := by
      cases l with
      | nil => exact .singleton last
      | cons c l => exact (List.isChain_cons_cons.mp h).2
    intro a ha
    rcases List.mem_cons.mp ha with rfl | ha
    · exact hhead
    · exact ih htail a ha

/-- Where every element has one successor at most, one of two chains from the same element goes on as the other. -/
theorem prefix_or_prefix_of_isChain (hR : ∀ a b c, R a b → R a c → b = c) {l l' : List α} (h : l.IsChain R)
    (h' : l'.IsChain R) (hhead : l.head? = l'.head?) : l <+: l' ∨ l' <+: l := by
  induction l generalizing l' with
  | nil => exact .inl List.nil_prefix
  | cons a l ih =>
    cases l' with
    | nil => exact .inr List.nil_prefix
    | cons a' l' =>
      obtain rfl : a = a' := Option.some.inj hhead
      cases l with
      | nil => exact .inl ⟨l', rfl⟩
      | cons b l =>
        cases l' with
        | nil => exact .inr ⟨b :: l, rfl⟩
        | cons b' l' =>
          obtain ⟨hab, hl⟩ := List.isChain_cons_cons.mp h
          obtain ⟨hab', hl'⟩ := List.isChain_cons_cons.mp h'
          obtain rfl := hR _ _ _ hab hab'
          exact (ih hl hl' rfl).imp (List.cons_prefix_cons.mpr ⟨rfl, ·⟩) (List.cons_prefix_cons.mpr ⟨rfl, ·⟩)

end

namespace SettingsFile

open Settings (Key)

/-- `file` can be read, and the file it extends is `next`. -/
def Extends (d : Disk) (file next : Path) : Prop :=
  ∃ layer target, readAlone d file = .ok layer ∧ layer.extends = some target ∧ next = extended file target

/-- Files from `start` on, each with the one it extends behind it. -/
structure Chain (d : Disk) (start : Path) (files : List Path) : Prop where
  head : files.head? = some start
  linked : files.IsChain (Extends d)

/-- What the file itself sets a key to. -/
def valueIn (d : Disk) (k : Key) (file : Path) : Option k.Value := (readAlone d file).toOption.bind (·.get k)

/-- What comes of a file with all that it extends; `same` tells which paths lead to one file. -/
inductive Inherits (d : Disk) (same : Path → Path → Prop) (start : Path) :
    Except Failure SettingsLayer → Prop where
  /-- a file cannot be read, and none has come twice -/
  | fails {before : List Path} {file : Path} {f : Failure} :
      Chain d start (before ++ [file]) → (before ++ [file]).Pairwise (fun p q => ¬ same p q) →
        readAlone d file = .error f → Inherits d same start (.error f)
  /-- a file comes a second time -/
  | repeats {before : List Path} {file : Path} :
      Chain d start (before ++ [file]) → before.Pairwise (fun p q => ¬ same p q) → (∃ p ∈ before, same p file) →
        Inherits d same start (.error (.config (.extendsItself file (before.map (chainKey d)))))
  /-- a file extends no other; every key has the value in the first file that sets it -/
  | ends {before : List Path} {file : Path} {last layer : SettingsLayer} :
      Chain d start (before ++ [file]) → (before ++ [file]).Pairwise (fun p q => ¬ same p q) →
        readAlone d file = .ok last → last.extends = none → layer.extends = none →
        (∀ k, layer.get k = (before ++ [file]).findSome? (valueIn d k)) → Inherits d same start (.ok layer)

variable {d : Disk} {start : Path}

theorem extends_unique (p q r : Path) (hq : Extends d p q) (hr : Extends d p r) : q = r := by
  obtain ⟨layer, target, hread, htarget, rfl⟩ := hq
  obtain ⟨layer', target', hread', htarget', rfl⟩ := hr
  obtain rfl := Except.ok.inj (hread.symm.trans hread')
  obtain rfl := Option.some.inj (htarget.symm.trans htarget')
  rfl

theorem valueIn_of_ok {file : Path} {layer : SettingsLayer} (h : readAlone d file = .ok layer) (k : Key) :
    valueIn d k file = layer.get k := by
  rw [valueIn, h]
  rfl

theorem Chain.singleton : Chain d start [start] := ⟨rfl, .singleton start⟩

theorem Chain.next {before : List Path} {file next : Path} (h : Chain d start (before ++ [file]))
    (hnext : Extends d file next) : Chain d start (before ++ [file] ++ [next]) where
  head := by
    rw [List.head?_append, h.head]
    rfl
  linked := by
    refine List.isChain_append.mpr ⟨h.linked, .singleton next, fun p hp q hq => ?_⟩
    rw [List.getLast?_append, List.getLast?_singleton] at hp
    obtain rfl := Option.some.inj hp
    obtain rfl := Option.some.inj hq
    exact hnext

/-- A chain that has begun stays one when it is cut short. -/
theorem Chain.front {front : List Path} {p : Path} {rest : List Path} (h : Chain d start (front ++ p :: rest)) :
    Chain d start (front ++ [p]) where
  head := by
    rw [← h.head]
    cases front <;> rfl
  linked := by
    have hlinked : (front ++ [p] ++ rest).IsChain (Extends d) := by
      rw [List.append_assoc]
      exact h.linked
    exact hlinked.left_of_append

/-- All files of a chain but the last can be read. -/
theorem Chain.exists_next {before : List Path} {file : Path} (h : Chain d start (before ++ [file])) :
    ∀ p ∈ before, ∃ next, Extends d p next := exists_next_of_isChain h.linked

/-- A chain that has come to its end does not go on. -/
theorem Chain.prefix_of_end {files files' : List Path} {last : Path} (h : Chain d start (files ++ [last]))
    (hend : ∀ next, ¬ Extends d last next) (h' : Chain d start files') : files' <+: files ++ [last] := by
  have hhead := h'.head.trans h.head.symm
  rcases prefix_or_prefix_of_isChain extends_unique h'.linked h.linked hhead with hle | ⟨rest, rfl⟩
  · exact hle
  · cases rest with
    | nil => rw [List.append_nil]
    | cons next rest =>
      have hlinked : (files ++ last :: next :: rest).IsChain (Extends d) := by
        have := h'.linked
        rwa [List.append_assoc, List.singleton_append] at this
      exact absurd (List.isChain_append_cons_cons.mp hlinked).2.1 (hend next)

/-! ## One file -/

/-- The layer in a text whose lines, names in ascending order, are these. -/
theorem ofText_of_lines {text : String} {file : Path} {entries : Toml.Entries} {layer : SettingsLayer}
    (hmark : text.toList.head? ≠ some '\uFEFF')
    (hlines : Toml.readLines (text.toList.length + 1) [] [] text.toList = some entries)
    (hsorted : (Toml.toEntries entries).Pairwise fun a b => decide (a.1 ≤ b.1) = true)
    (hdecode : (SettingsLayer.decode .toml (.map (Toml.toEntries entries) true)).toOption = some layer)
    (hcheck : (layer.check file).toOption = some ()) : SettingsLayer.ofText text file = .ok layer := by
  have hread : Toml.read? text = some (.map (Toml.toEntries entries) true) := by
    rw [Toml.read?]
    split
    · rename_i htext
      rw [htext] at hmark
      exact absurd rfl hmark
    · rw [hlines, Option.map_some, Toml.Node.toDatum, List.mergeSort_of_pairwise hsorted]
  rw [SettingsLayer.ofText, hread]
  simp only [eq_ok_of_toOption hdecode, eq_ok_of_toOption hcheck]
  rfl
/-- What is read where a path leads to a text. -/
theorem readAlone_of_find {file : Path} {name : Disk.Name} {text : String} {mode : Nat}
    (h : d.find file true = .ok (name, .file (.text text) mode)) :
    readAlone d file = SettingsLayer.ofText text file := by
  have hexists : d.pathExists file = true := by
    rw [Disk.pathExists, h]
    rfl
  rw [readAlone, hexists, Disk.readText, h]
  rfl

theorem readAlone_of_find_error {file : Path} {f : Disk.Fault} (h : d.find file true = .error f) :
    readAlone d file = .error (.configNotFound file) := by
  have hexists : d.pathExists file = false := by
    rw [Disk.pathExists, h]
    rfl
  rw [readAlone, hexists]
  rfl

/-- A file that can be read has a path that the system takes. -/
theorem find_of_readAlone {file : Path} {layer : SettingsLayer} (h : readAlone d file = .ok layer) :
    ∃ name e, d.find file true = .ok (name, e) := by
  rw [readAlone] at h
  split at h
  · cases h
  · rename_i hexists
    rw [Disk.pathExists] at hexists
    cases hfind : d.find file true with
    | error f =>
      rw [hfind] at hexists
      exact absurd rfl hexists
    | ok r => exact ⟨r.1, r.2, rfl⟩

theorem size_lt_of_readAlone {file : Path} {layer : SettingsLayer} (h : readAlone d file = .ok layer) :
    file.text.utf8ByteSize < 4096 := by
  obtain ⟨name, e, hfind⟩ := find_of_readAlone h
  exact Nat.lt_succ_of_le (Disk.locate_eq_ok_iff.mp (Disk.find_eq_ok_iff.mp hfind)).1.2.2

/-! ## The fuel is enough -/

/-- The keys of two paths are the same. -/
def SameKey (d : Disk) (p q : Path) : Prop := (chainKey d p).same (chainKey d q) = true

/-- **A chain in which no key comes twice is short.** -/
theorem length_le_pathCount {before : List Path} {file : Path} (hchain : Chain d start (before ++ [file]))
    (hdistinct : before.Pairwise fun p q => ¬ SameKey d p q) : before.length ≤ pathCount := by
  have hnodup : (before.map Path.text).Nodup := by
    rw [List.Nodup, List.pairwise_map]
    refine hdistinct.imp fun {p q} hne htext => hne ?_
    obtain rfl : p = q := congrArg Path.mk htext
    exact decide_eq_true rfl
  have hsize : ∀ s ∈ before.map Path.text, s.utf8ByteSize < 4096 := by
    intro s hs
    obtain ⟨p, hp, rfl⟩ := List.mem_map.mp hs
    obtain ⟨_, layer, _, hread, -⟩ := hchain.exists_next p hp
    exact size_lt_of_readAlone hread
  have hlength := length_le_of_nodup hnodup hsize
  rw [List.length_map] at hlength
  exact hlength

/-! ## Following a chain -/

/-- One step along a chain. -/
theorem readChain_succ (file : Path) (chain : List Path) (fuel : Nat) :
    readChain d file chain (fuel + 1) =
      if chain.any (chainKey d file).same then .error (.config (.extendsItself file chain))
      else match readAlone d file with
        | .error f => .error f
        | .ok layer =>
          match layer.extends with
          | none => .ok layer
          | some target => (readChain d (extended file target) (chain ++ [chainKey d file]) fuel).map
              fun base => { layer with «extends» := none }.laidOver base := by
  rw [readChain]
  by_cases hany : chain.any (chainKey d file).same
  · rw [if_pos hany, if_pos hany]
    rfl
  · rw [if_neg hany, if_neg hany]
    cases hread : readAlone d file with
    | error f => rfl
    | ok layer =>
      cases hextends : layer.extends with
      | none => simp only [bind, Except.bind, hextends, pure, Except.pure]
      | some target =>
        simp only [bind, Except.bind, hextends, pure, Except.pure, Except.map]

theorem any_same_iff (file : Path) (before : List Path) :
    (before.map (chainKey d)).any (chainKey d file).same = true ↔ ∃ p ∈ before, SameKey d p file := by
  rw [List.any_map, List.any_eq_true]
  refine exists_congr fun p => and_congr_right fun _ => ?_
  rw [Function.comp_apply, SameKey, Path.same, Path.same, decide_eq_true_eq, decide_eq_true_eq]
  exact eq_comm

/-- What comes of a chain that has been followed over `before` to `file`: it stops somewhere, or it comes to an end
and the layer is made of what was left of it. -/
inductive Follows (d : Disk) (start : Path) (before : List Path) (file : Path) :
    Except Failure SettingsLayer → Prop where
  | stops {f : Failure} : Inherits d (SameKey d) start (.error f) → Follows d start before file (.error f)
  | ends {rest : List Path} {last : Path} {bottom layer : SettingsLayer} :
      Chain d start (before ++ file :: rest) → (before ++ file :: rest).Pairwise (fun p q => ¬ SameKey d p q) →
        (file :: rest).getLast? = some last → readAlone d last = .ok bottom → bottom.extends = none →
          layer.extends = none → (∀ k, layer.get k = (file :: rest).findSome? (valueIn d k)) →
            Follows d start before file (.ok layer)

/-- A file that can be read comes before what its chain makes of the file it extends. -/
theorem Follows.over {before : List Path} {file next : Path} {layer : SettingsLayer}
    {result : Except Failure SettingsLayer} (hread : readAlone d file = .ok layer)
    (h : Follows d start (before ++ [file]) next result) :
    Follows d start before file (result.map fun base => { layer with «extends» := none }.laidOver base) := by
  cases h with
  | stops hstops => exact .stops hstops
  | ends hchain hapart hlast hbottom hend hnone hvalues =>
    rw [List.append_assoc, List.singleton_append] at hchain hapart
    refine .ends hchain hapart ?_ hbottom hend hnone fun k => ?_
    · rw [List.getLast?_cons_cons]
      exact hlast
    · rw [SettingsLayer.get_laidOver, SettingsLayer.get_with_extends, hvalues]
      rw [List.findSome?_cons (a := file), valueIn_of_ok hread]
      cases layer.get k <;> rfl

/-- **Following a chain from anywhere comes to one of its ends**, and the fuel is enough. -/
theorem follows_readChain {fuel : Nat} {before : List Path} {file : Path}
    (hchain : Chain d start (before ++ [file])) (hdistinct : before.Pairwise fun p q => ¬ SameKey d p q)
    (hfuel : pathCount + 1 ≤ before.length + fuel) :
    Follows d start before file (readChain d file (before.map (chainKey d)) fuel) := by
  induction fuel generalizing before file with
  | zero =>
    -- more files would have been passed than there are paths
    have hshort := length_le_pathCount hchain hdistinct
    omega
  | succ fuel ih =>
    rw [readChain_succ]
    by_cases hrepeats : ∃ p ∈ before, SameKey d p file
    · rw [if_pos ((any_same_iff file before).mpr hrepeats)]
      exact .stops (.repeats hchain hdistinct hrepeats)
    · rw [if_neg (mt (any_same_iff file before).mp hrepeats)]
      have hdistinct' : (before ++ [file]).Pairwise fun p q => ¬ SameKey d p q := by
        refine List.pairwise_append.mpr ⟨hdistinct, List.pairwise_singleton _ _, fun p hp q hq => ?_⟩
        obtain rfl := List.mem_singleton.mp hq
        exact fun hsame => hrepeats ⟨p, hp, hsame⟩
      split
      · rename_i f hread
        exact .stops (.fails hchain hdistinct' hread)
      · rename_i layer hread
        split
        · rename_i hextends
          refine .ends hchain hdistinct' rfl hread hextends hextends fun k => ?_
          rw [List.findSome?_singleton, valueIn_of_ok hread]
        · rename_i target hextends
          have hnext : Extends d file (extended file target) := ⟨layer, target, hread, hextends, rfl⟩
          have hfuel' : pathCount + 1 ≤ (before ++ [file]).length + fuel := by
            rw [List.length_append, List.length_singleton]
            omega
          have hfollows := ih (hchain.next hnext) hdistinct' hfuel'
          rw [List.map_append, List.map_singleton] at hfollows
          exact hfollows.over hread

/-- **Following a chain ends in the first of the three ways that happens**, files being told by their keys. -/
theorem inherits_read (d : Disk) (start : Path) : Inherits d (SameKey d) start (read d start) := by
  have hfuel : pathCount + 1 ≤ ([] : List Path).length + (pathCount + 1) := Nat.le_add_left ..
  have hfollows : Follows d start [] start (readChain d start [] (pathCount + 1)) :=
    follows_readChain Chain.singleton .nil hfuel
  unfold read
  generalize readChain d start [] (pathCount + 1) = result at hfollows ⊢
  cases hfollows with
  | stops hstops => exact hstops
  | @ends rest last bottom layer hchain hapart hlast hbottom hend hnone hvalues =>
    have hfiles : (start :: rest).dropLast ++ [last] = start :: rest := List.dropLast_append_getLast? last hlast
    rw [List.nil_append, ← hfiles] at hchain hapart
    exact .ends hchain hapart hbottom hend hnone fun k => hfiles.symm ▸ hvalues k

/-! ## The outcome is one -/

/-- **There is only one way for a chain to end.** -/
theorem stop_unique {same : Path → Path → Prop} {before before' : List Path} {file file' : Path}
    (hchain : Chain d start (before ++ [file])) (hchain' : Chain d start (before' ++ [file']))
    (hapart : before.Pairwise fun p q => ¬ same p q) (hapart' : before'.Pairwise fun p q => ¬ same p q)
    (hstop : (∃ p ∈ before, same p file) ∨ ∀ next, ¬ Extends d file next)
    (hstop' : (∃ p ∈ before', same p file') ∨ ∀ next, ¬ Extends d file' next) :
    before = before' ∧ file = file' := by
  -- a chain that stops at a file is no part of one that goes on behind it
  have hpassed : ∀ {front back : List Path} {p q : Path}, Chain d start (back ++ [q]) →
      back.Pairwise (fun p q => ¬ same p q) → ((∃ r ∈ front, same r p) ∨ ∀ next, ¬ Extends d p next) →
        ¬ front ++ [p] <+: back := by
    rintro front back p q hback hbackapart hstop ⟨rest, rfl⟩
    rcases hstop with ⟨r, hr, hsame⟩ | hend
    · have hfront := (List.pairwise_append.mp hbackapart).1
      exact (List.pairwise_append.mp hfront).2.2 r hr p (List.mem_singleton.mpr rfl) hsame
    · have hmem : p ∈ front ++ [p] ++ rest :=
        List.mem_append_left _ (List.mem_append_right _ (List.mem_singleton.mpr rfl))
      obtain ⟨next, hnext⟩ := hback.exists_next p hmem
      exact hend next hnext
  have heq : before ++ [file] = before' ++ [file'] := by
    rcases prefix_or_prefix_of_isChain extends_unique hchain.linked hchain'.linked
      (hchain.head.trans hchain'.head.symm) with h | h
    · rcases List.prefix_concat_iff.mp h with heq | hin
      · exact heq
      · exact absurd hin (hpassed hchain' hapart' hstop)
    · rcases List.prefix_concat_iff.mp h with heq | hin
      · exact heq.symm
      · exact absurd hin (hpassed hchain hapart hstop')
  obtain ⟨hbefore, hfile⟩ := List.append_inj' heq rfl
  exact ⟨hbefore, List.singleton_inj.mp hfile⟩

/-- Where a chain ends, and what comes of it there. -/
structure StopsAt (d : Disk) (same : Path → Path → Prop) (start : Path) (before : List Path) (file : Path)
    (result : Except Failure SettingsLayer) : Prop where
  chain : Chain d start (before ++ [file])
  apart : before.Pairwise fun p q => ¬ same p q
  repeats : (∃ p ∈ before, same p file) →
    result = .error (.config (.extendsItself file (before.map (chainKey d))))
  fails : (¬ ∃ p ∈ before, same p file) → ∀ f, readAlone d file = .error f → result = .error f
  ends : (¬ ∃ p ∈ before, same p file) → ∀ last, readAlone d file = .ok last → last.extends = none ∧
    ∃ layer, result = .ok layer ∧ layer.extends = none ∧ ∀ k, layer.get k = (before ++ [file]).findSome? (valueIn d k)

section

variable {same : Path → Path → Prop} {result result' : Except Failure SettingsLayer}

theorem Inherits.exists_stop (h : Inherits d same start result) :
    ∃ before file, StopsAt d same start before file result := by
  have hnew : ∀ {before : List Path} {file : Path}, (before ++ [file]).Pairwise (fun p q => ¬ same p q) →
      before.Pairwise (fun p q => ¬ same p q) ∧ ¬ ∃ p ∈ before, same p file := by
    intro before file hapart
    obtain ⟨hfront, -, hlast⟩ := List.pairwise_append.mp hapart
    exact ⟨hfront, fun ⟨p, hp, hsame⟩ => hlast p hp file (List.mem_singleton.mpr rfl) hsame⟩
  cases h with
  | @fails before file f hchain hapart hread =>
    obtain ⟨hfront, hnot⟩ := hnew hapart
    refine ⟨before, file, hchain, hfront, fun h => absurd h hnot, fun _ f' hf' => ?_, fun _ last hlast => ?_⟩
    · exact hread.symm.trans hf' ▸ rfl
    · rw [hread] at hlast
      cases hlast
  | @repeats before file hchain hapart hrepeats =>
    exact ⟨before, file, hchain, hapart, fun _ => rfl, fun h => absurd hrepeats h, fun h => absurd hrepeats h⟩
  | @ends before file last layer hchain hapart hread hend hnone hvalues =>
    obtain ⟨hfront, hnot⟩ := hnew hapart
    refine ⟨before, file, hchain, hfront, fun h => absurd h hnot, fun _ f hf => ?_, fun _ last' hlast => ?_⟩
    · rw [hread] at hf
      cases hf
    · obtain rfl := Except.ok.inj (hread.symm.trans hlast)
      exact ⟨hend, layer, rfl, hnone, hvalues⟩

/-- A chain does not go on from where it ends. -/
theorem StopsAt.stop {before : List Path} {file : Path} (h : StopsAt d same start before file result) :
    (∃ p ∈ before, same p file) ∨ ∀ next, ¬ Extends d file next := by
  refine or_iff_not_imp_left.mpr fun hnot next ⟨layer, target, hread, htarget, _⟩ => ?_
  rw [(h.ends hnot layer hread).1] at htarget
  cases htarget

/-- **What comes of a file is determined.** -/
theorem Inherits.unique (h : Inherits d same start result) (h' : Inherits d same start result') :
    result = result' := by
  obtain ⟨before, file, hstop⟩ := h.exists_stop
  obtain ⟨before', file', hstop'⟩ := h'.exists_stop
  obtain ⟨rfl, rfl⟩ := stop_unique hstop.chain hstop'.chain hstop.apart hstop'.apart hstop.stop hstop'.stop
  by_cases hrepeats : ∃ p ∈ before, same p file
  · rw [hstop.repeats hrepeats, hstop'.repeats hrepeats]
  · cases hread : readAlone d file with
    | error f => rw [hstop.fails hrepeats f hread, hstop'.fails hrepeats f hread]
    | ok last =>
      obtain ⟨-, layer, rfl, hnone, hvalues⟩ := hstop.ends hrepeats last hread
      obtain ⟨-, layer', rfl, hnone', hvalues'⟩ := hstop'.ends hrepeats last hread
      have hlayer : layer = layer' :=
        SettingsLayer.ext_get (hnone.trans hnone'.symm) fun k => (hvalues k).trans (hvalues' k).symm
      rw [hlayer]

/-! ## Telling files by other means -/

/-- On a chain it only matters how a file compares with those before it. -/
theorem Inherits.congr {same' : Path → Path → Prop} (hsame : ∀ before file, Chain d start (before ++ [file]) →
    ∀ p ∈ before, (same p file ↔ same' p file)) (h : Inherits d same start result) :
    Inherits d same' start result := by
  have hapart : ∀ files back, Chain d start (files ++ back) → files.Pairwise (fun p q => ¬ same p q) →
      files.Pairwise (fun p q => ¬ same' p q) := by
    intro files
    induction files using List.reverseRecOn with
    | nil => exact fun _ _ _ => .nil
    | append_singleton files file ih =>
      intro back hchain hfiles
      rw [List.append_assoc, List.singleton_append] at hchain
      obtain ⟨hfront, hlast, hnew⟩ := List.pairwise_append.mp hfiles
      refine List.pairwise_append.mpr ⟨ih _ hchain hfront, List.pairwise_singleton _ _, fun p hp q hq => ?_⟩
      obtain rfl := List.mem_singleton.mp hq
      exact mt (hsame files q hchain.front p hp).mpr (hnew p hp q hq)
  cases h with
  | @fails before file f hchain hdistinct hread =>
    have hchain' : Chain d start (before ++ [file] ++ []) := (List.append_nil _).symm ▸ hchain
    exact .fails hchain (hapart _ [] hchain' hdistinct) hread
  | @repeats before file hchain hdistinct hrepeats =>
    obtain ⟨p, hp, hsamep⟩ := hrepeats
    exact .repeats hchain (hapart _ [file] hchain hdistinct) ⟨p, hp, (hsame before file hchain p hp).mp hsamep⟩
  | @ends before file last layer hchain hdistinct hread hend hnone hvalues =>
    have hchain' : Chain d start (before ++ [file] ++ []) := (List.append_nil _).symm ▸ hchain
    exact .ends hchain (hapart _ [] hchain' hdistinct) hread hend hnone hvalues

end

/-- Two paths lead to one file. -/
def SameFile (d : Disk) (p q : Path) : Prop :=
  ∃ a b, d.realPath p = .ok a ∧ d.realPath q = .ok b ∧ a.same b = true

/-- A path of the chain has a canonical path; or it leads nowhere, and is the key of no file before it. -/
def Recognizable (d : Disk) (start : Path) : Prop :=
  ∀ before file, Chain d start (before ++ [file]) → (∃ real, d.canonicalize file = .ok real) ∨
    (∀ real, d.realPath file ≠ .ok real) ∧ ∀ p ∈ before, ¬ SameKey d p file

theorem chainKey_of_ok {file real : Path} (h : d.canonicalize file = .ok real) : chainKey d file = real := by
  rw [chainKey, h]

/-- What can be read has a real path. -/
theorem exists_realPath_of_extends {file next : Path} (h : Extends d file next) :
    ∃ real, d.realPath file = .ok real := by
  obtain ⟨layer, -, hread, -⟩ := h
  obtain ⟨name, e, hfind⟩ := find_of_readAlone hread
  exact ⟨Disk.nameText name, by rw [Disk.realPath, Disk.realName_of_find hfind]; rfl⟩

/-- **On a recognizable chain the keys tell the files.** -/
theorem sameKey_iff_sameFile (h : Recognizable d start) {before : List Path} {file : Path}
    (hchain : Chain d start (before ++ [file])) : ∀ p ∈ before, (SameKey d p file ↔ SameFile d p file) := by
  intro p hp
  obtain ⟨front, back, rfl⟩ := List.append_of_mem hp
  have hfront : Chain d start (front ++ [p]) := by
    rw [List.append_assoc] at hchain
    exact hchain.front
  obtain ⟨a, ha⟩ : ∃ a, d.canonicalize p = .ok a := by
    rcases h front p hfront with hcanonical | ⟨hnowhere, -⟩
    · exact hcanonical
    · obtain ⟨next, hnext⟩ := hchain.exists_next p hp
      obtain ⟨real, hreal⟩ := exists_realPath_of_extends hnext
      exact absurd hreal (hnowhere real)
  have hreal := Disk.realPath_of_canonicalize ha
  rcases h _ file hchain with ⟨b, hb⟩ | ⟨hnowhere, hapart⟩
  · rw [SameKey, chainKey_of_ok ha, chainKey_of_ok hb]
    constructor
    · exact fun hsame => ⟨a, b, hreal, Disk.realPath_of_canonicalize hb, hsame⟩
    · rintro ⟨a', b', ha', hb', hsame⟩
      obtain rfl := Except.ok.inj (hreal.symm.trans ha')
      obtain rfl := Except.ok.inj ((Disk.realPath_of_canonicalize hb).symm.trans hb')
      exact hsame
  · refine iff_of_false (hapart p hp) ?_
    rintro ⟨_, b, -, hb, -⟩
    exact hnowhere b hb

/-- **A file inherits what it should from the files it extends**, as long as the chain is recognizable. -/
theorem inherits_of_recognizable (h : Recognizable d start) : Inherits d (SameFile d) start (read d start) :=
  (inherits_read d start).congr fun _ _ hchain => sameKey_iff_sameFile h hchain

/-- A file that extends another one by a roundabout way, through a link. -/
def roundabout : Disk where
  entries := [(["c"], .dir 0o755 true), (["c", "p.toml"], .file (.text "extends = \"../l/q.toml\"\nmax_depth = 3")),
    (["c", "q.toml"], .file (.text "max_depth = 5\nvalidate = false")), (["l"], .link ⟨"c"⟩)]
  workingDir := []

theorem proper_roundabout : Disk.Proper "c" ∧ Disk.Proper "l" ∧ Disk.Proper "p.toml" ∧ Disk.Proper "q.toml" := by
  refine ⟨⟨?_, ?_, ?_⟩, ⟨?_, ?_, ?_⟩, ⟨?_, ?_, ?_⟩, ⟨?_, ?_, ?_⟩⟩
  all_goals decide

theorem find_upper : roundabout.find ⟨"/c/p.toml"⟩ true =
    .ok (["c", "p.toml"], .file (.text "extends = \"../l/q.toml\"\nmax_depth = 3")) := by
  obtain ⟨hc, -, hp, -⟩ := proper_roundabout
  refine Disk.find_of_walk ⟨by decide, by decide, by decide⟩ rfl (show _ = ["", "c", "p.toml"] by decide) ?_
  refine .stay rfl (.inl rfl) (.enter rfl hc rfl (fun _ h => by cases h) ?_)
  exact .enter rfl hp rfl (fun _ h => by cases h) (.stop rfl)

theorem find_lower : roundabout.find ⟨"/c/../l/q.toml"⟩ true =
    .ok (["c", "q.toml"], .file (.text "max_depth = 5\nvalidate = false")) := by
  obtain ⟨hc, hl, -, hq⟩ := proper_roundabout
  refine Disk.find_of_walk ⟨by decide, by decide, by decide⟩ rfl
    (show _ = ["", "c", "..", "l", "q.toml"] by decide) ?_
  refine .stay rfl (.inl rfl) (.enter rfl hc rfl (fun _ h => by cases h) (.up rfl (.link rfl hl rfl ?_)))
  show Disk.Walk roundabout 39 [] ["c", "q.toml"] _
  refine .enter rfl hc rfl (fun _ h => by cases h) ?_
  exact .enter rfl hq rfl (fun _ h => by cases h) (.stop rfl)

theorem readAlone_upper : readAlone roundabout ⟨"/c/p.toml"⟩ =
    .ok { «extends» := some ⟨"../l/q.toml"⟩, maxDepth := some 3 } := by
  have hlines : (Toml.readLines 38 [] [] "extends = \"../l/q.toml\"\nmax_depth = 3".toList).isSome := by
    decide +kernel
  exact (readAlone_of_find find_upper).trans
    (ofText_of_lines (by decide) (Option.some_get hlines).symm (by decide +kernel +revert) (by decide +kernel +revert)
      (by decide +kernel))

theorem readAlone_lower : readAlone roundabout ⟨"/c/../l/q.toml"⟩ =
    .ok { maxDepth := some 5, validate := some false } := by
  have hlines : (Toml.readLines 31 [] [] "max_depth = 5\nvalidate = false".toList).isSome := by
    decide +kernel
  exact (readAlone_of_find find_lower).trans
    (ofText_of_lines (by decide) (Option.some_get hlines).symm (by decide +kernel +revert) (by decide +kernel +revert)
      (by decide +kernel))

theorem chain_roundabout : Chain roundabout ⟨"/c/p.toml"⟩ ([⟨"/c/p.toml"⟩] ++ [⟨"/c/../l/q.toml"⟩]) := by
  have hnext : (⟨"/c/../l/q.toml"⟩ : Path) = extended ⟨"/c/p.toml"⟩ ⟨"../l/q.toml"⟩ := by decide
  have hextends : Extends roundabout ⟨"/c/p.toml"⟩ ⟨"/c/../l/q.toml"⟩ := ⟨_, _, readAlone_upper, rfl, hnext⟩
  exact ⟨rfl, .cons_cons hextends (.singleton _)⟩

theorem canonicalize_roundabout : roundabout.canonicalize ⟨"/c/p.toml"⟩ = .ok ⟨"/c/p.toml"⟩ ∧
    roundabout.canonicalize ⟨"/c/../l/q.toml"⟩ = .ok ⟨"/c/q.toml"⟩ := by
  have hfits : ∀ r ∈ roundabout.entries, Disk.fits r.1 = true := by decide
  exact ⟨Disk.canonicalize_of_find hfits find_upper, Disk.canonicalize_of_find hfits find_lower⟩

theorem recognizable_roundabout : Recognizable roundabout ⟨"/c/p.toml"⟩ := by
  have hend : ∀ next, ¬ Extends roundabout ⟨"/c/../l/q.toml"⟩ next := by
    rintro next ⟨layer, target, hread, htarget, -⟩
    obtain rfl := Except.ok.inj (readAlone_lower.symm.trans hread)
    cases htarget
  intro before file hchain
  have hmem : file ∈ [(⟨"/c/p.toml"⟩ : Path)] ++ [⟨"/c/../l/q.toml"⟩] :=
    (chain_roundabout.prefix_of_end hend hchain).subset (List.mem_append_right _ (List.mem_singleton.mpr rfl))
  obtain ⟨hupper, hlower⟩ := canonicalize_roundabout
  rcases List.mem_append.mp hmem with hmem | hmem
  · obtain rfl := List.mem_singleton.mp hmem
    exact .inl ⟨_, hupper⟩
  · obtain rfl := List.mem_singleton.mp hmem
    exact .inl ⟨_, hlower⟩

/-- By a roundabout way. -/
theorem inherits_of_link : Recognizable roundabout ⟨"/c/p.toml"⟩ ∧
    Inherits roundabout (SameFile roundabout) ⟨"/c/p.toml"⟩ (read roundabout ⟨"/c/p.toml"⟩) :=
  ⟨recognizable_roundabout, inherits_of_recognizable recognizable_roundabout⟩

/-- A file that extends its own path with a separator behind it, which leads to no file. -/
def trailingSlash : Disk := ⟨[(["a.toml"], .file (.text "extends = \"a.toml/\""))], []⟩

theorem proper_file : Disk.Proper "a.toml" := by
  refine ⟨?_, ?_, ?_⟩
  all_goals decide

theorem find_trailingSlash :
    trailingSlash.find ⟨"/a.toml"⟩ true = .ok (["a.toml"], .file (.text "extends = \"a.toml/\"")) := by
  refine Disk.find_of_walk ⟨by decide, by decide, by decide⟩ rfl (show _ = ["", "a.toml"] by decide) ?_
  exact .stay rfl (.inl rfl) (.enter rfl proper_file rfl (fun _ h => by cases h) (.stop rfl))

theorem readAlone_trailingSlash :
    readAlone trailingSlash ⟨"/a.toml"⟩ = .ok { «extends» := some ⟨"a.toml/"⟩ } :=
  (readAlone_of_find find_trailingSlash).trans (eq_ok_of_toOption (by decide +kernel))

theorem steps_behind : (Path.segments (⟨"/a.toml/"⟩ : Path).text.toList).map String.ofList = ["", "a.toml", ""] := by
  decide

theorem find_behind : trailingSlash.find ⟨"/a.toml/"⟩ true = .error .notDirectory := by
  rw [Disk.find, Disk.locate, if_neg (by decide), if_neg (by decide), if_neg (by decide), steps_behind]
  simp only [Disk.walk]
  rfl

theorem realName_behind (askable : Disk.Name → Bool) (hask : askable ["a.toml"] = true) :
    trailingSlash.realName askable ⟨"/a.toml/"⟩ = .error .notDirectory := by
  have hroot : (if (⟨"/a.toml/"⟩ : Path).isAbsolute then [] else trailingSlash.workingDir) = [] := rfl
  have hentry : trailingSlash.entry? ([] ++ ["a.toml"]) = some (.file (.text "extends = \"a.toml/\"")) := rfl
  rw [Disk.realName, if_neg (by decide), if_neg (by decide), steps_behind, hroot, Disk.realWalk, if_neg (by decide),
    if_pos (.inl rfl), Disk.realWalk_of_entry rfl proper_file hask hentry (fun _ h => by cases h)]
  -- the file is entered as if it were a directory
  show trailingSlash.realWalk askable Disk.maxLinks ["a.toml"] [""] = .error .notDirectory
  rw [Disk.realWalk, if_pos (by decide)]

theorem chain_trailingSlash : Chain trailingSlash ⟨"/a.toml"⟩ ([⟨"/a.toml"⟩] ++ [⟨"/a.toml/"⟩]) := by
  have hnext : (⟨"/a.toml/"⟩ : Path) = extended ⟨"/a.toml"⟩ ⟨"a.toml/"⟩ := by decide
  have hextends : Extends trailingSlash ⟨"/a.toml"⟩ ⟨"/a.toml/"⟩ := ⟨_, _, readAlone_trailingSlash, rfl, hnext⟩
  exact ⟨rfl, .cons_cons hextends (.singleton _)⟩

/-- **A file that is not there is taken for one that extends itself.** -/
theorem not_inherits_of_trailing_slash : read trailingSlash ⟨"/a.toml"⟩ =
      .error (.config (.extendsItself ⟨"/a.toml/"⟩ [⟨"/a.toml"⟩])) ∧
    ¬ Inherits trailingSlash (SameFile trailingSlash) ⟨"/a.toml"⟩ (read trailingSlash ⟨"/a.toml"⟩) := by
  have hcanonical : trailingSlash.canonicalize ⟨"/a.toml"⟩ = .ok ⟨"/a.toml"⟩ :=
    Disk.canonicalize_of_find (by decide) find_trailingSlash
  have hbehind : trailingSlash.canonicalize ⟨"/a.toml/"⟩ = .error .notDirectory := by
    rw [Disk.canonicalize, realName_behind _ (by decide)]
    rfl
  have hkey : chainKey trailingSlash ⟨"/a.toml/"⟩ = ⟨"/a.toml/"⟩ := by rw [chainKey, hbehind]
  -- the key of the second path reads like the first
  have hread : read trailingSlash ⟨"/a.toml"⟩ = .error (.config (.extendsItself ⟨"/a.toml/"⟩ [⟨"/a.toml"⟩])) := by
    have hsame : SameKey trailingSlash ⟨"/a.toml"⟩ ⟨"/a.toml/"⟩ := by
      rw [SameKey, chainKey_of_ok hcanonical, hkey]
      decide
    have hrepeats :=
      Inherits.repeats chain_trailingSlash (List.pairwise_singleton _ _) ⟨_, List.mem_singleton.mpr rfl, hsame⟩
    rw [List.map_singleton, chainKey_of_ok hcanonical] at hrepeats
    exact (inherits_read _ _).unique hrepeats
  refine ⟨hread, fun h => ?_⟩
  have hfails : Inherits trailingSlash (SameFile trailingSlash) ⟨"/a.toml"⟩
      (.error (.configNotFound ⟨"/a.toml/"⟩)) := by
    refine .fails chain_trailingSlash (List.pairwise_pair.mpr ?_) (readAlone_of_find_error find_behind)
    rintro ⟨_, real, -, hreal, -⟩
    rw [Disk.realPath, realName_behind _ rfl] at hreal
    cases hreal
  have hwrong := h.unique hfails
  rw [hread] at hwrong
  cases hwrong

end SettingsFile

end ImportSurvey
