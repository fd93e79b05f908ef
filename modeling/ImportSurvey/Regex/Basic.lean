import ImportSurvey.Unicode.Casing

/-
  Regular expressions, as they are after reading: flags are resolved, so what a flag changes is spelled
  out in the expression itself (an `i` becomes `CharSet.folded`, an `s` a larger set for the dot).

  Matching is search: an expression relates the positions of a text, and a text matches when some
  position is related to some other.  `ends` computes the image of a set of positions, which makes
  every expression cheap no matter how its repetitions nest, and needs no fuel: a repetition without
  upper bound is closed after as many rounds as there are positions.
-/
namespace ImportSurvey

/-- A set of characters. -/
inductive CharSet where
  | ranges (rs : List (Nat × Nat))
  | complement (s : CharSet)
  | union (a b : CharSet)
  | inter (a b : CharSet)
  | diff (a b : CharSet)
  | symmDiff (a b : CharSet)
  /-- closed under case: holds `c` when `s` holds some character of the case class of `c` -/
  | folded (s : CharSet)
  /-- the same for the ASCII letters only -/
  | asciiFolded (s : CharSet)
deriving Repr, Inhabited

namespace CharSet

def empty : CharSet := .ranges []

def single (c : Char) : CharSet := .ranges [(c.toNat, c.toNat)]

def any : CharSet := .ranges [(0, 0x10FFFF)]

/-- The characters of `runs` that the case table sends to `r`. -/
def preimages (runs : List Unicode.CaseRun) (r : Nat) : List Char :=
  runs.filterMap fun run =>
    if run.image ≤ r ∧ (r - run.image) % run.step = 0 ∧ run.first + (r - run.image) ≤ run.last then
      some (Char.ofNat (run.first + (r - run.image)))
    else none

/-- All characters that differ from `c` at most in case. -/
def caseVariants (c : Char) : List Char :=
  let r := Unicode.caseClass c
  let ascii := if r.isUpper then [r.toLower] else []
  r :: ascii ++ preimages Unicode.foldRuns r.toNat

def mem : CharSet → Char → Bool
  | .ranges rs, c => rs.any fun r => r.1 ≤ c.toNat && c.toNat ≤ r.2
  | .complement s, c => !s.mem c
  | .union a b, c => a.mem c || b.mem c
  | .inter a b, c => a.mem c && b.mem c
  | .diff a b, c => a.mem c && !b.mem c
  | .symmDiff a b, c => a.mem c != b.mem c
  | .folded s, c => (caseVariants c).any s.mem
  | .asciiFolded s, c => s.mem c || s.mem c.toLower || s.mem c.toUpper

/-- How many bytes a searcher needs for one step over the set, roughly. -/
def weight : CharSet → Nat
  | .ranges rs => if rs.all (·.2 < 128) then 24 + 8 * rs.length else 32 + 60 * rs.length
  | .complement s => 600 + s.weight
  | .union a b => a.weight + b.weight
  | .inter a b | .diff a b | .symmDiff a b => max a.weight b.weight
  | .folded s => 16 + s.weight
  | .asciiFolded s => 16 + s.weight

end CharSet

/-- A condition on a position between two characters. -/
inductive Look where
  | textStart
  | textEnd
  | lineStart (crlf : Bool)
  | lineEnd (crlf : Bool)
  | wordBoundary (unicode : Bool)
  | notWordBoundary (unicode : Bool)
  | wordStart (unicode : Bool)
  | wordEnd (unicode : Bool)
  | wordStartHalf (unicode : Bool)
  | wordEndHalf (unicode : Bool)
deriving Repr, DecidableEq

namespace Look

def isWord (unicode : Bool) (c : Option Char) : Bool :=
  match c with
  | none => false
  | some c => if unicode then Unicode.isWordChar c else c.isAlphanum || c == '_'

/-- Whether the condition holds between `before` and `after`, where `none` is the end of the text. -/
def holds (before after : Option Char) : Look → Bool
  | .textStart => before.isNone
  | .textEnd => after.isNone
  | .lineStart false => before.isNone || before == some '\n'
  | .lineStart true =>
    before.isNone || before == some '\n' || (before == some '\r' && after != some '\n')
  | .lineEnd false => after.isNone || after == some '\n'
  | .lineEnd true =>
    after.isNone || after == some '\r' || (after == some '\n' && before != some '\r')
  | .wordBoundary u => isWord u before != isWord u after
  | .notWordBoundary u => isWord u before == isWord u after
  | .wordStart u => !isWord u before && isWord u after
  | .wordEnd u => isWord u before && !isWord u after
  | .wordStartHalf u => !isWord u before
  | .wordEndHalf u => !isWord u after

end Look

/-- A regular expression. -/
inductive Regex where
  | empty
  | chars (s : CharSet)
  | look (a : Look)
  | seq (a b : Regex)
  | alt (a b : Regex)
  /-- `least` to `most` times; without bound if `most` is absent -/
  | times (r : Regex) (least : Nat) (most : Option Nat)
deriving Repr, Inhabited

namespace Regex

/-! ## Sets of positions

  A set of positions is an ascending list without repetitions. -/

def dropRepeats : List Nat → List Nat
  | a :: b :: rest => if a = b then dropRepeats (b :: rest) else a :: dropRepeats (b :: rest)
  | ps => ps

def unite (a b : List Nat) : List Nat := dropRepeats (a.merge b)

/-- `f` applied `n` times; the empty set has an empty image, so it ends the iteration. -/
def iterate (f : List Nat → List Nat) : Nat → List Nat → List Nat
  | 0, ps => ps
  | _ + 1, [] => []
  | n + 1, ps => iterate f n (f ps)

/-- The union of the images of `front` under at most `n` applications, added to `seen`; only positions
not seen before are carried on. -/
def closure (f : List Nat → List Nat) : Nat → List Nat → List Nat → List Nat
  | 0, _, seen => seen
  | _ + 1, [], seen => seen
  | n + 1, front, seen =>
    let next := (f front).filter fun p => !seen.contains p
    closure f n next (unite seen next)

/-- The character before position `p`. -/
def charBefore (text : Array Char) (p : Nat) : Option Char :=
  if p = 0 then none else text[p - 1]?

/-- Where a match of the expression ends that starts at one of the given positions. -/
def ends (text : Array Char) : Regex → List Nat → List Nat
  | .empty, ps => ps
  | .chars s, ps => ps.filterMap fun p =>
      match text[p]? with
      | some c => if s.mem c then some (p + 1) else none
      | none => none
  | .look a, ps => ps.filter fun p => a.holds (charBefore text p) text[p]?
  | .seq a b, ps => b.ends text (a.ends text ps)
  | .alt a b, ps => unite (a.ends text ps) (b.ends text ps)
  | .times r least most, ps =>
    let start := iterate (r.ends text) least ps
    let rounds := match most with
      | some m => min (m - least) (text.size + 1)
      | none => text.size + 1
    closure (r.ends text) rounds start start

/-- Whether some part of `text` matches. -/
def search (r : Regex) (text : String) : Bool :=
  let cs := text.toList.toArray
  !(r.ends cs (List.range (cs.size + 1))).isEmpty

/-- How many bytes a searcher for the expression needs, roughly. -/
def weight : Regex → Nat
  | .empty => 24
  | .chars s => s.weight
  | .look _ => 32
  | .seq a b => a.weight + b.weight
  | .alt a b => 40 + a.weight + b.weight
  | .times r least none => 40 + (least + 1) * r.weight
  | .times r least (some m) => least * r.weight + (m - least) * (r.weight + 40)

end Regex

end ImportSurvey
