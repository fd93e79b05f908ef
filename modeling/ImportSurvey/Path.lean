/-
  File paths as texts, read the way a POSIX system reads them.

  A path keeps the text it was written with, because reports and messages show it.  What it means is
  its list of components: repeated separators and inner dots do not count, a leading dot does.
  `Path.normalize` is the purely lexical simplification, which touches no disk.
-/
namespace ImportSurvey

/-- A path as written. -/
structure Path where
  text : String
deriving DecidableEq, Hashable, Repr, Inhabited

namespace Path

/-- One step of a path. -/
inductive Component where
  | root
  | here
  | up
  | name (n : String)
deriving DecidableEq, Repr

instance : ToString Path := ⟨Path.text⟩

/-! ## Segments -/

/-- The pieces between the separators; there is always at least one. -/
def segments : List Char → List (List Char)
  | [] => [[]]
  | c :: rest =>
    if c = '/' then [] :: segments rest
    else match segments rest with
      | [] => [[c]]
      | s :: ss => (c :: s) :: ss

/-- The component that a segment which is not the first stands for. -/
def Component.ofSegment? (s : List Char) : Option Component :=
  if s = [] ∨ s = ['.'] then none
  else if s = ['.', '.'] then some .up
  else some (.name (.ofList s))

def isAbsolute (p : Path) : Bool := p.text.toList.head? == some '/'

def components (p : Path) : List Component :=
  match segments p.text.toList with
  | [] => []
  | s :: rest =>
    let inner := rest.filterMap Component.ofSegment?
    if p.isAbsolute then .root :: inner
    else if s = ['.'] then .here :: inner
    else (Component.ofSegment? s).toList ++ inner

/-- Whether two paths differ at most in repeated separators and inner dots. -/
def same (p q : Path) : Bool := p.components = q.components

def Component.text : Component → String
  | .root => "/"
  | .here => "."
  | .up => ".."
  | .name n => n

/-- The path made of the given components, with one separator between two of them. -/
def ofComponents : List Component → Path
  | .root :: rest => ⟨"/" ++ "/".intercalate (rest.map Component.text)⟩
  | cs => ⟨"/".intercalate (cs.map Component.text)⟩

/-! ## Parts and joins -/

/-- `p` with `q` behind it; an absolute `q` stands alone. -/
def join (p : Path) (q : String) : Path :=
  if (⟨q⟩ : Path).isAbsolute || p.text.isEmpty then ⟨q⟩
  else if p.text.toList.getLast? == some '/' then ⟨p.text ++ q⟩
  else ⟨p.text ++ "/" ++ q⟩

/-- Drops the segments at the end that are no component. -/
def trimmed (reversed : List (List Char)) : List (List Char) :=
  reversed.dropWhile fun s => s = [] || s = ['.']

/-- The text without its last component; none for a root and for the empty path. -/
def parent (p : Path) : Option Path :=
  match segments p.text.toList with
  | [] => none
  | first :: rest =>
    match trimmed rest.reverse with
    | _ :: before =>
      let kept := (trimmed before).reverse
      if p.isAbsolute && kept.isEmpty then some ⟨"/"⟩
      else if first.isEmpty && !p.isAbsolute then some ⟨""⟩
      else some ⟨"/".intercalate ((first :: kept).map String.ofList)⟩
    | [] => if first.isEmpty then none else some ⟨""⟩

/-- The last component, if it is a name. -/
def fileName (p : Path) : Option String :=
  match p.components.getLast? with
  | some (.name n) => some n
  | _ => none

/-- What stands behind the last dot of the file name, unless the dot opens the name. -/
def extension (p : Path) : Option String := do
  let name ← p.fileName
  let reversed := name.toList.reverse
  match reversed.dropWhile (· ≠ '.') with
  | [] | [_] => none
  | _ => some (.ofList (reversed.takeWhile (· ≠ '.')).reverse)

/-- Whether the components of `base` start those of `p`. -/
def startsWith (p base : Path) : Bool := base.components.isPrefixOf p.components

/-- What remains of `p` behind `base`. -/
def below? (p base : Path) : Option Path :=
  if p.startsWith base then some (ofComponents (p.components.drop base.components.length)) else none

/-- The path and all its parents, nearest first. The fuel is the number of separators. -/
def ancestors (p : Path) : List Path := go p p.text.length
where
  go (p : Path) : Nat → List Path
    | 0 => [p]
    | n + 1 =>
      match p.parent with
      | none => [p]
      | some q => p :: go q n

/-! ## Lexical normal form -/

/-- One component onto the stack of those kept so far: a step up takes the last one off, whatever it
is, and stays where there is none. -/
def fold (stack : List Component) : Component → List Component
  | .here => stack
  | .up =>
    match stack.getLast? with
    | none | some .root => stack ++ [.up]
    | some _ => stack.dropLast
  | .root => [.root]
  | .name n => stack ++ [.name n]

/-- The path without dots, and with the steps up taken as far as they can be. -/
def normalize (p : Path) : Path := ofComponents (p.components.foldl fold [])

end Path

end ImportSurvey
