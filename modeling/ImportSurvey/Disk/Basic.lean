import ImportSurvey.Path
import ImportSurvey.Disk.Fault

/-
  A disk as one process sees it: what stands under each absolute name, and the working directory.

  A name is the list of directory names from the root, so every entry has exactly one name, and a path
  is only a way to get to it: `locate` walks a path, through links and steps up, to the name it ends
  at.  All that the survey asks of a disk is a function of this value, and writing makes a new one.
-/
namespace ImportSurvey

/-- What a file holds, as far as a reader of text can tell. -/
inductive Disk.Content where
  | text (s : String)
  /-- bytes that are not the encoding of a text -/
  | binary
  /-- not to be read by this process -/
  | locked
deriving DecidableEq, Repr

inductive Disk.Entry where
  /-- a file with its permission bits -/
  | file (content : Content) (mode : Nat := 0o644)
  | link (target : Path)
  /-- a directory with its permission bits; `listable` if this process may read its names -/
  | dir (mode : Nat) (listable : Bool)
deriving DecidableEq, Repr

/-- The names of the directories from the root down to an entry. -/
abbrev Disk.Name := List String

structure Disk where
  entries : List (Disk.Name × Disk.Entry)
  workingDir : Disk.Name

namespace Disk

/-! ## Names -/

def rootDir : Entry := .dir 0o755 true

/-- The entry of a name; the root is always there. -/
def entry? (d : Disk) (name : Name) : Option Entry :=
  if name = [] then some rootDir else (d.entries.find? (·.1 = name)).map (·.2)

def isDirName (d : Disk) (name : Name) : Bool :=
  match d.entry? name with
  | some (.dir ..) => true
  | _ => false

/-- How many links one path may pass. -/
def maxLinks : Nat := 40

/-- Where a walk ended. -/
inductive Place where
  | found (name : Name) (entry : Entry)
  /-- only the last name is missing; its directory is there; `slash` if the path ends in separators -/
  | missing (name : Name) (slash : Bool)
deriving Repr

/-- Walks the segments `todo` from the directory `here`.  Empty segments and dots stay where they are
but ask for a directory; a link is replaced by its target, the last one only if `follow`. -/
def walk (d : Disk) (follow : Bool) (links : Nat) (here : Name) (todo : List String) :
    Except Fault Place :=
  match todo with
  | [] =>
    match d.entry? here with
    | some e => .ok (.found here e)
    | none => .error .notFound
  | s :: rest =>
    if !d.isDirName here then .error .notDirectory
    else if s = "" ∨ s = "." then walk d follow links here rest
    else if s = ".." then walk d follow links here.dropLast rest
    else if s.utf8ByteSize > 255 then .error .nameTooLong
    else
      match d.entry? (here ++ [s]) with
      | none =>
        if rest.all (· = "") then .ok (.missing (here ++ [s]) !rest.isEmpty) else .error .notFound
      | some (.link target) =>
        if rest.isEmpty && !follow then .ok (.found (here ++ [s]) (.link target))
        else
          match links with
          | 0 => .error .linkLoop
          | n + 1 =>
            let steps := (Path.segments target.text.toList).map String.ofList
            walk d follow n (if target.isAbsolute then [] else here) (steps ++ rest)
      | some _ => walk d follow links (here ++ [s]) rest
termination_by (links, todo.length)

/-- The place a path leads to. -/
def locate (d : Disk) (follow : Bool) (p : Path) : Except Fault Place :=
  if p.text.isEmpty then .error .notFound
  else if p.text.toList.contains '\x00' then .error .nulByte
  else if p.text.utf8ByteSize > 4095 then .error .nameTooLong
  else
    let steps := (Path.segments p.text.toList).map String.ofList
    d.walk follow maxLinks (if p.isAbsolute then [] else d.workingDir) steps

/-- The name and the entry of an existing path. -/
def find (d : Disk) (p : Path) (follow : Bool) : Except Fault (Name × Entry) :=
  match d.locate follow p with
  | .error f => .error f
  | .ok (.missing ..) => .error .notFound
  | .ok (.found name e) => .ok (name, e)

/-! ## Real names -/

def nameText (name : Name) : Path := ⟨"/" ++ "/".intercalate name⟩

/-- Whether the system takes the text of a name as a path.  A longer name can be reached all the same, by a
path that goes through links. -/
def fits (name : Name) : Bool := (nameText name).text.utf8ByteSize ≤ 4095

/-- Walks as `walk` does, but by asking the system for each name on the way from the root, which can be done for
those names that `askable` holds for. -/
def realWalk (d : Disk) (askable : Name → Bool) (links : Nat) (here : Name) (todo : List String) :
    Except Fault Name :=
  match todo with
  | [] => .ok here
  | s :: rest =>
    if !d.isDirName here then .error .notDirectory
    else if s = "" ∨ s = "." then realWalk d askable links here rest
    else if s = ".." then realWalk d askable links here.dropLast rest
    else if s.utf8ByteSize > 255 || !askable (here ++ [s]) then .error .nameTooLong
    else
      match d.entry? (here ++ [s]) with
      | none => .error .notFound
      | some (.link target) =>
        match links with
        | 0 => .error .linkLoop
        | n + 1 =>
          let steps := (Path.segments target.text.toList).map String.ofList
          realWalk d askable n (if target.isAbsolute then [] else here) (steps ++ rest)
      | some _ => realWalk d askable links (here ++ [s]) rest
termination_by (links, todo.length)

/-- The name that a path leads to.  The path itself is never handed to the system, so its length does not
count. -/
def realName (d : Disk) (askable : Name → Bool) (p : Path) : Except Fault Name :=
  if p.text.isEmpty then .error .notFound
  else if p.text.toList.contains '\x00' then .error .nulByte
  else
    let steps := (Path.segments p.text.toList).map String.ofList
    d.realWalk askable maxLinks (if p.isAbsolute then [] else d.workingDir) steps

/-- The path of an entry free of links and dots. -/
def canonicalize (d : Disk) (p : Path) : Except Fault Path := (d.realName fits p).map nameText

/-! ## Questions -/

def isFile (d : Disk) (p : Path) : Bool :=
  match d.find p true with
  | .ok (_, .file ..) => true
  | _ => false

def isDir (d : Disk) (p : Path) : Bool :=
  match d.find p true with
  | .ok (_, .dir ..) => true
  | _ => false

def pathExists (d : Disk) (p : Path) : Bool := (d.find p true).isOk

/-- The permission bits of a file or a directory. -/
def mode? (d : Disk) (p : Path) : Option Nat :=
  match d.find p true with
  | .ok (_, .file _ mode) | .ok (_, .dir mode _) => some mode
  | _ => none

/-- The text of a file. -/
def readText (d : Disk) (p : Path) : Except Fault String :=
  match d.find p true with
  | .error f => .error f
  | .ok (_, .dir ..) => .error .isDirectory
  | .ok (_, .file (.text s) _) => .ok s
  | .ok (_, .file .binary _) => .error .notText
  | .ok (_, .file .locked _) => .error .denied
  | .ok (_, .link _) => .error .linkLoop

/-- What stands directly in a directory, by name. -/
def children (d : Disk) (name : Name) : List (String × Entry) :=
  let inside := d.entries.filterMap fun (n, e) =>
    match n.getLast? with
    | some last => if n.dropLast = name then some (last, e) else none
    | none => none
  inside.mergeSort fun a b => a.1 ≤ b.1

/-! ## Changes -/

/-- Sets the entry of a name. -/
def put (d : Disk) (name : Name) (e : Entry) : Disk :=
  if (d.entries.any (·.1 = name)) then
    { d with entries := d.entries.map fun r => if r.1 = name then (name, e) else r }
  else { d with entries := d.entries ++ [(name, e)] }

/-- Writes a file, in place of what it held; the directory has to be there. -/
def writeText (d : Disk) (p : Path) (s : String) : Except Fault Disk :=
  match d.locate true p with
  | .error f => .error f
  | .ok (.missing name slash) =>
    if slash then .error .isDirectory else .ok (d.put name (.file (.text s)))
  | .ok (.found _ (.dir ..)) => .error .isDirectory
  | .ok (.found _ (.file .locked _)) => .error .denied
  | .ok (.found name (.file _ mode)) => .ok (d.put name (.file (.text s) mode))
  | .ok (.found _ (.link _)) => .error .linkLoop

/-- Makes one directory. -/
def makeDir (d : Disk) (p : Path) : Except Fault Disk :=
  match d.locate false p with
  | .error f => .error f
  | .ok (.missing name _) => .ok (d.put name (.dir 0o755 true))
  | .ok (.found ..) => .error .alreadyExists

/-- Makes a directory and those above it that are missing.  The fuel is the length of the path, since
a parent is shorter. -/
def makeDirs (d : Disk) (p : Path) : Except Fault Disk := go d p p.text.length
where
  settle (d : Disk) (p : Path) : Except Fault Disk :=
    match d.makeDir p with
    | .ok d => .ok d
    | .error f => if d.isDir p then .ok d else .error f
  go (d : Disk) (p : Path) : Nat → Except Fault Disk
    | 0 => if p.text.isEmpty then .ok d else settle d p
    | n + 1 =>
      if p.text.isEmpty then .ok d
      else match d.makeDir p with
        | .ok d => .ok d
        | .error f =>
          if f = .notFound then
            match p.parent with
            | none => .error f
            | some q =>
              match go d q n with
              | .error g => .error g
              | .ok d => settle d p
          else if d.isDir p then .ok d
          else .error f

/-- Takes an entry away, a directory with all that stands below it.  A link goes, not its target. -/
def remove (d : Disk) (p : Path) : Disk :=
  match d.find p false with
  | .ok (name, _) => { d with entries := d.entries.filter fun r => !name.isPrefixOf r.1 }
  | .error _ => d

/-- With another working directory, if the path leads to a directory. -/
def enter (d : Disk) (p : Path) : Disk :=
  match d.find p true with
  | .ok (name, .dir ..) => { d with workingDir := name }
  | _ => d

end Disk

end ImportSurvey
