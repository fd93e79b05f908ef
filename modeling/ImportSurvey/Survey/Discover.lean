import ImportSurvey.Disk.Basic
import ImportSurvey.Glob
import ImportSurvey.Script.Dialect
import ImportSurvey.Report.Basic

/-
  The source files below a directory.

  The tree is walked depth first, what stands in a directory in the order of its names.  Links are not
  followed.  An entry that a glob excludes is left out with all that lies below it.
-/
namespace ImportSurvey.Survey

/-- Whether a glob matches the name of a file or its path relative to the base directory. -/
def isExcluded (globs : List Glob) (relative : Path) : Bool :=
  let name := relative.fileName.getD ""
  let path : String := .ofList (relative.text.toList.map fun c => if c = '\\' then '/' else c)
  globs.any fun g => g.admits name || g.admits path

/-- The globs of the given texts. -/
def readGlobs (patterns : List String) : Except Failure (List Glob) :=
  patterns.mapM fun p =>
    match Glob.read? p with
    | .ok g => .ok g
    | .error f => .error (.globPattern f)

/-- What a walk found. -/
structure Discovery where
  files : List Path := []
  issues : List Issue := []
deriving Repr, Inhabited

def Discovery.append (a b : Discovery) : Discovery := ⟨a.files ++ b.files, a.issues ++ b.issues⟩

instance : Append Discovery := ⟨Discovery.append⟩

/-- Where a walk is. -/
structure Place where
  /-- the directory -/
  name : Disk.Name
  /-- its path relative to the base directory, as names -/
  below : List String

def Place.path (p : Place) : Path := Disk.nameText p.name

def Place.enter (p : Place) (name : String) : Place := ⟨p.name ++ [name], p.below ++ [name]⟩

def Place.relative (p : Place) : Path := ⟨"/".intercalate p.below⟩

/-- A directory whose path the system does not take. -/
def tooDeep (p : Path) : Failure :=
  .traversal p ("IO error for operation on " ++ p.text ++ ": " ++ Disk.Fault.nameTooLong.message)

/-- Walks what stands in a directory.  The first number is how many levels may still be entered if
there is a limit; the last bounds the depth of the tree. -/
def searchDir (d : Disk) (globs : List Glob) (left : Option Nat) (here : Place) (listable : Bool) :
    Nat → Discovery
  | 0 => {}
  | fuel + 1 =>
    if left = some 0 then {}
    else if !Disk.fits here.name then { issues := [.ofFailure here.path (tooDeep here.path)] }
    else if !listable then { issues := [.ofFailure here.path (.permissionDenied here.path)] }
    else
      let entries := (d.children here.name).filter fun (name, _) =>
        !isExcluded globs (here.enter name).relative
      entries.foldl (fun found (name, entry) =>
        let place := here.enter name
        match entry with
        | .file .. => if Script.isSourceFile place.path then found ++ { files := [place.path] } else found
        | .link _ => found
        | .dir _ listable =>
          found ++ searchDir d globs (left.map (· - 1)) place listable fuel) {}

/-- The length of the longest name on a disk. -/
def longestName (d : Disk) : Nat := (d.entries.map (·.1.length)).foldl max 0

/-- The source files below the directory of that name, and what kept the walk from seeing more. -/
def discover (d : Disk) (globs : List Glob) (maxDepth : Option Nat) (base : Disk.Name) (listable : Bool) :
    Discovery :=
  searchDir d globs maxDepth ⟨base, []⟩ listable (longestName d + 1)

end ImportSurvey.Survey
