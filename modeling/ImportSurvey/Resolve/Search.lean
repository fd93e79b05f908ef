import ImportSurvey.Resolve.Core
import ImportSurvey.Resolve.Package
import ImportSurvey.Disk.Basic
import ImportSurvey.Graph.Build
import ImportSurvey.Failure

/-
  From references to files.

  A relative reference is tried as it is, with each known extension, and as a directory with an index.  A
  package reference is looked for in the `node_modules` directories from the referring module upwards;
  in the package found there, its exports come first, then what the reference asks for, then its entry
  points.

  A resolver remembers what it asked the disk: which paths are files, where packages were found, and the
  descriptions it read, of which it keeps the most recent ones.  While the disk stays as it is, what is
  remembered is what would be found again, so remembering changes no answer.
-/
namespace ImportSurvey

namespace Resolve

/-- The extensions that are tried, in this order. -/
def probeExtensions : List String := ["ts", "tsx", "d.ts", "mts", "cts", "js", "jsx", "mjs", "cjs"]

/-- A path as a key: how it was written does not count. -/
abbrev Key := List Path.Component

/-- What a resolver remembers. -/
structure Memory where
  files : List (Key × Bool) := []
  packageDirs : List ((Key × String) × Option Path) := []
  /-- descriptions by the path of their file, the latest used first -/
  descriptions : List (Key × Option PackageEntry) := []
deriving Inhabited

/-- How many descriptions are kept. -/
def maxDescriptions : Nat := 256

/-- A step of a search: it may use what is remembered and add to it. -/
abbrev Search := StateM Memory

/-- Whether a path is a file. -/
def isFile (d : Disk) (p : Path) : Search Bool := fun m =>
  match m.files.lookup p.components with
  | some known => (known, m)
  | none =>
    let found := d.isFile p
    (found, { m with files := (p.components, found) :: m.files })

/-- The first path that is a file. -/
def firstFile (d : Disk) : List Path → Search (Option Path)
  | [] => pure none
  | p :: rest => do if ← isFile d p then pure (some p) else firstFile d rest

/-- `p` with each extension behind it. -/
def withExtensions (p : Path) : List Path := probeExtensions.map fun e => ⟨p.text ++ "." ++ e⟩

/-- The index files of a directory. -/
def indexFiles (p : Path) : List Path := probeExtensions.map fun e => p.join ("index." ++ e)

/-- The file that a path without extension means, or a path to a directory. -/
def probe (d : Disk) (p : Path) : Search (Option Path) := do
  match ← firstFile d (p :: withExtensions p) with
  | some found => return some found
  | none => if d.isDir p then firstFile d (indexFiles p) else return none

/-- The first of several paths that means a file. -/
def firstProbe (d : Disk) : List Path → Search (Option Path)
  | [] => pure none
  | p :: rest => do
    match ← probe d p with
    | some found => return some found
    | none => firstProbe d rest

/-! ## Packages -/

/-- The directory of a package, from the directory of the referring module upwards. -/
def packageDir (d : Disk) (start : Path) (name : String) : Search (Option Path) := fun m =>
  match m.packageDirs.lookup (start.components, name) with
  | some known => (known, m)
  | none =>
    let found := (start.ancestors.map fun a => (a.join "node_modules").join name).find? d.isDir
    (found, { m with packageDirs := ((start.components, name), found) :: m.packageDirs })

/-- A description was used: it moves to the front. -/
def touch (key : Key) (entry : Option PackageEntry) (m : Memory) : Memory :=
  { m with descriptions :=
      ((key, entry) :: m.descriptions.filter (fun e => e.1 ≠ key)).take maxDescriptions }

/-- The description in a file; none if the file is not there.  Failures are not remembered. -/
def description (d : Disk) (file : Path) : Search (Except Failure (Option PackageEntry)) := do
  match (← get).descriptions.lookup file.components with
  | some known =>
    modify (touch file.components known)
    return .ok known
  | none =>
    if ← isFile d file then
      match d.readText file with
      | .error f => return .error (.ofFile file f)
      | .ok text =>
        match PackageEntry.ofText text with
        | .error f => return .error (.jsonParse file f)
        | .ok entry =>
          modify (touch file.components (some entry))
          return .ok (some entry)
    else
      modify (touch file.components none)
      return .ok none

/-- The targets of an export in the order in which they are tried: alternatives in theirs, conditions
in the order of preference. -/
def exportTargets : Json → List String
  | .str target => [target]
  | .arr items => itemTargets items
  | .obj members => conditions.flatMap fun c => targetsUnder c members
  | _ => []
where
  itemTargets : List Json → List String
    | [] => []
    | j :: rest => exportTargets j ++ itemTargets rest
  /-- the targets of the last member of that name -/
  targetsUnder (c : String) : List (String × Json) → List String
    | [] => []
    | (k, j) :: rest =>
      if rest.any (·.1 = c) then targetsUnder c rest
      else if k = c then exportTargets j
      else []

/-- The targets that the exports of a package offer for a subpath.  An object without any name that
starts with a dot stands for the package itself. -/
def targetsFor (e : Json) (subpath : Option String) : List String :=
  match e, subpath with
  | .obj members, _ =>
    let key := match subpath with
      | some s => "./" ++ s
      | none => "."
    match Json.member? members key with
    | some value => exportTargets value
    | none =>
      if subpath.isNone && !members.any (fun m => m.1.toList.head? = some '.') then exportTargets e
      else []
  | _, none => exportTargets e
  | _, some _ => []

/-- The file that a reference into the package in `dir` means. -/
def inPackage (d : Disk) (dir : Path) (subpath : Option String) :
    Search (Except Failure (Option Path)) := do
  match ← description d (dir.join "package.json") with
  | .error f => return .error f
  | .ok found =>
    let entry := found.getD {}
    let targets := match entry.exports with
      | some e => targetsFor e subpath
      | none => []
    match ← firstFile d (targets.map fun t => (dir.join t).normalize) with
    | some p => return .ok (some p)
    | none =>
      match subpath with
      | some s => return .ok (← probe d (dir.join s).normalize)
      | none =>
        let fields := (entry.module.toList ++ entry.main.toList).map fun f => (dir.join f).normalize
        return .ok (← firstProbe d (fields ++ [dir.join "index"]))

/-! ## References -/

/-- Whether a reference is a path, not the name of a package. -/
def isPathReference (reference : String) : Bool :=
  match reference.toList with
  | c :: _ => c == '.' || c == '/'
  | [] => false

/-- The directory a file stands in. -/
def directoryOf (file : Path) : Path := file.parent.getD file

/-- The file that a reference written in `file` means. -/
def resolvePath (d : Disk) (reference : String) (file : Path) :
    Search (Except Failure (Option Path)) := do
  if reference.isEmpty then return .ok none
  else if isPathReference reference then
    return .ok (← probe d ((directoryOf file).join reference).normalize)
  else
    let r := PackageReference.ofText reference
    match ← packageDir d (directoryOf file) r.name with
    | some dir => inPackage d dir r.subpath
    | none => return .ok none

end Resolve

/-- Ids and paths of the modules of one directory tree. -/
structure ModuleSpace where
  baseDir : Path
deriving DecidableEq, Repr

namespace ModuleSpace

def ofDir (dir : Path) : ModuleSpace := ⟨dir.normalize⟩

/-- The id of the module in a file: its path below the base directory if it lies there, with slashes
for backslashes. -/
def moduleId (s : ModuleSpace) (p : Path) : String :=
  let p := p.normalize
  let inside := (p.below? s.baseDir).getD p
  .ofList (inside.text.toList.map fun c => if c = '\\' then '/' else c)

/-- The file of the module of that id. -/
def modulePath (s : ModuleSpace) (id : String) : Path := (s.baseDir.join id).normalize

open Resolve in
/-- Where a reference written in the module `origin` leads.  A reference that cannot be followed up
because something is wrong with a package leads nowhere. -/
def resolve (s : ModuleSpace) (d : Disk) (reference origin : String) : Search Resolution := do
  if isCoreModule reference then return .core reference
  else
    match ← resolvePath d reference (s.modulePath origin) with
    | .ok (some p) => return .module (s.moduleId p)
    | .ok none => return .unresolved
    | .error _ => return .unresolved

/-- The resolver that remembers nothing from one question to the next. -/
def resolver (s : ModuleSpace) (d : Disk) : Resolver :=
  fun reference origin => (s.resolve d reference origin).run {} |>.1

end ModuleSpace

end ImportSurvey
