import ImportSurvey.Command
import ImportSurvey.Arguments.Reader
import ImportSurvey.Survey.Horizon
import Std.Data.HashMap
import Std.Time.DateTime.Timestamp

/-
  The program.

  A command is a function of a disk, so the program first takes a picture of the part of the real disk that
  the command can ask about, runs the command on it, and then does to the real disk what the command did
  to the picture.

  A picture is taken in rounds.  Settings files name further files, and references lead out of the
  surveyed directory; after each round the picture is widened by what was asked for in vain, until it
  no longer grows.  It holds every file by its real name, links as links to real names, and texts only
  where they are read.
-/
namespace ImportSurvey

/-! ## Pictures -/

/-- The part of the disk that has been looked at. -/
structure Picture where
  entries : Std.HashMap Disk.Name Disk.Entry := {}
  /-- the directories all of whose names are known -/
  listed : List Disk.Name := []

namespace Picture

def disk (p : Picture) (workingDir : Disk.Name) : Disk := ⟨p.entries.toList, workingDir⟩

def put (p : Picture) (name : Disk.Name) (e : Disk.Entry) : Picture :=
  { p with entries := p.entries.insert name e }

/-- An entry of which nothing is known yet. -/
def add (p : Picture) (name : Disk.Name) (e : Disk.Entry) : Picture :=
  if p.entries.contains name then p else p.put name e

end Picture

/-- The names on the way of a path, steps up included. -/
def namesOf (p : Path) : List String :=
  p.components.filterMap fun
    | .up => some ".."
    | .name n => some n
    | _ => none

/-- The name of a path that is absolute and free of links and dots. -/
def realNameOf (text : String) : Disk.Name := namesOf ⟨text⟩

/-- What the system calls a name. -/
def systemPath (name : Disk.Name) :=
  if name.isEmpty then System.mkFilePath ["/"] else System.mkFilePath ("" :: name)

/-- The failure that the system reported. -/
def faultOf : IO.Error → Disk.Fault
  | .noFileOrDirectory _ code _ | .permissionDenied _ code _ | .alreadyExists _ code _
  | .inappropriateType _ code _ | .invalidArgument _ code _ | .resourceExhausted _ code _
  | .noSuchThing _ code _ | .interrupted _ code _ => .os code.toNat
  | .otherError code _ | .resourceBusy code _ | .resourceVanished code _
  | .unsupportedOperation code _ | .hardwareFault code _ | .unsatisfiedConstraints code _
  | .illegalOperation code _ | .protocolError code _ | .timeExpired code _ => .os code.toNat
  | e => .custom .other (toString e)

/-- What a file holds. -/
def contentOf (name : Disk.Name) : IO Disk.Content := do
  match ← (IO.FS.readBinFile (systemPath name)).toBaseIO with
  | .error _ => return .locked
  | .ok bytes =>
    match String.fromUTF8? bytes with
    | some s => return .text s
    | none => return .binary

/-- What stands under a name whose directory has no links in its own name. -/
def entryOf (name : Disk.Name) (reads : Bool) : IO (Option Disk.Entry) := do
  match ← (systemPath name).symlinkMetadata.toBaseIO with
  | .error _ => return none
  | .ok data =>
    match data.type with
    | .dir => return some (.dir 0o755 true)
    | .file => return some (.file (← if reads then contentOf name else pure .binary))
    | .symlink =>
      match ← (IO.FS.realPath (systemPath name)).toBaseIO with
      | .ok target => return some (.link ⟨target.toString⟩)
      | .error _ => return none
    | .other => return none

/-- Adds what stands on the way that `todo` leads from the real directory `here`; answers where the way
ends if it leads to something. -/
partial def walkWay (p : Picture) (reads : Bool) (here : Disk.Name) (todo : List String) :
    IO (Picture × Option Disk.Name) := do
  match todo with
  | [] => return (p, some here)
  | ".." :: rest => walkWay p reads here.dropLast rest
  | s :: rest =>
    let name := here ++ [s]
    let last := reads && rest.isEmpty
    match ← entryOf name last with
    | none => return (p, none)
    | some (.link target) => walkWay (p.put name (.link target)) reads [] (namesOf target ++ rest)
    | some e => walkWay (if last then p.put name e else p.add name e) reads name rest

/-- Adds what stands on the way of a path. -/
def addWay (workingDir : Disk.Name) (reads : Bool) (p : Picture) (path : Path) :
    IO (Picture × Option Disk.Name) :=
  walkWay p reads (if path.isAbsolute then [] else workingDir) (namesOf path)

/-- Adds everything that stands directly in a real directory. -/
def addNames (reads : Path → Bool) (p : Picture) (dir : Disk.Name) : IO Picture := do
  if p.listed.contains dir then return p
  match ← (systemPath dir).readDir.toBaseIO with
  | .error _ => return p.put dir (.dir 0o755 false)
  | .ok children =>
    let mut p := { p with listed := dir :: p.listed }
    for child in children do
      let name := dir ++ [child.fileName]
      match ← entryOf name (reads (Disk.nameText name)) with
      | none => pure ()
      | some (.link target) =>
        p := p.put name (.link target)
        p := (← addWay dir false p target).1
      | some e => p := p.add name e
    return p

/-- Adds a real directory with all below it, except for what is below a directory that `skips` holds
for; `below` are the names from the start of the tree. -/
partial def addTree (reads : Path → Bool) (skips : List String → Bool) (p : Picture)
    (dir : Disk.Name) (below : List String) : IO Picture := do
  let mut p ← addNames reads p dir
  match ← (systemPath dir).readDir.toBaseIO with
  | .error _ => return p
  | .ok children =>
    for child in children do
      let place := below ++ [child.fileName]
      let name := dir ++ [child.fileName]
      if (p.entries[name]?.any fun e => match e with
          | .dir .. => true
          | _ => false) && !skips place then
        p ← addTree reads skips p name place
    return p

/-! ## What a command needs -/

/-- The variables that settings may come from. -/
def readEnvironment : IO Environment := do
  let own := Environment.keys.map (Settings.variableStart ++ "_" ++ ·)
  let values ← ("HOME" :: "XDG_CONFIG_HOME" :: own).mapM fun name => do
    return (← IO.getEnv name).map (name, ·)
  return ⟨values.filterMap id⟩

/-- A run of the program. -/
structure Host where
  workingDir : Disk.Name
  environment : Environment
  now : Timestamp

namespace Host

def see (h : Host) (p : Picture) : Surroundings := ⟨p.disk h.workingDir, h.environment⟩

/-- Adds files by their paths, with their texts. -/
def addFiles (h : Host) (p : Picture) (files : List Path) : IO Picture :=
  files.foldlM (fun p file => return (← addWay h.workingDir true p file).1) p

/-- Adds the settings files that others extend. -/
partial def addExtended (h : Host) (p : Picture) (a : Arguments) : IO Picture := do
  match Settings.layered (h.see p) Settings.variableStart a with
  | .error (.configNotFound file) =>
    let wider ← h.addFiles p [file]
    if wider.entries.size > p.entries.size then h.addExtended wider a else return p
  | _ => return p

/-- Adds what settings name: rules, the place of the report, and the tree that is surveyed. -/
def addNamed (h : Host) (p : Picture) (s : Settings) : IO Picture := do
  let p ← h.addFiles p s.rulesFile.toList
  let (p, _) ← match s.outputFile with
    | some file => addWay h.workingDir false p file
    | none => pure (p, none)
  match ← addWay h.workingDir false p s.baseDir with
  | (p, none) => return p
  | (p, some dir) =>
    match Survey.readGlobs s.excludePatterns with
    | .error _ => return p
    | .ok globs =>
      addTree Script.isSourceFile (fun below => Survey.isExcluded globs ⟨"/".intercalate below⟩) p dir []

/-- Adds the directories that references lead to. -/
def addHorizon (h : Host) (p : Picture) (around : Survey.Horizon) : IO Picture := do
  let p ← around.flat.foldlM (fun p path => do
    match ← addWay h.workingDir false p path with
    | (p, some dir) => addNames (fun _ => false) p dir
    | (p, none) => return p) p
  around.packages.foldlM (fun p path => do
    match ← addWay h.workingDir false p path with
    | (p, some dir) =>
      addTree (fun file => file.fileName == some "package.json")
        (fun below => below.getLast? == some "node_modules") p dir []
    | (p, none) => return p) p

/-- Surveys with an ever wider picture, until nothing new comes into view. -/
partial def survey (h : Host) (p : Picture) (a : Arguments) :
    IO (Picture × Except Failure (Settings × SurveyResult)) := do
  match Command.findings (h.see p) Settings.variableStart h.now a with
  | .error f => return (p, .error f)
  | .ok (s, r) =>
    let wider ← h.addHorizon p (.ofResult r.summary.optionsUsed.baseDir r)
    if wider.entries.size > p.entries.size then h.survey wider a else return (p, .ok (s, r))

/-! ## What a command leaves behind -/

/-- Writes what is new on the disk. -/
def writeChanges (p : Picture) (d : Disk) : IO (Option (Path × Disk.Fault)) := do
  for (name, e) in d.entries do
    if p.entries[name]? != some e then
      match e with
      | .file (.text s) _ =>
        match ← (IO.FS.writeFile (systemPath name) s).toBaseIO with
        | .ok _ => pure ()
        | .error e => return some (Disk.nameText name, faultOf e)
      | _ => pure ()
  return none

/-- Carries out what a command left behind, and answers the exit status. -/
def carryOut (h : Host) (p : Picture) (failure : Path → Disk.Fault → Failure)
    (e : Command.Effect) : IO UInt32 := do
  let e ← match ← writeChanges p e.disk with
    | none => pure e
    | some (path, fault) => pure (Command.failed (p.disk h.workingDir) (failure path fault))
  let e ← match ← (do IO.print e.output; (← IO.getStdout).flush : IO Unit).toBaseIO with
    | .ok _ => pure e
    | .error f => pure (Command.failed e.disk (.stdoutWrite (faultOf f)))
  e.messages.forM fun m => IO.eprintln m
  return e.exitCode.toUInt32

def execute (h : Host) : Command → IO UInt32
  | .init => do
    let p ← h.addFiles {} [Disk.nameText h.workingDir, ⟨SettingsFile.defaultName⟩]
    h.carryOut p (fun _ f => .io f) (Command.init.run (h.see p) ⟨h.now, 0⟩)
  | .survey a => do
    let files := a.config.toList ++ h.environment.settingsLocations
    let p ← h.addFiles {} (Disk.nameText h.workingDir :: files)
    let p ← h.addExtended p a
    let start ← IO.monoNanosNow
    let p ← match Settings.layered (h.see p) Settings.variableStart a with
      | .ok s => h.addNamed p s
      | .error _ => pure p
    let (p, found) ← h.survey p a
    let elapsed := (← IO.monoNanosNow) - start
    let d := p.disk h.workingDir
    let concluded := found.bind fun (s, r) => Command.conclude d s { r with duration := elapsed }
    match concluded with
    | .ok e => h.carryOut p .outputWrite e
    | .error f => h.carryOut p .outputWrite (Command.failed d f)

end Host

/-- Answers a command line that is not carried out. -/
def answerUsage (u : Arguments.UsageFault) : IO UInt32 := do
  match u with
  | .displayVersion => IO.print Arguments.versionLine
  | .displayHelp => IO.print Arguments.helpText
  | u =>
    IO.eprintln ("error: " ++ u.name)
    IO.eprintln "\nFor more information, try '--help'."
  return u.exitCode.toUInt32

end ImportSurvey

open ImportSurvey in
def main (words : List String) : IO UInt32 := do
  match Arguments.read words with
  | .error u => answerUsage u
  | .ok a =>
    let workingDir := realNameOf (← IO.FS.realPath (← IO.currentDir)).toString
    let now := (← Std.Time.Timestamp.now).toNanosecondsSinceUnixEpoch.val
    let host : Host := ⟨workingDir, ← readEnvironment, .ofNanoseconds now⟩
    host.execute (.ofArguments a)
