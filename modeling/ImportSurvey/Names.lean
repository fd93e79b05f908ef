import ImportSurvey.Settings.Basic
import ImportSurvey.Unicode.Casing
import ImportSurvey.Failure
import ImportSurvey.Verdict

/-
  Names as people type them: on a command line and in the environment the case of a name does not
  count, unlike in a file.
-/
namespace ImportSurvey

/-- Capital letters of the basic alphabet made small. -/
def asciiLower (s : String) : String := .ofList (s.toList.map Char.toLower)

def ModuleSystem.ofText (text : String) : Except Failure ModuleSystem :=
  match ModuleSystem.all.find? fun s => asciiLower s.name = asciiLower (Unicode.trim text) with
  | some s => .ok s
  | none => .error (.unknownModuleSystem text)

def OutputFormat.ofText (text : String) : Except Failure OutputFormat :=
  match OutputFormat.all.find? fun f => f.name = Unicode.lower (Unicode.trim text) with
  | some f => .ok f
  | none => .error (.invalidOutputFormat text)

def Severity.ofText? (text : String) : Option Severity :=
  Severity.all.find? fun s => s.name = Unicode.lower text

/-- The pieces of a text between commas; there is always at least one. -/
def splitCommas : List Char → List (List Char)
  | [] => [[]]
  | c :: rest =>
    match splitCommas rest with
    | [] => [[c]]
    | s :: ss => if c = ',' then [] :: s :: ss else (c :: s) :: ss

/-- A natural number below `2 ^ 64`: digits, maybe behind a plus sign. -/
def countOfText? (text : String) : Option Nat :=
  let digits := match text.toList with
    | '+' :: rest => rest
    | cs => cs
  if digits.isEmpty || !digits.all Char.isDigit then none
  else
    let n := digits.foldl (fun n c => n * 10 + (c.toNat - 48)) 0
    if n < Nat.pow 2 64 then some n else none

end ImportSurvey
