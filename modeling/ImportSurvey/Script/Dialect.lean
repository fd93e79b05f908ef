import ImportSurvey.Path

/-
  What kind of script a file holds, by its name.
-/
namespace ImportSurvey.Script

inductive Language where
  | plain
  | typed
  /-- types only, as in a declaration file -/
  | definition
deriving DecidableEq, Repr

/-- How a text is read. -/
structure Dialect where
  language : Language := .typed
  /-- a module, not a script that runs as it is -/
  isModule : Bool := true
  /-- markup may stand where an expression is expected -/
  markup : Bool := false
deriving DecidableEq, Repr, Inhabited

namespace Dialect

def isTyped (d : Dialect) : Bool := d.language ≠ .plain

def isDefinition (d : Dialect) : Bool := d.language = .definition

/-- The extensions of source files. -/
def extensions : List String := ["js", "mjs", "cjs", "jsx", "ts", "mts", "cts", "tsx"]

/-- The segments of a file name between the dots. -/
def dotSegments : List Char → List (List Char)
  | [] => [[]]
  | c :: rest =>
    match dotSegments rest with
    | [] => [[c]]
    | s :: ss => if c = '.' then [] :: s :: ss else (c :: s) :: ss

/-- Whether the name of a typed file says that it declares only. -/
def saysDefinition (name : String) : Bool :=
  ((dotSegments name.toList).reverse.take 3).contains ['d']

/-- The dialect of a file; of a name that says nothing, a typed module. -/
def ofPath (p : Path) : Dialect :=
  let typed (isModule : Bool) : Dialect :=
    { language := if (p.fileName.any saysDefinition) then .definition else .typed, isModule }
  match p.extension with
  | some "js" | some "mjs" => { language := .plain }
  | some "cjs" => { language := .plain, isModule := false }
  | some "jsx" => { language := .plain, markup := true }
  | some "ts" | some "mts" => typed true
  | some "cts" => typed false
  | some "tsx" => { language := .typed, markup := true }
  | _ => {}

end Dialect

/-- Whether a file is a source file, by its extension. -/
def isSourceFile (p : Path) : Bool := p.extension.any Dialect.extensions.contains

end ImportSurvey.Script
