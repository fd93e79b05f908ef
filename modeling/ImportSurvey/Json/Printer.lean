import ImportSurvey.Json.Basic
import ImportSurvey.Text.Decimal

/-
  The two written forms of a JSON value.
-/
namespace ImportSurvey.Json

/-- A line end and the blanks of a nesting level. -/
def indent (level : Nat) : List Char := '\n' :: List.replicate (2 * level) ' '

/-- The numbers, strings and constants, which both forms write alike. -/
def writeInt (i : Int) : List Char := (toString i).toList

mutual

/-- One line, no blanks. -/
def compactChars : Json → List Char
  | .null => "null".toList
  | .bool b => (if b then "true" else "false").toList
  | .int i => writeInt i
  | .float f => (Text.compactFloat f).toList
  | .str s => writeString s
  | .arr items => '[' :: compactItems items ++ [']']
  | .obj members => '{' :: compactMembers members ++ ['}']

def compactItems : List Json → List Char
  | [] => []
  | [j] => compactChars j
  | j :: rest => compactChars j ++ ',' :: compactItems rest

def compactMembers : List (String × Json) → List Char
  | [] => []
  | [(k, j)] => writeString k ++ ':' :: compactChars j
  | (k, j) :: rest => writeString k ++ ':' :: compactChars j ++ ',' :: compactMembers rest

end

mutual

/-- One member a line, two blanks more per level; an empty array or object has no line of its own. -/
def spreadChars (level : Nat) : Json → List Char
  | .null => "null".toList
  | .bool b => (if b then "true" else "false").toList
  | .int i => writeInt i
  | .float f => (Text.compactFloat f).toList
  | .str s => writeString s
  | .arr [] => ['[', ']']
  | .arr (j :: rest) => '[' :: spreadItems (level + 1) (j :: rest) ++ indent level ++ [']']
  | .obj [] => ['{', '}']
  | .obj (m :: rest) => '{' :: spreadMembers (level + 1) (m :: rest) ++ indent level ++ ['}']

def spreadItems (level : Nat) : List Json → List Char
  | [] => []
  | [j] => indent level ++ spreadChars level j
  | j :: rest => indent level ++ spreadChars level j ++ ',' :: spreadItems level rest

def spreadMembers (level : Nat) : List (String × Json) → List Char
  | [] => []
  | [(k, j)] => indent level ++ writeString k ++ ':' :: ' ' :: spreadChars level j
  | (k, j) :: rest =>
    indent level ++ writeString k ++ ':' :: ' ' :: spreadChars level j ++ ',' :: spreadMembers level rest

end

def compact (j : Json) : String := .ofList j.compactChars

def spread (j : Json) : String := .ofList (j.spreadChars 0)

end ImportSurvey.Json
