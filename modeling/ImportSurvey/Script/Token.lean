/-
  Tokens of a script.

  Words are not told apart by the scanner: whether `type` or `of` is a name or a keyword depends on
  where it stands, so a token keeps its word and the productions ask for the word they want.  Only the
  reserved words can never be names.
-/
namespace ImportSurvey.Script

/-- What a token is. -/
inductive Lexeme where
  | endOfText
  /-- a word with its escapes resolved; `escaped` if it had any -/
  | word (text : String) (escaped : Bool)
  /-- `#name`, without the sign -/
  | privateWord (text : String)
  | text (value : String)
  | number
  /-- a template without substitutions; no value if an escape in it makes no sense -/
  | template (value : Option String)
  /-- a template up to its first substitution; `sound` if every escape makes sense -/
  | templateHead (sound : Bool)
  /-- a template from one substitution to the next -/
  | templateMiddle (sound : Bool)
  /-- a template from its last substitution on -/
  | templateTail (sound : Bool)
  | regex
  /-- text between the elements of markup -/
  | prose
  | sign (text : String)
  /-- text that is no token -/
  | senseless
deriving DecidableEq, Repr, Inhabited

structure Token where
  lexeme : Lexeme
  /-- how many characters stand before the token -/
  start : Nat
  /-- the first token of its line -/
  newline : Bool
deriving DecidableEq, Repr, Inhabited

/-! ## Classes of words -/

/-- Words that are never names. -/
def reservedWords : List String := [
  "break", "case", "catch", "class", "const", "continue", "debugger", "default", "delete", "do",
  "else", "enum", "export", "extends", "false", "finally", "for", "function", "if", "import", "in",
  "instanceof", "new", "null", "return", "super", "switch", "this", "throw", "true", "try",
  "typeof", "var", "void", "while", "with"]

/-- Words that are reserved in modules only; a name made of one cannot be exported. -/
def strictWords : List String := [
  "implements", "interface", "let", "package", "private", "protected", "public", "static"]

/-- Words that may qualify a declaration or a member. -/
def modifierWords : List String := [
  "abstract", "accessor", "async", "const", "declare", "default", "export", "in", "out", "override",
  "private", "protected", "public", "readonly", "static"]

def isReserved (w : String) : Bool := reservedWords.contains w

/-- Words that are keywords somewhere. -/
def contextualWords : List String := [
  "as", "assert", "asserts", "async", "await", "from", "get", "global", "infer", "is", "keyof",
  "meta", "module", "namespace", "of", "satisfies", "set", "target", "type", "unique", "using",
  "yield"]

def isKeyword (w : String) : Bool :=
  isReserved w || strictWords.contains w || modifierWords.contains w || contextualWords.contains w

namespace Token

/-- The word of a token, keyword or not. -/
def word? (t : Token) : Option String :=
  match t.lexeme with
  | .word w _ => some w
  | _ => none

def isWord (t : Token) (w : String) : Bool := t.word? == some w

def isSign (t : Token) (s : String) : Bool := t.lexeme == .sign s

/-- Whether the token can stand for a name that is being declared. -/
def isName (t : Token) : Bool := t.word?.any fun w => !isReserved w

def isModifier (t : Token) : Bool := t.word?.any modifierWords.contains

def isText (t : Token) : Bool :=
  match t.lexeme with
  | .text _ => true
  | _ => false

def isEnd (t : Token) : Bool := t.lexeme == .endOfText

def startsTemplate (t : Token) : Bool :=
  match t.lexeme with
  | .template _ | .templateHead _ => true
  | _ => false

/-- Whether the token can be the name of a member, unless it is computed. -/
def isMemberName (t : Token) : Bool :=
  match t.lexeme with
  | .word .. | .text _ | .number | .privateWord _ => true
  | _ => false

end Token

end ImportSurvey.Script
