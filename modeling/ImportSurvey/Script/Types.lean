import ImportSurvey.Script.Pattern

/-
  Types.

  A type refers to no module that a program loads, not even `import("…").T`.  It is read for two
  reasons: to find its end, and because a computed key inside it is an ordinary expression.  So a type
  comes to the nodes of such expressions, most often none.
-/
namespace ImportSurvey.Script.Types

open Parse

/-! ## Lists of types -/

/-- The types between `<` and `>`, where `<` is the current token. -/
def angled (g : Grammar) (closed : Parse Bool) : Parse (List Node) := do
  advance
  faultIf (← atSign ">")
  return (← listUntil closed g.type).1.flatten

/-- Types that a name is applied to, on the same line. -/
def arguments (g : Grammar) : Parse (List Node) := do
  if ← onNewLine then return []
  if ← splitLess then angled g (eatSign ">") else return []

/-- Types that a base class or an element is applied to, in a dialect with types. -/
def argumentsHere (g : Grammar) : Parse (List Node) := do
  if !(← isTyped) then return []
  if ← splitLess then angled g (eatSign ">") else return []

/-- Signs and words between two operands. -/
def isInfix (t : Token) : Bool :=
  match t.lexeme with
  | .sign s => ["??", "||", "&&", "|", "^", "&", "==", "!=", "===", "!==", "<", ">", "<=", ">=", "<<",
      ">>", ">>>", "+", "-", "*", "/", "%", "**"].contains s
  | .word w _ => ["instanceof", "in", "as", "satisfies"].contains w
  | _ => false

/-- Whether an expression can start with the token. -/
def startsExpression (t : Token) : Bool :=
  match t.lexeme with
  | .sign s => ["(", "[", "\x7b", "/", "/=", "+", "-", "~", "!", "++", "--", "<", "@"].contains s
  | .word w _ => !isReserved w || ["this", "super", "null", "true", "false", "function", "class", "new",
      "import", "delete", "typeof", "void"].contains w
  | .text _ | .number | .template _ | .templateHead _ | .privateWord _ => true
  | _ => false

/-- Types that a value is applied to.  The signs could be comparisons too, so what follows decides. -/
def argumentsInExpression (g : Grammar) : Parse (List Node) := do
  require (← isTyped)
  require (← splitLess)
  let close : Parse Bool := do
    if ← atSign ">" then
      require ((← get).rest.head? != some '=')
      advance
      return true
    else return false
  let types ← angled g close
  let t ← current
  if t.isSign "(" || t.startsTemplate then return types
  require !(t.isSign "<" || t.isSign ">" || t.isSign "+" || t.isSign "-")
  require (t.newline || isInfix t || !startsExpression t)
  return types

/-- A name for a type that is given later. -/
def parameter (g : Grammar) : Parse (List Node) := do
  let ms ← Modifier.all true false
  Modifier.check ms ["const", "in", "out"]
  discard name
  let constraint ← if ← eatWord "extends" then g.type else pure []
  let default ← if ← eatSign "=" then g.type else pure []
  return constraint ++ default

/-- The types that a declaration is given later. -/
def parameters (g : Grammar) : Parse (List Node) := do
  if !(← isTyped) || !(← atSign "<") then return []
  advance
  faultIf (← atSign ">")
  return (← listTo ">" (parameter g)).flatten

/-! ## Results and functions -/

/-- The type of a result, or what a true result tells about a parameter. -/
def result (g : Grammar) : Parse (List Node) := do
  if ← atName then
    let after ← peek
    if after.isWord "is" && !after.newline then
      skipWord
      advance
  g.type

/-- The type of a result after a colon, in a dialect with types. -/
def resultAnnotation (g : Grammar) : Parse (List Node) := do
  if (← isTyped) && (← atSign ":") then advance; result g else return []

/-- Passes over the name of a parameter, to see what follows it. -/
def skipParameterStart (g : Grammar) : Parse Bool := do
  discard (Modifier.all false false)
  let t ← current
  if t.isName || t.isWord "this" then
    advance
    return true
  else if t.isSign "[" || t.isSign "\x7b" then
    return (← attempt g.pattern).isSome
  else return false

/-- Whether a round bracket opens the parameters of a function. -/
def bracketOpensFunction (g : Grammar) : Parse Bool := do
  advance
  if (← atSign ")") || (← atSign "...") then return true
  if ← skipParameterStart g then
    let t ← current
    if t.isSign ":" || t.isSign "," || t.isSign "?" || t.isSign "=" then return true
    if t.isSign ")" then return (← peek).isSign "=>"
  return false

def startsFunction (g : Grammar) : Parse Bool := do
  let t ← current
  if t.isSign "<" || t.isWord "new" then return true
  else if t.isWord "abstract" then return (← peek).isWord "new"
  else if t.isSign "(" then looksLike (bracketOpensFunction g)
  else return false

/-- The type of a function or of a constructor. -/
def function (g : Grammar) : Parse (List Node) := do
  discard (eatWord "abstract")
  discard (eatWord "new")
  let types ← parameters g
  let ps ← Script.parameters g
  expectSign "=>"
  return types ++ ps.parts ++ (← result g)

/-! ## Members of object types -/

/-- The end of a member: a comma, or the end of a statement. -/
def endMember : Parse Unit := do
  unless ← eatSign "," do endStatement

/-- Whether a bracket opens the name of an index and not a computed key. -/
def opensIndex : Parse Bool := do
  advance
  if (← atSign "...") || (← atSign "]") then return true
  let t ← current
  if t.isModifier then
    advance
    if ← atName then return true
  else if t.isName then advance
  else return false
  if (← atSign ":") || (← atSign ",") then return true
  if !(← eatSign "?") then return false
  return (← atSign ":") || (← atSign ",") || (← atSign "]")

def atIndex : Parse Bool := do
  if ← atSign "[" then looksLike opensIndex else return false

/-- A member for all keys of a type; the bracket is the current token. -/
def index (g : Grammar) : Parse (List Node) := do
  advance
  let keys ← listTo "]" do
    discard name
    discard (eatSign "?")
    annotation g
  return keys.flatten ++ (← annotation g)

/-- The types and parameters of a method, and its result. -/
def signature (g : Grammar) : Parse (List Node) := do
  let types ← parameters g
  let ps ← Script.parameters g
  return types ++ ps.parts ++ (← resultAnnotation g)

/-- Moves past `w`, which is `get` or `set`, if it says what kind of member follows. -/
def eatAccess (w : String) : Parse Bool := do
  if ← atWord w then
    let after ← peek
    if after.isSign "[" || after.isMemberName then
      advance
      return true
  return false

def member (g : Grammar) : Parse (List Node) := do
  if (← atSign "(") || (← atSign "<") then
    let s ← signature g
    endMember
    return s
  if ← atWord "new" then
    let after ← peek
    if after.isSign "(" || after.isSign "<" then
      advance
      let s ← signature g
      endMember
      return s
  let ms ← Modifier.all false false
  Modifier.check ms ["readonly"]
  let accessed ← if ← eatAccess "get" then pure true else eatAccess "set"
  if accessed then
    let k ← key g
    let s ← signature g
    endMember
    return k.parts ++ s
  if ← atIndex then
    let s ← index g
    endMember
    return s
  let k ← key g
  discard (eatSign "?")
  let s ←
    if (← atSign "(") || (← atSign "<") then signature g else annotation g
  endMember
  return k.parts ++ s

/-- The members of an object type, in braces. -/
def members (g : Grammar) : Parse (List Node) := do
  expectSign "\x7b"
  let ms ← many do
    if ← atSign "\x7d" then return none else return some (← member g)
  expectSign "\x7d"
  return ms.flatten

/-- Moves past `+` or `-` if it is there. -/
def eatPlusMinus : Parse Bool := do
  if ← eatSign "+" then return true else eatSign "-"

/-- Whether a brace opens a type with a member for each key of another type. -/
def opensMapping : Parse Bool := do
  advance
  if ← eatPlusMinus then return ← atWord "readonly"
  discard (eatWord "readonly")
  if !(← eatSign "[") then return false
  if !(← atName) then return false
  return (← peek).isWord "in"

/-- `+`, `-` or nothing, and then the mark itself. -/
def changed (eatMark : Parse Bool) : Parse Unit := do
  if ← eatPlusMinus then require (← eatMark) else discard eatMark

def mapping (g : Grammar) : Parse (List Node) := do
  advance
  changed (eatWord "readonly")
  expectSign "["
  discard name
  expectWord "in"
  let keys ← g.type
  let renamed ← if ← eatWord "as" then g.type else pure []
  expectSign "]"
  changed (eatSign "?")
  let value ← annotation g
  unless ← eatSign "," do discard (eatSign ";")
  expectSign "\x7d"
  return keys ++ renamed ++ value

/-! ## Operands -/

/-- Names joined by points. -/
def path : Parse Unit := do
  discard anyWord
  discard <| many do
    if ← eatSign "." then
      match (← current).lexeme with
      | .privateWord _ => advance
      | _ => discard anyWord
      return some ()
    else return none

def reference (g : Grammar) : Parse (List Node) := do
  path
  arguments g

/-- A type of another module; `import` is the current token. -/
def imported (g : Grammar) : Parse (List Node) := do
  expectWord "import"
  expectSign "("
  let source ← g.type
  let options ←
    if (← eatSign ",") && !(← atSign ")") then do
      let e ← g.assignment true
      discard (eatSign ",")
      pure [e.node]
    else pure []
  expectSign ")"
  if ← eatSign "." then path
  return source ++ options ++ (← arguments g)

/-- The type of a value. -/
def ofValue (g : Grammar) : Parse (List Node) := do
  advance
  if ← atWord "import" then imported g else reference g

/-- Whether a colon follows the name of a part of a tuple. -/
def namesPart : Parse Bool := do
  discard (eatSign "...")
  discard anyWord
  discard (eatSign "?")
  atSign ":"

def tuplePart (g : Grammar) : Parse (List Node) := do
  if ← looksLike namesPart then
    discard (eatSign "...")
    discard anyWord
    discard (eatSign "?")
    expectSign ":"
  else discard (eatSign "...")
  g.type

/-- A type that stands by itself. -/
def atom (g : Grammar) : Parse (List Node) := do
  let t ← current
  match t.lexeme with
  | .text _ | .number | .template _ => advance; return []
  | .templateHead _ => return [← template true g.type]
  | .sign "-" =>
    advance
    match (← current).lexeme with
    | .number => advance; return []
    | _ => giveUp
  | .sign "\x7b" => if ← looksLike opensMapping then mapping g else members g
  | .sign "[" => advance; return (← listTo "]" (tuplePart g)).flatten
  | .sign "(" =>
    advance
    let inner ← within (fun c => { c with plainTypes := false }) g.type
    expectSign ")"
    return inner
  | .sign "!" =>
    advance
    g.typeOperand
  | .sign "?" =>
    advance
    let after ← current
    if [",", "\x7d", ")", ">", "=", "|"].any after.isSign then return [] else g.type
  | .word w _ =>
    if w == "void" || w == "null" || w == "true" || w == "false" then
      advance
      return []
    else if w == "this" then
      advance
      if (← atWord "is") && !(← onNewLine) then
        advance
        g.type
      else return []
    else if w == "typeof" then ofValue g
    else if w == "import" then imported g
    else if w == "asserts" then
      let after ← peek
      if (after.isName || after.isWord "this") && !after.newline then
        advance
        advance
        if ← eatWord "is" then g.type else return []
      else reference g
    else reference g
  | _ => giveUp

/-- Whether a type can start with the token. -/
def startsType (t : Token) : Bool :=
  match t.lexeme with
  | .text _ | .number | .template _ | .templateHead _ => true
  | .sign s => ["\x7b", "[", "<", "|", "&", "?", "!", "...", "(", "-"].contains s
  | .word w _ => !isReserved w ||
    ["void", "null", "this", "typeof", "new", "true", "false", "import", "function"].contains w
  | _ => false

/-- What follows an operand on its line: brackets of lists and members, and marks. -/
def suffix (g : Grammar) : Parse (Option (List Node)) := do
  let t ← current
  if t.newline then return none
  if t.isSign "!" then
    advance
    return some []
  else if t.isSign "?" then
    if startsType (← peek) then return none
    advance
    return some []
  else if t.isSign "[" then
    advance
    if ← eatSign "]" then return some []
    let inner ← within (fun c => { c with plainTypes := false }) g.type
    expectSign "]"
    return some inner
  else return none

/-- A name for a part of another type, which may be told to extend a type. -/
def inferred (g : Grammar) : Parse (List Node) := do
  discard name
  let c ← read
  let constraint ← attempt do
    expectWord "extends"
    let t ← within (fun c => { c with plainTypes := true }) g.type
    require (c.plainTypes || !(← atSign "?"))
    return t
  return constraint.getD []

def operand (g : Grammar) : Parse (List Node) := do
  let t ← current
  if t.isWord "keyof" || t.isWord "unique" || t.isWord "readonly" then
    advance
    g.typeOperand
  else if t.isWord "infer" then
    advance
    inferred g
  else within (fun c => { c with plainTypes := false }) do
    let first ← atom g
    let more ← many (suffix g)
    return first ++ more.flatten

/-! ## Operators -/

/-- Types joined by `sign`, which may also stand before the first.  Next to the sign the type of a
function needs brackets. -/
def joined (g : Grammar) (sign : String) (item : Parse (List Node)) : Parse (List Node) := do
  let afterSign : Parse (List Node) := do
    if ← startsFunction g then
      fault
      function g
    else item
  let led ← eatSign sign
  let first ← if led then afterSign else item
  let more ← many do
    if ← eatSign sign then return some (← afterSign) else return none
  return first ++ more.flatten

def union (g : Grammar) : Parse (List Node) := joined g "|" (joined g "&" g.typeOperand)

/-- A type. -/
def whole (g : Grammar) : Parse (List Node) := do
  if ← startsFunction g then return ← function g
  let t ← union g
  let c ← read
  if !c.plainTypes && !(← onNewLine) && (← atWord "extends") then
    advance
    let bound ← within (fun c => { c with plainTypes := true }) g.type
    expectSign "?"
    let yes ← within (fun c => { c with plainTypes := false }) g.type
    expectSign ":"
    let no ← within (fun c => { c with plainTypes := false }) g.type
    return t ++ bound ++ yes ++ no
  return t

end ImportSurvey.Script.Types
