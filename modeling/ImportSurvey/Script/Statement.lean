import ImportSurvey.Script.Linkage

/-
  Statements.
-/
namespace ImportSurvey.Script.Statement

open Parse

/-- The statement that another one consists of besides its head. -/
def inner (g : Grammar) : Parse Node := g.statement .single

/-! ## Choices and loops -/

def choice (g : Grammar) : Parse Node := do
  expectWord "if"
  let test ← bracketed g
  let yes ← inner g
  let no ← if ← eatWord "else" then do pure [← inner g] else pure []
  return .group (test :: yes :: no)

def loop (g : Grammar) : Parse Node := do
  expectWord "while"
  let test ← bracketed g
  return .group [test, ← inner g]

/-- A loop that is left at its end; its semicolon can always be left out. -/
def loopAtEnd (g : Grammar) : Parse Node := do
  expectWord "do"
  let body ← inner g
  expectWord "while"
  let test ← bracketed g
  discard (eatSign ";")
  return .group [body, test]

/-- The rest of a loop with a test and a step, from its first semicolon on. -/
def counting (g : Grammar) (start : List Node) (awaits : Bool) : Parse Node := do
  expectSign ";"
  let test ←
    if (← atSign ";") || (← atSign ")") then pure [] else do pure [(← expression g).node]
  expectSign ";"
  let step ← if ← atSign ")" then pure [] else do pure [(← expression g).node]
  expectSign ")"
  faultIf awaits
  return .group (start ++ test ++ step ++ [← inner g])

/-- The rest of a loop over keys or values, from `in` or `of` on. -/
def iterating (g : Grammar) (target : List Node) (awaits : Bool) : Parse Node := do
  let keys ← atWord "in"
  advance
  let subject ← if keys then expression g else g.assignment true
  expectSign ")"
  faultIf (awaits && keys)
  return .group (target ++ [subject.node, ← inner g])

/-- Whether the current token declares variables at the head of a loop. -/
def startsVariables : Parse Bool := do
  let t ← current
  if t.isWord "var" || t.isWord "const" then return true
  let after ← peek
  if t.isWord "let" then
    return after.isSign "[" || after.isSign "\x7b" || (after.word?.isSome && !after.isWord "in")
  else return false

/-- Whether variables are declared here that are cleaned up at the end of their block. -/
def startsUsing : Parse Bool := do
  looksLike do
    discard (eatWord "await")
    if !(← eatWord "using") then return false
    let t ← current
    return t.isName && !t.newline && !t.isWord "of"

/-- The head of a loop that declares variables, and the rest of the loop. -/
def declaringFor (g : Grammar) (awaits : Bool) : Parse Node := do
  if ← atWord "await" then advance
  let constant ← atWord "const"
  advance
  let vs ← within (fun c => { c with allowIn := false }) (Declaration.variableList g constant)
  if (← atWord "in") || (← atWord "of") then iterating g vs.nodes awaits
  else
    let n ← counting g vs.nodes awaits
    Declaration.checkValues vs
    return n

def forLoop (g : Grammar) : Parse Node := do
  expectWord "for"
  let awaits ← atWord "await"
  if awaits then
    faultIf !(← read).allowAwait
    advance
  expectSign "("
  if (← atSign ";") || (← atSign ")") then counting g [] awaits
  else if (← startsVariables) || (← startsUsing) then declaringFor g awaits
  else
    let t ← current
    let after ← peek
    let e ← within (fun c => { c with allowIn := false }) (expression g)
    if (← atWord "in") || (← atWord "of") then
      require e.form.isTarget
      modify fun s => { s with pending := s.pending - e.form.pending }
      faultIf ((← atWord "of") && (t.isWord "let" ||
        (t.isWord "async" && after.isWord "of" && !awaits)))
      iterating g [e.node] awaits
    else counting g [e.node] awaits

/-! ## Leaving -/

/-- `break` or `continue`, with the label of the statement that is left. -/
def leaving : Parse Node := do
  advance
  unless ← canEnd do discard name
  endStatement
  return .group []

def returning (g : Grammar) : Parse Node := do
  expectWord "return"
  let value ←
    if ← eatSign ";" then pure []
    else if ← canEnd then pure []
    else do
      let e ← within (fun c => { c with allowIn := true }) (expression g)
      endStatement
      pure [e.node]
  faultIf !(← read).allowReturn
  return .group value

def throwing (g : Grammar) : Parse Node := do
  expectWord "throw"
  faultIf (← onNewLine)
  let e ← expression g
  endStatement
  return e.node

/-! ## Blocks with parts -/

/-- The statements up to the next case. -/
def caseBody (g : Grammar) : Parse (List Node) :=
  many do
    let t ← current
    if t.isWord "case" || t.isWord "default" || t.isSign "\x7d" then return none
    else return some (← g.statement .list)

def switching (g : Grammar) : Parse Node := do
  expectWord "switch"
  let subject ← bracketed g
  expectSign "\x7b"
  let cases ← many do
    if ← eatWord "case" then
      let test ← expression g
      expectSign ":"
      return some (test.node :: (← caseBody g))
    else if ← eatWord "default" then
      expectSign ":"
      return some (← caseBody g)
    else return none
  expectSign "\x7d"
  return .group (subject :: cases.flatten)

/-- What is done after a failure, with a name for what was thrown. -/
def catching (g : Grammar) : Parse (List Node) := do
  if !(← eatWord "catch") then return []
  let thrown ←
    if ← eatSign "(" then do
      let b ← g.pattern
      let type ← annotation g
      expectSign ")"
      pure (b.nodes ++ type)
    else pure []
  return thrown ++ [← Function.block g]

def trying (g : Grammar) : Parse Node := do
  expectWord "try"
  let body ← Function.block g
  let failed ← catching g
  let atLast ← if ← eatWord "finally" then do pure [← Function.block g] else pure []
  faultIf (failed.isEmpty && atLast.isEmpty)
  return .group (body :: failed ++ atLast)

/-! ## Other statements -/

/-- An expression, or a label and the statement that has it. -/
def expressionOrLabel (g : Grammar) : Parse Node := do
  let e ← expression g
  if e.form == .name then
    if ← eatSign ":" then return ← inner g
  endStatement
  return e.node

/-- `let`, which is also a name. -/
def letting (g : Grammar) (site : Site) : Parse Node := do
  let after ← peek
  let operator :=
    Types.isInfix after || Expression.assignmentSigns.any after.isSign
  if operator then
    let e ← g.assignment true
    endStatement
    return e.node
  else if after.isSign "." || after.isSign "(" then
    let e ← expression g
    endStatement
    return e.node
  else if (site == .single && !after.isSign "[") || after.isSign ";" then
    let n ← name
    endStatement
    return .name n
  else return (← Declaration.variableStatement g site).node

/-- Variables that are cleaned up at the end of their block. -/
def usingDeclaration (g : Grammar) : Parse Node := do
  if ← atWord "await" then advance
  advance
  let vs ← Declaration.variableList g true
  Declaration.checkValues vs
  endStatement
  return .group vs.nodes

/-- A class, or an export of one, after decorators. -/
def decorated (g : Grammar) : Parse Node := do
  let ds ← decorators g
  if ← atWord "export" then Linkage.exporting g ds
  else
    let modifiers ← if ← isTyped then Modifier.all false false else pure []
    require (← atWord "class")
    return (← Declaration.classDeclaration g modifiers ds).node

/-- A function among statements.  Alone after the head of a statement it must be a plain one. -/
def functionStatement (g : Grammar) (site : Site) : Parse Node := do
  let f ← Function.whole g false true true
  faultIf (site == .single && (f.isAsync || f.isGenerator))
  return f.node

/-- Words that start a declaration in a dialect with types, if what follows allows it. -/
def typedWords : List String := [
  "abstract", "accessor", "const", "declare", "enum", "global", "interface", "module", "namespace",
  "private", "protected", "public", "readonly", "static", "type"]

/-- Whether the current word starts a declaration that only a dialect with types has. -/
def startsTyped (w : String) : Parse Bool := do
  if !(← isTyped) || !typedWords.contains w then return false
  if w == "const" then return (← peek).isWord "enum"
  looksLike (Declaration.startsTyped (← bound))

def ofWord (g : Grammar) (site : Site) (w : String) (escaped : Bool) : Parse Node := do
  if ← startsTyped w then
    return (← within (fun c => { c with allowAwait := false }) (Declaration.whole g [])).node
  let after ← peek
  match w with
  | "if" => choice g
  | "do" => loopAtEnd g
  | "while" => loop g
  | "for" => forLoop g
  | "continue" | "break" => leaving
  | "with" =>
    advance
    let subject ← bracketed g
    return .group [subject, ← inner g]
  | "switch" => switching g
  | "throw" => throwing g
  | "try" => trying g
  | "debugger" =>
    advance
    endStatement
    return .group []
  | "class" =>
    let (_, parts) ← Class.whole g
    faultIf (site == .single)
    return .group parts
  | "export" => Linkage.exporting g []
  | "return" => returning g
  | "var" | "const" => return (← Declaration.variableStatement g site).node
  | "function" => functionStatement g site
  | "let" => if escaped then expressionOrLabel g else letting g site
  | "async" =>
    if after.isWord "function" && !after.newline then functionStatement g site
    else expressionOrLabel g
  | "import" =>
    if after.isSign "." || after.isSign "(" then expressionOrLabel g else Linkage.importing
  | "using" => if ← startsUsing then usingDeclaration g else expressionOrLabel g
  | "await" =>
    if after.isWord "using" && (← startsUsing) then usingDeclaration g else expressionOrLabel g
  | _ => expressionOrLabel g

/-- A statement or a declaration. -/
def whole (g : Grammar) (site : Site) : Parse Node := do
  let t ← current
  match t.lexeme with
  | .sign "\x7b" => Function.block g
  | .sign ";" =>
    advance
    return .group []
  | .sign "@" => decorated g
  | .word w escaped => ofWord g site w escaped
  | _ => expressionOrLabel g

end ImportSurvey.Script.Statement
