import ImportSurvey.Script.Types

/-
  Functions: what follows their name, arrow functions, and blocks.
-/
namespace ImportSurvey.Script.Function

open Parse

/-- Statements in braces. -/
def block (g : Grammar) : Parse Node := do
  expectSign "\x7b"
  let statements ← many do
    if ← atSign "\x7d" then return none else return some (← g.statement .list)
  expectSign "\x7d"
  return .group statements

def body (g : Grammar) : Parse Node := within (fun c => { c with allowReturn := true }) (block g)

/-- What a function is made of, apart from its name. -/
structure Parts where
  nodes : List Node
  parameters : Parameters
  hasBody : Bool

def Parts.node (p : Parts) : Node := .group p.nodes

/-- Types, parameters, result and body of a function.  Only a declaration of types has no body. -/
def parts (g : Grammar) (isAsync isGenerator : Bool) : Parse Parts := do
  let inside (c : Context) : Context :=
    { c with allowIn := true, allowAwait := isAsync, allowYield := isGenerator, decorating := false }
  let p ← within inside do
    let types ← Types.parameters g
    let ps ← Script.parameters g
    let result ← Types.resultAnnotation g
    let hasBody ← atSign "\x7b"
    let body ← if hasBody then pure [← body g] else pure []
    return ⟨types ++ ps.parts ++ result ++ body, ps, hasBody⟩
  unless p.hasBody do
    require (← isTyped)
    endStatement
  return p

/-- A function with the word that names it as one; the flags say whether it was `async` and whether it
has a star. -/
structure Declared where
  node : Node
  isAsync : Bool
  isGenerator : Bool
  name : Option String
  hasBody : Bool

/-- A function from `async` or `function` on; `qualified` if `async` was read before.  A declaration
needs a name, and its name is a name outside of the function; that of an expression is one inside. -/
def whole (g : Grammar) (qualified declaration needsName : Bool) : Parse Declared := do
  let isAsync ← if qualified then pure true else eatWord "async"
  expectWord "function"
  let isGenerator ← eatSign "*"
  let t ← current
  let outside (c : Context) : Context :=
    if declaration then c else { c with allowAwait := isAsync, allowYield := isGenerator }
  let named ←
    if t.isName then do pure (some (← within outside name))
    else do
      if needsName then
        faultIf (t.isSign "(")
        require (t.word?.isNone)
      pure none
  let p ← parts g isAsync isGenerator
  return ⟨p.node, isAsync, isGenerator, named, p.hasBody⟩

/-! ## Arrow functions -/

/-- An arrow function up to and with its arrow. -/
structure Head where
  nodes : List Node
  isAsync : Bool
  /-- it names the type of its result -/
  hasResult : Bool

def head (g : Grammar) : Parse Head := do
  let isAsync ← eatWord "async"
  let h ← within (fun c => { c with allowAwait := c.allowAwait || isAsync }) do
    let types ← Types.parameters g
    let ps ← Script.parameters g
    faultIf ps.hasThis
    let hasResult := (← isTyped) && (← atSign ":")
    let result ← Types.resultAnnotation g
    return ⟨types ++ ps.parts ++ result, isAsync, hasResult⟩
  faultIf (← onNewLine)
  expectSign "=>"
  return h

/-- What an arrow function does: a block, or an expression whose value is the result. -/
def arrowBody (g : Grammar) (isAsync returnType : Bool) : Parse Node :=
  within (fun c => { c with allowAwait := isAsync, allowYield := false }) do
    if ← atSign "\x7b" then body g else return (← g.assignment returnType).node

end ImportSurvey.Script.Function
