import ImportSurvey.Script.Function

/-
  Classes.
-/
namespace ImportSurvey.Script.Class

open Parse

/-- The key of a member, which may be private. -/
def memberKey (g : Grammar) : Parse Key := do
  match (← current).lexeme with
  | .privateWord w =>
    faultIf (w == "constructor")
    advance
    return { text := some w, isPrivate := true }
  | _ => key g

/-- A member that is a function.  A constructor is an ordinary function, and `prototype` belongs to
every class already. -/
def method (g : Grammar) (modifiers : List String) (k : Key) (isGenerator : Bool) :
    Parse (List Node) := do
  let isAsync := modifiers.contains "async"
  let isStatic := modifiers.contains "static"
  faultIf (k.isNamed "prototype" && isStatic)
  faultIf (k.isNamed "constructor" && !isStatic && (isGenerator || isAsync))
  let p ← Function.parts g isAsync isGenerator
  return k.parts ++ p.nodes

/-- A member that is read or written through a function. -/
def accessor (g : Grammar) (modifiers : List String) (reads : Bool) : Parse (List Node) := do
  let k ← memberKey g
  let isStatic := modifiers.contains "static"
  faultIf (k.isNamed "prototype" && isStatic)
  faultIf (k.isNamed "constructor" && !isStatic)
  let p ← Function.parts g false false
  if reads then faultIf (p.parameters.count != 0)
  else faultIf (p.parameters.hasRest || p.parameters.count != 1)
  return k.parts ++ p.nodes

/-- A member that holds a value. -/
def field (g : Grammar) (modifiers : List String) (k : Key) (isOptional : Bool) :
    Parse (List Node) := do
  faultIf (k.isNamed "constructor")
  faultIf (k.isNamed "prototype" && modifiers.contains "static")
  if (← isTyped) && !isOptional && !(← onNewLine) then discard (eatSign "!")
  let type ← annotation g
  let value ← within (fun c => { c with allowAwait := false, allowYield := false }) (initializer g)
  endStatement
  return k.parts ++ type ++ value

/-- The words that may stand before a member. -/
def memberModifiers : List String := [
  "abstract", "accessor", "async", "declare", "override", "private", "protected", "public", "readonly",
  "static"]

def member (g : Grammar) : Parse (List Node) := do
  let before ← decorators g
  let modifiers ← Modifier.all true true
  let ds := before ++ (← decorators g)
  if ← atWord "static" then
    if (← peek).isSign "\x7b" then
      advance
      let inside (c : Context) : Context :=
        { c with allowAwait := true, allowYield := false, allowReturn := false }
      return ds ++ [← within inside (Function.block g)]
  Modifier.check modifiers memberModifiers
  if ← Types.eatAccess "get" then return ds ++ (← accessor g modifiers true)
  if ← Types.eatAccess "set" then return ds ++ (← accessor g modifiers false)
  if (← isTyped) && (← Types.atIndex) then
    let s ← Types.index g
    Types.endMember
    return ds ++ s
  let isGenerator ← eatSign "*"
  let k ← memberKey g
  let isOptional ← if ← isTyped then eatSign "?" else pure false
  if isGenerator || (← atSign "(") || (← atSign "<") then
    return ds ++ (← method g modifiers k isGenerator)
  return ds ++ (← field g modifiers k isOptional)

/-- What a class extends and implements, or what an interface extends.  Only an interface extends more
than one. -/
def heritage (g : Grammar) (several : Bool) : Parse (List Node) := do
  let base : Parse (List Node) := do
    let e ← g.access
    return e.node :: (← Types.argumentsHere g)
  let listed (item : Parse (List Node)) (single : Bool) : Parse (List Node) := do
    let first ← item
    let more ← many do
      if ← eatSign "," then
        faultIf single
        return some (← item)
      else return none
    return first ++ more.flatten
  let clauses ← many do
    if ← eatWord "extends" then return some (← listed base !several)
    else if ← eatWord "implements" then
      faultIf several
      return some (← listed (Types.reference g) false)
    else return none
  return clauses.flatten

/-- A class from its first word on: its name and its parts. -/
def whole (g : Grammar) : Parse (Option String × List Node) := do
  expectWord "class"
  let t ← current
  let named ←
    if t.isName && !t.isWord "implements" then do pure (some (← name)) else pure none
  let types ← Types.parameters g
  let bases ← heritage g false
  expectSign "\x7b"
  let members ← many do
    if ← atSign "\x7d" then return none
    else if ← eatSign ";" then return some []
    else return some (← member g)
  expectSign "\x7d"
  return (named, types ++ bases ++ members.flatten)

end ImportSurvey.Script.Class
