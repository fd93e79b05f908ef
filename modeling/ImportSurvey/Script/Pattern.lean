import ImportSurvey.Script.Grammar

/-
  What declares names: patterns, parameters, the keys of members, and the words that qualify a
  declaration.
-/
namespace ImportSurvey.Script

open Parse

/-! ## Words before a declaration -/

namespace Modifier

/-- Whether a declaration can go on with the current token after a qualifying word. -/
def followsModifier : Parse Bool := do
  let t ← current
  return t.isSign "[" || t.isSign "\x7b" || t.isSign "*" || t.isSign "..." || t.isMemberName

/-- Whether what follows `default` is a declaration. -/
def followsDefault : Parse Bool := do
  let t ← current
  if t.isWord "class" || t.isWord "function" || t.isWord "interface" || t.isSign "@" then return true
  let after ← peek
  return (t.isWord "abstract" && after.isWord "class") ||
    (t.isWord "async" && after.isWord "function" && !after.newline)

/-- Moves past the word `w` if it qualifies what follows. -/
def taken (w : String) : Parse Unit := do
  advance
  let followed ←
    match w with
    | "const" => atWord "enum"
    | "export" => do
      if ← atWord "default" then looksLike (do advance; followsDefault)
      else if (← atSign "*") || (← atWord "as") || (← atSign "\x7b") then pure false
      else followsModifier
    | "default" => followsDefault
    | "static" => followsModifier
    | _ => do
      if ← onNewLine then pure false else followsModifier
  require followed

/-- The next qualifying word.  `constant` admits `const`, `block` leaves `static` alone before a
block. -/
def next? (constant block : Bool) (seen : List String) : Parse (Option String) := do
  let t ← current
  match t.word? with
  | some w =>
    if !t.isModifier then return none
    if w == "static" && (seen.contains "static" || (block && (← peek).isSign "\x7b")) then
      return none
    let step :=
      if w == "const" && constant then do
        advance
        require (!(← onNewLine) && (← followsModifier))
      else taken w
    return (← attempt step).map fun _ => w
  | none => return none

/-- All qualifying words from here on. -/
def all (constant block : Bool) : Parse (List String) := do
  let rec go : Nat → List String → Parse (List String)
    | 0, _ => giveUp
    | n + 1, seen => do
      match ← next? constant block seen with
      | some w => go n (seen ++ [w])
      | none => return seen
  go (← bound) []

/-- Counts a fault for each word that may not stand here. -/
def check (words allowed : List String) : Parse Unit :=
  fault (words.filter fun w => !allowed.contains w).length

end Modifier

/-! ## Decorators -/

/-- The decorators from here on. -/
def decorators (g : Grammar) : Parse (List Node) :=
  many do
    if ← eatSign "@" then
      let e ← within (fun c => { c with decorating := true }) g.access
      return some e.node
    else return none

/-! ## Keys -/

/-- The key of a member. -/
structure Key where
  parts : List Node := []
  /-- the name of the member, unless it is computed or a number -/
  text : Option String := none
  /-- the key is a word that can be a name -/
  isName : Bool := false
  isPrivate : Bool := false

def Key.isNamed (k : Key) (w : String) : Bool := k.text == some w && !k.isPrivate

def key (g : Grammar) : Parse Key := do
  let t ← current
  match t.lexeme with
  | .word w _ => skipWord; return { text := some w, isName := !isReserved w }
  | .text s => advance; return { text := some s }
  | .number => advance; return {}
  | .sign "[" =>
    advance
    let e ← freely (g.assignment true)
    expectSign "]"
    return { parts := [e.node] }
  | _ => giveUp

/-! ## Patterns -/

/-- A type after a colon, in a dialect with types. -/
def annotation (g : Grammar) : Parse (List Node) := do
  if (← isTyped) && (← atSign ":") then advance; g.type else return []

/-- A value after `=`. -/
def initializer (g : Grammar) : Parse (List Node) := do
  if ← eatSign "=" then return [(← freely (g.assignment true)).node] else return []

/-- A part of a pattern, or a parameter. -/
def bindingElement (g : Grammar) : Parse Binding := do
  let target ← g.pattern
  if ← isTyped then discard (eatSign "?")
  let type ← annotation g
  return { target with nodes := target.nodes ++ type ++ (← initializer g) }

/-- The part of a pattern that takes all that is left; it has no default. -/
def restElement (g : Grammar) : Parse Binding := do
  let target ← g.pattern
  if ← isTyped then discard (eatSign "?")
  let type ← annotation g
  faultIf (← atSign "=")
  return { target with nodes := target.nodes ++ type ++ (← initializer g) }

/-- Items up to a closing sign, and whether there is one that takes all that is left.  That one is the
last, and no comma follows it except where nothing has a value. -/
def elementsTo (g : Grammar) (close : String) (item : Parse Binding) :
    Parse (List Binding × Bool) := do
  let rec go : Nat → Bool → Parse (List Binding × Bool)
    | 0, _ => giveUp
    | n + 1, closed => do
      if ← eatSign close then return ([], closed)
      faultIf closed
      let isRest ← eatSign "..."
      let e ← if isRest then restElement g else item
      let closed := closed || isRest
      unless ← atSign close do
        expectSign ","
        if ← atSign close then faultIf (closed && !(← read).ambient)
      let (es, closed) ← go n closed
      return (e :: es, closed)
  go (← bound) false

def Binding.join (bs : List Binding) : Binding := ⟨bs.flatMap (·.nodes), bs.flatMap (·.names)⟩

/-- A property of an object pattern. -/
def bindingProperty (g : Grammar) : Parse Binding := do
  let k ← key g
  if k.isName && !(← atSign ":") then
    let w := k.text.getD ""
    checkName w
    return ⟨k.parts ++ (← initializer g), [w]⟩
  expectSign ":"
  let b ← bindingElement g
  return { b with nodes := k.parts ++ b.nodes }

/-- What a declaration gives names to. -/
def bindingTarget (g : Grammar) : Parse Binding := do
  if ← eatSign "[" then
    let hole : Parse Binding := do
      if ← atSign "," then return {} else bindingElement g
    return .join (← elementsTo g "]" hole).1
  else if ← eatSign "\x7b" then
    return .join (← elementsTo g "\x7d" (bindingProperty g)).1
  else return { names := [← name] }

/-! ## Parameters -/

structure Parameters where
  parts : List Node := []
  count : Nat := 0
  hasRest : Bool := false
  /-- the first one gives the type of the object called -/
  hasThis : Bool := false

/-- A parameter with its decorators and qualifying words. -/
def parameter (g : Grammar) : Parse Binding := do
  let ds ← decorators g
  let ms ← Modifier.all false false
  let allowed :=
    if ← isTyped then ["private", "protected", "public", "readonly", "override"] else []
  Modifier.check ms allowed
  let b ← bindingElement g
  return { b with nodes := ds ++ b.nodes }

/-- Parameters in round brackets. -/
def parameters (g : Grammar) : Parse Parameters := do
  expectSign "("
  let hasThis := (← isTyped) && (← atWord "this")
  let own ←
    if hasThis then do
      advance
      let type ← annotation g
      unless ← atSign ")" do expectSign ","
      pure type
    else pure []
  let (list, hasRest) ← elementsTo g ")" (parameter g)
  let rests := if hasRest then 1 else 0
  return ⟨own ++ (Binding.join list).nodes, list.length - rests, hasRest, hasThis⟩

end ImportSurvey.Script
