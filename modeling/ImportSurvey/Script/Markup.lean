import ImportSurvey.Script.Types

/-
  Markup: elements with tags, values in the tags, and text and elements between them.

  Inside an element nothing is scanned as elsewhere: names have dashes, a value in quotes has no
  escapes, and what stands between tags is text up to the next tag or brace.
-/
namespace ImportSurvey.Script.Markup

open Parse

/-- A name in a tag. -/
def word : Parse String := do
  match (← current).word? with
  | some w =>
    let rest := (← get).rest
    let n := tagNameRest rest
    modify fun s => { s with rest := rest.drop n, position := s.position + n }
    skipWord
    return w ++ .ofList (rest.take n)
  | none => giveUp

/-- The name of an element: a name of a space and one in it, or names joined by points. -/
def elementName : Parse String := do
  let first ← word
  if ← eatSign ":" then return first ++ ":" ++ (← word)
  let more ← many do
    if ← eatSign "." then return some ("." ++ (← word)) else return none
  return first ++ String.join more

/-- The value of a property of an element. -/
def value (g : Grammar) : Parse (List Node) := do
  let t ← current
  if t.isText then
    advance
    return []
  else if ← eatSign "\x7b" then
    if ← eatSign "\x7d" then
      fault
      return []
    let e ← expression g
    expectSign "\x7d"
    return [e.node]
  else if t.isSign "<" then return [← g.element false]
  else giveUp

def property (g : Grammar) : Parse (Option (List Node)) := do
  if ← eatSign "\x7b" then
    expectSign "..."
    let e ← expression g
    expectSign "\x7d"
    return some [e.node]
  else if (← current).word?.isSome then
    discard word
    if ← eatSign ":" then discard word
    if ← atSign "=" then
      if (← get).rest.head?.any isQuote then jump tagValue else advance
      return some (← value g)
    return some []
  else return none

/-- The last sign of a tag.  Where the tag stands between others, text follows it. -/
def endTag (inside : Bool) : Parse Unit := do
  require (← atSign ">")
  if inside then jump betweenTags else advance

/-- One thing between two tags; nothing at the tag that ends them. -/
def child (g : Grammar) : Parse (Option (List Node)) := do
  let t ← current
  match t.lexeme with
  | .prose =>
    jump betweenTags
    return some []
  | .sign "\x7b" =>
    advance
    let parts ←
      if ← atSign "\x7d" then pure []
      else do
        discard (eatSign "...")
        pure [(← expression g).node]
    require (← atSign "\x7d")
    jump betweenTags
    return some parts
  | .sign "<" =>
    if (← peek).isSign "/" then return none else return some [← g.element true]
  | _ => giveUp

/-- What stands between two tags, and the second of them, whose name is `name`. -/
def content (g : Grammar) (name : Option String) (inside : Bool) : Parse (List Node) := do
  jump betweenTags
  let children ← many (child g)
  expectSign "<"
  expectSign "/"
  match name with
  | some n => faultIf ((← elementName) != n)
  | none => pure ()
  endTag inside
  return children.flatten

/-- An element. -/
def element (g : Grammar) (inside : Bool) : Parse Node := do
  expectSign "<"
  if ← atSign ">" then return .group (← content g none inside)
  let name ← elementName
  let types ← Types.argumentsHere g
  let properties ← many (property g)
  let parts := types ++ properties.flatten
  if ← eatSign "/" then
    endTag inside
    return .group parts
  require (← atSign ">")
  return .group (parts ++ (← content g (some name) inside))

end ImportSurvey.Script.Markup
