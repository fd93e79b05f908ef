import ImportSurvey.Script.Declaration

/-
  Imports and exports.

  They may stand in any block and in any script; whoever runs the script may think otherwise, but what
  they refer to is plain.
-/
namespace ImportSurvey.Script.Linkage

open Parse

/-! ## Names that cross the border of a module -/

/-- A name as a module gives it to others: a word or a text. -/
def outerName : Parse Token := do
  let t ← current
  match t.lexeme with
  | .word .. => skipWord; return t
  | .text _ => advance; return t
  | _ => giveUp

def isOuterName (t : Token) : Bool := t.word?.isSome || t.isText

def nameText (t : Token) : String :=
  match t.lexeme with
  | .word w _ => w
  | .text s => s
  | _ => ""

/-- A name and what it is called on the other side. -/
structure Specifier where
  first : Token
  second : Token

/-- A name with `as` and another one behind it, or a name alone. -/
def renamed (first : Token) : Parse Specifier := do
  if ← eatWord "as" then return ⟨first, ← outerName⟩ else return ⟨first, first⟩

/-- A name among others in braces.  In a dialect with types the word `type` may stand before it, and a
name can be `type` or `as` all the same. -/
def specifier : Parse Specifier := do
  let first ← outerName
  if !(first.isWord "type" && (← isTyped)) then return ← renamed first
  if ← atWord "as" then
    let as1 ← outerName
    if ← atWord "as" then
      let as2 ← outerName
      if isOuterName (← current) then return ⟨as1, ← outerName⟩
      return ⟨first, as2⟩
    if isOuterName (← current) then return ⟨first, ← outerName⟩
    return ⟨as1, as1⟩
  if isOuterName (← current) then return ← renamed (← outerName)
  return ⟨first, first⟩

/-- What is said about a module besides its name: pairs of texts with different keys. -/
def attributes : Parse Unit := do
  let t ← current
  if !(t.isWord "with" || (t.isWord "assert" && !t.newline)) then return
  advance
  expectSign "\x7b"
  let keys ← listTo "\x7d" do
    let k ← outerName
    expectSign ":"
    discard literal
    return nameText k
  fault (keys.length - keys.eraseDups.length)

/-! ## Imports -/

/-- The names that an import declares, apart from the first, which is `default`. -/
def importedNames (default : Bool) : Parse Unit := do
  if default then
    if !(← eatSign ",") then return
  if ← eatSign "*" then
    expectWord "as"
    discard name
  else
    expectSign "\x7b"
    let ss ← listTo "\x7d" specifier
    require (ss.all (·.second.isName))

/-- Whether `type` before the current token qualifies an import and is not imported itself. -/
def qualifiesImport : Parse Bool := do
  let t ← current
  if t.isName then
    if t.isWord "from" then
      let after ← peek
      return after.isWord "from" || after.isSign "="
    else return true
  else return t.isSign "*" || t.isSign "\x7b"

/-- Whether `defer` or `source` before the current token says when a module is loaded. -/
def saysPhase (w : String) : Parse Bool := do
  let t ← current
  if w == "defer" then return t.isSign "*"
  else if w == "source" then
    return t.isName && (!t.isWord "from" || (← peek).isWord "from")
  else return false

/-- An import. -/
def importing : Parse Node := do
  expectWord "import"
  if (← current).isText then
    let source ← literal
    attributes
    endStatement
    return .importFrom false source
  let named : Parse (Option String) := do
    if ← atName then return some (← name) else return none
  let first ← named
  let typeOnly ←
    if first == some "type" && (← isTyped) then qualifiesImport else pure false
  let early ← saysPhase (first.getD "")
  let default ← if typeOnly || early then named else pure first
  if default.isSome && !(← atSign ",") && !(← atWord "from") then
    return ← Declaration.importEquals typeOnly
  importedNames default.isSome
  expectWord "from"
  let source ← literal
  attributes
  endStatement
  return .importFrom typeOnly source

/-! ## Exports -/

/-- Keeps what is exported under which names.  A plain script exports each name once. -/
def exportNames (names : List String) : Parse Unit := do
  let typed ← isTyped
  for n in names do
    faultIf (!typed && (← get).exported.contains n)
    modify fun s => { s with exported := n :: s.exported }

/-- Whether a name can be exported that this module declares. -/
def isLocalName (t : Token) : Bool :=
  match t.lexeme with
  | .word w _ => !isReserved w && !strictWords.contains w
  | _ => false

/-- Names in braces, from this module or from another one. -/
def exportBraces (typeOnly : Bool) : Parse Node := do
  expectSign "\x7b"
  let ss ← listTo "\x7d" specifier
  exportNames (ss.map fun s => nameText s.second)
  let t ← current
  let source ←
    if t.isWord "from" then do
      advance
      let after ← current
      match after.lexeme with
      | .text _ => do
        let l ← literal
        attributes
        pure (some l)
      | .number => giveUp
      | _ => pure none
    else pure none
  if source.isNone then
    fault (ss.filter fun s => !isLocalName s.first).length
  endStatement
  return .exportNamed typeOnly source []

/-- All names of another module, or that module under one name. -/
def exportStar (typeOnly : Bool) : Parse Node := do
  expectSign "*"
  if ← eatWord "as" then exportNames [nameText (← outerName)]
  expectWord "from"
  let source ← literal
  attributes
  endStatement
  return .exportAll typeOnly source

/-- What a module stands for by itself. -/
def exportDefault (g : Grammar) (before : List Node) : Parse Node := do
  expectWord "default"
  exportNames ["default"]
  let ds := before ++ (← decorators g)
  let t ← current
  let after ← peek
  let typed ← isTyped
  if t.isWord "class" then return .group (ds ++ (← Class.whole g).2)
  else if t.isWord "abstract" && after.isWord "class" && typed && !after.newline then
    advance
    return .group (ds ++ (← Class.whole g).2)
  else if t.isWord "interface" && typed && after.isName && !after.newline then
    return (← Declaration.interface g).node
  else if t.isWord "function" || (t.isWord "async" && after.isWord "function" && !after.newline) then
    return (← Function.whole g false true false).node
  else
    let e ← g.assignment true
    endStatement
    return e.node

/-- An export of what is declared in it. -/
def exportDeclared (g : Grammar) (before : List Node) : Parse Node := do
  let ds := before ++ (← decorators g)
  let d ← Declaration.whole g ds
  exportNames d.names
  return .exportNamed false none [d.node]

/-- An export, with the decorators that stand before it. -/
def exporting (g : Grammar) (before : List Node) : Parse Node := do
  expectWord "export"
  let t ← current
  let after ← peek
  let typed ← isTyped
  if t.isWord "default" then exportDefault g before
  else if t.isSign "*" then exportStar false
  else if t.isSign "\x7b" then exportBraces false
  else if t.isSign "=" && typed then
    advance
    let e ← g.assignment true
    endStatement
    return e.node
  else if t.isWord "as" && after.isWord "namespace" && typed then
    advance
    advance
    discard name
    endStatement
    return .group []
  else if t.isWord "type" && after.isSign "\x7b" && typed then
    advance
    exportBraces true
  else if t.isWord "type" && after.isSign "*" && typed then
    advance
    exportStar true
  else if t.isWord "import" then
    return .exportNamed false none [(← Declaration.namedImport).node]
  else exportDeclared g before

end ImportSurvey.Script.Linkage
