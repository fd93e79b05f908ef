import ImportSurvey.Script.Expression

/-
  Declarations: variables, functions, classes, and what only the dialects with types have.
-/
namespace ImportSurvey.Script.Declaration

open Parse

/-- A declaration and the names it declares. -/
structure Declared where
  node : Node
  names : List String := []

/-! ## Variables -/

/-- Variables that are declared together, and how many of them lack a value that they need. -/
structure Variables where
  nodes : List Node := []
  names : List String := []
  lacking : Nat := 0

/-- One variable.  A constant needs a value, and so does a pattern. -/
def declarator (g : Grammar) (constant : Bool) : Parse Variables := do
  let isName ← atName
  let target ← g.pattern
  if ← isTyped then
    if isName && !(← onNewLine) then discard (eatSign "!")
    discard (eatSign "?")
  let type ← annotation g
  if ← eatSign "=" then
    let value ← g.assignment true
    return ⟨target.nodes ++ type ++ [value.node], target.names, 0⟩
  return ⟨target.nodes ++ type, target.names, if constant || !isName then 1 else 0⟩

/-- The variables after the word that declares them. -/
def variableList (g : Grammar) (constant : Bool) : Parse Variables := do
  let first ← declarator g constant
  let more ← many do
    if ← eatSign "," then return some (← declarator g constant) else return none
  let all := first :: more
  return ⟨all.flatMap (·.nodes), all.flatMap (·.names), all.foldr (fun v n => v.lacking + n) 0⟩

/-- Counts the variables that lack a value, where variables have values. -/
def checkValues (vs : Variables) : Parse Unit := do
  unless (← read).ambient do fault vs.lacking

/-- A statement that declares variables, from the word that declares them on. -/
def variableStatement (g : Grammar) (site : Site) : Parse Declared := do
  let t ← current
  advance
  let vs ← variableList g (!(t.isWord "var" || t.isWord "let"))
  checkValues vs
  faultIf (site == .single && !t.isWord "var")
  endStatement
  return ⟨.group vs.nodes, vs.names⟩

/-! ## Types -/

def typeAlias (g : Grammar) : Parse Declared := do
  expectWord "type"
  let n ← name
  let ps ← Types.parameters g
  expectSign "="
  let t ← g.type
  endStatement
  return ⟨.group (ps ++ t), [n]⟩

def interface (g : Grammar) : Parse Declared := do
  expectWord "interface"
  let n ← name
  let ps ← Types.parameters g
  let bases ← Class.heritage g true
  let members ← Types.members g
  return ⟨.group (ps ++ bases ++ members), [n]⟩

/-- The key of a member of an enumeration, which is a word or a text. -/
def enumKey (g : Grammar) : Parse (List Node) := do
  let t ← current
  let k ← key g
  let plain :=
    match t.lexeme, k.parts with
    | .number, _ => false
    | .sign _, [.text _] | .sign _, [.template _] => true
    | .sign _, _ => false
    | _, _ => true
  faultIf !plain
  return k.parts

def enumeration (g : Grammar) : Parse Declared := do
  expectWord "enum"
  let n ← name
  expectSign "\x7b"
  let members ← listTo "\x7d" do
    let k ← enumKey g
    return k ++ (← initializer g)
  return ⟨.group members.flatten, [n]⟩

/-! ## Spaces of names -/

/-- A space of names, a module that is described here, or additions to the names known everywhere. -/
def space (g : Grammar) : Parse Declared := do
  if ← eatWord "global" then return ⟨← Function.block g, []⟩
  advance
  if (← current).isText then
    advance
    if ← atSign "\x7b" then return ⟨← Function.block g, []⟩
    endStatement
    return ⟨.group [], []⟩
  let n ← name
  discard <| many do
    if ← eatSign "." then return some (← anyWord) else return none
  return ⟨← Function.block g, [n]⟩

/-! ## Names for other modules -/

/-- What an import gives its name to, from `=` on.  Only a dialect with types has such an import. -/
def importEquals (typeOnly : Bool) : Parse Node := do
  expectSign "="
  let source ←
    if (← atWord "require") && (← peek).isSign "(" then do
      advance
      advance
      let l ← literal
      expectSign ")"
      pure (some l)
    else do
      Types.path
      pure none
  endStatement
  faultIf !(← isTyped)
  return .importEquals typeOnly source

/-- An import with `=`, from its first word on. -/
def namedImport : Parse Declared := do
  expectWord "import"
  let typeOnly ← if (← atWord "type") && (← peek).isName then eatWord "type" else pure false
  let n ← name
  return ⟨← importEquals typeOnly, [n]⟩

/-! ## Declarations with qualifying words -/

/-- Whether a declaration starts here that only a dialect with types has. -/
def startsTyped : Nat → Parse Bool
  | 0 => return false
  | n + 1 => do
    match (← current).word? with
    | none => return false
    | some w =>
      if ["var", "let", "const", "function", "class", "enum"].contains w then return true
      advance
      let t ← current
      if w == "interface" || w == "type" then return t.isName && !t.newline
      else if w == "module" || w == "namespace" then return (t.isName || t.isText) && !t.newline
      else if w == "global" then return t.isName || t.isSign "\x7b" || t.isWord "export"
      else if w == "import" then return t.isText || t.isSign "*" || t.isSign "\x7b" || t.isName
      else if w == "export" then
        return t.isSign "=" || t.isSign "*" || t.isSign "\x7b" || t.isSign "@" || t.isWord "default" ||
          t.isWord "as"
      else if w == "static" then startsTyped n
      else if ["abstract", "accessor", "async", "declare", "private", "protected", "public",
          "readonly"].contains w then
        if t.newline then return false else startsTyped n
      else return false

/-- A function; one that only declares has no body. -/
def function (g : Grammar) (modifiers : List String) : Parse Declared := do
  Modifier.check modifiers ["declare", "async"]
  let f ← Function.whole g (modifiers.contains "async") true true
  faultIf (modifiers.contains "declare" && f.hasBody)
  return ⟨f.node, f.name.toList⟩

def classDeclaration (g : Grammar) (modifiers : List String) (decorators : List Node) : Parse Declared := do
  let (n, parts) ← Class.whole g
  Modifier.check modifiers ["declare", "abstract"]
  return ⟨.group (decorators ++ parts), n.toList⟩

/-- A declaration after its qualifying words and decorators. -/
def qualified (g : Grammar) (modifiers : List String) (decorators : List Node) : Parse Declared := do
  let declares := modifiers.contains "declare"
  within (fun c => { c with ambient := c.ambient || declares }) do
    let typed ← isTyped
    let t ← current
    match t.word? with
    | some w =>
      if w == "class" then classDeclaration g modifiers decorators
      else if w == "function" || w == "async" then function g modifiers
      else if w == "const" && typed && (← peek).isWord "enum" then
        advance
        enumeration g
      else if w == "var" || w == "let" || w == "const" then
        Modifier.check modifiers ["declare"]
        variableStatement g .list
      else if !typed then giveUp
      else if w == "import" then namedImport
      else
        Modifier.check modifiers ["declare", "const"]
        if w == "type" then typeAlias g
        else if w == "interface" then interface g
        else if w == "enum" then enumeration g
        else if w == "namespace" || w == "module" || w == "global" then space g
        else giveUp
    | none => giveUp

/-- A declaration with its qualifying words, which only a dialect with types has. -/
def whole (g : Grammar) (decorators : List Node) : Parse Declared := do
  let modifiers ← if ← isTyped then Modifier.all false false else pure []
  qualified g modifiers decorators

end ImportSurvey.Script.Declaration
