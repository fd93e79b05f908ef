import ImportSurvey.Script.Class
import ImportSurvey.Script.Markup

/-
  Expressions.

  Three questions cannot be answered at the first token.  Whether a list or an object is a pattern shows
  at the `=` behind it, so a `Form` goes with every expression.  Whether round brackets hold parameters
  shows at the arrow behind them: a look at a few tokens decides most cases, and for the others both
  readings are tried, parameters first.  Whether `<` compares or opens types is decided by what follows
  the `>`.
-/
namespace ImportSurvey.Script.Expression

open Parse

/-! ## Literals of lists and objects -/

/-- A part of a list or an object. -/
structure Part where
  nodes : List Node := []
  /-- it can be part of a pattern -/
  sound : Bool := true
  /-- how many properties in it have a default and wait for a pattern -/
  pending : Nat := 0
  /-- it takes all that is left, if it is part of a pattern -/
  isRest : Bool := false

namespace Part

def ofPhrase (e : Phrase) : Part := ⟨[e.node], e.form.isElement, e.form.pending, false⟩

def ofRest (e : Phrase) : Part := ⟨[.group [e.node]], e.form.isTarget, e.form.pending, true⟩

/-- What the parts together could be: a pattern if each of them can be part of one, and only the last
one takes all that is left. -/
def form (ps : List Part) : Form :=
  .pattern (ps.all (·.sound) && ps.dropLast.all (!·.isRest)) (ps.foldr (fun p n => p.pending + n) 0)

end Part

def listPart (g : Grammar) : Parse Part := do
  if ← atSign "," then return {}
  if ← eatSign "..." then return .ofRest (← g.assignment true)
  return .ofPhrase (← g.assignment true)

def list (g : Grammar) : Parse Phrase := do
  expectSign "["
  let ps ← freely (listTo "]" (listPart g))
  return ⟨.array (ps.flatMap (·.nodes)), Part.form ps⟩

/-- A property that has the name of its value. -/
def shorthand (g : Grammar) (k : Key) : Parse Part := do
  let w := k.text.getD ""
  checkName w
  if ← eatSign "=" then
    let e ← g.assignment true
    modify fun s => { s with pending := s.pending + 1 }
    return ⟨[.name w, e.node], true, 1, false⟩
  return ⟨[.name w], true, 0, false⟩

def objectPart (g : Grammar) : Parse Part := do
  if ← eatSign "..." then return .ofRest (← g.assignment true)
  let ms ← Modifier.all false false
  if ← Types.eatAccess "get" then
    let k ← key g
    let p ← Function.parts g false false
    faultIf (p.parameters.count != 0)
    return ⟨k.parts ++ p.nodes, false, 0, false⟩
  if ← Types.eatAccess "set" then
    let k ← key g
    let p ← Function.parts g false false
    faultIf (p.parameters.hasRest || p.parameters.count != 1)
    return ⟨k.parts ++ p.nodes, false, 0, false⟩
  let isGenerator ← eatSign "*"
  let k ← key g
  if isGenerator || (← atSign "(") || (← atSign "<") then
    Modifier.check ms ["async"]
    let p ← Function.parts g (ms.contains "async") isGenerator
    return ⟨k.parts ++ p.nodes, false, 0, false⟩
  Modifier.check ms []
  let c ← read
  let named := k.isName && !(c.allowAwait && k.isNamed "await") && !(c.allowYield && k.isNamed "yield")
  if named && !(← atSign ":") then shorthand g k
  else
    expectSign ":"
    let e ← g.assignment true
    return { Part.ofPhrase e with nodes := k.parts ++ [e.node] }

def object (g : Grammar) : Parse Phrase := do
  expectSign "\x7b"
  let ps ← freely (listTo "\x7d" (objectPart g))
  return ⟨.group (ps.flatMap (·.nodes)), Part.form ps⟩

/-! ## Calls and members -/

/-- The substitution of a template. -/
def substitution (g : Grammar) : Parse (List Node) := return [(← freely (expression g)).node]

/-- Arguments in round brackets. -/
def arguments (g : Grammar) : Parse (List Node) := do
  expectSign "("
  freely <| listTo ")" do
    if ← eatSign "..." then return .group [(← g.assignment true).node]
    return (← g.assignment true).node

/-- A value with all that was applied to it so far. -/
structure Chain where
  node : Node
  form : Form
  /-- types, which may belong to a call -/
  types : Option (List Node) := none
  /-- some part is left out if the value before it is missing -/
  isOptional : Bool := false

namespace Chain

/-- The value itself, when the types belong to no call. -/
def settled (c : Chain) : Node :=
  match c.types with
  | some ts => .group (c.node :: ts)
  | none => c.node

def phrase (c : Chain) : Phrase :=
  ⟨c.settled, if c.isOptional || c.types.isSome then .other else c.form⟩

/-- Goes on with a value made of the one so far. -/
def step (c : Chain) (node : Node) (form : Form) : Chain := ⟨node, form, none, c.isOptional⟩

end Chain

/-- A member after its point. -/
def namedMember (c : Chain) : Parse Chain := do
  match (← current).lexeme with
  | .privateWord _ =>
    advance
    return c.step (.group [c.settled]) .place
  | _ => return c.step (.member c.settled (← anyWord)) .place

/-- A member in square brackets. -/
def computedMember (g : Grammar) (c : Chain) : Parse Chain := do
  expectSign "["
  let e ← freely (expression g)
  expectSign "]"
  return c.step (.group [c.settled, e.node]) .place

/-- A template after a tag. -/
def tagged (g : Grammar) (c : Chain) : Parse Chain := do
  faultIf c.isOptional
  let t ← template true (substitution g)
  return c.step (.group (c.node :: c.types.getD [] ++ [.group [t]])) .other

/-- One more member, template, mark or list of types; nothing if none follows.  A constructor is
looked up without optional links. -/
def nextMember (g : Grammar) (constructing : Bool) (c : Chain) : Parse (Option Chain) := do
  let t ← current
  let typed ← isTyped
  let decorating := (← read).decorating
  if t.isSign "." then
    advance
    return some (← namedMember c)
  if t.isSign "?." && !constructing then
    let after ← peek
    let optional := { c with isOptional := true }
    match after.lexeme with
    | .word .. | .privateWord _ =>
      advance
      return some (← namedMember optional)
    | .sign "[" =>
      if decorating then return none
      advance
      return some (← computedMember g optional)
    | _ => return none
  if t.isSign "[" && !decorating then return some (← computedMember g c)
  if t.isSign "!" && typed && !t.newline then
    advance
    return some (c.step (.group [c.settled]) c.phrase.form.wrapped)
  if t.startsTemplate then return some (← tagged g c)
  if typed && (t.isSign "<" || t.isSign "<<") then
    match ← attempt (Types.argumentsInExpression g) with
    | some ts => return some ⟨c.settled, c.form, some ts, c.isOptional⟩
    | none => return none
  return none

def membersOf (g : Grammar) (constructing : Bool) : Nat → Chain → Parse Chain
  | 0, _ => giveUp
  | n + 1, c => do
    match ← nextMember g constructing c with
    | some c => membersOf g constructing n c
    | none => return c

/-- Calls, and members of what they return. -/
def callsOf (g : Grammar) : Nat → Chain → Parse Chain
  | 0, _ => giveUp
  | n + 1, c => do
    let c ← membersOf g false (← bound) c
    if ← eatSign "?." then
      let types ← attempt (Types.argumentsInExpression g)
      let c : Chain := ⟨c.settled, c.form, types, true⟩
      if (← current).startsTemplate then callsOf g n (← tagged g c)
      else
        let args ← arguments g
        callsOf g n (c.step (.call c.node (types.getD []) args) .other)
    else if ← atSign "(" then
      let args ← arguments g
      callsOf g n (c.step (.call c.node (c.types.getD []) args) .other)
    else return c

/-- A call, a member or less. -/
def access (g : Grammar) : Parse Phrase := do
  let p ← g.primary
  return (← callsOf g (← bound) ⟨p.node, p.form, none, false⟩).phrase

/-! ## Primary expressions -/

/-- A call of a constructor, or the constructor that was called. -/
def construction (g : Grammar) : Parse Phrase := do
  expectWord "new"
  if ← eatSign "." then
    expectWord "target"
    return .value []
  let p ← g.primary
  let c ← membersOf g true (← bound) ⟨p.node, p.form, none, false⟩
  let args ← if ← atSign "(" then arguments g else pure []
  faultIf (c.form == .importing)
  faultIf (← atSign "?.")
  return .value (c.node :: c.types.getD [] ++ args)

/-- A module loaded while the program runs. -/
def loaded (g : Grammar) : Parse Phrase := do
  expectSign "("
  freely do
    let source ← g.assignment true
    let options ←
      if (← eatSign ",") && !(← atSign ")") then do
        let e ← g.assignment true
        discard (eatSign ",")
        pure [e.node]
      else pure []
    expectSign ")"
    return ⟨.importCall source.node options, .importing⟩

/-- An expression that starts with `import`. -/
def importing (g : Grammar) : Parse Phrase := do
  expectWord "import"
  if ← eatSign "." then
    if ← eatWord "meta" then return .value []
    let phase ← anyWord
    require (phase == "source" || phase == "defer")
  loaded g

/-- Expressions in round brackets. -/
def bracket (g : Grammar) : Parse Phrase := do
  expectSign "("
  let (es, trailing) ← freely (listUntil (eatSign ")") (g.assignment true))
  require !trailing
  match es with
  | [] => giveUp
  | [e] => return ⟨.group [e.node], e.form.wrapped⟩
  | es => return .value (es.map (·.node))

/-- A regular expression, whose slash is the current token. -/
def regularExpression (back : List Char) : Parse Phrase := do
  rescan regex back
  require ((← current).lexeme == .regex)
  advance
  return .value []

def primary (g : Grammar) : Parse Phrase := do
  let t ← current
  match t.lexeme with
  | .text v => advance; return ⟨.text ⟨v, t.start⟩, .other⟩
  | .number => advance; return .value []
  | .template _ | .templateHead _ => return ⟨← template false (substitution g), .other⟩
  | .sign "[" => list g
  | .sign "\x7b" => object g
  | .sign "(" => bracket g
  | .sign "/" => regularExpression []
  | .sign "/=" => regularExpression ['=']
  | .sign "@" =>
    let ds ← decorators g
    let (_, c) ← Class.whole g
    return .value (ds ++ c)
  | .word w _ =>
    if w == "function" then return .value [(← Function.whole g false false false).node]
    else if w == "class" then return .value (← Class.whole g).2
    else if w == "new" then construction g
    else if w == "import" then importing g
    else if w == "this" || w == "null" || w == "true" || w == "false" then
      advance
      return .value []
    else if w == "super" then
      advance
      let next ← current
      faultIf !(next.isSign "." || next.isSign "[" || next.isSign "(")
      return .value []
    else if w == "async" then
      let after ← peek
      if after.isWord "function" && !after.newline then
        return .value [(← Function.whole g false false false).node]
      return ⟨.name (← name), .name⟩
    else return ⟨.name (← name), .name⟩
  | _ => giveUp

/-! ## Operators -/

/-- Whether a word that can be an operator has an operand on its line. -/
def hasOperand (w : String) : Parse Bool := do
  if ← atWord w then
    let after ← peek
    match after.lexeme with
    | .word .. | .number | .text _ => return !after.newline
    | _ => return false
  else return false

def awaited (g : Grammar) : Parse Phrase := do
  faultIf !(← read).allowAwait
  advance
  let e ← within (fun c => { c with allowAwait := true }) g.unary
  return ⟨.group [e.node], .signed⟩

/-- An operand with operators before or behind it. -/
def unary (g : Grammar) : Parse Phrase := do
  let t ← current
  match t.lexeme with
  | .sign "++" | .sign "--" =>
    advance
    let e ← g.unary
    require e.form.isSimple
    return .value [e.node]
  | .sign "+" | .sign "-" | .sign "!" | .sign "~" | .word "typeof" _ | .word "void" _
  | .word "delete" _ =>
    advance
    let e ← g.unary
    return ⟨.group [e.node], .signed⟩
  | .sign "<" =>
    if (← read).dialect.markup then return .value [← g.element false]
    require (← isTyped)
    advance
    let types ← g.type
    expectSign ">"
    let e ← g.unary
    return ⟨.group (types ++ [e.node]), e.form.wrapped⟩
  | _ =>
    if (← atWord "await") && ((← read).allowAwait || (← hasOperand "await")) then awaited g
    else
      let e ← access g
      let after ← current
      if (after.isSign "++" || after.isSign "--") && !after.newline then
        require e.form.isSimple
        advance
        return .value [e.node]
      return e

/-- How tight an operator between two operands binds. -/
def rank? (t : Token) : Option Nat :=
  match t.lexeme with
  | .sign s =>
    match s with
    | "??" => some 1
    | "||" => some 2
    | "&&" => some 3
    | "|" => some 4
    | "^" => some 5
    | "&" => some 6
    | "==" | "!=" | "===" | "!==" => some 7
    | "<" | ">" | "<=" | ">=" => some 8
    | "<<" | ">>" | ">>>" => some 9
    | "+" | "-" => some 10
    | "*" | "/" | "%" => some 11
    | "**" => some 12
    | _ => none
  | .word "instanceof" _ | .word "in" _ | .word "as" _ | .word "satisfies" _ => some 8
  | _ => none

/-- Two operands and what stands between them.  `??` does not mix with the other choices, and a power
has no sign before its base. -/
def combined (operator : Token) (a b : Phrase) : Parse Phrase := do
  faultIf (operator.isSign "??" && (a.form == .choice || b.form == .choice))
  faultIf (operator.isSign "**" && a.form == .signed)
  let form : Form := if operator.isSign "||" || operator.isSign "&&" then .choice else .other
  return ⟨.group [a.node, b.node], form⟩

/-- What follows an operand, as long as it binds tighter than `least`; a power also if it binds as
tight. -/
def operationRest (g : Grammar) (least : Nat) : Nat → Phrase → Parse Phrase
  | 0, _ => giveUp
  | n + 1, a => do
    joinGreater
    let t ← current
    match rank? t with
    | none => return a
    | some r =>
      if r < least || (r == least && !t.isSign "**") then return a
      if t.isWord "in" && !(← read).allowIn then return a
      if t.isWord "as" || t.isWord "satisfies" then
        if t.newline then return a
        advance
        let types ← g.type
        faultIf !(← isTyped)
        operationRest g least n ⟨.group (a.node :: types), a.form.wrapped⟩
      else
        advance
        let b ← g.operation r
        operationRest g least n (← combined t a b)

/-- Operands joined by operators that bind tighter than `least`. -/
def operation (g : Grammar) (least : Nat) : Parse Phrase := do
  let c ← read
  let first ←
    match (← current).lexeme with
    | .privateWord _ => do
      require c.allowIn
      advance
      expectWord "in"
      pure (Phrase.value [(← g.operation 8).node])
    | _ => unary g
  operationRest g least (← bound) first

/-! ## Arrow functions -/

/-- What a look ahead tells about an arrow function. -/
inductive Guess where
  | yes
  | no
  | perhaps
deriving DecidableEq, Repr

/-- After `(` and a name: whether the name is that of a parameter. -/
def guessParameter : Parse Guess := do
  let t ← current
  if t.isSign ":" then return .yes
  else if t.isSign "?" then
    let after ← peek
    if after.isSign ":" || after.isSign "," || after.isSign "=" || after.isSign ")" then return .yes
    else return .no
  else if t.isSign "," || t.isSign "=" || t.isSign ")" then return .perhaps
  else return .no

/-- Whether the brackets that open before the current token hold parameters. -/
def guessBrackets : Parse Guess := do
  let t ← current
  if t.isSign ")" then
    let after ← peek
    if after.isSign "=>" || after.isSign ":" || after.isSign "\x7b" then return .yes
    else return .no
  else if t.isSign "[" || t.isSign "\x7b" then return .perhaps
  else if t.isSign "..." then return .yes
  else
    let after ← peek
    if t.isModifier && !t.isWord "async" && after.isName then
      if after.isWord "as" then return .no else return .yes
    else if !t.isName && !t.isWord "this" then return .no
    else
      advance
      guessParameter

/-- Whether the types that open before the current token belong to an arrow function. -/
def guessTypes : Parse Guess := do
  let t ← current
  if !t.isName && !t.isWord "const" then return .no
  if (← read).dialect.markup then
    discard (eatWord "const")
    advance
    if ← eatWord "extends" then
      if (← atSign "=") || (← atSign ">") || (← atSign "/") then return .no else return .yes
    else if (← atSign ",") || (← atSign "=") then return .yes
    else return .no
  return .perhaps

/-- Whether an arrow function with brackets starts here. -/
def guess : Parse Guess := do
  if ← eatWord "async" then
    if ← onNewLine then return .no
  let t ← current
  advance
  if t.isSign "(" then guessBrackets
  else if t.isSign "<" then guessTypes
  else return .no

/-- An arrow function whose brackets are known to be its own. -/
def bracketArrow (g : Grammar) : Parse Phrase := do
  let h ← Function.head g
  return .value (h.nodes ++ [← Function.arrowBody g h.isAsync true])

/-- What an arrow function does, where its head named the type of the result.  Where a colon can
follow, `returnType` is false, and what looks like that type is one only if another colon follows. -/
def typedBody (g : Grammar) (h : Function.Head) (returnType : Bool) : Parse (Option Node) := do
  if returnType || !h.hasResult then return none
  let b ← Function.arrowBody g h.isAsync false
  require (← atSign ":")
  return some b

/-- An arrow function if the brackets that start here turn out to be its own.  Brackets in brackets are
tried again after each outer pair has failed, so failures are kept in mind: otherwise the tries double
with every level.  Only those ahead of a try that nothing contains can matter later. -/
def tryArrow (g : Grammar) (returnType : Bool) : Parse (Option Phrase) := do
  let start := (← current).start
  if (← get).plainBrackets.contains start then return none
  unless (← read).tentative do
    modify fun s => { s with plainBrackets := s.plainBrackets.filter fun p => p > start }
  let found ← attempt <| within (fun c => { c with tentative := true }) do
    let h ← Function.head g
    return (h, ← typedBody g h returnType)
  match found with
  | none =>
    modify fun s => { s with plainBrackets := start :: s.plainBrackets }
    return none
  | some (h, some b) => return some (.value (h.nodes ++ [b]))
  | some (h, none) => return some (.value (h.nodes ++ [← Function.arrowBody g h.isAsync returnType]))

/-- An arrow function with brackets, if one starts here. -/
def arrow? (g : Grammar) (returnType : Bool) : Parse (Option Phrase) := do
  let t ← current
  if !(t.isSign "(" || t.isSign "<" || t.isWord "async") then return none
  match (← ahead guess).getD .no with
  | .no => return none
  | .yes => return some (← bracketArrow g)
  | .perhaps => tryArrow g returnType

/-- Whether `async`, a name and an arrow follow each other on one line. -/
def startsAsyncArrow : Parse Bool := do
  advance
  let t ← current
  if t.newline || !t.isName then return false
  let after ← peek
  return after.isSign "=>" && !after.newline

/-- The arrow of a function whose one parameter was read, and what the function does. -/
def arrowAfter (g : Grammar) (isAsync returnType : Bool) : Parse Phrase := do
  faultIf (← onNewLine)
  expectSign "=>"
  return .value [← Function.arrowBody g isAsync returnType]

/-! ## Assignments -/

/-- The value that a generator yields. -/
def yielded (g : Grammar) : Parse Phrase := do
  faultIf !(← read).allowYield
  advance
  if ← onNewLine then return .value []
  let delegates ← eatSign "*"
  let t ← current
  let ends := t.isEnd || t.isWord "in" ||
    [";", "\x7d", ")", "]", ":", ","].any t.isSign
  if ends && !delegates then return .value []
  return .value [(← g.assignment true).node]

def assignmentSigns : List String := [
  "=", "+=", "-=", "*=", "**=", "/=", "%=", "<<=", ">>=", ">>>=", "&=", "|=", "^=", "&&=", "||=",
  "??="]

/-- What follows the left side of an assignment, which becomes a pattern if it can. -/
def assigned (g : Grammar) (returnType : Bool) (left : Phrase) : Parse Phrase := do
  let plain ← atSign "="
  require (if plain then left.form.isTarget else left.form.isSimple)
  if plain then modify fun s => { s with pending := s.pending - left.form.pending }
  advance
  let right ← g.assignment returnType
  return ⟨.group [left.node, right.node], if plain then .assigned else .other⟩

/-- A choice between two values, or its first part alone. -/
def conditional (g : Grammar) (returnType : Bool) (test : Phrase) : Parse Phrase := do
  if !(← eatSign "?") then return test
  let yes ← within (fun c => { c with allowIn := true }) (g.assignment false)
  expectSign ":"
  let no ← g.assignment returnType
  return .value [test.node, yes.node, no.node]

/-- An expression without commas. -/
def assignment (g : Grammar) (returnType : Bool) : Parse Phrase := do
  if (← atWord "yield") && ((← read).allowYield || (← hasOperand "yield")) then return ← yielded g
  if let some arrow ← arrow? g returnType then return arrow
  if (← atWord "async") && (← looksLike startsAsyncArrow) then
    advance
    discard name
    return ← arrowAfter g true returnType
  let left ← operation g 0
  let t ← current
  if left.form == .name && t.isSign "=>" then arrowAfter g false returnType
  else if assignmentSigns.any t.isSign then assigned g returnType left
  else conditional g returnType left

end ImportSurvey.Script.Expression
