import ImportSurvey.Regex.Property

/-
  Reading the text of a regular expression.

  The dialect has no look-around and no back-references, and a text that asks for them is refused, as is
  every escape without a meaning.  Flags are resolved while reading: the state carries those in force,
  a group restores them at its end, and each piece read is already what the flags make of it.

  All readers take a fuel argument that bounds the depth of calls.  Every call made between two
  characters is counted, and `Regex.read?` starts with several per character, so the fuel runs out for
  no text.
-/
namespace ImportSurvey.Regex

/-- Why a text is no regular expression. -/
inductive Fault where
  | unclosedGroup
  | unopenedGroup
  | unclosedClass
  | danglingBackslash
  | unknownEscape
  | backReference
  | lookAround
  | badHex
  | unknownProperty
  | nothingToRepeat
  | badCount
  | badFlag
  | badGroupName
  | badRange
  | badWordBoundary
  | invalidUtf8
  | nestedTooDeep
  | tooLarge
deriving Repr, DecidableEq

def Fault.reason : Fault → String
  | .unclosedGroup => "unclosed group"
  | .unopenedGroup => "unopened group"
  | .unclosedClass => "unclosed character class"
  | .danglingBackslash => "incomplete escape sequence, reached end of pattern prematurely"
  | .unknownEscape => "unrecognized escape sequence"
  | .backReference => "backreferences are not supported"
  | .lookAround => "look-around, including look-ahead and look-behind, is not supported"
  | .badHex => "invalid hexadecimal digit or code point"
  | .unknownProperty => "Unicode property not found"
  | .nothingToRepeat => "repetition operator missing expression"
  | .badCount => "invalid repetition count"
  | .badFlag => "invalid flag"
  | .badGroupName => "invalid capture group name"
  | .badRange => "invalid character class range"
  | .badWordBoundary => "unclosed or unrecognized word boundary assertion"
  | .invalidUtf8 => "pattern can match invalid UTF-8"
  | .nestedTooDeep => "exceeded the maximum number of nested parentheses/brackets (250)"
  | .tooLarge => "Compiled regex exceeds size limit of 10485760 bytes."

/-- The message of a fault, for a pattern given as text. -/
def Fault.message (pattern : String) : Fault → String
  | .tooLarge => Fault.tooLarge.reason
  | f => "regex parse error:\n    " ++ pattern ++ "\nerror: " ++ f.reason

structure Flags where
  ignoreCase : Bool := false
  multiLine : Bool := false
  dotNewline : Bool := false
  unicode : Bool := true
  crlf : Bool := false
  ignoreSpace : Bool := false

structure ReadState where
  rest : List Char
  flags : Flags := {}
  names : List (List Char) := []

abbrev Read := StateT ReadState (Except Fault)

/-- An expression with the depth of its nesting. -/
structure Piece where
  regex : Regex
  depth : Nat := 0
  /-- a repetition may follow -/
  repeatable : Bool := true

/-! ## Characters of the pattern -/

def fail (f : Fault) : Read α := throw f

def peek : Read (Option Char) := return (← get).rest.head?

def bump : Read Unit := modify fun s => { s with rest := s.rest.tail }

/-- Blanks and comments, where the flag says that they do not count. -/
def withoutSpace : List Char → List Char
  | [] => []
  | c :: rest =>
    if Unicode.isWhiteSpace c then withoutSpace rest
    else if c = '#' then comment rest
    else c :: rest
where
  comment : List Char → List Char
    | [] => []
    | c :: rest => if c = '\n' then withoutSpace rest else comment rest

def skipSpace : Read Unit := modify fun s =>
  if s.flags.ignoreSpace then { s with rest := withoutSpace s.rest } else s

def bumpSpace : Read Unit := do bump; skipSpace

/-- The character after the present one, blanks apart. -/
def peekNext : Read (Option Char) := do
  let s ← get
  return (if s.flags.ignoreSpace then withoutSpace s.rest.tail else s.rest.tail).head?

/-- Takes `text` off the front if it is there. -/
def eat (text : String) : Read Bool := do
  let s ← get
  if text.toList.isPrefixOf s.rest then
    set { s with rest := s.rest.drop text.length }
    return true
  return false

/-- The characters up to and without `stop`; absent if there is no `stop`. -/
def takeUntil (stop : Char) : Read (Option (List Char)) := do
  let s ← get
  match s.rest.dropWhile (· ≠ stop) with
  | [] => return none
  | _ :: after =>
    set { s with rest := after }
    return some (s.rest.takeWhile (· ≠ stop))

/-! ## Sets under flags -/

def foldSet (flags : Flags) (s : CharSet) : CharSet :=
  if !flags.ignoreCase then s else if flags.unicode then .folded s else .asciiFolded s

/-- A set as one step of the expression; without Unicode, a set that holds bytes beyond ASCII could
end inside a character and is refused. -/
def stepOf (flags : Flags) (s : CharSet) : Read Regex :=
  if !flags.unicode && (List.range 128).any (fun b => s.mem (Char.ofNat (b + 128))) then
    fail .invalidUtf8
  else return .chars s

def literal (flags : Flags) (c : Char) : Regex := .chars (foldSet flags (.single c))

def dot (flags : Flags) : Read Regex :=
  let lineEnds : CharSet := .ranges (if flags.crlf then [(10, 10), (13, 13)] else [(10, 10)])
  stepOf flags (if flags.dotNewline then .any else .complement lineEnds)

/-! ## Escapes -/

/-- What a backslash sequence stands for. -/
inductive Escape where
  | char (c : Char)
  | set (s : CharSet)
  | look (a : Look)

def isMeta (c : Char) : Bool :=
  ['\\', '.', '+', '*', '?', '(', ')', '|', '[', ']', '{', '}', '^', '$', '#', '&', '-', '~'].contains c

def hexValue (cs : List Char) : Option Nat :=
  cs.foldlM (fun n c => (Unicode.RangeSet.hexDigit? c).map (n * 16 + ·)) 0

def charOfCode (n : Nat) : Read Char :=
  if h : n.isValidChar then return Char.ofNatAux n h else fail .badHex

/-- `\x41`, `\u0041`, `\U00000041` and each with braces.  Two digits alone are a byte where there is no
Unicode. -/
def readHex (width : Nat) : Read Char := do
  skipSpace
  match ← peek with
  | none => fail .danglingBackslash
  | some '{' =>
    bump
    let some digits ← takeUntil '}' | fail .badHex
    let digits := if (← get).flags.ignoreSpace then digits.filter (!Unicode.isWhiteSpace ·) else digits
    if digits.isEmpty then fail .badHex
    let some n := hexValue digits | fail .badHex
    charOfCode n
  | some _ =>
    let s ← get
    let digits := s.rest.take width
    if digits.length < width then fail .badHex
    let some n := hexValue digits | fail .badHex
    set { s with rest := s.rest.drop width }
    if !s.flags.unicode && width = 2 && n > 127 then fail .invalidUtf8
    charOfCode n

/-- Splits at the first occurrence of `sep`. -/
def splitAt? (sep : List Char) : List Char → Option (List Char × List Char)
  | [] => none
  | c :: rest =>
    if sep.isPrefixOf (c :: rest) then some ([], (c :: rest).drop sep.length)
    else (splitAt? sep rest).map fun p => (c :: p.1, p.2)

/-- The property of `\p{…}` or `\pL`. -/
def readProperty (negated : Bool) : Read CharSet := do
  if !(← get).flags.unicode then fail .unknownProperty
  skipSpace
  let found : Option CharSet ← match ← peek with
    | none => fail .danglingBackslash
    | some '\\' => fail .unknownProperty
    | some '{' => do
      bump
      let some name ← takeUntil '}' | fail .danglingBackslash
      match splitAt? ['!', '='] name with
      | some (n, v) => pure ((propertyValue? (.ofList n) (.ofList v)).map .complement)
      | none =>
        match splitAt? [':'] name <|> splitAt? ['='] name with
        | some (n, v) => pure (propertyValue? (.ofList n) (.ofList v))
        | none => pure (property? (.ofList name))
    | some c => do
      bump
      pure (property? c.toString)
  match found with
  | none => fail .unknownProperty
  | some s =>
    let s := foldSet (← get).flags s
    return if negated then .complement s else s

/-- The words in braces after `\b`; a brace that no letter follows is left to the repetitions. -/
def readWordBoundary : Read Look := do
  let s ← get
  let u := s.flags.unicode
  match s.rest with
  | '{' :: rest =>
    let rest := if s.flags.ignoreSpace then withoutSpace rest else rest
    match rest with
    | [] => fail .badWordBoundary
    | c :: _ =>
      if !(c.isAlpha || c == '-') then return .wordBoundary u
      set { s with rest := rest }
      let some name ← takeUntil '}' | fail .badWordBoundary
      match String.ofList name with
      | "start" => return .wordStart u
      | "end" => return .wordEnd u
      | "start-half" => return .wordStartHalf u
      | "end-half" => return .wordEndHalf u
      | _ => fail .badWordBoundary
  | _ => return .wordBoundary u

/-- The sequence after a backslash. -/
def readEscape : Read Escape := do
  let some c ← peek | fail .danglingBackslash
  let u := (← get).flags.unicode
  bump
  if c.isDigit then fail .backReference
  if isMeta c then return .char c
  match c with
  | 'x' => return .char (← readHex 2)
  | 'u' => return .char (← readHex 4)
  | 'U' => return .char (← readHex 8)
  | 'p' => return .set (← readProperty false)
  | 'P' => return .set (← readProperty true)
  | 'd' | 's' | 'w' => return .set (shorthand c u)
  | 'D' | 'S' | 'W' => return .set (.complement (shorthand c.toLower u))
  | 'a' => return .char '\x07'
  | 'f' => return .char '\x0c'
  | 't' => return .char '\t'
  | 'n' => return .char '\n'
  | 'r' => return .char '\r'
  | 'v' => return .char '\x0b'
  | 'A' => return .look .textStart
  | 'z' => return .look .textEnd
  | 'b' => return .look (← readWordBoundary)
  | 'B' => return .look (.notWordBoundary u)
  | '<' => return .look (.wordStart u)
  | '>' => return .look (.wordEnd u)
  | _ =>
    if c.toNat < 128 && !c.isAlphanum then return .char c
    fail .unknownEscape

/-! ## Bracketed classes -/

inductive SetOp where
  | inter
  | diff
  | symmDiff

def SetOp.apply : SetOp → CharSet → CharSet → CharSet
  | .inter => .inter
  | .diff => .diff
  | .symmDiff => .symmDiff

/-- A bracketed class being read: the operation waiting for its right side, with its left side, and
the union of the items read since. -/
structure ClassState where
  pending : Option (SetOp × CharSet) := none
  items : CharSet := .empty
  depth : Nat := 0
  opened : Nat := 0

/-- Joins the items to the pending operation; both sides are closed under case first. -/
def ClassState.close (flags : Flags) (st : ClassState) : CharSet :=
  match st.pending with
  | none => st.items
  | some (op, left) => op.apply (foldSet flags left) (foldSet flags st.items)

def ClassState.add (st : ClassState) (s : CharSet) : ClassState :=
  { st with items := .union st.items s }

/-- One literal or set of a class. -/
def readClassItem : Read Escape := do
  match ← peek with
  | none => fail .unclosedClass
  | some '\\' => bump; readEscape
  | some c => bump; return .char c

/-- A set, a literal or a range of literals. -/
def readClassRange : Read CharSet := do
  let first ← readClassItem
  skipSpace
  let flags := (← get).flags
  let alone : Read CharSet := match first with
    | .char c => return .single c
    | .set s => return s
    | .look _ => fail .unknownEscape
  match ← peek with
  | none => fail .unclosedClass
  | some '-' =>
    match ← peekNext with
    | some ']' | some '-' => alone
    | _ =>
      bumpSpace
      if (← peek).isNone then fail .unclosedClass
      let last ← readClassItem
      match first, last with
      | .char a, .char b =>
        if b.toNat < a.toNat then fail .badRange
        if !flags.unicode && b.toNat > 127 then fail .invalidUtf8
        return .ranges [(a.toNat, b.toNat)]
      | _, _ => fail .badRange
  | some _ => alone

/-- `[:name:]` or `[:^name:]`; nothing is taken if it is not one. -/
def readAsciiClass? : Read (Option CharSet) := do
  let s ← get
  match s.rest with
  | '[' :: ':' :: rest =>
    let (negated, body) := match rest with
      | '^' :: r => (true, r)
      | r => (false, r)
    let name := body.takeWhile (· ≠ ':')
    match body.dropWhile (· ≠ ':'), asciiClass? (.ofList name) with
    | ':' :: ']' :: after, some set =>
      modify fun s => { s with rest := after }
      let set := foldSet s.flags set
      return some (if negated then .complement set else set)
    | _, _ => return none
  | _ => return none

/-- The hyphens that may open a class. -/
def leadingHyphens : Nat → ClassState → Read ClassState
  | 0, st => return st
  | n + 1, st => do
    if (← peek) = some '-' then
      bumpSpace
      leadingHyphens n ((st.add (.single '-')) |> fun st => { st with opened := st.opened + 1 })
    else return st

mutual

/-- A class from behind its opening bracket, with the depth of its nesting. -/
def readClass : Nat → Read (CharSet × Nat)
  | 0 => fail .nestedTooDeep
  | fuel + 1 => do
    skipSpace
    let negated := (← peek) = some '^'
    if negated then bumpSpace
    let st ← leadingHyphens (← get).rest.length {}
    let st ← if st.opened = 0 && (← peek) = some ']' then do
        bumpSpace
        pure (st.add (.single ']'))
      else pure st
    let st ← readClassBody fuel st
    let flags := (← get).flags
    let set := foldSet flags (st.close flags)
    return (if negated then .complement set else set, st.depth + 1)

def readClassBody : Nat → ClassState → Read ClassState
  | 0, _ => fail .nestedTooDeep
  | fuel + 1, st => do
    skipSpace
    let s ← get
    match s.rest with
    | [] => fail .unclosedClass
    | ']' :: _ => bump; return st
    | '[' :: _ =>
      match ← readAsciiClass? with
      | some set => readClassBody fuel (st.add set)
      | none =>
        bump
        let (set, depth) ← readClass fuel
        readClassBody fuel { st.add set with depth := max st.depth (depth + 1) }
    | '&' :: '&' :: _ => operator fuel st .inter
    | '-' :: '-' :: _ => operator fuel st .diff
    | '~' :: '~' :: _ => operator fuel st .symmDiff
    | _ =>
      let set ← readClassRange
      readClassBody fuel (st.add set)

def operator : Nat → ClassState → SetOp → Read ClassState
  | 0, _, _ => fail .nestedTooDeep
  | fuel + 1, st, op => do
    bump
    bump
    let left := st.close (← get).flags
    readClassBody fuel { st with pending := some (op, left), items := .empty, depth := st.depth + 1 }

end

/-! ## Groups and repetitions -/

/-- Flags up to the colon or the closing parenthesis, which is not taken.  `seen` holds the letters
given so far. -/
def readFlags : List Char → Flags → Bool → Bool → List Char → Read (Flags × List Char)
  | [], _, _, _, _ => fail .badFlag
  | c :: rest, flags, negated, dangling, seen =>
    if c = ':' || c = ')' then do
      if dangling then fail .badFlag
      modify fun s => { s with rest := c :: rest }
      return (flags, seen)
    else if seen.contains c then fail .badFlag
    else if c = '-' then readFlags rest flags true true (c :: seen)
    else
      let on := !negated
      match c with
      | 'i' => readFlags rest { flags with ignoreCase := on } negated false (c :: seen)
      | 'm' => readFlags rest { flags with multiLine := on } negated false (c :: seen)
      | 's' => readFlags rest { flags with dotNewline := on } negated false (c :: seen)
      | 'U' => readFlags rest flags negated false (c :: seen)
      | 'u' => readFlags rest { flags with unicode := on } negated false (c :: seen)
      | 'R' => readFlags rest { flags with crlf := on } negated false (c :: seen)
      | 'x' => readFlags rest { flags with ignoreSpace := on } negated false (c :: seen)
      | _ => fail .badFlag

/-- A group name: a letter or underscore, then letters, digits, underscores, dots and brackets. -/
def isGroupName : List Char → Bool
  | [] => false
  | c :: rest => (c == '_' || Unicode.isAlphabetic c) &&
      rest.all fun c => c == '_' || c == '.' || c == '[' || c == ']' || Unicode.isAlphanumeric c

def readGroupName : Read Unit := do
  let some name ← takeUntil '>' | fail .badGroupName
  if !isGroupName name then fail .badGroupName
  if (← get).names.contains name then fail .badGroupName
  modify fun s => { s with names := name :: s.names }

/-- A decimal count of a repetition; blanks around it never count. -/
def readCount : Read (Option Nat) := do
  skipSpace
  let s ← get
  let cs := s.rest.dropWhile Unicode.isWhiteSpace
  let digits := cs.takeWhile Char.isDigit
  set { s with rest := (cs.drop digits.length).dropWhile Unicode.isWhiteSpace }
  skipSpace
  if digits.isEmpty then return none
  let n := digits.foldl (fun n c => n * 10 + (c.toNat - 48)) 0
  if n < Nat.pow 2 32 then return some n
  fail .badCount

/-- The counts in braces, from behind the opening one. -/
def readBounds : Read (Nat × Option Nat) := do
  let some least ← readCount | fail .badCount
  let bounds ← match ← peek with
    | some ',' => do
      bumpSpace
      if (← peek) = some '}' then pure (least, none)
      else do
        let some most ← readCount | fail .badCount
        pure (least, some most)
    | _ => pure (least, some least)
  if (← peek) ≠ some '}' then fail .badCount
  bumpSpace
  match bounds with
  | (a, some b) => if b < a then fail .badCount else return bounds
  | _ => return bounds

def repeated (p : Piece) (least : Nat) (most : Option Nat) : Read Piece := do
  if !p.repeatable then fail .nothingToRepeat
  if (← peek) = some '?' then bump
  return { regex := .times p.regex least most, depth := p.depth + 1 }

/-- The repetitions that follow a piece; they may be stacked. -/
def readRepeats : Nat → Piece → Read Piece
  | 0, p => return p
  | n + 1, p => do
    skipSpace
    match ← peek with
    | some '*' => bump; readRepeats n (← repeated p 0 none)
    | some '+' => bump; readRepeats n (← repeated p 1 none)
    | some '?' => bump; readRepeats n (← repeated p 0 (some 1))
    | some '{' => do
      if !p.repeatable then fail .nothingToRepeat
      bump
      let (least, most) ← readBounds
      readRepeats n (← repeated p least most)
    | _ => return p

/-- Several pieces one after the other. -/
def sequence : List Piece → Piece
  | [] => { regex := .empty }
  | [p] => p
  | p :: q :: ps =>
    { regex := (q :: ps).foldl (fun r p => .seq r p.regex) p.regex
      depth := (p :: q :: ps).foldl (fun d p => max d p.depth) 0 + 1 }

def alternation : List Piece → Piece
  | [] => { regex := .empty }
  | [p] => p
  | p :: q :: ps =>
    { regex := (q :: ps).foldl (fun r p => .alt r p.regex) p.regex
      depth := (p :: q :: ps).foldl (fun d p => max d p.depth) 0 + 1 }

mutual

/-- Alternatives up to the end of the group or of the text. -/
def readAlternatives : Nat → List Piece → Read Piece
  | 0, _ => fail .nestedTooDeep
  | fuel + 1, done => do
    let p ← readSequence fuel []
    if (← peek) = some '|' then
      bump
      readAlternatives fuel (done ++ [p])
    else return alternation (done ++ [p])

def readSequence : Nat → List Piece → Read Piece
  | 0, _ => fail .nestedTooDeep
  | fuel + 1, done => do
    skipSpace
    match ← peek with
    | none | some '|' | some ')' => return sequence done
    | some c =>
      bump
      let p ← readAtom fuel c
      let p ← readRepeats (← get).rest.length p
      readSequence fuel (done ++ [p])

/-- One piece, `c` being its first character, already taken. -/
def readAtom : Nat → Char → Read Piece
  | 0, _ => fail .nestedTooDeep
  | fuel + 1, c => do
    let flags := (← get).flags
    match c with
    | '(' => readGroup fuel
    | '[' => do
      let (set, depth) ← readClass fuel
      return { regex := ← stepOf flags set, depth }
    | '*' | '+' | '?' | '{' => fail .nothingToRepeat
    | '.' => return { regex := ← dot flags }
    | '^' => return { regex := .look (if flags.multiLine then .lineStart flags.crlf else .textStart) }
    | '$' => return { regex := .look (if flags.multiLine then .lineEnd flags.crlf else .textEnd) }
    | '\\' => do
      match ← readEscape with
      | .char c => return { regex := literal flags c }
      | .set s => return { regex := ← stepOf flags s }
      | .look a => return { regex := .look a }
    | c => return { regex := literal flags c }

/-- A group from behind its opening parenthesis. -/
def readGroup : Nat → Read Piece
  | 0 => fail .nestedTooDeep
  | fuel + 1 => do
    skipSpace
    let outer := (← get).flags
    if (← eat "?=") || (← eat "?!") || (← eat "?<=") || (← eat "?<!") then fail .lookAround
    let named ← if ← eat "?P<" then pure true else eat "?<"
    if named then
      readGroupName
      groupBody fuel outer
    else if ← eat "?" then
      let (flags, seen) ← readFlags (← get).rest outer false false []
      if (← peek) = some ')' then
        if seen.isEmpty then fail .nothingToRepeat
        bump
        modify fun s => { s with flags }
        return { regex := .empty, repeatable := false }
      else
        bump
        modify fun s => { s with flags }
        groupBody fuel outer
    else groupBody fuel outer

def groupBody : Nat → Flags → Read Piece
  | 0, _ => fail .nestedTooDeep
  | fuel + 1, outer => do
    let p ← readAlternatives fuel []
    if (← peek) ≠ some ')' then fail .unclosedGroup
    bump
    modify fun s => { s with flags := outer }
    return { regex := p.regex, depth := p.depth + 1 }

end

/-- How deep an expression may nest. -/
def maxDepth : Nat := 250

/-- How many bytes the searcher of an expression may take. -/
def maxWeight : Nat := 10485760

/-- The expression that `pattern` denotes. -/
def read? (pattern : String) : Except Fault Regex := do
  let cs := pattern.toList
  let (p, s) ← (readAlternatives (8 * cs.length + 16) []).run { rest := cs }
  if !s.rest.isEmpty then throw .unopenedGroup
  if p.depth > maxDepth then throw .nestedTooDeep
  if p.regex.weight > maxWeight then throw .tooLarge
  return p.regex

end ImportSurvey.Regex
