import ImportSurvey.Toml.Value

/-
  TOML documents: headers, key–value lines, and the tables they build.

  A table may be opened once.  A header may pass through tables of any origin but may only open one that
  was so far implied; a dotted key may only extend tables that dotted keys made.  The result lists the
  entries of every table by name, which is the order in which a reader goes through them.
-/
namespace ImportSurvey.Toml

abbrev Entries := List (String × Node)

/-- Applies `change` to the table at the end of `path`, passing through or making the tables on the
way; the last table of a list of tables stands for the list. -/
def within (entries : Entries) : List String → (Entries → Option Entries) → Option Entries
  | [], change => change entries
  | k :: ks, change =>
    match getEntry entries k with
    | none => do
      let inner ← within [] ks change
      return entries ++ [(k, .table .implied inner)]
    | some (.table kind inner) =>
      if kind = .inline then none
      else do
        let inner ← within inner ks change
        return setEntry entries k (.table kind inner)
    | some (.tables (.table kind inner :: others)) => do
      let inner ← within inner ks change
      return setEntry entries k (.tables (.table kind inner :: others))
    | some _ => none

/-- Opens the table of a header in single brackets. -/
def openTable (entries : Entries) (path : List String) : Option Entries :=
  match path.getLast? with
  | none => none
  | some k => within entries path.dropLast fun es =>
    match getEntry es k with
    | none => some (es ++ [(k, .table .defined [])])
    | some (.table .implied inner) => some (setEntry es k (.table .defined inner))
    | some _ => none

/-- Opens one more table of a list of tables. -/
def openItem (entries : Entries) (path : List String) : Option Entries :=
  match path.getLast? with
  | none => none
  | some k => within entries path.dropLast fun es =>
    match getEntry es k with
    | none => some (es ++ [(k, .tables [.table .defined []])])
    | some (.tables items) => some (setEntry es k (.tables (.table .defined [] :: items)))
    | some _ => none

/-- What may follow a header or a value on its line; gives the next line. -/
def endOfLine? (cs : List Char) : Option (List Char) :=
  match skipToLineEnd cs with
  | none => none
  | some [] => some []
  | some cs => newline? cs

/-- Reads line after line; `current` is the path of the table the lines belong to.  The fuel is the
number of characters. -/
def readLines : Nat → List String → Entries → List Char → Option Entries
  | 0, _, _, _ => none
  | fuel + 1, current, entries, cs =>
    match skipLines (cs.length + 1) cs with
    | none => none
    | some [] => some entries
    | some ('[' :: '[' :: rest) => do
      let (path, rest) ← dottedKey? (rest.length + 1) rest
      let ']' :: ']' :: rest := rest | none
      let entries ← openItem entries path
      readLines fuel path entries (← endOfLine? rest)
    | some ('[' :: rest) => do
      let (path, rest) ← dottedKey? (rest.length + 1) rest
      let ']' :: rest := rest | none
      let entries ← openTable entries path
      readLines fuel path entries (← endOfLine? rest)
    | some cs => do
      let (path, rest) ← dottedKey? (cs.length + 1) cs
      let '=' :: rest := rest | none
      let (n, rest) ← value? (2 * rest.length + 4) maxNesting (skipBlanks rest)
      let entries ← within entries current fun es => assign es path n
      readLines fuel current entries (← endOfLine? rest)

/-! ## The result -/

mutual

def Node.toDatum : Node → Datum
  | .leaf d => d
  | .array items => .seq (toData items) true
  | .table _ entries => .map ((toEntries entries).mergeSort fun a b => a.1 ≤ b.1) true
  | .tables reversed => .seq (toData reversed).reverse true

def toData : List Node → List Datum
  | [] => []
  | n :: rest => n.toDatum :: toData rest

def toEntries : List (String × Node) → List (String × Datum)
  | [] => []
  | (k, n) :: rest => (k, n.toDatum) :: toEntries rest

end

/-- The table that a text denotes; a byte order mark in front does not count. -/
def read? (text : String) : Option Datum :=
  let cs := match text.toList with
    | '\uFEFF' :: rest => rest
    | cs => cs
  (readLines (cs.length + 1) [] [] cs).map fun entries => Node.toDatum (.table .defined entries)

end ImportSurvey.Toml
