import ImportSurvey.Unicode.Category

/-
  A text in double quotes for a message, so that a reader can tell what it holds: quotes and
  backslashes are escaped, line ends and tabs get their letters, and any other character that prints
  as nothing or joins the one before it is given by its code point.
-/
namespace ImportSurvey.Text

open Unicode

def lowerHex (n : Nat) : String := .ofList (Nat.toDigits 16 n)

/-- Characters that cannot be seen on their own. -/
def isInvisible (c : Char) : Bool :=
  if c.toNat < 127 then c.toNat < 32
  else anyMem [control, format, privateUse, lineSeparator, paragraphSeparator, spaceSeparator,
      nonspacingMark, enclosingMark] c || !anyMem (letters ++ [spacingMark, decimalNumber, letterNumber,
      otherNumber, connectorPunctuation, dashPunctuation, openPunctuation, closePunctuation,
      initialPunctuation, finalPunctuation, otherPunctuation, mathSymbol, currencySymbol,
      modifierSymbol, otherSymbol]) c

def quoteChar (c : Char) : List Char :=
  match c with
  | '"' => ['\\', '"']
  | '\\' => ['\\', '\\']
  | '\n' => ['\\', 'n']
  | '\r' => ['\\', 'r']
  | '\t' => ['\\', 't']
  | '\x00' => ['\\', '0']
  | c => if isInvisible c then "\\u\x7b".toList ++ (lowerHex c.toNat).toList ++ ['}'] else [c]

def quote (s : String) : String := .ofList ('"' :: s.toList.flatMap quoteChar ++ ['"'])

end ImportSurvey.Text
