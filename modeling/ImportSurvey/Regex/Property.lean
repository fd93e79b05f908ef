import ImportSurvey.Unicode.Script
import ImportSurvey.Regex.Basic

/-
  The names by which an expression may ask for characters: general categories, scripts, binary
  properties, and the bracketed ASCII classes.

  Names are compared in a loose form: case, blanks, hyphens and underscores do not count, and a leading
  "is" is dropped.
-/
namespace ImportSurvey.Regex

open Unicode

def emoji : RangeSet := .ofText [
  "23 2A 30-39 A9 AE 203C 2049 2122 2139 2194-2199 21A9-21AA 231A-231B 2328 23CF 23E9-23F3",
  "23F8-23FA 24C2 25AA-25AB 25B6 25C0 25FB-25FE 2600-2604 260E 2611 2614-2615 2618 261D 2620",
  "2622-2623 2626 262A 262E-262F 2638-263A 2640 2642 2648-2653 265F-2660 2663 2665-2666 2668",
  "267B 267E-267F 2692-2697 2699 269B-269C 26A0-26A1 26A7 26AA-26AB 26B0-26B1 26BD-26BE",
  "26C4-26C5 26C8 26CE-26CF 26D1 26D3-26D4 26E9-26EA 26F0-26F5 26F7-26FA 26FD 2702 2705",
  "2708-270D 270F 2712 2714 2716 271D 2721 2728 2733-2734 2744 2747 274C 274E 2753-2755 2757",
  "2763-2764 2795-2797 27A1 27B0 27BF 2934-2935 2B05-2B07 2B1B-2B1C 2B50 2B55 3030 303D 3297",
  "3299 1F004 1F0CF 1F170-1F171 1F17E-1F17F 1F18E 1F191-1F19A 1F1E6-1F1FF 1F201-1F202 1F21A",
  "1F22F 1F232-1F23A 1F250-1F251 1F300-1F321 1F324-1F393 1F396-1F397 1F399-1F39B 1F39E-1F3F0",
  "1F3F3-1F3F5 1F3F7-1F4FD 1F4FF-1F53D 1F549-1F54E 1F550-1F567 1F56F-1F570 1F573-1F57A 1F587",
  "1F58A-1F58D 1F590 1F595-1F596 1F5A4-1F5A5 1F5A8 1F5B1-1F5B2 1F5BC 1F5C2-1F5C4 1F5D1-1F5D3",
  "1F5DC-1F5DE 1F5E1 1F5E3 1F5E8 1F5EF 1F5F3 1F5FA-1F64F 1F680-1F6C5 1F6CB-1F6D2 1F6D5-1F6D8",
  "1F6DC-1F6E5 1F6E9 1F6EB-1F6EC 1F6F0 1F6F3-1F6FC 1F7E0-1F7EB 1F7F0 1F90C-1F93A 1F93C-1F945",
  "1F947-1F9FF 1FA70-1FA7C 1FA80-1FA8A 1FA8E-1FAC6 1FAC8 1FACD-1FADC 1FADF-1FAEA 1FAEF-1FAF8"]

/-- General categories and their groups by loose name. -/
def categories : List (List String × List RangeSet) := [
  (["lu", "uppercaseletter"], [uppercaseLetter]),
  (["ll", "lowercaseletter"], [lowercaseLetter]),
  (["lt", "titlecaseletter"], [titlecaseLetter]),
  (["lm", "modifierletter"], [modifierLetter]),
  (["lo", "otherletter"], [otherLetter]),
  (["lc", "casedletter"], [uppercaseLetter, lowercaseLetter, titlecaseLetter]),
  (["l", "letter"], letters),
  (["mn", "nonspacingmark"], [nonspacingMark]),
  (["mc", "spacingmark"], [spacingMark]),
  (["me", "enclosingmark"], [enclosingMark]),
  (["m", "mark", "combiningmark"], [nonspacingMark, spacingMark, enclosingMark]),
  (["nd", "decimalnumber", "digit"], [decimalNumber]),
  (["nl", "letternumber"], [letterNumber]),
  (["no", "othernumber"], [otherNumber]),
  (["n", "number"], [decimalNumber, letterNumber, otherNumber]),
  (["pc", "connectorpunctuation"], [connectorPunctuation]),
  (["pd", "dashpunctuation"], [dashPunctuation]),
  (["ps", "openpunctuation"], [openPunctuation]),
  (["pe", "closepunctuation"], [closePunctuation]),
  (["pi", "initialpunctuation"], [initialPunctuation]),
  (["pf", "finalpunctuation"], [finalPunctuation]),
  (["po", "otherpunctuation"], [otherPunctuation]),
  (["p", "punctuation", "punct"], [connectorPunctuation, dashPunctuation, openPunctuation,
    closePunctuation, initialPunctuation, finalPunctuation, otherPunctuation]),
  (["sm", "mathsymbol"], [mathSymbol]),
  (["sc", "currencysymbol"], [currencySymbol]),
  (["sk", "modifiersymbol"], [modifierSymbol]),
  (["so", "othersymbol"], [otherSymbol]),
  (["s", "symbol"], [mathSymbol, currencySymbol, modifierSymbol, otherSymbol]),
  (["zs", "spaceseparator"], [spaceSeparator]),
  (["zl", "lineseparator"], [lineSeparator]),
  (["zp", "paragraphseparator"], [paragraphSeparator]),
  (["z", "separator"], [spaceSeparator, lineSeparator, paragraphSeparator]),
  (["cc", "control", "cntrl"], [control]),
  (["cf", "format"], [format]),
  (["co", "privateuse"], [privateUse])]

/-- Every category that holds assigned characters. -/
def assigned : List RangeSet :=
  letters ++ [nonspacingMark, spacingMark, enclosingMark, decimalNumber, letterNumber, otherNumber,
    connectorPunctuation, dashPunctuation, openPunctuation, closePunctuation, initialPunctuation,
    finalPunctuation, otherPunctuation, mathSymbol, currencySymbol, modifierSymbol, otherSymbol,
    spaceSeparator, lineSeparator, paragraphSeparator, control, format, privateUse]

/-- Binary properties by loose name. -/
def binaryProperties : List (List String × List RangeSet) := [
  (["alphabetic", "alpha"], letterNumber :: otherAlphabetic :: letters),
  (["lowercase", "lower"], [lowercaseLetter, otherLowercase]),
  (["uppercase", "upper"], [uppercaseLetter, otherUppercase]),
  (["cased"], [uppercaseLetter, lowercaseLetter, titlecaseLetter, otherUppercase, otherLowercase]),
  (["whitespace", "wspace", "space"], [whiteSpace]),
  (["idstart", "ids", "xidstart", "xids"], letterNumber :: otherIdStart :: letters),
  (["idcontinue", "idc", "xidcontinue", "xidc"], letterNumber :: otherIdStart :: nonspacingMark ::
    spacingMark :: decimalNumber :: connectorPunctuation :: otherIdContinue :: letters),
  (["asciihexdigit", "ahex"], [[(0x30, 0x39), (0x41, 0x46), (0x61, 0x66)]]),
  (["hexdigit", "hex"], [[(0x30, 0x39), (0x41, 0x46), (0x61, 0x66), (0xFF10, 0xFF19),
    (0xFF21, 0xFF26), (0xFF41, 0xFF46)]]),
  (["joincontrol", "joinc"], [[(0x200C, 0x200D)]]),
  (["emoji"], [emoji])]

/-- The loose form of a name. -/
def looseName (name : String) : String :=
  let cs := (name.toList.filter fun c => !(c = ' ' || c = '_' || c = '-')).map Char.toLower
  match cs with
  | 'i' :: 's' :: 'c' :: [] => "isc"
  | 'i' :: 's' :: rest => .ofList rest
  | _ => .ofList cs

def lookUp (table : List (List String × List RangeSet)) (name : String) : Option CharSet :=
  (table.find? (·.1.contains name)).map fun row => .ranges row.2.flatten

def category? (name : String) : Option CharSet :=
  match name with
  | "any" => some .any
  | "ascii" => some (.ranges [(0, 127)])
  | "assigned" => some (.ranges assigned.flatten)
  | "cn" | "unassigned" => some (.complement (.ranges assigned.flatten))
  | "c" | "other" => some (.complement (.diff (.ranges assigned.flatten)
      (.ranges (control ++ format ++ privateUse))))
  | _ => lookUp categories name

/-- The set a bare name stands for: a binary property, else a category, else a script.  Three short
names are both, and mean the category. -/
def property? (name : String) : Option CharSet :=
  let name := looseName name
  let binary := if name ∈ ["cf", "sc", "lc"] then none else lookUp binaryProperties name
  binary <|> category? name <|> (script? name).map .ranges

/-- The set written `name = value`. -/
def propertyValue? (name value : String) : Option CharSet :=
  match looseName name with
  | "generalcategory" | "gc" => category? (looseName value)
  | "script" | "sc" | "scriptextensions" | "scx" => (script? (looseName value)).map .ranges
  | _ => none

/-- The class `[:name:]`. -/
def asciiClass? : String → Option CharSet
  | "alnum" => some (.ranges [(0x30, 0x39), (0x41, 0x5A), (0x61, 0x7A)])
  | "alpha" => some (.ranges [(0x41, 0x5A), (0x61, 0x7A)])
  | "ascii" => some (.ranges [(0, 0x7F)])
  | "blank" => some (.ranges [(9, 9), (0x20, 0x20)])
  | "cntrl" => some (.ranges [(0, 0x1F), (0x7F, 0x7F)])
  | "digit" => some (.ranges [(0x30, 0x39)])
  | "graph" => some (.ranges [(0x21, 0x7E)])
  | "lower" => some (.ranges [(0x61, 0x7A)])
  | "print" => some (.ranges [(0x20, 0x7E)])
  | "punct" => some (.ranges [(0x21, 0x2F), (0x3A, 0x40), (0x5B, 0x60), (0x7B, 0x7E)])
  | "space" => some (.ranges [(9, 13), (0x20, 0x20)])
  | "upper" => some (.ranges [(0x41, 0x5A)])
  | "word" => some (.ranges [(0x30, 0x39), (0x41, 0x5A), (0x5F, 0x5F), (0x61, 0x7A)])
  | "xdigit" => some (.ranges [(0x30, 0x39), (0x41, 0x46), (0x61, 0x66)])
  | _ => none

/-- Digits, blanks and word characters, as the backslash letters name them. -/
def shorthand (letter : Char) (unicode : Bool) : CharSet :=
  match letter with
  | 'd' => .ranges (if unicode then decimalNumber else [(0x30, 0x39)])
  | 's' => .ranges (if unicode then whiteSpace else [(9, 13), (0x20, 0x20)])
  | _ => .ranges (if unicode then
      [(0x30, 0x39), (0x41, 0x5A), (0x5F, 0x5F), (0x61, 0x7A)] ++
        [nonspacingMark, spacingMark, enclosingMark, decimalNumber, connectorPunctuation,
          [(0x200C, 0x200D)], letterNumber, otherAlphabetic].flatten ++ letters.flatten
      else [(0x30, 0x39), (0x41, 0x5A), (0x5F, 0x5F), (0x61, 0x7A)])

end ImportSurvey.Regex
