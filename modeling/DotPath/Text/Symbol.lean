import DotPath.Text.Alphabetic
import DotPath.Text.Numeric

/-!
Symbols: the words that stand in a query without quotes. A symbol begins with an alphabetic
character and goes on with alphabetic characters, numeric characters and underscores.
-/

namespace DotPath.Text

def isAlphanumeric (c : Char) : Bool :=
  isAlphabetic c || isNumeric c

def isSymbolChar (c : Char) : Bool :=
  isAlphanumeric c || c == '_'

def isSymbol (word : List Char) : Bool :=
  match word with
  | [] => false
  | c :: cs => isAlphabetic c && cs.all isSymbolChar

theorem isSymbolChar_of_isAlphabetic {c : Char} (h : isAlphabetic c = true) :
    isSymbolChar c = true := by
  simp [isSymbolChar, isAlphanumeric, h]

/-- The text in double quotes. Nothing is escaped, so a quoted text holds no double quote itself. -/
def quoted (text : String) : String :=
  "\"" ++ text ++ "\""

/-- A key as a query spells it: bare where it is a symbol and in double quotes elsewhere. -/
def spellKey (key : String) : String :=
  if isSymbol key.toList then key else quoted key

end DotPath.Text
