import DotPath.Failure
import DotPath.Text.Symbol

/-!
This module contains the logic that finds the token at the front of a text which begins with no
blank. There is one lexeme for each way a text can begin. Symbols, integers and the comparators `<`
and `>` reach as far as they can. A text in quotes ends with the next quote, there are no escapes.
-/

namespace DotPath

structure Lexeme where
  chars : List Char
  outcome : Except SyntaxFault TokenKind

namespace Lexeme

def single (c : Char) (kind : TokenKind) : Lexeme :=
  ⟨[c], .ok kind⟩

def pair (c second : Char) (cs : List Char) (kind : TokenKind) : Lexeme :=
  if cs.head? = some second then
    ⟨[c, second], .ok kind⟩
  else
    ⟨[c], .error (.incompleteOperator (String.ofList [c, second]))⟩

def optionalPair (c : Char) (cs : List Char) (withEquals without : TokenKind) : Lexeme :=
  if cs.head? = some '=' then ⟨[c, '='], .ok withEquals⟩ else ⟨[c], .ok without⟩

def quotation (cs : List Char) : Lexeme :=
  let body := cs.takeWhile (· != '"')
  if body.length < cs.length then
    ⟨'"' :: body ++ ['"'], .ok (.text (String.ofList body))⟩
  else
    ⟨'"' :: cs, .error .unterminatedString⟩

def word (c : Char) (cs : List Char) : Lexeme :=
  let chars := c :: cs.takeWhile Text.isSymbolChar
  ⟨chars, .ok (.text (String.ofList chars))⟩

def decimalValue (digits : List Char) : Nat :=
  digits.foldl (fun n c => n * 10 + (c.toNat - '0'.toNat)) 0

def integer (c : Char) (cs : List Char) : Lexeme :=
  let chars := c :: cs.takeWhile Char.isDigit
  let value := decimalValue chars
  if (cs.dropWhile Char.isDigit).head?.any fun next => Text.isAlphabetic next || next == '_' then
    ⟨chars, .error .malformedInteger⟩
  else if value < 0x8000000000000000 then
    ⟨chars, .ok (.integer (Int64.ofNat value))⟩
  else
    ⟨chars, .error .integerOutOfRange⟩

/-- The lexeme at the front of the text `c :: cs`. Nothing is read of a text that begins with no lexeme. -/
def scan (c : Char) (cs : List Char) : Lexeme :=
  match c with
  | '.' => single c .dot
  | '[' => single c .leftBracket
  | ']' => single c .rightBracket
  | '?' => single c .question
  | '&' => pair c '&' cs .and
  | '|' => pair c '|' cs .or
  | '=' => pair c '=' cs (.comparator .eq)
  | '!' => pair c '=' cs (.comparator .neq)
  | '<' => optionalPair c cs (.comparator .le) (.comparator .lt)
  | '>' => optionalPair c cs (.comparator .ge) (.comparator .gt)
  | '"' => quotation cs
  | c =>
    if Text.isAlphabetic c then
      word c cs
    else if c.isDigit then
      integer c cs
    else
      ⟨[], .error (.unexpectedCharacter c)⟩

@[simp]
theorem single_chars_ne_nil (c : Char) (kind : TokenKind) : (single c kind).chars ≠ [] := by
  simp [single]

@[simp]
theorem pair_chars_ne_nil (c second : Char) (cs : List Char) (kind : TokenKind) :
    (pair c second cs kind).chars ≠ [] := by
  unfold pair
  split <;> simp

@[simp]
theorem optionalPair_chars_ne_nil (c : Char) (cs : List Char) (withEquals without : TokenKind) :
    (optionalPair c cs withEquals without).chars ≠ [] := by
  unfold optionalPair
  split <;> simp

@[simp]
theorem quotation_chars_ne_nil (cs : List Char) : (quotation cs).chars ≠ [] := by
  simp only [quotation]
  split <;> simp

@[simp]
theorem word_chars_ne_nil (c : Char) (cs : List Char) : (word c cs).chars ≠ [] := by
  simp [word]

@[simp]
theorem integer_chars_ne_nil (c : Char) (cs : List Char) : (integer c cs).chars ≠ [] := by
  simp only [integer]
  split
  · simp
  · split <;> simp

theorem chars_ne_nil_of_outcome_eq_ok {c : Char} {cs : List Char} {kind : TokenKind}
    (h : (scan c cs).outcome = .ok kind) : (scan c cs).chars ≠ [] := by
  unfold scan at *
  split <;> simp only [ne_eq, single_chars_ne_nil, pair_chars_ne_nil, optionalPair_chars_ne_nil,
    quotation_chars_ne_nil, not_false_eq_true]
  split
  · apply word_chars_ne_nil
  · split
    · apply integer_chars_ne_nil
    · simp_all

end Lexeme
end DotPath
