import DotPath.Path.Parser
import DotPath.Proofs.Byte.Slice

/-!
This module contains the reading of query texts as it is done on bytes. A cursor there is a byte offset
that can be anywhere, every look at the text is a slice of it, and there is room for one token that is
put back. A reader breaks off where it slices the text at an offset that is no place to cut it at, where
it puts a second token back, and where a loop goes round although there can be nothing left to read.
-/

namespace DotPath

open Text

structure ByteCursor where
  text : String
  position : Nat
  pending : Option Token
  -- The bytes that the position has been at or that a token has begun at, the last one first.
  places : List Nat

namespace ByteCursor

def start (text : String) : ByteCursor :=
  ⟨text, 0, none, [0]⟩

def offset (bytes : ByteCursor) : Nat :=
  match bytes.pending with
  | some token => token.offset
  | none => bytes.position

end ByteCursor

/-- A reader that breaks off has no result. -/
abbrev ByteReader (α : Type) := ExceptT Failure (StateT ByteCursor Option) α

namespace ByteReader

def runOn {α : Type} (reader : ByteReader α) (text : String) : Option (Except Failure α × ByteCursor) :=
  reader.run.run (ByteCursor.start text)

def breakOff {α : Type} : ByteReader α :=
  ExceptT.mk fun _ => none

def size : ByteReader Nat := do
  return (← get).text.utf8ByteSize

def position : ByteReader Nat := do
  return (← get).position

def offset : ByteReader Nat := do
  return (← get).offset

def slice (first last : Nat) : ByteReader String := do
  match slice? (← get).text first last with
  | some text => return text
  | none => breakOff

def moveTo (place : Nat) : ByteReader Unit :=
  modify fun bytes => { bytes with position := place, places := place :: bytes.places }

def note (place : Nat) : ByteReader Unit :=
  modify fun bytes => { bytes with places := place :: bytes.places }

def peek : ByteReader (Option Char) := do
  return (← slice (← position) (← size)).toList.head?

def bump : ByteReader Unit := do
  match ← peek with
  | some c => moveTo ((← position) + c.utf8Size)
  | none => return

def consume (c : Char) : ByteReader Bool := do
  if (← peek) = some c then
    bump
    return true
  else
    return false

/-- Each round of a loop reads a byte or the token that is put back, and the last one finds the end. -/
def limit : ByteReader Nat := do
  return (← size) + 2

def skip (rounds : Nat) (p : Char → Bool) : ByteReader Unit :=
  match rounds with
  | 0 => breakOff
  | rounds + 1 => do
    match ← peek with
    | some c =>
      if p c then
        bump
        skip rounds p
      else
        return
    | none => return

def skipWhile (p : Char → Bool) : ByteReader Unit := do
  skip (← limit) p

def failAt {α : Type} (offset : Nat) (fault : SyntaxFault) : ByteReader α := do
  let offset := min offset (← size)
  let consumed ← slice 0 offset
  let remaining ← slice offset (← size)
  throw (.malformed fault offset consumed remaining)

def unexpected {α : Type} (token : Token) (expected : Expectation) : ByteReader α :=
  failAt token.offset (.unexpectedToken expected token.kind)

def unexpectedEnd {α : Type} (expected : Expectation) : ByteReader α := do
  failAt (← size) (.unexpectedEnd expected)

section Lexing

def single (kind : TokenKind) : ByteReader TokenKind := do
  bump
  return kind

def pair (c second : Char) (kind : TokenKind) : ByteReader TokenKind := do
  let start ← position
  bump
  if ← consume second then
    return kind
  else
    failAt start (.incompleteOperator (String.ofList [c, second]))

def optionalPair (withEquals without : TokenKind) : ByteReader TokenKind := do
  bump
  if ← consume '=' then
    return withEquals
  else
    return without

def quotation : ByteReader TokenKind := do
  let start ← position
  bump
  let body ← position
  skipWhile (· != '"')
  match ← peek with
  | some _ =>
    let text ← slice body (← position)
    bump
    return .text text
  | none => failAt start .unterminatedString

def word : ByteReader TokenKind := do
  let start ← position
  skipWhile isSymbolChar
  return .text (← slice start (← position))

def integer : ByteReader TokenKind := do
  let start ← position
  skipWhile Char.isDigit
  if (← peek).any fun next => isAlphabetic next || next == '_' then
    failAt start .malformedInteger
  else
    let value := Lexeme.decimalValue (← slice start (← position)).toList
    if value < 0x8000000000000000 then
      return .integer (Int64.ofNat value)
    else
      failAt start .integerOutOfRange

def lexeme (c : Char) : ByteReader TokenKind :=
  match c with
  | '.' => single .dot
  | '[' => single .leftBracket
  | ']' => single .rightBracket
  | '?' => single .question
  | '&' => pair c '&' .and
  | '|' => pair c '|' .or
  | '=' => pair c '=' (.comparator .eq)
  | '!' => pair c '=' (.comparator .neq)
  | '<' => optionalPair (.comparator .le) (.comparator .lt)
  | '>' => optionalPair (.comparator .ge) (.comparator .gt)
  | '"' => quotation
  | c =>
    if isAlphabetic c then
      word
    else if c.isDigit then
      integer
    else do
      failAt (← position) (.unexpectedCharacter c)

def next : ByteReader (Option Token) := do
  match (← get).pending with
  | some token =>
    modify fun bytes => { bytes with pending := none }
    return some token
  | none =>
    skipWhile isBlank
    let offset ← position
    match ← peek with
    | some c =>
      let kind ← lexeme c
      note offset
      return some ⟨kind, offset⟩
    | none => return none

def pushBack (token : Token) : ByteReader Unit := do
  match (← get).pending with
  | some _ => breakOff
  | none => modify fun bytes => { bytes with pending := some token }

end Lexing

section Parsing

def token (expected : Expectation) : ByteReader Token := do
  match ← next with
  | some token => return token
  | none => unexpectedEnd expected

def accept {α : Type} (expected : Expectation) (meaning : TokenKind → Option α) : ByteReader α := do
  let token ← token expected
  match meaning token.kind with
  | some value => return value
  | none => unexpected token expected

def operand : ByteReader Operand :=
  accept .operand Operand.ofToken?

def comparison : ByteReader Comparison := do
  let start ← offset
  let left ← operand
  match ← next with
  | some token =>
    match token.kind.comparator?, left with
    | none, _ =>
      pushBack token
      return .position left
    | some _, .integer _ => failAt start .integerOnLeft
    | some comparator, .text _ =>
      let right ← operand
      return ⟨some comparator, left, some right⟩
  | none => return .position left

def chain (rounds : Nat) (left : Filter) : ByteReader Filter :=
  match rounds with
  | 0 => breakOff
  | rounds + 1 => do
    let token ← token .closingBracket
    if token.kind = .rightBracket then
      return left
    else
      match Filter.connective? token.kind with
      | some connective =>
        let right ← comparison
        chain rounds (.logical connective left (.comparison right))
      | none => unexpected token .connectiveOrEnd

def filter : ByteReader Filter := do
  let first ← comparison
  chain (← limit) (.comparison first)

def key (expected : Expectation) : ByteReader String :=
  accept expected TokenKind.text?

def firstKey : ByteReader Path := do
  let token ← token .key
  match token.kind with
  | .question =>
    let key ← key .key
    return .first ⟨key, true, []⟩
  | .text key => return .first ⟨key, false, []⟩
  | _ => unexpected token .key

def keys (rounds : Nat) (path : Path) : ByteReader Path :=
  match rounds with
  | 0 => breakOff
  | rounds + 1 => do
    match ← next with
    | some token =>
      if token.kind = .dot then
        let key ← key .keyAfterDot
        keys rounds (.child path ⟨key, false, []⟩)
      else
        pushBack token
        return path
    | none => return path

def filters (rounds : Nat) : ByteReader (List Filter) :=
  match rounds with
  | 0 => breakOff
  | rounds + 1 => do
    match ← next with
    | some token =>
      if token.kind = .leftBracket then
        let first ← filter
        let others ← filters rounds
        return first :: others
      else
        unexpected token .filterOrEnd
    | none => return []

def path : ByteReader Path := do
  let first ← firstKey
  let path ← keys (← limit) first
  let filters ← filters (← limit)
  return path.withFilters filters

end Parsing

end ByteReader
end DotPath
