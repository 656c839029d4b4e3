import DotPath.Lexeme
import DotPath.Text.Blank
import DotPath.Text.Utf8

/-!
This module contains the cursor that reads a query text token by token. A token can be pushed back,
and the next one read is then that token. A cursor goes on after a failure from where the failing
lexeme left it. No step loses or adds characters: `text` is the same for a cursor's whole life.
-/

namespace DotPath

/-- A place in a query text, and the token pushed back there, if there is one. -/
structure Cursor where
  -- The characters in front of the cursor, the nearest one first.
  before : List Char
  -- The characters behind the cursor.
  rest : List Char
  pending : Option Token
  deriving DecidableEq

abbrev Reader (α : Type) := EStateM Failure Cursor α

namespace Cursor

def ofText (text : String) : Cursor :=
  ⟨[], text.toList, none⟩

def text (cursor : Cursor) : List Char :=
  cursor.before.reverse ++ cursor.rest

/-- The byte that the next token is looked for from; the token that is pushed back begins at it. -/
def offset (cursor : Cursor) : Nat :=
  match cursor.pending with
  | some token => token.offset
  | none => Text.byteLength cursor.before

def advance (cursor : Cursor) (n : Nat) : Cursor :=
  { cursor with
    before := (cursor.rest.take n).reverse ++ cursor.before
    rest := cursor.rest.drop n }

def skipBlanks (cursor : Cursor) : Cursor :=
  cursor.advance (cursor.rest.takeWhile Text.isBlank).length

def pushBack (cursor : Cursor) (token : Token) : Cursor :=
  { cursor with pending := some token }

/-- The failure that blames the text from the byte `offset` on, or its end if that comes first. -/
def failureAt (cursor : Cursor) (offset : Nat) (fault : SyntaxFault) : Failure :=
  let offset := min offset (Text.byteLength cursor.text)
  let (consumed, remaining) := Text.splitAtByte offset cursor.text
  .malformed fault offset (String.ofList consumed) (String.ofList remaining)

def unexpected (cursor : Cursor) (token : Token) (expected : Expectation) : Failure :=
  cursor.failureAt token.offset (.unexpectedToken expected token.kind)

def unexpectedEnd (cursor : Cursor) (expected : Expectation) : Failure :=
  cursor.failureAt (Text.byteLength cursor.text) (.unexpectedEnd expected)

def readLexeme : Reader (Option Token) := fun cursor =>
  match cursor.rest with
  | [] => .ok none cursor
  | c :: cs =>
    let after := cursor.advance (Lexeme.scan c cs).chars.length
    match (Lexeme.scan c cs).outcome with
    | .ok kind => .ok (some ⟨kind, cursor.offset⟩) after
    | .error fault => .error (cursor.failureAt cursor.offset fault) after

def next : Reader (Option Token) := fun cursor =>
  match cursor.pending with
  | some token => .ok (some token) { cursor with pending := none }
  | none => readLexeme cursor.skipBlanks

def token (expected : Expectation) : Reader Token := fun cursor =>
  match next cursor with
  | .error failure after => .error failure after
  | .ok none after => .error (after.unexpectedEnd expected) after
  | .ok (some token) after => .ok token after

/-- Reads a token that has a meaning, and blames any other token for not being `expected`. -/
def accept (expected : Expectation) (meaning : TokenKind → Option α) : Reader α := fun cursor =>
  match token expected cursor with
  | .error failure after => .error failure after
  | .ok token after =>
    match meaning token.kind with
    | some value => .ok value after
    | none => .error (after.unexpected token expected) after

def remaining (cursor : Cursor) : Nat :=
  cursor.rest.length + if cursor.pending.isSome then 1 else 0

@[simp]
theorem text_advance (cursor : Cursor) (n : Nat) : (cursor.advance n).text = cursor.text := by
  simp [advance, text, List.append_assoc]

@[simp]
theorem text_skipBlanks (cursor : Cursor) : cursor.skipBlanks.text = cursor.text := by
  simp [skipBlanks]

@[simp]
theorem pending_skipBlanks (cursor : Cursor) : cursor.skipBlanks.pending = cursor.pending := rfl

theorem length_rest_skipBlanks_le (cursor : Cursor) :
    cursor.skipBlanks.rest.length ≤ cursor.rest.length := by
  simp [skipBlanks, advance]

theorem readLexeme_eq_ok_some {cursor after : Cursor} {token : Token}
    (h : readLexeme cursor = .ok (some token) after) :
    after.rest.length < cursor.rest.length ∧ after.pending = cursor.pending := by
  unfold readLexeme at h
  split at h
  · cases h
  · next c cs hrest =>
    dsimp only at h
    split at h
    · next kind hkind =>
      have := List.length_pos_iff.2 (Lexeme.chars_ne_nil_of_outcome_eq_ok hkind)
      cases h
      refine ⟨?_, rfl⟩
      simp only [advance, hrest, List.length_drop, List.length_cons]
      omega
    · cases h

theorem next_eq_ok_some {cursor after : Cursor} {token : Token}
    (h : next cursor = .ok (some token) after) :
    after.remaining < cursor.remaining ∧ after.pending = none := by
  unfold next at h
  split at h
  · next hpending =>
    cases h
    simp [remaining, hpending]
  · next hpending =>
    have hread := readLexeme_eq_ok_some h
    have hle := length_rest_skipBlanks_le cursor
    rw [pending_skipBlanks, hpending] at hread
    simp only [remaining, hpending, hread.2]
    simp
    omega

theorem next_eq_ok_none {cursor after : Cursor} (h : next cursor = .ok none after) :
    after.remaining = 0 := by
  unfold next at h
  split at h
  · cases h
  · next hpending =>
    unfold readLexeme at h
    split at h
    · next hrest =>
      cases h
      simp [remaining, hrest, hpending]
    · dsimp only at h
      split at h <;> cases h

theorem token_eq_ok {expected : Expectation} {cursor after : Cursor} {t : Token}
    (h : token expected cursor = .ok t after) :
    after.remaining < cursor.remaining ∧ after.pending = none := by
  unfold token at h
  split at h
  · cases h
  · cases h
  · next hnext =>
    cases h
    exact next_eq_ok_some hnext

theorem accept_eq_ok {expected : Expectation} {meaning : TokenKind → Option α}
    {cursor after : Cursor} {value : α} (h : accept expected meaning cursor = .ok value after) :
    after.remaining < cursor.remaining ∧ after.pending = none := by
  unfold accept at h
  split at h
  · cases h
  · next htoken =>
    split at h
    · cases h
      exact token_eq_ok htoken
    · cases h

theorem remaining_pushBack_le {cursor after : Cursor} {token : Token}
    (h : next cursor = .ok (some token) after) :
    (after.pushBack token).remaining ≤ cursor.remaining := by
  have := next_eq_ok_some h
  simp only [remaining, pushBack, this.2] at *
  simp at *
  omega

end Cursor
end DotPath
