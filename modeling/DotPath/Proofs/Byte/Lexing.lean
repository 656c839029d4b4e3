import DotPath.Proofs.Byte.Following

/-!
This module contains the proof that a lexeme which is read byte by byte is the one that the characters begin
with, and that so is a token.
-/

namespace DotPath

open Text

/-- Passes the characters of the lexeme, whether it is a token or faulty. -/
def Lexeme.read (lexeme : Lexeme) : Reader TokenKind := fun cursor =>
  let after := cursor.advance lexeme.chars.length
  match lexeme.outcome with
  | .ok kind => .ok kind after
  | .error fault => .error (cursor.failureAt cursor.offset fault) after

variable {before rest cs : List Char} {c : Char}

namespace Cursor

theorem advance_append (before chars behind : List Char) (pending : Option Token) :
    (Cursor.mk before (chars ++ behind) pending).advance chars.length
      = ⟨chars.reverse ++ before, behind, pending⟩ := by
  simp [advance]

theorem failureAt_congr {cursor other : Cursor} (h : cursor.text = other.text) (place : Nat)
    (fault : SyntaxFault) : cursor.failureAt place fault = other.failureAt place fault := by
  rw [failureAt, failureAt, h]

end Cursor

namespace Lexeme

theorem read_ok (before chars behind : List Char) (kind : TokenKind) :
    (Lexeme.mk chars (.ok kind)).read ⟨before, chars ++ behind, none⟩
      = .ok kind ⟨chars.reverse ++ before, behind, none⟩ := by
  simp only [read, Cursor.advance_append]

theorem read_error (before chars behind : List Char) (fault : SyntaxFault) :
    (Lexeme.mk chars (.error fault)).read ⟨before, chars ++ behind, none⟩
      = .error (Cursor.failureAt ⟨before, chars ++ behind, none⟩ (byteLength before) fault)
        ⟨chars.reverse ++ before, behind, none⟩ := by
  simp only [read, Cursor.advance_append]
  rfl

end Lexeme

namespace ByteReader

theorem yields_fault {cursor : Cursor} (before rest : List Char)
    (h : cursor.text = (Cursor.mk before rest none).text) (fault : SyntaxFault) :
    (failAt (α := TokenKind) (byteLength before) fault).Yields cursor
      (.error ((Cursor.mk before rest none).failureAt (byteLength before) fault) cursor) := by
  rw [← Cursor.failureAt_congr h]
  apply yields_failAt
  refine ⟨before.reverse, rest, h, ?_⟩
  rw [byteLength_reverse]

theorem yields_slice_behind (before chars behind : List Char) :
    (slice (byteLength before) (byteLength (chars.reverse ++ before))).Yields
      ⟨chars.reverse ++ before, behind, none⟩
      (.ok (String.ofList chars) ⟨chars.reverse ++ before, behind, none⟩) := by
  have hlast : byteLength (chars.reverse ++ before) = byteLength (before.reverse ++ chars) := by
    simp [Nat.add_comm]
  rw [hlast, ← byteLength_reverse before]
  apply @yields_slice _ before.reverse chars behind
  simp [Cursor.text]

theorem yields_single (kind : TokenKind) :
    (single kind).Yields ⟨before, c :: cs, none⟩ ((Lexeme.single c kind).read ⟨before, c :: cs, none⟩) := by
  apply yields_bump.bind
  apply Yields.pure

theorem yields_pair (second : Char) (kind : TokenKind) :
    (pair c second kind).Yields ⟨before, c :: cs, none⟩
      ((Lexeme.pair c second cs kind).read ⟨before, c :: cs, none⟩) := by
  apply yields_position.bind
  apply yields_bump.bind
  have hconsume := @yields_consume (c :: before) cs none second
  rw [Lexeme.pair]
  split at hconsume
  · next h =>
    rcases List.head?_eq_some_iff.mp h with ⟨tail, rfl⟩
    apply hconsume.bind
    rw [if_pos h]
    apply Yields.pure
  · next h =>
    apply hconsume.bind
    rw [if_neg h]
    apply yields_fault before (c :: cs) text_mk_cons

theorem yields_optionalPair (withEquals without : TokenKind) :
    (optionalPair withEquals without).Yields ⟨before, c :: cs, none⟩
      ((Lexeme.optionalPair c cs withEquals without).read ⟨before, c :: cs, none⟩) := by
  apply yields_bump.bind
  have hconsume := @yields_consume (c :: before) cs none '='
  rw [Lexeme.optionalPair]
  split at hconsume
  · next h =>
    rcases List.head?_eq_some_iff.mp h with ⟨tail, rfl⟩
    apply hconsume.bind
    rw [if_pos h]
    apply Yields.pure
  · next h =>
    apply hconsume.bind
    rw [if_neg h]
    apply Yields.pure

theorem yields_quotation :
    quotation.Yields ⟨before, '"' :: cs, none⟩ ((Lexeme.quotation cs).read ⟨before, '"' :: cs, none⟩) := by
  apply yields_position.bind
  apply yields_bump.bind
  apply yields_position.bind
  apply (yields_skipWhile (· != '"')).bind
  apply yields_peek.bind
  have happend := List.takeWhile_append_dropWhile (p := (· != '"')) (l := cs)
  rw [Lexeme.quotation]
  generalize cs.takeWhile (· != '"') = body at happend ⊢
  cases hdrop : cs.dropWhile (· != '"') with
  | nil =>
    rw [hdrop, List.append_nil] at happend
    subst happend
    have hread := Lexeme.read_error before ('"' :: body) [] .unterminatedString
    rw [List.append_nil] at hread
    rw [if_neg (Nat.lt_irrefl _), hread, List.reverse_cons, List.append_assoc]
    apply yields_fault
    simp [Cursor.text]
  | cons quote tail =>
    have hquote : quote = '"' := by
      have := List.head?_dropWhile_not (· != '"') cs
      rw [hdrop] at this
      simpa using this
    rw [hdrop] at happend
    subst hquote happend
    have hrest : '"' :: (body ++ '"' :: tail) = ('"' :: body ++ ['"']) ++ tail := by
      simp
    have hbefore : ('"' :: body ++ ['"']).reverse ++ before = '"' :: (body.reverse ++ '"' :: before) := by
      simp
    rw [if_pos (by simp), hrest, Lexeme.read_ok, hbefore]
    apply yields_position.bind
    apply (yields_slice_behind _ _ _).bind
    apply yields_bump.bind
    apply Yields.pure

theorem yields_word (h : isAlphabetic c = true) :
    word.Yields ⟨before, c :: cs, none⟩ ((Lexeme.word c cs).read ⟨before, c :: cs, none⟩) := by
  have hc := isSymbolChar_of_isAlphabetic h
  have hread := Lexeme.read_ok before (c :: cs.takeWhile isSymbolChar) (cs.dropWhile isSymbolChar)
    (.text (String.ofList (c :: cs.takeWhile isSymbolChar)))
  rw [List.cons_append, List.takeWhile_append_dropWhile] at hread
  apply yields_position.bind
  apply (yields_skipWhile isSymbolChar).bind
  rw [List.takeWhile_cons_of_pos hc, List.dropWhile_cons_of_pos hc, Lexeme.word, hread]
  apply yields_position.bind
  apply (yields_slice_behind _ _ _).bind
  apply Yields.pure

theorem yields_integer (h : c.isDigit = true) :
    integer.Yields ⟨before, c :: cs, none⟩ ((Lexeme.integer c cs).read ⟨before, c :: cs, none⟩) := by
  have hrest : c :: cs = (c :: cs.takeWhile Char.isDigit) ++ cs.dropWhile Char.isDigit := by
    rw [List.cons_append, List.takeWhile_append_dropWhile]
  apply yields_position.bind
  apply (yields_skipWhile Char.isDigit).bind
  apply yields_peek.bind
  rw [List.takeWhile_cons_of_pos h, List.dropWhile_cons_of_pos h]
  have htext : (Cursor.mk ((c :: cs.takeWhile Char.isDigit).reverse ++ before)
      (cs.dropWhile Char.isDigit) none).text = (Cursor.mk before (c :: cs) none).text := by
    simp [Cursor.text]
  rw [Lexeme.integer]
  split
  · rw [hrest, Lexeme.read_error, ← hrest]
    apply yields_fault _ _ htext
  · apply yields_position.bind
    apply (yields_slice_behind _ _ _).bind
    rw [String.toList_ofList]
    dsimp only
    split
    · rw [hrest, Lexeme.read_ok]
      apply Yields.pure
    · rw [hrest, Lexeme.read_error, ← hrest]
      apply yields_fault _ _ htext

theorem yields_lexeme :
    (lexeme c).Yields ⟨before, c :: cs, none⟩ ((Lexeme.scan c cs).read ⟨before, c :: cs, none⟩) := by
  unfold Lexeme.scan
  split
  · apply yields_single
  · apply yields_single
  · apply yields_single
  · apply yields_single
  · apply yields_pair
  · apply yields_pair
  · apply yields_pair
  · apply yields_pair
  · apply yields_optionalPair
  · apply yields_optionalPair
  · apply yields_quotation
  · -- What is left are the characters that no lexeme of a fixed length begins with.
    have hlexeme : lexeme c = if isAlphabetic c then word else if c.isDigit then integer else
        position >>= fun place => failAt place (.unexpectedCharacter c) := by
      unfold lexeme
      split <;> first | contradiction | rfl
    rw [hlexeme]
    cases halphabetic : isAlphabetic c with
    | true => apply yields_word halphabetic
    | false =>
      cases hdigit : c.isDigit with
      | true => apply yields_integer hdigit
      | false =>
        apply yields_position.bind
        apply yields_fault
        rfl

/-- A faulty lexeme is passed in the same way, and reading can go on behind it. -/
theorem yields_next {cursor : Cursor} : next.Yields cursor (Cursor.next cursor) := by
  rcases cursor with ⟨before, rest, pending⟩
  apply yields_get
  intro bytes hmarks
  rw [hmarks.pending_eq]
  cases pending with
  | some token =>
    have htake : (modify fun bytes => { bytes with pending := none } : ByteReader Unit).Yields
        ⟨before, rest, some token⟩ (.ok () ⟨before, rest, none⟩) := by
      apply yields_modify
      intro bytes hmarks
      refine ⟨hmarks.text_eq, hmarks.position_eq, rfl, hmarks.boundary_of_mem, ?_⟩
      intro token h
      cases h
    apply htake.bind
    apply Yields.pure
  | none =>
    have hskip := Cursor.advance_append before (rest.takeWhile isBlank) (rest.dropWhile isBlank) none
    rw [List.takeWhile_append_dropWhile] at hskip
    have hnext : Cursor.next ⟨before, rest, none⟩ = Cursor.readLexeme
        ⟨(rest.takeWhile isBlank).reverse ++ before, rest.dropWhile isBlank, none⟩ := by
      rw [← hskip]
      rfl
    apply (yields_skipWhile isBlank).bind
    rw [hnext]
    generalize (rest.takeWhile isBlank).reverse ++ before = before
    apply yields_position.bind
    apply yields_peek.bind
    cases rest.dropWhile isBlank with
    | nil => apply Yields.pure
    | cons c cs =>
      have hlexeme := @yields_lexeme before cs c
      rw [Cursor.readLexeme]
      rw [Lexeme.read] at hlexeme
      dsimp only at hlexeme ⊢
      cases hscan : (Lexeme.scan c cs).outcome with
      | error fault =>
        rw [hscan] at hlexeme
        apply hlexeme.bind_error
      | ok kind =>
        rw [hscan] at hlexeme
        apply hlexeme.bind
        have hcuts : Cuts (byteLength before)
            (Cursor.advance ⟨before, c :: cs, none⟩ (Lexeme.scan c cs).chars.length).text := by
          rw [Cursor.text_advance]
          exact ⟨before.reverse, c :: cs, rfl, (byteLength_reverse before).symm⟩
        apply (yields_note hcuts).bind
        apply Yields.pure

theorem yields_pushBack {cursor : Cursor} {token : Token} (hpending : cursor.pending = none)
    (h : Cuts token.offset cursor.text) :
    (pushBack token).Yields cursor (.ok () (cursor.pushBack token)) := by
  apply yields_get
  intro bytes hmarks
  rw [hmarks.pending_eq, hpending]
  apply yields_modify
  intro bytes hmarks
  refine ⟨hmarks.text_eq, hmarks.position_eq, rfl, hmarks.boundary_of_mem, ?_⟩
  intro token h
  cases h
  exact h

example (first second : Token) : (do pushBack first; pushBack second).runOn "a.b" = none := rfl

end ByteReader
end DotPath
