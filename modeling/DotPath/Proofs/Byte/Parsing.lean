import DotPath.Proofs.Byte.Lexing
import DotPath.Proofs.Path.Blame

/-!
This module contains the proof that what is read byte by byte of operands, comparisons, filters and paths is
what the characters spell. A token is put back only by a reader that has just asked for it, and it begins
between characters, so the offset of a cursor is a place to cut the text at.
-/

namespace DotPath

open Text

namespace Cursor

variable {cursor after : Cursor} {token : Token}

theorem text_of_next_some (h : next cursor = .ok (some token) after) : after.text = cursor.text := by
  have hreads := @next_reads cursor _ rfl
  rwa [h] at hreads

theorem cuts_of_next (hsound : cursor.Sound) (h : next cursor = .ok (some token) after) :
    Cuts token.offset after.text := by
  rw [text_of_next_some h]
  rcases cursor with ⟨before, rest, pending⟩
  cases pending with
  | some pushed =>
    cases h
    apply hsound token rfl
  | none =>
    rcases begins_of_next_some h with ⟨blanks, behind, -, hrest, -, hoffset⟩
    refine ⟨before.reverse ++ blanks, behind, ?_, hoffset⟩
    rw [text, hrest, List.append_assoc]

theorem cuts_of_next_error {text : String} {failure : Failure} (htext : cursor.text = text.toList)
    (h : next cursor = .error failure after) : failure.Cuts text := by
  rcases cursor with ⟨before, rest, pending⟩
  cases pending with
  | some pushed => cases h
  | none =>
    rcases begins_of_next_error h with ⟨blanks, behind, fault, -, rfl, -, rfl⟩
    have hcut : (Cursor.mk (blanks.reverse ++ before) behind none).text
        = (before.reverse ++ blanks) ++ behind := by
      simp [Cursor.text]
    apply cuts_failureAt _ hcut
    rw [hcut, ← htext, Cursor.text, List.append_assoc]

theorem cuts_offset (hsound : cursor.Sound) : Cuts cursor.offset cursor.text := by
  rcases cursor with ⟨before, rest, pending⟩
  cases pending with
  | some pushed => apply hsound pushed rfl
  | none => exact ⟨before.reverse, rest, rfl, (byteLength_reverse before).symm⟩

end Cursor

namespace ByteReader

variable {α : Type} {cursor : Cursor}

theorem yields_token (expected : Expectation) :
    (token expected).Yields cursor (Cursor.token expected cursor) := by
  rw [Cursor.token]
  apply yields_next.and_then
  · intro failure after h
    rw [h]
  · intro token? after h
    rw [h]
    cases token? with
    | none => apply yields_unexpectedEnd
    | some token => apply Yields.pure

theorem yields_accept (expected : Expectation) (meaning : TokenKind → Option α) :
    (accept expected meaning).Yields cursor (Cursor.accept expected meaning cursor) := by
  rw [Cursor.accept]
  apply yields_of_sound
  intro hsound
  apply (yields_token expected).and_then
  · intro failure after h
    rw [h]
  · intro token after h
    rw [h]
    dsimp only
    cases meaning token.kind with
    | none =>
      apply yields_unexpected
      apply Cursor.cuts_of_next hsound (Cursor.token_eq_ok_iff.mp h)
    | some value => apply Yields.pure

theorem yields_operand : operand.Yields cursor (Operand.read cursor) := by
  apply yields_accept

theorem yields_comparison : comparison.Yields cursor (Comparison.read cursor) := by
  rw [Comparison.read]
  apply yields_of_sound
  intro hsound
  apply yields_offset.bind
  apply yields_operand.and_then
  · intro failure after h
    rw [h]
  intro left middle hleft
  rw [hleft]
  dsimp only
  apply yields_of_sound
  intro hmiddle
  apply yields_next.and_then
  · intro failure after h
    rw [h]
  intro token? after hnext
  rw [hnext]
  cases token? with
  | none => apply Yields.pure
  | some token =>
    dsimp only
    cases token.kind.comparator? with
    | none =>
      have hback := yields_pushBack (Cursor.next_eq_ok_some hnext).2 (Cursor.cuts_of_next hmiddle hnext)
      apply hback.bind
      apply Yields.pure
    | some comparator =>
      cases left with
      | integer n =>
        apply yields_failAt
        have htext : middle.text = cursor.text := by
          have hreads := @Cursor.accept_reads cursor _ _ .operand Operand.ofToken? rfl
          rw [Operand.read] at hleft
          rwa [hleft] at hreads
        rw [Cursor.text_of_next_some hnext, htext]
        apply Cursor.cuts_offset hsound
      | text name =>
        apply yields_operand.and_then
        · intro failure after h
          rw [h]
        · intro right last h
          rw [h]
          apply Yields.pure

theorem yields_chain {rounds : Nat} (left : Filter) (hrounds : cursor.remaining < rounds) :
    (chain rounds left).Yields cursor (Filter.readChain left cursor) := by
  induction rounds generalizing left cursor with
  | zero => omega
  | succ rounds ih =>
    rw [chain, Filter.readChain_eq]
    apply yields_of_sound
    intro hsound
    apply (yields_token .closingBracket).and_then
    · intro failure after h
      rw [h]
    intro token middle htoken
    rw [htoken]
    dsimp only
    split
    · apply Yields.pure
    cases Filter.connective? token.kind with
    | none =>
      apply yields_unexpected
      apply Cursor.cuts_of_next hsound (Cursor.token_eq_ok_iff.mp htoken)
    | some connective =>
      apply yields_comparison.and_then
      · intro failure after h
        rw [h]
      intro right after hright
      rw [hright]
      apply ih
      have := (Cursor.token_eq_ok htoken).1
      have := Comparison.remaining_lt_of_read hright
      omega

theorem yields_filter : filter.Yields cursor (Filter.read cursor) := by
  rw [Filter.read]
  apply yields_comparison.and_then
  · intro failure after h
    rw [h]
  · intro first after h
    rw [h]
    apply yields_limit.bind
    apply yields_chain _ (remaining_lt_limit after)

theorem yields_key (expected : Expectation) : (key expected).Yields cursor (Path.readKey expected cursor) := by
  apply yields_accept

theorem yields_firstKey : firstKey.Yields cursor (Path.readFirst cursor) := by
  rw [Path.readFirst]
  apply yields_of_sound
  intro hsound
  apply (yields_token .key).and_then
  · intro failure after h
    rw [h]
  intro token middle htoken
  rw [htoken]
  dsimp only
  have hcuts := Cursor.cuts_of_next hsound (Cursor.token_eq_ok_iff.mp htoken)
  cases hkind : token.kind with
  | question =>
    apply (yields_key .key).and_then
    · intro failure after h
      rw [h]
    · intro key after h
      rw [h]
      apply Yields.pure
  | text key => apply Yields.pure
  | _ => apply yields_unexpected hcuts

theorem yields_keys {rounds : Nat} (path : Path) (hrounds : cursor.remaining < rounds) :
    (keys rounds path).Yields cursor (Path.readKeys path cursor) := by
  induction rounds generalizing path cursor with
  | zero => omega
  | succ rounds ih =>
    rw [keys, Path.readKeys_eq]
    apply yields_of_sound
    intro hsound
    apply yields_next.and_then
    · intro failure after h
      rw [h]
    intro token? middle hnext
    rw [hnext]
    cases token? with
    | none => apply Yields.pure
    | some token =>
      dsimp only
      split
      · apply (yields_key .keyAfterDot).and_then
        · intro failure after h
          rw [h]
        intro key after hkey
        rw [hkey]
        apply ih
        have := (Cursor.next_eq_ok_some hnext).1
        have := (Cursor.accept_eq_ok hkey).1
        omega
      · have hback := yields_pushBack (Cursor.next_eq_ok_some hnext).2 (Cursor.cuts_of_next hsound hnext)
        apply hback.bind
        apply Yields.pure

theorem yields_filters {rounds : Nat} (hrounds : cursor.remaining < rounds) :
    (filters rounds).Yields cursor (Path.readFilters cursor) := by
  induction rounds generalizing cursor with
  | zero => omega
  | succ rounds ih =>
    rw [filters, Path.readFilters_eq]
    apply yields_of_sound
    intro hsound
    apply yields_next.and_then
    · intro failure after h
      rw [h]
    intro token? middle hnext
    rw [hnext]
    cases token? with
    | none => apply Yields.pure
    | some token =>
      dsimp only
      split
      · apply yields_filter.and_then
        · intro failure after h
          rw [h]
        intro first after hfirst
        rw [hfirst]
        dsimp only
        have hothers : (filters rounds).Yields after (Path.readFilters after) := by
          apply ih
          have := (Cursor.next_eq_ok_some hnext).1
          have := Filter.remaining_lt_of_read hfirst
          omega
        apply hothers.and_then
        · intro failure last h
          rw [h]
        · intro others last h
          rw [h]
          apply Yields.pure
      · apply yields_unexpected
        apply Cursor.cuts_of_next hsound hnext

theorem yields_path : path.Yields cursor (Path.read cursor) := by
  apply yields_firstKey.bind_reader
  intro first middle
  apply yields_limit.bind
  apply (yields_keys first (remaining_lt_limit middle)).bind_reader
  intro keyed last
  apply yields_limit.bind
  apply (yields_filters (remaining_lt_limit last)).bind_reader
  intro filters after
  apply Yields.pure

end ByteReader
end DotPath
