import DotPath.Path.Parser

/-!
This module contains what readers do with the text that they read. None of them changes it, and if one
of them fails then it blames a place of this text. So reading fails in one way only, for a malformed
text.
-/

namespace DotPath

/-- The failure says what is wrong at some place of `text`. -/
def Failure.Blames (failure : Failure) (text : List Char) : Prop :=
  ∃ (cursor : Cursor) (offset : Nat) (fault : SyntaxFault),
    cursor.text = text ∧ failure = cursor.failureAt offset fault

/-- A reader that was given `text` has kept it, and its failure, if it has failed, blames a place of it. -/
def Reads {α : Type} (text : List Char) (result : EStateM.Result Failure Cursor α) : Prop :=
  match result with
  | .ok _ after => after.text = text
  | .error failure after => after.text = text ∧ failure.Blames text

theorem Failure.Blames.eq_malformed {failure : Failure} {text : List Char} (h : failure.Blames text) :
    ∃ fault offset consumed remaining, failure = .malformed fault offset consumed remaining := by
  rcases h with ⟨cursor, offset, fault, -, rfl⟩
  exact ⟨_, _, _, _, rfl⟩

theorem Failure.Blames.isOptionalMissing {failure : Failure} {text : List Char}
    (h : failure.Blames text) : failure.isOptionalMissing = false := by
  rcases h.eq_malformed with ⟨_, _, _, _, rfl⟩
  rfl

namespace Cursor

variable {cursor after : Cursor} {text : List Char}

theorem blames_failureAt (h : cursor.text = text) (offset : Nat) (fault : SyntaxFault) :
    (cursor.failureAt offset fault).Blames text :=
  ⟨cursor, offset, fault, h, rfl⟩

theorem blames_unexpected (h : cursor.text = text) (token : Token) (expected : Expectation) :
    (cursor.unexpected token expected).Blames text :=
  blames_failureAt h token.offset (.unexpectedToken expected token.kind)

theorem blames_unexpectedEnd (h : cursor.text = text) (expected : Expectation) :
    (cursor.unexpectedEnd expected).Blames text :=
  blames_failureAt h (Text.byteLength cursor.text) (.unexpectedEnd expected)

theorem readLexeme_reads (h : cursor.text = text) : Reads text (readLexeme cursor) := by
  unfold readLexeme
  split
  · exact h
  · next c cs hrest =>
    have hafter : (cursor.advance (Lexeme.scan c cs).chars.length).text = text := by
      rw [text_advance, h]
    dsimp only
    split
    · exact hafter
    · exact ⟨hafter, blames_failureAt h _ _⟩

theorem next_reads (h : cursor.text = text) : Reads text (next cursor) := by
  unfold next
  split
  · exact h
  · apply readLexeme_reads
    rw [text_skipBlanks, h]

theorem token_reads (expected : Expectation) (h : cursor.text = text) :
    Reads text (token expected cursor) := by
  have hnext := next_reads h
  unfold token
  split
  · next hfailure => rwa [hfailure] at hnext
  · next hend =>
    rw [hend] at hnext
    exact ⟨hnext, blames_unexpectedEnd hnext expected⟩
  · next hsome => rwa [hsome] at hnext

theorem accept_reads {α : Type} (expected : Expectation) (meaning : TokenKind → Option α)
    (h : cursor.text = text) : Reads text (accept expected meaning cursor) := by
  have htoken := token_reads expected h
  unfold accept
  split
  · next hfailure => rwa [hfailure] at htoken
  · next hok =>
    rw [hok] at htoken
    split
    · exact htoken
    · exact ⟨htoken, blames_unexpected htoken _ expected⟩

end Cursor

variable {cursor : Cursor} {text : List Char}

theorem Comparison.read_reads (h : cursor.text = text) : Reads text (Comparison.read cursor) := by
  have hleft : Reads text (Operand.read cursor) := Cursor.accept_reads .operand Operand.ofToken? h
  unfold Comparison.read
  split
  · next hfailure => rwa [hfailure] at hleft
  · next hok =>
    rw [hok] at hleft
    have hnext := Cursor.next_reads hleft
    split
    · next hfailure => rwa [hfailure] at hnext
    · next hend => rwa [hend] at hnext
    · next token afterToken hsome =>
      rw [hsome] at hnext
      split
      · exact hnext
      · exact ⟨hnext, Cursor.blames_failureAt hnext cursor.offset .integerOnLeft⟩
      · have hright : Reads text (Operand.read afterToken) :=
          Cursor.accept_reads .operand Operand.ofToken? hnext
        split
        · next hfailure => rwa [hfailure] at hright
        · next hok => rwa [hok] at hright

namespace Filter

theorem readChain_reads (left : Filter) (h : cursor.text = text) :
    Reads text (readChain left cursor) := by
  fun_induction readChain left cursor with
  | case1 left cursor failure after hfailure =>
    have htoken := Cursor.token_reads .closingBracket h
    rwa [hfailure] at htoken
  | case2 left cursor token after hok =>
    have htoken := Cursor.token_reads .closingBracket h
    rwa [hok] at htoken
  | case3 left cursor token after hok =>
    have htoken := Cursor.token_reads .closingBracket h
    rw [hok] at htoken
    exact ⟨htoken, Cursor.blames_unexpected htoken token .connectiveOrEnd⟩
  | case4 left cursor token after hok _ connective _ failure last hfailure =>
    have htoken := Cursor.token_reads .closingBracket h
    rw [hok] at htoken
    have hright := Comparison.read_reads htoken
    rwa [hfailure] at hright
  | case5 left cursor token after hok _ connective _ right last hright ih =>
    have htoken := Cursor.token_reads .closingBracket h
    rw [hok] at htoken
    have hread := Comparison.read_reads htoken
    rw [hright] at hread
    exact ih hread

theorem read_reads (h : cursor.text = text) : Reads text (Filter.read cursor) := by
  have hfirst := Comparison.read_reads h
  unfold Filter.read
  split
  · next hfailure => rwa [hfailure] at hfirst
  · next hok =>
    rw [hok] at hfirst
    exact readChain_reads _ hfirst

end Filter

namespace Path

theorem readKey_reads (expected : Expectation) (h : cursor.text = text) :
    Reads text (readKey expected cursor) :=
  Cursor.accept_reads expected TokenKind.text? h

theorem readFirst_reads (h : cursor.text = text) : Reads text (readFirst cursor) := by
  have htoken := Cursor.token_reads .key h
  unfold readFirst
  split
  · next hfailure => rwa [hfailure] at htoken
  · next token after hok =>
    rw [hok] at htoken
    split
    · have hkey := readKey_reads .key htoken
      split
      · next hfailure => rwa [hfailure] at hkey
      · next hok => rwa [hok] at hkey
    · exact htoken
    · exact ⟨htoken, Cursor.blames_unexpected htoken token .key⟩

theorem readKeys_reads (path : Path) (h : cursor.text = text) : Reads text (readKeys path cursor) := by
  have hnext := Cursor.next_reads h
  fun_induction readKeys path cursor with
  | case1 path cursor failure after hfailure => rwa [hfailure] at hnext
  | case2 path cursor after hend => rwa [hend] at hnext
  | case3 path cursor token after hsome _ failure last hfailure =>
    rw [hsome] at hnext
    have hkey := readKey_reads .keyAfterDot hnext
    rwa [hfailure] at hkey
  | case4 path cursor token after hsome _ key last hok ih =>
    rw [hsome] at hnext
    have hkey := readKey_reads .keyAfterDot hnext
    rw [hok] at hkey
    exact ih hkey (Cursor.next_reads hkey)
  | case5 path cursor token after hsome => rwa [hsome] at hnext

theorem readFilters_reads (h : cursor.text = text) : Reads text (readFilters cursor) := by
  have hnext := Cursor.next_reads h
  fun_induction readFilters cursor with
  | case1 cursor failure after hfailure => rwa [hfailure] at hnext
  | case2 cursor after hend => rwa [hend] at hnext
  | case3 cursor token after hsome _ failure last hfailure =>
    rw [hsome] at hnext
    have hfilter := Filter.read_reads hnext
    rwa [hfailure] at hfilter
  | case4 cursor token after hsome _ filter middle hok failure last hfailure ih =>
    rw [hsome] at hnext
    have hfilter := Filter.read_reads hnext
    rw [hok] at hfilter
    have hothers := ih hfilter (Cursor.next_reads hfilter)
    rwa [hfailure] at hothers
  | case5 cursor token after hsome _ filter middle hok filters last hothers ih =>
    rw [hsome] at hnext
    have hfilter := Filter.read_reads hnext
    rw [hok] at hfilter
    have hrest := ih hfilter (Cursor.next_reads hfilter)
    rwa [hothers] at hrest
  | case6 cursor token after hsome =>
    rw [hsome] at hnext
    exact ⟨hnext, Cursor.blames_unexpected hnext token .filterOrEnd⟩

theorem read_reads (h : cursor.text = text) : Reads text (Path.read cursor) := by
  have hfirst := readFirst_reads h
  rw [Path.read]
  simp only [bind, EStateM.bind, pure, EStateM.pure]
  split
  · next first afterFirst hok =>
    rw [hok] at hfirst
    have hkeys := readKeys_reads first hfirst
    split
    · next path afterKeys hok =>
      rw [hok] at hkeys
      have hfilters := readFilters_reads hkeys
      split
      · next hok => rwa [hok] at hfilters
      · next hfailure => rwa [hfailure] at hfilters
    · next hfailure => rwa [hfailure] at hkeys
  · next hfailure => rwa [hfailure] at hfirst

theorem blames_of_parse {text : String} {failure : Failure} (h : Path.parse text = .error failure) :
    failure.Blames text.toList := by
  have hread : Reads text.toList (Path.read (Cursor.ofText text)) := read_reads rfl
  unfold Path.parse at h
  split at h
  · cases h
  · next hfailure =>
    cases h
    rw [hfailure] at hread
    exact hread.2

end Path

end DotPath
