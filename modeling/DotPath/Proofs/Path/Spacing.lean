import DotPath.Path.Parser
import DotPath.Proofs.Token.Spacing

/-!
This module contains the proof that all that counts for the reading of a path are the kinds of its tokens.
Where the tokens begin is told in failures and nothing else depends on it. So two texts with tokens of the
same kinds spell the same path or have the same fault, and blanks between tokens make no difference.
-/

namespace DotPath

/-- Both failures are about malformed texts and name the same fault, each at a place in its own text. -/
inductive Failure.SameFault : Failure → Failure → Prop where
  | malformed (fault : SyntaxFault) (offset : Nat) (consumed remaining : String) (offset' : Nat)
      (consumed' remaining' : String) :
    SameFault (.malformed fault offset consumed remaining)
      (.malformed fault offset' consumed' remaining')

/-- Both cursors stand in front of tokens of the same kinds, and behind these the texts end. -/
structure Cursor.Like (cursor other : Cursor) : Prop where
  kinds_eq : cursor.kinds = other.kinds
  ends : cursor.stream.failure? = none
  ends' : other.stream.failure? = none

/-- Two readers end with related values in front of the same tokens, or they fail with the same fault. -/
inductive EndsAlike {α : Type} (R : α → α → Prop) :
    EStateM.Result Failure Cursor α → EStateM.Result Failure Cursor α → Prop where
  | ok (hvalue : R value value') (hafter : Cursor.Like after after') :
    EndsAlike R (.ok value after) (.ok value' after')
  | error {failure failure' : Failure} (hfault : failure.SameFault failure') :
    EndsAlike R (.error failure after) (.error failure' after')

namespace Cursor

variable {cursor other after after' : Cursor} {token token' : Token}

theorem sameFault_failureAt (cursor other : Cursor) (offset offset' : Nat) (fault : SyntaxFault) :
    (cursor.failureAt offset fault).SameFault (other.failureAt offset' fault) := by
  apply Failure.SameFault.malformed

theorem sameFault_unexpected (hkind : token.kind = token'.kind) (expected : Expectation) :
    (cursor.unexpected token expected).SameFault (other.unexpected token' expected) := by
  rw [unexpected, unexpected, hkind]
  apply sameFault_failureAt

namespace Like

theorem of_next (h : cursor.Like other) (hnext : next cursor = .ok (some token) after)
    (hnext' : next other = .ok (some token') after') : token.kind = token'.kind ∧ after.Like after' := by
  have hspans := spans_of_next_some hnext rfl
  have hspans' := spans_of_next_some hnext' rfl
  have hkinds := h.kinds_eq
  rw [hspans.kinds_eq, hspans'.kinds_eq, List.singleton_append, List.singleton_append,
    List.cons.injEq] at hkinds
  refine ⟨hkinds.1, hkinds.2, ?_, ?_⟩
  · rw [← hspans.failure?_eq, h.ends]
  · rw [← hspans'.failure?_eq, h.ends']

theorem of_finish (h : cursor.Like other) (hnext : next cursor = .ok none after)
    (hnext' : next other = .ok none after') : after.Like after' := by
  refine ⟨?_, ?_, ?_⟩
  · rw [kinds_of_next_none (next_after_next_none hnext),
      kinds_of_next_none (next_after_next_none hnext')]
  · rw [← (spans_of_next_none hnext).failure?_eq, h.ends]
  · rw [← (spans_of_next_none hnext').failure?_eq, h.ends']

theorem pushBack (h : cursor.Like other) (hnext : next cursor = .ok (some token) after)
    (hnext' : next other = .ok (some token') after') :
    (after.pushBack token).Like (after'.pushBack token') := by
  refine ⟨?_, ?_, ?_⟩
  · rw [kinds, kinds, stream_pushBack hnext, stream_pushBack hnext', ← kinds, ← kinds, h.kinds_eq]
  · rw [stream_pushBack hnext, h.ends]
  · rw [stream_pushBack hnext', h.ends']

/-- What is found in front of one cursor is found in front of the other. -/
theorem next_eq (h : cursor.Like other) :
    (∃ after after', next cursor = .ok none after ∧ next other = .ok none after'
        ∧ after.Like after')
      ∨ ∃ token token' after after', next cursor = .ok (some token) after
        ∧ next other = .ok (some token') after' ∧ token.kind = token'.kind ∧ after.Like after' := by
  cases hkinds : cursor.kinds with
  | nil =>
    rcases next_of_kinds_nil hkinds h.ends with ⟨after, hnext⟩
    rw [h.kinds_eq] at hkinds
    rcases next_of_kinds_nil hkinds h.ends' with ⟨after', hnext'⟩
    exact .inl ⟨after, after', hnext, hnext', h.of_finish hnext hnext'⟩
  | cons kind rest =>
    rcases next_of_kinds_cons hkinds with ⟨token, after, hnext, -⟩
    rw [h.kinds_eq] at hkinds
    rcases next_of_kinds_cons hkinds with ⟨token', after', hnext', -⟩
    exact .inr ⟨token, token', after, after', hnext, hnext', h.of_next hnext hnext'⟩

end Like

theorem token_endsAlike (h : cursor.Like other) (expected : Expectation) :
    EndsAlike (fun token token' => token.kind = token'.kind) (Cursor.token expected cursor)
      (Cursor.token expected other) := by
  rcases h.next_eq with ⟨after, after', hnext, hnext', hafter⟩ |
    ⟨token, token', after, after', hnext, hnext', hkind, hafter⟩
  · rw [Cursor.token, Cursor.token, hnext, hnext']
    exact .error (sameFault_failureAt _ _ _ _ _)
  · rw [Cursor.token, Cursor.token, hnext, hnext']
    exact .ok hkind hafter

theorem accept_endsAlike {α : Type} {meaning : TokenKind → Option α} (h : cursor.Like other)
    (expected : Expectation) :
    EndsAlike Eq (Cursor.accept expected meaning cursor) (Cursor.accept expected meaning other) := by
  have htoken := token_endsAlike h expected
  unfold Cursor.accept
  generalize Cursor.token expected cursor = result at htoken
  generalize Cursor.token expected other = result' at htoken
  cases htoken with
  | error hfault => exact .error hfault
  | ok hkind hafter =>
    dsimp only
    rw [hkind]
    split
    · exact .ok rfl hafter
    · exact .error (sameFault_unexpected hkind expected)

end Cursor

variable {cursor other : Cursor}

theorem Comparison.read_endsAlike (h : cursor.Like other) :
    EndsAlike Eq (Comparison.read cursor) (Comparison.read other) := by
  have hleft : EndsAlike Eq (Operand.read cursor) (Operand.read other) :=
    Cursor.accept_endsAlike h .operand
  unfold Comparison.read
  generalize Operand.read cursor = result at hleft
  generalize Operand.read other = result' at hleft
  cases hleft with
  | error hfault => exact .error hfault
  | ok hvalue hafterLeft =>
    cases hvalue
    next left _ _ =>
    dsimp only
    rcases hafterLeft.next_eq with ⟨after, after', hnext, hnext', hafter⟩ |
      ⟨token, token', after, after', hnext, hnext', hkind, hafter⟩
    · rw [hnext, hnext']
      exact .ok rfl hafter
    · rw [hnext, hnext']
      dsimp only
      rw [← hkind]
      cases token.kind.comparator? with
      | none => exact .ok rfl (hafterLeft.pushBack hnext hnext')
      | some comparator =>
        cases left with
        | integer n => exact .error (Cursor.sameFault_failureAt _ _ _ _ _)
        | text s =>
          have hright : EndsAlike Eq (Operand.read after) (Operand.read after') :=
            Cursor.accept_endsAlike hafter .operand
          dsimp only
          generalize Operand.read after = result at hright
          generalize Operand.read after' = result' at hright
          cases hright with
          | error hfault => exact .error hfault
          | ok hvalue hlast =>
            cases hvalue
            exact .ok rfl hlast

namespace Filter

/-- The two texts are read in step, so the recursion is that of the chain. -/
theorem readChain_endsAlike (left : Filter) {cursor other : Cursor} (h : cursor.Like other) :
    EndsAlike Eq (readChain left cursor) (readChain left other) := by
  have htoken := Cursor.token_endsAlike h .closingBracket
  rw [readChain_eq, readChain_eq left other]
  generalize hresult : Cursor.token .closingBracket cursor = result at htoken
  generalize Cursor.token .closingBracket other = result' at htoken
  cases htoken with
  | error hfault => exact .error hfault
  | ok hkind hafter =>
    dsimp only
    rw [hkind]
    split
    · exact .ok rfl hafter
    · split
      · exact .error (Cursor.sameFault_unexpected hkind .connectiveOrEnd)
      · have hcomparison := Comparison.read_endsAlike hafter
        generalize hread : Comparison.read _ = result at hcomparison
        generalize Comparison.read _ = result' at hcomparison
        cases hcomparison with
        | error hfault => exact .error hfault
        | ok hvalue hlast =>
          cases hvalue
          have := (Cursor.token_eq_ok hresult).1
          have := Comparison.remaining_lt_of_read hread
          exact readChain_endsAlike _ hlast
termination_by cursor.remaining
decreasing_by omega

theorem read_endsAlike (h : cursor.Like other) :
    EndsAlike Eq (Filter.read cursor) (Filter.read other) := by
  have hfirst := Comparison.read_endsAlike h
  unfold Filter.read
  generalize Comparison.read cursor = result at hfirst
  generalize Comparison.read other = result' at hfirst
  cases hfirst with
  | error hfault => exact .error hfault
  | ok hvalue hafter =>
    cases hvalue
    exact readChain_endsAlike _ hafter

end Filter

namespace Path

theorem readKey_endsAlike (h : cursor.Like other) (expected : Expectation) :
    EndsAlike Eq (readKey expected cursor) (readKey expected other) :=
  Cursor.accept_endsAlike h expected

theorem readFirst_endsAlike (h : cursor.Like other) :
    EndsAlike Eq (readFirst cursor) (readFirst other) := by
  have htoken := Cursor.token_endsAlike h .key
  unfold readFirst
  generalize Cursor.token .key cursor = result at htoken
  generalize Cursor.token .key other = result' at htoken
  cases htoken with
  | error hfault => exact .error hfault
  | ok hkind hafter =>
    dsimp only
    rw [hkind]
    split
    · have hkey := readKey_endsAlike hafter .key
      generalize readKey .key _ = result at hkey
      generalize readKey .key _ = result' at hkey
      cases hkey with
      | error hfault => exact .error hfault
      | ok hvalue hlast =>
        cases hvalue
        exact .ok rfl hlast
    · exact .ok rfl hafter
    · exact .error (Cursor.sameFault_unexpected hkind .key)

theorem readKeys_endsAlike (path : Path) {cursor other : Cursor} (h : cursor.Like other) :
    EndsAlike Eq (readKeys path cursor) (readKeys path other) := by
  rw [readKeys_eq, readKeys_eq path other]
  rcases h.next_eq with ⟨after, after', hnext, hnext', hafter⟩ |
    ⟨token, token', after, after', hnext, hnext', hkind, hafter⟩
  · rw [hnext, hnext']
    exact .ok rfl hafter
  · rw [hnext, hnext']
    dsimp only
    rw [← hkind]
    split
    · have hkey := readKey_endsAlike hafter .keyAfterDot
      generalize hread : readKey .keyAfterDot after = result at hkey
      generalize readKey .keyAfterDot after' = result' at hkey
      cases hkey with
      | error hfault => exact .error hfault
      | ok hvalue hlast =>
        cases hvalue
        have := (Cursor.next_eq_ok_some hnext).1
        have := (Cursor.accept_eq_ok hread).1
        exact readKeys_endsAlike _ hlast
    · exact .ok rfl (h.pushBack hnext hnext')
termination_by cursor.remaining
decreasing_by omega

theorem readFilters_endsAlike {cursor other : Cursor} (h : cursor.Like other) :
    EndsAlike Eq (readFilters cursor) (readFilters other) := by
  rw [readFilters_eq, readFilters_eq other]
  rcases h.next_eq with ⟨after, after', hnext, hnext', hafter⟩ |
    ⟨token, token', after, after', hnext, hnext', hkind, hafter⟩
  · rw [hnext, hnext']
    exact .ok rfl hafter
  · rw [hnext, hnext']
    dsimp only
    rw [← hkind]
    split
    · have hfilter := Filter.read_endsAlike hafter
      generalize hread : Filter.read after = result at hfilter
      generalize Filter.read after' = result' at hfilter
      cases hfilter with
      | error hfault => exact .error hfault
      | ok hvalue hmiddle =>
        cases hvalue
        have := (Cursor.next_eq_ok_some hnext).1
        have := Filter.remaining_lt_of_read hread
        have hothers := readFilters_endsAlike hmiddle
        dsimp only
        generalize readFilters _ = result at hothers
        generalize readFilters _ = result' at hothers
        cases hothers with
        | error hfault => exact .error hfault
        | ok hvalue hlast =>
          cases hvalue
          exact .ok rfl hlast
    · exact .error (Cursor.sameFault_unexpected hkind .filterOrEnd)
termination_by cursor.remaining
decreasing_by omega

theorem read_endsAlike (h : cursor.Like other) :
    EndsAlike Eq (Path.read cursor) (Path.read other) := by
  have hfirst := readFirst_endsAlike h
  rw [Path.read]
  simp only [bind, EStateM.bind, pure, EStateM.pure]
  generalize readFirst cursor = result at hfirst
  generalize readFirst other = result' at hfirst
  cases hfirst with
  | error hfault => exact .error hfault
  | ok hvalue hafter =>
    cases hvalue
    next first _ _ =>
    have hkeys := readKeys_endsAlike first hafter
    dsimp only
    generalize readKeys first _ = result at hkeys
    generalize readKeys first _ = result' at hkeys
    cases hkeys with
    | error hfault => exact .error hfault
    | ok hvalue hmiddle =>
      cases hvalue
      have hfilters := readFilters_endsAlike hmiddle
      dsimp only
      generalize readFilters _ = result at hfilters
      generalize readFilters _ = result' at hfilters
      cases hfilters with
      | error hfault => exact .error hfault
      | ok hvalue hlast =>
        cases hvalue
        exact .ok rfl hlast

/-- Two texts with tokens of the same kinds spell the same path, or they have the same fault. -/
theorem parse_alike {text other : String} (h : (Cursor.ofText text).Like (Cursor.ofText other)) :
    (∃ path, parse text = .ok path ∧ parse other = .ok path)
      ∨ ∃ failure failure', parse text = .error failure ∧ parse other = .error failure'
        ∧ failure.SameFault failure' := by
  have hread := read_endsAlike h
  unfold parse
  generalize read (Cursor.ofText text) = result at hread
  generalize read (Cursor.ofText other) = result' at hread
  cases hread with
  | ok hvalue _ =>
    cases hvalue
    exact .inl ⟨_, rfl, rfl⟩
  | error hfault => exact .inr ⟨_, _, rfl, rfl, hfault⟩

/--
Blanks that are put in between the tokens of a query neither change these nor what the query spells, and if
it spells nothing then the fault stays the same.
-/
theorem parse_alike_of_spreads {text spread : String}
    (hends : (Cursor.ofText text).stream.failure? = none)
    (hspreads : Spreads text.toList spread.toList) :
    (Cursor.ofText spread).kinds = (Cursor.ofText text).kinds
      ∧ (Cursor.ofText spread).stream.failure? = none
      ∧ ((∃ path, parse text = .ok path ∧ parse spread = .ok path)
        ∨ ∃ failure failure', parse text = .error failure ∧ parse spread = .error failure'
          ∧ failure.SameFault failure') := by
  have hlexes := (Lexes.iff_stream []).mpr ⟨rfl, hends⟩
  rcases (Lexes.iff_stream []).mp (hspreads.lexes hlexes) with ⟨hkinds, hends'⟩
  exact ⟨hkinds, hends', parse_alike ⟨hkinds.symm, hends, hends'⟩⟩

theorem parse_alike_of_spread_filter :
    let text := "a[b>\"c d\"]"
    let spread := " a [\tb > \"c d\" ]\u3000"
    ((Cursor.ofText text).stream.failure? = none ∧ Spreads text.toList spread.toList)
      ∧ ∃ path, parse text = .ok path ∧ parse spread = .ok path := by
  intro text spread
  have hends : (Cursor.ofText text).stream.failure? = none := by decide +kernel
  have hspreads : Spreads text.toList spread.toList := by
    show Spreads "a[b>\"c d\"]".toList " a [\tb > \"c d\" ]\u3000".toList
    refine .insert (b := ' ') rfl ?_
    refine @Spreads.lexeme 'a' [] _ _ _ rfl rfl ?_
    refine .insert (b := ' ') rfl ?_
    refine @Spreads.lexeme '[' [] _ _ _ rfl rfl ?_
    refine .insert (b := '\t') rfl ?_
    refine @Spreads.lexeme 'b' [] _ _ _ rfl rfl ?_
    refine .insert (b := ' ') rfl ?_
    refine @Spreads.lexeme '>' [] _ _ _ rfl rfl ?_
    refine .insert (b := ' ') rfl ?_
    refine @Spreads.lexeme '"' ['c', ' ', 'd', '"'] _ _ _ rfl rfl ?_
    refine .insert (b := ' ') rfl ?_
    refine @Spreads.lexeme ']' [] _ _ _ rfl rfl ?_
    exact .insert (b := '\u3000') rfl (.rest [])
  refine ⟨⟨hends, hspreads⟩, ?_⟩
  rcases parse_alike_of_spreads hends hspreads with ⟨-, -, hsame | ⟨failure, _, hparse, -⟩⟩
  · exact hsame
  · have hspells : (parse text).isOk = true := by decide +kernel
    rw [hparse] at hspells
    cases hspells

end Path

end DotPath
