import DotPath.Proofs.Token.Fault
import DotPath.Proofs.Token.Joining

/-!
This module contains what lies between a cursor and another one that some tokens lead to. These are the
characters that the tokens are made of, and they are so too if the text is cut behind them. What a
cursor finds next begins behind blanks, so a place that reading fails at cuts the text between tokens.
-/

namespace DotPath

namespace Cursor

open Text

/-- Reading token after token from `cursor` on yields `tokens` and ends at `after`. -/
inductive Steps : Cursor → List Token → Cursor → Prop where
  | refl (cursor : Cursor) : Steps cursor [] cursor
  | step {token : Token} (hnext : next cursor = .ok (some token) middle)
      (tail : Steps middle tokens after) :
    Steps cursor (token :: tokens) after

variable {start cursor after : Cursor} {tokens : List Token} {token : Token}
  {before rest blanks behind : List Char}

namespace Steps

theorem snoc (h : Steps start tokens cursor) (hnext : next cursor = .ok (some token) after) :
    Steps start (tokens ++ [token]) after := by
  induction h with
  | refl cursor => exact .step hnext (.refl after)
  | step hfirst _ ih => exact .step hfirst (ih hnext)

theorem exists_last (h : Steps start tokens cursor) :
    tokens = [] ∨ ∃ front last previous, tokens = front ++ [last] ∧ Steps start front previous
      ∧ next previous = .ok (some last) cursor := by
  induction h with
  | refl cursor => exact .inl rfl
  | step hfirst tail ih =>
    rcases ih with rfl | ⟨front, last, previous, rfl, hfront, hlast⟩
    · cases tail
      exact .inr ⟨[], _, _, rfl, .refl _, hfirst⟩
    · exact .inr ⟨_ :: front, last, previous, rfl, .step hfirst hfront, hlast⟩

theorem eq_mk (h : Steps start tokens cursor) (hstart : start.pending = none) :
    cursor = ⟨cursor.before, cursor.rest, none⟩ := by
  induction h with
  | refl cursor =>
    rw [← hstart]
  | step hfirst _ ih => exact ih (next_eq_ok_some hfirst).2

theorem stream_eq (h : Steps start tokens cursor) :
    start.stream = ⟨tokens ++ cursor.stream.tokens, cursor.stream.failure?⟩ := by
  induction h with
  | refl cursor => rfl
  | step hfirst _ ih =>
    rw [stream_of_next_some hfirst, ih]
    rfl

theorem mem_stream (h : Steps start tokens cursor) (hnext : next cursor = .ok (some token) after) :
    token ∈ start.stream.tokens := by
  rw [h.stream_eq, stream_of_next_some hnext]
  exact List.mem_append_right tokens List.mem_cons_self

theorem kinds_eq (h : Steps start tokens cursor) :
    start.kinds = tokens.map Token.kind ++ cursor.kinds := by
  rw [kinds, TokenStream.kinds, h.stream_eq, List.map_append]
  rfl

theorem failure?_eq (h : Steps start tokens cursor) :
    start.stream.failure? = cursor.stream.failure? := by
  rw [h.stream_eq]

/-- The characters `front` that a cursor has passed are its tokens, also if `mid` is all that follows. -/
theorem exists_front (h : Steps ⟨before, rest, none⟩ tokens cursor) :
    ∃ front, rest = front ++ cursor.rest ∧ cursor = ⟨front.reverse ++ before, cursor.rest, none⟩
      ∧ ∀ mid tail kinds, cursor.rest = mid ++ tail → Lexes mid kinds →
        Lexes (front ++ mid) (tokens.map Token.kind ++ kinds) := by
  generalize hstart : Cursor.mk before rest none = start at h
  induction h generalizing before rest with
  | refl cursor =>
    subst hstart
    exact ⟨[], rfl, rfl, fun _ _ _ _ h => h⟩
  | step hfirst _ ih =>
    subst hstart
    rcases eq_of_next_some hfirst
      with ⟨blanks, c, cs, behind, hblanks, hc, rfl, hscan, -, rfl⟩
    rcases ih rfl with ⟨front, hbehind, hcursor, hlexes⟩
    refine ⟨blanks ++ c :: (cs ++ front), ?_, ?_, ?_⟩
    · rw [hbehind]
      simp
    · rw [hcursor]
      simp
    · intro mid tail kinds hrest hmid
      rw [hbehind, hrest, ← List.append_assoc front] at hscan
      rw [List.append_assoc, List.cons_append, List.append_assoc]
      apply Lexes.of_blanks hblanks
      apply Lexes.lexeme hc
      · apply Lexeme.scan_of_endsToo hscan .of_append
      · apply hlexes mid tail kinds hrest hmid

theorem offset_lt (h : Steps ⟨before, rest, none⟩ tokens cursor) :
    ∀ token ∈ tokens, token.offset < byteLength cursor.before := by
  generalize hstart : Cursor.mk before rest none = start at h
  induction h generalizing before rest with
  | refl cursor => simp
  | step hfirst tail ih =>
    subst hstart
    rcases eq_of_next_some hfirst with ⟨blanks, c, cs, behind, -, -, -, -, hoffset, rfl⟩
    rcases tail.exists_front with ⟨front, -, hcursor, -⟩
    have hsize := Char.utf8Size_pos c
    rw [List.forall_mem_cons]
    refine ⟨?_, ih rfl⟩
    rw [hoffset, hcursor]
    simp only [byteLength_append, byteLength_reverse, byteLength_cons]
    omega

theorem eq_of_length_eq {other : Cursor} {tokens' : List Token} (h : Steps start tokens cursor)
    (h' : Steps start tokens' other) (hlength : tokens.length = tokens'.length) :
    tokens = tokens' ∧ cursor = other := by
  induction h generalizing tokens' with
  | refl cursor =>
    cases h' with
    | refl => exact ⟨rfl, rfl⟩
    | step => cases hlength
  | step hnext tail ih =>
    cases h' with
    | refl => cases hlength
    | step hnext' tail' =>
      rw [hnext] at hnext'
      cases hnext'
      rcases ih tail' (Nat.succ.inj hlength) with ⟨rfl, rfl⟩
      exact ⟨rfl, rfl⟩

end Steps

theorem next_blanks (hblanks : ∀ b ∈ blanks, isBlank b = true) :
    next ⟨before, blanks ++ rest, none⟩ = next ⟨blanks.reverse ++ before, rest, none⟩ := by
  induction blanks generalizing before with
  | nil => rfl
  | cons b blanks ih =>
    rw [List.forall_mem_cons] at hblanks
    rw [List.cons_append, next_cons_blank hblanks.1, ih hblanks.2]
    simp

/-- What stands behind the tokens can be exchanged for another text in front of which the last one ends. -/
theorem Steps.of_endsToo {other : List Char} (h : Steps ⟨before, rest, none⟩ tokens cursor)
    (hends : Lexeme.EndsToo cursor.rest other) :
    ∃ front, rest = front ++ cursor.rest ∧ cursor.before = front.reverse ++ before
      ∧ Steps ⟨before, front ++ other, none⟩ tokens ⟨cursor.before, other, none⟩ := by
  generalize hstart : Cursor.mk before rest none = start at h
  induction h generalizing before rest with
  | refl cursor =>
    subst hstart
    exact ⟨[], rfl, rfl, .refl _⟩
  | step hfirst _ ih =>
    subst hstart
    rcases eq_of_next_some hfirst
      with ⟨blanks, c, cs, behind, hblanks, hc, rfl, hscan, hoffset, rfl⟩
    rcases ih hends rfl with ⟨front, rfl, hbefore, hsteps⟩
    refine ⟨blanks ++ c :: (cs ++ front), by simp, ?_, ?_⟩
    · rw [hbefore]
      simp
    · have hnext := next_lexeme (blanks.reverse ++ before) hc
        (Lexeme.scan_of_endsToo hscan (hends.append_left front))
      rw [List.append_assoc, List.cons_append, List.append_assoc]
      refine .step ?_ hsteps
      rw [next_blanks hblanks, hnext, byteLength_append, byteLength_reverse]
      rw [Nat.add_comm, ← hoffset]

theorem le_offset_of_mem_stream (h : token ∈ (stream ⟨before, rest, none⟩).tokens) :
    byteLength before ≤ token.offset := by
  generalize hstart : Cursor.mk before rest none = start at h
  induction start using stream.induct generalizing before rest with
  | case1 cursor failure after hnext =>
    rw [stream_of_next_error hnext] at h
    cases h
  | case2 cursor after hnext =>
    rw [stream_of_next_none hnext] at h
    cases h
  | case3 cursor first after hnext ih =>
    subst hstart
    rw [stream_of_next_some hnext] at h
    rcases eq_of_next_some hnext with ⟨blanks, c, cs, behind, -, -, -, -, hoffset, rfl⟩
    rcases List.mem_cons.mp h with rfl | hmem
    · omega
    · have := ih rfl hmem
      simp only [byteLength_append, byteLength_reverse, byteLength_cons] at this
      omega

theorem begins_of_next_some (h : next ⟨before, rest, none⟩ = .ok (some token) after) :
    ∃ blanks behind, (∀ b ∈ blanks, isBlank b = true) ∧ rest = blanks ++ behind
      ∧ Lexeme.Begins behind (.ok token.kind)
      ∧ token.offset = byteLength (before.reverse ++ blanks) := by
  rcases eq_of_next_some h with ⟨blanks, c, cs, behind, hblanks, hc, hrest, hscan, hoffset, -⟩
  refine ⟨blanks, _, hblanks, hrest, ⟨c, _, rfl, hc, ?_⟩, ?_⟩
  · rw [hscan]
  · rw [hoffset, byteLength_append, byteLength_reverse]

theorem begins_of_next_error {failure : Failure}
    (h : next ⟨before, rest, none⟩ = .error failure after) :
    ∃ blanks behind fault, (∀ b ∈ blanks, isBlank b = true) ∧ rest = blanks ++ behind
      ∧ Lexeme.Begins behind (.error fault)
      ∧ failure = failureAt ⟨blanks.reverse ++ before, behind, none⟩
        (byteLength (before.reverse ++ blanks)) fault := by
  induction rest generalizing before with
  | nil =>
    rw [next_nil] at h
    cases h
  | cons c rest ih =>
    cases hblank : isBlank c with
    | true =>
      rw [next_cons_blank hblank] at h
      rcases ih h with ⟨blanks, behind, fault, hblanks, rfl, hbegins, rfl⟩
      refine ⟨c :: blanks, behind, fault, ?_, rfl, hbegins, ?_⟩
      · rw [List.forall_mem_cons]
        exact ⟨hblank, hblanks⟩
      · simp
    | false =>
      rw [next_cons hblank] at h
      simp only [readLexeme] at h
      split at h
      · cases h
      · next fault houtcome =>
        cases h
        refine ⟨[], c :: rest, fault, by simp, rfl, ⟨c, rest, rfl, hblank, houtcome⟩, ?_⟩
        simp [offset]

theorem failureAt_eq {consumed remaining : List Char} {fault : SyntaxFault}
    (h : cursor.text = consumed ++ remaining) :
    cursor.failureAt (byteLength consumed) fault
      = .malformed fault (byteLength consumed) (String.ofList consumed) (String.ofList remaining) := by
  have hmin : min (byteLength consumed) (byteLength cursor.text) = byteLength consumed := by
    rw [h, byteLength_append]
    omega
  rw [failureAt, hmin, h, splitAtByte_byteLength]

/-- A place behind blanks that follow the tokens divides the text's tokens into these and the others. -/
theorem Steps.filter_stream (h : Steps ⟨before, rest, none⟩ tokens cursor)
    (hrest : cursor.rest = blanks ++ behind) (hblanks : ∀ b ∈ blanks, isBlank b = true) :
    (stream ⟨before, rest, none⟩).tokens.filter
      (·.offset < byteLength (cursor.before.reverse ++ blanks)) = tokens := by
  rcases h.exists_front with ⟨front, -, hcursor, -⟩
  have hlater : ∀ token ∈ cursor.stream.tokens,
      ¬ token.offset < byteLength (cursor.before.reverse ++ blanks) := by
    intro token htoken
    rw [hcursor, hrest, stream_congr (next_blanks hblanks)] at htoken
    have := le_offset_of_mem_stream htoken
    rw [hcursor]
    simp only [byteLength_append, byteLength_reverse] at this ⊢
    omega
  have hearlier : ∀ token ∈ tokens,
      token.offset < byteLength (cursor.before.reverse ++ blanks) := by
    intro token htoken
    have := h.offset_lt token htoken
    rw [byteLength_append, byteLength_reverse]
    omega
  rw [h.stream_eq, List.filter_append, List.filter_eq_self.mpr, List.filter_eq_nil_iff.mpr,
    List.append_nil]
  · simpa using hlater
  · simpa using hearlier

end Cursor
end DotPath
