import DotPath.Proofs.Token.Stream

/-!
This module contains the logic that ties the stream of a cursor to the characters it stands in front
of. A text lexes to token kinds if it is made of lexemes of these kinds with blanks around them, each
lexeme being what is found at the front of all that follows. The stream of a cursor without a failure
is the same thing, so texts can be put together and taken apart without a cursor.
-/

namespace DotPath

namespace Lexeme

theorem pair_chars_prefix (c second : Char) (cs : List Char) (kind : TokenKind) :
    (pair c second cs kind).chars <+: c :: cs := by
  unfold pair
  split
  · next h =>
    rcases List.head?_eq_some_iff.1 h with ⟨tail, rfl⟩
    exact ⟨tail, rfl⟩
  · exact ⟨cs, rfl⟩

theorem optionalPair_chars_prefix (c : Char) (cs : List Char) (withEquals without : TokenKind) :
    (optionalPair c cs withEquals without).chars <+: c :: cs := by
  unfold optionalPair
  split
  · next h =>
    rcases List.head?_eq_some_iff.1 h with ⟨tail, rfl⟩
    exact ⟨tail, rfl⟩
  · exact ⟨cs, rfl⟩

theorem quotation_chars_prefix (cs : List Char) : (quotation cs).chars <+: '"' :: cs := by
  simp only [quotation]
  split
  · next h =>
    have happend := List.takeWhile_append_dropWhile (p := (· != '"')) (l := cs)
    cases hdrop : cs.dropWhile (· != '"') with
    | nil =>
      rw [hdrop, List.append_nil] at happend
      rw [happend] at h
      omega
    | cons c tail =>
      have hquote : c = '"' := by
        have := List.head?_dropWhile_not (· != '"') cs
        rw [hdrop] at this
        simpa using this
      refine ⟨tail, ?_⟩
      rw [hdrop, hquote] at happend
      simpa using happend
  · exact ⟨[], by simp⟩

theorem integer_chars (c : Char) (cs : List Char) :
    (integer c cs).chars = c :: cs.takeWhile Char.isDigit := by
  simp only [integer]
  split
  · rfl
  · split <;> rfl

theorem cons_takeWhile_prefix (p : Char → Bool) (c : Char) (cs : List Char) :
    c :: cs.takeWhile p <+: c :: cs := by
  rw [List.prefix_cons_inj]
  apply List.takeWhile_prefix

theorem chars_prefix (c : Char) (cs : List Char) : (scan c cs).chars <+: c :: cs := by
  unfold scan
  split
  · exact ⟨cs, rfl⟩
  · exact ⟨cs, rfl⟩
  · exact ⟨cs, rfl⟩
  · exact ⟨cs, rfl⟩
  · apply pair_chars_prefix
  · apply pair_chars_prefix
  · apply pair_chars_prefix
  · apply pair_chars_prefix
  · apply optionalPair_chars_prefix
  · apply optionalPair_chars_prefix
  · apply quotation_chars_prefix
  · split
    · apply cons_takeWhile_prefix
    · split
      · rw [integer_chars]
        apply cons_takeWhile_prefix
      · apply List.nil_prefix

end Lexeme

inductive Lexes : List Char → List TokenKind → Prop where
  | nil : Lexes [] []
  | blank (hblank : Text.isBlank c = true) (tail : Lexes cs kinds) : Lexes (c :: cs) kinds
  | lexeme (hblank : Text.isBlank c = false)
      (hscan : Lexeme.scan c (cs ++ behind) = ⟨c :: cs, .ok kind⟩) (tail : Lexes behind kinds) :
    Lexes (c :: (cs ++ behind)) (kind :: kinds)

namespace Cursor

variable {cursor after : Cursor} {token : Token} {before rest : List Char} {pending : Option Token}
  {c : Char}

theorem skipBlanks_cons_blank (h : Text.isBlank c = true) :
    skipBlanks ⟨before, c :: rest, pending⟩ = skipBlanks ⟨c :: before, rest, pending⟩ := by
  simp [skipBlanks, advance, h]

theorem skipBlanks_cons (h : Text.isBlank c = false) :
    skipBlanks ⟨before, c :: rest, pending⟩ = ⟨before, c :: rest, pending⟩ := by
  simp [skipBlanks, advance, h]

theorem next_nil : next ⟨before, [], none⟩ = .ok none ⟨before, [], none⟩ := by
  rfl

theorem next_cons_blank (h : Text.isBlank c = true) :
    next ⟨before, c :: rest, none⟩ = next ⟨c :: before, rest, none⟩ := by
  simp only [next]
  rw [skipBlanks_cons_blank h]

theorem next_cons (h : Text.isBlank c = false) :
    next ⟨before, c :: rest, none⟩ = readLexeme ⟨before, c :: rest, none⟩ := by
  simp only [next]
  rw [skipBlanks_cons h]

theorem next_lexeme (before : List Char) {cs behind : List Char} {kind : TokenKind}
    (h : Text.isBlank c = false)
    (hscan : Lexeme.scan c (cs ++ behind) = ⟨c :: cs, .ok kind⟩) :
    next ⟨before, c :: (cs ++ behind), none⟩
      = .ok (some ⟨kind, Text.byteLength before⟩) ⟨(c :: cs).reverse ++ before, behind, none⟩ := by
  rw [next_cons h]
  simp [readLexeme, hscan, advance, offset]

theorem eq_of_next_some (h : next ⟨before, rest, none⟩ = .ok (some token) after) :
    ∃ blanks c cs behind, (∀ b ∈ blanks, Text.isBlank b = true) ∧ Text.isBlank c = false
      ∧ rest = blanks ++ c :: (cs ++ behind)
      ∧ Lexeme.scan c (cs ++ behind) = ⟨c :: cs, .ok token.kind⟩
      ∧ token.offset = Text.byteLength before + Text.byteLength blanks
      ∧ after = ⟨(c :: cs).reverse ++ (blanks.reverse ++ before), behind, none⟩ := by
  induction rest generalizing before with
  | nil =>
    rw [next_nil] at h
    cases h
  | cons c rest ih =>
    cases hblank : Text.isBlank c with
    | true =>
      rw [next_cons_blank hblank] at h
      rcases ih h with ⟨blanks, d, cs, behind, hblanks, hd, rfl, hscan, hoffset, hafter⟩
      refine ⟨c :: blanks, d, cs, behind, ?_, hd, rfl, hscan, ?_, ?_⟩
      · intro b hb
        rcases List.mem_cons.1 hb with rfl | hb
        · exact hblank
        · apply hblanks b hb
      · rw [hoffset, Text.byteLength_cons, Text.byteLength_cons]
        omega
      · rw [hafter]
        simp
    | false =>
      rw [next_cons hblank] at h
      simp only [readLexeme] at h
      split at h
      · next kind houtcome =>
        have hne := Lexeme.chars_ne_nil_of_outcome_eq_ok houtcome
        rcases Lexeme.chars_prefix c rest with ⟨behind, hbehind⟩
        cases hchars : (Lexeme.scan c rest).chars with
        | nil => exact absurd hchars hne
        | cons d cs =>
          rw [hchars, List.cons_append, List.cons.injEq] at hbehind
          rcases hbehind with ⟨rfl, rfl⟩
          rw [hchars] at h
          cases h
          refine ⟨[], d, cs, behind, by simp, hblank, rfl, ?_, ?_, ?_⟩
          · rw [← hchars, ← houtcome]
          · simp [offset]
          · simp [advance]
      · cases h

theorem eq_of_next_none (h : next ⟨before, rest, none⟩ = .ok none after) :
    ∀ c ∈ rest, Text.isBlank c = true := by
  induction rest generalizing before with
  | nil => simp
  | cons c rest ih =>
    cases hblank : Text.isBlank c with
    | true =>
      rw [next_cons_blank hblank] at h
      intro b hb
      rcases List.mem_cons.1 hb with rfl | hb
      · exact hblank
      · apply ih h b hb
    | false =>
      rw [next_cons hblank] at h
      simp only [readLexeme] at h
      split at h <;> cases h

end Cursor

namespace Lexes

theorem of_blanks {blanks rest : List Char} {kinds : List TokenKind}
    (hblanks : ∀ b ∈ blanks, Text.isBlank b = true) (h : Lexes rest kinds) :
    Lexes (blanks ++ rest) kinds := by
  induction blanks with
  | nil => exact h
  | cons b blanks ih =>
    apply Lexes.blank
    · apply hblanks b List.mem_cons_self
    · apply ih
      intro c hc
      apply hblanks c (List.mem_cons_of_mem b hc)

theorem of_cons_blank {c : Char} {cs : List Char} {kinds : List TokenKind}
    (hblank : Text.isBlank c = true) (h : Lexes (c :: cs) kinds) : Lexes cs kinds := by
  cases h with
  | blank _ tail => exact tail
  | lexeme hc _ _ =>
    rw [hblank] at hc
    cases hc

theorem exists_of_cons {c : Char} {text : List Char} {kinds : List TokenKind}
    (hc : Text.isBlank c = false) (h : Lexes (c :: text) kinds) :
    ∃ cs behind kind rest, text = cs ++ behind ∧ Lexeme.scan c text = ⟨c :: cs, .ok kind⟩
      ∧ kinds = kind :: rest ∧ Lexes behind rest := by
  cases h with
  | blank hblank _ =>
    rw [hblank] at hc
    cases hc
  | lexeme _ hscan tail => exact ⟨_, _, _, _, rfl, hscan, rfl, tail⟩

theorem stream_eq {rest : List Char} {kinds : List TokenKind} (h : Lexes rest kinds)
    (before : List Char) :
    Cursor.kinds ⟨before, rest, none⟩ = kinds
      ∧ (Cursor.stream ⟨before, rest, none⟩).failure? = none := by
  induction h generalizing before with
  | nil =>
    rw [Cursor.kinds, Cursor.stream_of_next_none Cursor.next_nil]
    exact ⟨rfl, rfl⟩
  | blank hblank tail ih =>
    rw [Cursor.kinds, Cursor.stream_congr (Cursor.next_cons_blank hblank)]
    apply ih
  | lexeme hblank hscan tail ih =>
    have hspans := Cursor.spans_of_next_some (Cursor.next_lexeme before hblank hscan) rfl
    rcases ih _ with ⟨hkinds, hfailure⟩
    rw [hspans.kinds_eq, hspans.failure?_eq, hkinds, hfailure]
    exact ⟨rfl, rfl⟩

theorem of_stream {cursor : Cursor} (hpending : cursor.pending = none)
    (hfailure : cursor.stream.failure? = none) : Lexes cursor.rest cursor.kinds := by
  -- The induction is the recursion of the stream: each token takes its blanks and its lexeme off.
  induction cursor using Cursor.stream.induct with
  | case1 cursor failure after hnext =>
    rw [Cursor.stream_of_next_error hnext] at hfailure
    cases hfailure
  | case2 cursor after hnext =>
    rw [Cursor.kinds, Cursor.stream_of_next_none hnext]
    cases cursor
    cases hpending
    have := of_blanks (Cursor.eq_of_next_none hnext) .nil
    rwa [List.append_nil] at this
  | case3 cursor token after hnext ih =>
    have hspans := Cursor.spans_of_next_some hnext rfl
    rw [hspans.failure?_eq] at hfailure
    rw [hspans.kinds_eq]
    cases cursor
    cases hpending
    rcases Cursor.eq_of_next_some hnext
      with ⟨blanks, c, cs, behind, hblanks, hc, rfl, hscan, -, rfl⟩
    apply of_blanks hblanks
    apply Lexes.lexeme hc hscan
    apply ih rfl hfailure

/-- The tokens of a text that reading finds no fault with are the lexemes that the text is made of. -/
theorem iff_stream (before : List Char) {rest : List Char} {kinds : List TokenKind} :
    Lexes rest kinds ↔ Cursor.kinds ⟨before, rest, none⟩ = kinds
      ∧ (Cursor.stream ⟨before, rest, none⟩).failure? = none := by
  constructor
  · intro h
    apply h.stream_eq
  · rintro ⟨rfl, hfailure⟩
    apply of_stream rfl hfailure

end Lexes
end DotPath
