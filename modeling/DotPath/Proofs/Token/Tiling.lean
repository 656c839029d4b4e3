import DotPath.Proofs.Token.Steps

/-!
This module contains the proof that the tokens of a text tile it. Between two tokens stand only blanks, and
what stands at a token is written the way that tokens of its kind are and could not go on. Digits are read as
an integer, or they are refused for their value or for the character behind them.
-/

namespace DotPath

open Text

namespace TokenKind

/-- How tokens of this kind are written: texts as words or in quotes, integers in any number of digits. -/
def WrittenAs (kind : TokenKind) (lexeme : List Char) : Prop :=
  match kind with
  | .dot => lexeme = ['.']
  | .leftBracket => lexeme = ['[']
  | .rightBracket => lexeme = [']']
  | .question => lexeme = ['?']
  | .and => lexeme = ['&', '&']
  | .or => lexeme = ['|', '|']
  | .comparator c => lexeme = c.symbol.toList
  | .text s =>
    lexeme = s.toList ∧ isSymbol lexeme = true ∨ lexeme = '"' :: (s.toList ++ ['"']) ∧ '"' ∉ s.toList
  | .integer n =>
    lexeme ≠ [] ∧ (∀ d ∈ lexeme, d.isDigit = true) ∧ n.toInt = Nat.ofDigitChars 10 lexeme 0

/-- A token of this kind that is written as `lexeme` cannot go on with what stands behind it. -/
def EndsBefore (kind : TokenKind) (lexeme behind : List Char) : Prop :=
  match kind with
  | .comparator .lt => behind.head? ≠ some '='
  | .comparator .gt => behind.head? ≠ some '='
  | .text _ => isSymbol lexeme = true → Lexeme.Apart behind
  | .integer _ =>
    ∀ next ∈ behind.head?, next.isDigit = false ∧ isAlphabetic next = false ∧ next ≠ '_'
  | _ => True

end TokenKind

/-- A token of this kind stands in front of `behind`, and it is one by itself too. -/
structure Tile (kind : TokenKind) (lexeme behind : List Char) : Prop where
  written : kind.WrittenAs lexeme
  ends : kind.EndsBefore lexeme behind
  alone : (Cursor.ofText (String.ofList lexeme)).stream = ⟨[⟨kind, 0⟩], none⟩

/-- The text that begins at the byte `start` is made of the tokens, of blanks, and of a faulty rest if any. -/
inductive Tiles : Nat → List Char → TokenStream → Prop where
  | finish (hblanks : ∀ b ∈ blanks, isBlank b = true) : Tiles start blanks ⟨[], none⟩
  | fault {fault : SyntaxFault} (hblanks : ∀ b ∈ blanks, isBlank b = true)
      (hbegins : Lexeme.Begins behind (.error fault)) (consumed remaining : String) :
    Tiles start (blanks ++ behind)
      ⟨[], some (.malformed fault (start + byteLength blanks) consumed remaining)⟩
  | token (hblanks : ∀ b ∈ blanks, isBlank b = true) (tile : Tile kind lexeme behind)
      (tail : Tiles (start + byteLength blanks + byteLength lexeme) behind stream) :
    Tiles start (blanks ++ (lexeme ++ behind)) (.cons ⟨kind, start + byteLength blanks⟩ stream)

namespace Lexeme

variable {c : Char} {cs behind : List Char} {kind : TokenKind}

theorem written_of_pair {second : Char} {made : TokenKind}
    (h : pair c second (cs ++ behind) made = ⟨c :: cs, .ok kind⟩)
    (hmade : made.WrittenAs [c, second] ∧ made.EndsBefore [c, second] behind) :
    kind.WrittenAs (c :: cs) ∧ kind.EndsBefore (c :: cs) behind := by
  unfold pair at h
  split at h
  · cases h
    exact hmade
  · cases h

theorem written_of_optionalPair {withEquals without : TokenKind}
    (h : optionalPair c (cs ++ behind) withEquals without = ⟨c :: cs, .ok kind⟩)
    (hequals : withEquals.WrittenAs [c, '='] ∧ withEquals.EndsBefore [c, '='] behind)
    (hsingle : behind.head? ≠ some '=' → without.WrittenAs [c] ∧ without.EndsBefore [c] behind) :
    kind.WrittenAs (c :: cs) ∧ kind.EndsBefore (c :: cs) behind := by
  unfold optionalPair at h
  split at h
  · cases h
    exact hequals
  · next hhead =>
    cases h
    exact hsingle hhead

theorem written_of_quotation (h : quotation (cs ++ behind) = ⟨'"' :: cs, .ok kind⟩) :
    kind.WrittenAs ('"' :: cs) ∧ kind.EndsBefore ('"' :: cs) behind := by
  simp only [quotation] at h
  split at h
  · have hbody := quote_notMem_body (cs ++ behind)
    generalize (cs ++ behind).takeWhile (· != '"') = body at h hbody
    cases h
    constructor
    · right
      rw [String.toList_ofList]
      exact ⟨rfl, hbody⟩
    · intro hsymbol
      -- A quote begins no word.
      exact absurd hsymbol (by simp [isSymbol, show isAlphabetic '"' = false from by decide])
  · simp at h

theorem written_of_word (hc : isAlphabetic c = true)
    (h : word c (cs ++ behind) = ⟨c :: cs, .ok kind⟩) :
    kind.WrittenAs (c :: cs) ∧ kind.EndsBefore (c :: cs) behind := by
  simp only [word, Lexeme.mk.injEq, List.cons.injEq, true_and] at h
  rcases h with ⟨htake, h⟩
  rw [htake] at h
  cases h
  rw [takeWhile_append_eq_left_iff] at htake
  constructor
  · left
    rw [String.toList_ofList]
    refine ⟨rfl, ?_⟩
    rw [isSymbol, hc, List.all_eq_true.mpr htake.1]
    rfl
  · intro _
    exact htake.2

theorem written_of_integer (hc : c.isDigit = true)
    (h : integer c (cs ++ behind) = ⟨c :: cs, .ok kind⟩) :
    kind.WrittenAs (c :: cs) ∧ kind.EndsBefore (c :: cs) behind := by
  have htake := takeWhile_of_integer h
  simp only [integer, htake, dropWhile_of_takeWhile htake] at h
  rw [takeWhile_append_eq_left_iff] at htake
  split at h
  · cases h
  · next hnext =>
    split at h
    · next hvalue =>
      cases h
      refine ⟨⟨List.cons_ne_nil c cs, ?_, ?_⟩, ?_⟩
      · rw [List.forall_mem_cons]
        exact ⟨hc, htake.1⟩
      · rw [Int64.toInt_ofNat_of_lt hvalue, decimalValue_eq]
      · intro next hmem
        rw [Bool.not_eq_true, Option.any_eq_false] at hnext
        have := hnext next hmem
        rw [Bool.or_eq_false_iff, beq_eq_false_iff_ne] at this
        exact ⟨htake.2 next hmem, this⟩
    · cases h

theorem written_of_scan (h : scan c (cs ++ behind) = ⟨c :: cs, .ok kind⟩) :
    kind.WrittenAs (c :: cs) ∧ kind.EndsBefore (c :: cs) behind := by
  unfold scan at h
  split at h
  · cases h
    exact ⟨rfl, trivial⟩
  · cases h
    exact ⟨rfl, trivial⟩
  · cases h
    exact ⟨rfl, trivial⟩
  · cases h
    exact ⟨rfl, trivial⟩
  · exact written_of_pair h ⟨rfl, trivial⟩
  · exact written_of_pair h ⟨rfl, trivial⟩
  · exact written_of_pair h ⟨rfl, trivial⟩
  · exact written_of_pair h ⟨rfl, trivial⟩
  · exact written_of_optionalPair h ⟨rfl, trivial⟩ fun hhead => ⟨rfl, hhead⟩
  · exact written_of_optionalPair h ⟨rfl, trivial⟩ fun hhead => ⟨rfl, hhead⟩
  · exact written_of_quotation h
  · split at h
    · next hc => exact written_of_word hc h
    · split at h
      · next hc => exact written_of_integer hc h
      · cases h

theorem integer_outcome_eq_error_iff (hdigits : ∀ d ∈ cs, d.isDigit = true)
    (hends : ∀ next ∈ behind.head?, next.isDigit = false) :
    (∃ fault, (integer c (cs ++ behind)).outcome = .error fault) ↔
      Int64.maxValue.toInt < Nat.ofDigitChars 10 (c :: cs) 0
        ∨ ∃ next ∈ behind.head?, isAlphabetic next = true ∨ next = '_' := by
  have htake := takeWhile_append_eq_left_iff.mpr ⟨hdigits, hends⟩
  have hbound : Int64.maxValue.toInt < Nat.ofDigitChars 10 (c :: cs) 0
      ↔ ¬ decimalValue (c :: cs) < 0x8000000000000000 := by
    rw [decimalValue_eq, Int64.toInt_maxValue]
    omega
  have hnext : (∃ next ∈ behind.head?, isAlphabetic next = true ∨ next = '_')
      ↔ behind.head?.any (fun next => isAlphabetic next || next == '_') = true := by
    cases behind.head? <;> simp
  rw [hbound, hnext]
  simp only [integer, htake, dropWhile_of_takeWhile htake]
  split
  · next hany => simp [hany]
  · next hany =>
    split
    · next hvalue => simp [hany, hvalue]
    · next hvalue => simp [hvalue]

end Lexeme

theorem Tile.of_scan {c : Char} {cs behind : List Char} {kind : TokenKind} (hblank : isBlank c = false)
    (hscan : Lexeme.scan c (cs ++ behind) = ⟨c :: cs, .ok kind⟩) : Tile kind (c :: cs) behind := by
  rcases Lexeme.written_of_scan hscan with ⟨hwritten, hends⟩
  refine ⟨hwritten, hends, ?_⟩
  have hends' : Lexeme.EndsToo ([] ++ behind) [] := .of_append
  have hscan' : Lexeme.scan c (cs ++ []) = ⟨c :: cs, .ok kind⟩ :=
    Lexeme.scan_of_endsToo hscan hends'
  have hnext := Cursor.next_lexeme [] hblank hscan'
  rw [Cursor.ofText, String.toList_ofList, ← List.append_nil (c :: cs), List.cons_append,
    Cursor.stream_of_next_some hnext, Cursor.stream_of_next_none Cursor.next_nil]
  rfl

theorem Tile.length_pos {kind : TokenKind} {lexeme behind : List Char} (h : Tile kind lexeme behind) :
    0 < lexeme.length := by
  cases lexeme with
  | nil =>
    have halone := h.alone
    rw [Cursor.ofText, String.toList_ofList, Cursor.stream_of_next_none Cursor.next_nil] at halone
    cases halone
  | cons c cs => exact Nat.succ_pos cs.length

namespace Tiles

variable {start : Nat} {text : List Char} {stream : TokenStream}

theorem le_offset (h : Tiles start text stream) : ∀ token ∈ stream.tokens, start ≤ token.offset := by
  induction h with
  | finish => simp
  | fault => simp
  | token _ _ _ ih =>
    rw [TokenStream.cons, List.forall_mem_cons]
    refine ⟨Nat.le_add_right _ _, ?_⟩
    intro token htoken
    have := ih token htoken
    omega

theorem pairwise_offset_lt (h : Tiles start text stream) :
    stream.tokens.Pairwise (·.offset < ·.offset) := by
  induction h with
  | finish => exact .nil
  | fault => exact .nil
  | token _ tile tail ih =>
    refine .cons ?_ ih
    intro token htoken
    -- What is left begins behind the lexeme, and a lexeme takes up at least one byte.
    have hlater := tail.le_offset token htoken
    have hpos := Nat.lt_of_lt_of_le tile.length_pos (length_le_byteLength _)
    dsimp only
    omega

theorem length_tokens_le (h : Tiles start text stream) : stream.tokens.length ≤ text.length := by
  induction h with
  | finish => simp
  | fault => simp
  | token _ tile _ ih =>
    have := tile.length_pos
    simp only [TokenStream.cons, List.length_cons, List.length_append]
    omega

end Tiles

namespace Cursor

variable {before rest blanks digits behind : List Char}

theorem stream_tiles (before rest : List Char) :
    Tiles (byteLength before) rest (stream ⟨before, rest, none⟩) := by
  generalize hstart : Cursor.mk before rest none = start
  induction start using stream.induct generalizing before rest with
  | case1 cursor failure after hnext =>
    subst hstart
    rw [stream_of_next_error hnext]
    rcases begins_of_next_error hnext with ⟨blanks, behind, fault, hblanks, rfl, hbegins, rfl⟩
    have htext : text ⟨blanks.reverse ++ before, behind, none⟩ = before.reverse ++ blanks ++ behind := by
      simp [text]
    rw [failureAt_eq htext, byteLength_append, byteLength_reverse]
    exact .fault hblanks hbegins _ _
  | case2 cursor after hnext =>
    subst hstart
    rw [stream_of_next_none hnext]
    exact .finish (eq_of_next_none hnext)
  | case3 cursor token after hnext ih =>
    subst hstart
    rw [stream_of_next_some hnext]
    rcases token with ⟨kind, offset⟩
    rcases eq_of_next_some hnext with ⟨blanks, c, cs, behind, hblanks, hc, rfl, hscan, hoffset, rfl⟩
    dsimp only at hoffset hscan
    have hplace : byteLength ((c :: cs).reverse ++ (blanks.reverse ++ before))
        = byteLength before + byteLength blanks + byteLength (c :: cs) := by
      simp only [byteLength_append, byteLength_reverse]
      omega
    have htail := ih _ _ rfl
    rw [hplace] at htail
    rw [hoffset]
    exact .token hblanks (.of_scan hc hscan) htail

theorem readLexeme_eq_error_iff {c : Char} :
    (∃ failure after, readLexeme ⟨before, c :: rest, none⟩ = .error failure after) ↔
      ∃ fault, (Lexeme.scan c rest).outcome = .error fault := by
  simp only [readLexeme]
  split
  · next kind houtcome => simp [houtcome]
  · next fault houtcome => simp [houtcome]

/-- Digits are refused for their value, or because they do not end before a letter or an underscore. -/
theorem next_digits_eq_error_iff (hne : digits ≠ []) (hdigits : ∀ d ∈ digits, d.isDigit = true)
    (hends : ∀ next ∈ behind.head?, next.isDigit = false) :
    (∃ failure after, next ⟨before, digits ++ behind, none⟩ = .error failure after) ↔
      Int64.maxValue.toInt < Nat.ofDigitChars 10 digits 0
        ∨ ∃ next ∈ behind.head?, isAlphabetic next = true ∨ next = '_' := by
  cases digits with
  | nil => exact absurd rfl hne
  | cons c cs =>
    rw [List.forall_mem_cons] at hdigits
    rw [List.cons_append, next_cons (isBlank_of_isDigit hdigits.1), readLexeme_eq_error_iff,
      Lexeme.scan_of_isDigit hdigits.1]
    exact Lexeme.integer_outcome_eq_error_iff hdigits.2 hends

/--
The tokens of a text tile it, in ascending order and each with characters of its own. Of the digits that
stand where a token begins, those are refused whose value is too large or that go on with a letter or an
underscore.
-/
theorem tokens_tile_text (text : String) :
    Tiles 0 text.toList (ofText text).stream
      ∧ (ofText text).stream.tokens.Pairwise (·.offset < ·.offset)
      ∧ (ofText text).stream.tokens.length ≤ text.length
      ∧ ∀ tokens cursor blanks digits behind, Steps (ofText text) tokens cursor →
        cursor.rest = blanks ++ (digits ++ behind) → (∀ b ∈ blanks, isBlank b = true) →
        digits ≠ [] → (∀ d ∈ digits, d.isDigit = true) →
        (∀ next ∈ behind.head?, next.isDigit = false) →
          ((∃ failure after, next cursor = .error failure after) ↔
            Int64.maxValue.toInt < Nat.ofDigitChars 10 digits 0
              ∨ ∃ next ∈ behind.head?, isAlphabetic next = true ∨ next = '_') := by
  have htiles : Tiles 0 text.toList (ofText text).stream := stream_tiles [] text.toList
  refine ⟨htiles, htiles.pairwise_offset_lt, ?_, ?_⟩
  · rw [← String.length_toList]
    exact htiles.length_tokens_le
  · intro tokens cursor blanks digits behind hsteps hrest hblanks hne hdigits hends
    rw [hsteps.eq_mk rfl, hrest, next_blanks hblanks]
    exact next_digits_eq_error_iff hne hdigits hends

/-- The number is too large by one. The zeros in front of it do not count. -/
theorem tokens_tile_text_of_large_integer :
    let cursor : Cursor := ⟨['<', ' ', 'k'], ' ' :: "009223372036854775808".toList, none⟩
    Steps (ofText "k < 009223372036854775808") [⟨.text "k", 0⟩, ⟨.comparator .lt, 2⟩] cursor
      ∧ ∃ failure after, next cursor = .error failure after := by
  intro cursor
  have hsteps : Steps (ofText "k < 009223372036854775808") [⟨.text "k", 0⟩, ⟨.comparator .lt, 2⟩]
      cursor := .step rfl (.step rfl (.refl cursor))
  refine ⟨hsteps, ?_⟩
  have hblanks : ∀ b ∈ [' '], isBlank b = true := List.forall_mem_singleton.mpr rfl
  have hall : "009223372036854775808".toList.all Char.isDigit = true := by decide +kernel
  have hends : ∀ next ∈ ([] : List Char).head?, next.isDigit = false := by simp
  have hrefused := (tokens_tile_text "k < 009223372036854775808").2.2.2 _ _ _ _ [] hsteps
    (by rw [List.append_nil]; rfl) hblanks (by decide) (List.all_eq_true.mp hall) hends
  exact hrefused.mpr (.inl (by decide +kernel))

end Cursor

end DotPath
