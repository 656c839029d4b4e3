import DotPath.Proofs.Token.Spelling

/-!
This module contains the logic of texts that are put together or cut. How far a lexeme reaches is seen
at the character behind it, so it keeps its extent if something else that begins with this character, or
with one that no lexeme goes on with, stands there. So the tokens of two texts that stand apart are the
tokens of both, one after the other.
-/

namespace DotPath

namespace Lexeme

open Text

variable {c : Char} {cs behind other tail : List Char} {kind : TokenKind}

/-- A lexeme that ends in front of `behind` ends in front of `other` as well. -/
def EndsToo (behind other : List Char) : Prop :=
  other.head? = behind.head? ∨ Apart other ∧ other.head? ≠ some '='

theorem EndsToo.append (h : behind = [] → Apart tail ∧ tail.head? ≠ some '=') :
    EndsToo behind (behind ++ tail) := by
  cases behind with
  | nil => exact .inr (h rfl)
  | cons b behind => exact .inl rfl

theorem EndsToo.of_append : EndsToo (behind ++ tail) behind := by
  cases behind with
  | nil => exact .inr ⟨by simp [Apart], by simp⟩
  | cons b behind => exact .inl rfl

theorem EndsToo.append_left (h : EndsToo behind other) (front : List Char) :
    EndsToo (front ++ behind) (front ++ other) := by
  cases front with
  | nil => exact h
  | cons c front => exact .inl rfl

theorem EndsToo.stops {p : Char → Bool} (h : EndsToo behind other)
    (hp : ∀ c, isSymbolChar c = false → p c = false) (hbehind : ∀ b ∈ behind.head?, p b = false) :
    ∀ b ∈ other.head?, p b = false := by
  rcases h with hhead | ⟨hapart, -⟩
  · rwa [hhead]
  · intro b hb
    apply hp b (hapart b hb)

theorem takeWhile_append_eq_left_iff {p : Char → Bool} :
    (cs ++ behind).takeWhile p = cs ↔
      (∀ c ∈ cs, p c = true) ∧ ∀ b ∈ behind.head?, p b = false := by
  induction cs with
  | nil => cases behind <;> simp [List.takeWhile_cons]
  | cons c cs ih =>
    rw [List.cons_append, List.takeWhile_cons, List.forall_mem_cons]
    cases hc : p c with
    | true => simp [ih]
    | false => simp

theorem dropWhile_of_takeWhile {p : Char → Bool} (h : (cs ++ behind).takeWhile p = cs) :
    (cs ++ behind).dropWhile p = behind := by
  have happend := List.takeWhile_append_dropWhile (p := p) (l := cs ++ behind)
  rw [h] at happend
  exact List.append_cancel_left happend

theorem takeWhile_of_endsToo {p : Char → Bool} (hp : ∀ c, isSymbolChar c = false → p c = false)
    (h : (cs ++ behind).takeWhile p = cs) (hends : EndsToo behind other) :
    (cs ++ other).takeWhile p = cs := by
  rw [takeWhile_append_eq_left_iff] at h ⊢
  exact ⟨h.1, hends.stops hp h.2⟩

theorem pair_of_endsToo {second : Char} {made : TokenKind}
    (h : pair c second (cs ++ behind) made = ⟨c :: cs, .ok kind⟩) :
    pair c second (cs ++ other) made = ⟨c :: cs, .ok kind⟩ := by
  unfold pair at h
  split at h
  · cases h
    exact if_pos rfl
  · cases h

theorem optionalPair_of_endsToo {withEquals without : TokenKind}
    (h : optionalPair c (cs ++ behind) withEquals without = ⟨c :: cs, .ok kind⟩)
    (hends : EndsToo behind other) :
    optionalPair c (cs ++ other) withEquals without = ⟨c :: cs, .ok kind⟩ := by
  unfold optionalPair at h
  split at h
  · cases h
    exact if_pos rfl
  · next hhead =>
    cases h
    unfold optionalPair
    rw [if_neg]
    rcases hends with hsame | ⟨-, hequals⟩
    · rwa [List.nil_append, hsame]
    · exact hequals

theorem quote_notMem_body (cs : List Char) : '"' ∉ cs.takeWhile (· != '"') := by
  intro hquote
  have := List.all_eq_true.1 List.all_takeWhile _ hquote
  cases this

theorem quotation_of_endsToo (h : quotation (cs ++ behind) = ⟨'"' :: cs, .ok kind⟩) :
    quotation (cs ++ other) = ⟨'"' :: cs, .ok kind⟩ := by
  simp only [quotation] at h
  split at h
  · have hbody := quote_notMem_body (cs ++ behind)
    generalize (cs ++ behind).takeWhile (· != '"') = body at h hbody
    cases h
    have hscan : quotation (body ++ '"' :: other) = _ := scan_quoted hbody
    simpa using hscan
  · simp at h

theorem word_of_endsToo (h : word c (cs ++ behind) = ⟨c :: cs, .ok kind⟩)
    (hends : EndsToo behind other) : word c (cs ++ other) = ⟨c :: cs, .ok kind⟩ := by
  have htake : (cs ++ behind).takeWhile isSymbolChar = cs := by
    simp only [word, Lexeme.mk.injEq, List.cons.injEq, true_and] at h
    exact h.1
  rw [← h, word, word, htake, takeWhile_of_endsToo (fun _ h => h) htake hends]

theorem takeWhile_of_integer (h : integer c (cs ++ behind) = ⟨c :: cs, .ok kind⟩) :
    (cs ++ behind).takeWhile Char.isDigit = cs := by
  have hchars := integer_chars c (cs ++ behind)
  rw [h] at hchars
  exact (List.tail_eq_of_cons_eq hchars).symm

theorem integer_of_endsToo (h : integer c (cs ++ behind) = ⟨c :: cs, .ok kind⟩)
    (hends : EndsToo behind other) : integer c (cs ++ other) = ⟨c :: cs, .ok kind⟩ := by
  have hdigit : ∀ c, isSymbolChar c = false → c.isDigit = false := by
    intro c hc
    cases hdigit : c.isDigit with
    | false => rfl
    | true =>
      rw [isSymbolChar_of_isDigit hdigit] at hc
      cases hc
  have htake := takeWhile_of_integer h
  have htake' := takeWhile_of_endsToo hdigit htake hends
  simp only [integer, htake, dropWhile_of_takeWhile htake] at h
  split at h
  · cases h
  · next hnext =>
    have hstops : ∀ b ∈ other.head?, (isAlphabetic b || b == '_') = false := by
      apply hends.stops (p := fun b => isAlphabetic b || b == '_')
      · intro b hb
        simp only [isSymbolChar, isAlphanumeric, Bool.or_eq_false_iff] at hb
        rw [hb.1.1, hb.2]
        rfl
      · rw [Bool.not_eq_true, Option.any_eq_false] at hnext
        exact hnext
    split at h
    · next hvalue =>
      simp only [integer, htake', dropWhile_of_takeWhile htake']
      rw [if_neg, if_pos hvalue, h]
      rw [Bool.not_eq_true, Option.any_eq_false]
      exact hstops
    · cases h

theorem scan_of_endsToo (h : scan c (cs ++ behind) = ⟨c :: cs, .ok kind⟩)
    (hends : EndsToo behind other) : scan c (cs ++ other) = ⟨c :: cs, .ok kind⟩ := by
  unfold scan at h
  split at h
  · cases h
    rfl
  · cases h
    rfl
  · cases h
    rfl
  · cases h
    rfl
  · apply pair_of_endsToo h
  · apply pair_of_endsToo h
  · apply pair_of_endsToo h
  · apply pair_of_endsToo h
  · apply optionalPair_of_endsToo h hends
  · apply optionalPair_of_endsToo h hends
  · apply quotation_of_endsToo h
  · split at h
    · next hc =>
      rw [scan_of_isAlphabetic hc]
      apply word_of_endsToo h hends
    · split at h
      · next hc =>
        rw [scan_of_isDigit hc]
        apply integer_of_endsToo h hends
      · cases h

end Lexeme

/-- The tokens of a text and of one that does not go on with its last lexeme, one after the other. -/
theorem Lexes.append {cs tail : List Char} {kinds rest : List TokenKind} (h : Lexes cs kinds)
    (htail : Lexeme.Apart tail) (hequals : tail.head? ≠ some '=') (hrest : Lexes tail rest) :
    Lexes (cs ++ tail) (kinds ++ rest) := by
  induction h with
  | nil => exact hrest
  | blank hblank _ ih => exact .blank hblank ih
  | lexeme hblank hscan _ ih =>
    rw [List.cons_append, List.append_assoc]
    apply Lexes.lexeme hblank _ ih
    apply Lexeme.scan_of_endsToo hscan
    apply Lexeme.EndsToo.append
    intro _
    exact ⟨htail, hequals⟩

/-- Such a text behind another one has tokens of its own if the two together have tokens. -/
theorem Lexes.exists_of_append {cs tail : List Char} {kinds all : List TokenKind}
    (h : Lexes cs kinds) (htail : Lexeme.Apart tail) (hequals : tail.head? ≠ some '=')
    (hall : Lexes (cs ++ tail) all) : ∃ rest, all = kinds ++ rest ∧ Lexes tail rest := by
  induction h generalizing all with
  | nil => exact ⟨all, rfl, hall⟩
  | blank hblank _ ih => exact ih (hall.of_cons_blank hblank)
  | lexeme hblank hscan _ ih =>
    rw [List.cons_append, List.append_assoc] at hall
    rcases hall.exists_of_cons hblank with ⟨others, behind, kind, rest, happend, hscan', rfl, hrest⟩
    have hends := Lexeme.scan_of_endsToo hscan (.append fun _ => ⟨htail, hequals⟩)
    rw [hscan'] at hends
    cases hends
    rw [List.append_cancel_left happend] at ih
    rcases ih hrest with ⟨rest, rfl, hown⟩
    exact ⟨rest, rfl, hown⟩

end DotPath
