import DotPath.Lexeme
import DotPath.Text.Blank

/-!
This module contains what scanning can yield at the front of a text. Its faults are those of single
lexemes, and none of them is about the order of tokens. Brackets and connectives have one spelling each.
-/

namespace DotPath

open Text

/-- The fault is found in the characters of one lexeme. -/
def SyntaxFault.isLexical (fault : SyntaxFault) : Bool :=
  match fault with
  | .unexpectedCharacter _ => true
  | .incompleteOperator _ => true
  | .unterminatedString => true
  | .malformedInteger => true
  | .integerOutOfRange => true
  | _ => false

namespace Lexeme

/-- The text begins with what scanning yields this outcome for, and not with a blank. -/
def Begins (text : List Char) (outcome : Except SyntaxFault TokenKind) : Prop :=
  ∃ c cs, text = c :: cs ∧ isBlank c = false ∧ (scan c cs).outcome = outcome

variable {c : Char} {cs chars : List Char} {kind : TokenKind} {fault : SyntaxFault}

theorem isLexical_of_pair {second : Char} (h : (pair c second cs kind).outcome = .error fault) :
    fault.isLexical = true := by
  unfold pair at h
  split at h <;> cases h
  rfl

theorem isLexical_of_quotation (h : (quotation cs).outcome = .error fault) :
    fault.isLexical = true := by
  simp only [quotation] at h
  split at h <;> cases h
  rfl

theorem isLexical_of_integer (h : (integer c cs).outcome = .error fault) :
    fault.isLexical = true := by
  simp only [integer] at h
  split at h
  · cases h
    rfl
  · split at h <;> cases h
    rfl

theorem optionalPair_outcome_ne_error {withEquals without : TokenKind} :
    (optionalPair c cs withEquals without).outcome ≠ .error fault := by
  unfold optionalPair
  split <;> simp

theorem isLexical_of_scan (h : (scan c cs).outcome = .error fault) : fault.isLexical = true := by
  unfold scan at h
  split at h
  · cases h
  · cases h
  · cases h
  · cases h
  · apply isLexical_of_pair h
  · apply isLexical_of_pair h
  · apply isLexical_of_pair h
  · apply isLexical_of_pair h
  · exact absurd h optionalPair_outcome_ne_error
  · exact absurd h optionalPair_outcome_ne_error
  · apply isLexical_of_quotation h
  · split at h
    · cases h
    · split at h
      · apply isLexical_of_integer h
      · cases h
        rfl

theorem Begins.isLexical {text : List Char} (h : Begins text (.error fault)) :
    fault.isLexical = true := by
  rcases h with ⟨c, cs, -, -, h⟩
  exact isLexical_of_scan h

/-- The tokens that a comparison can follow are made of their symbols alone. -/
theorem not_isBlank_of_opens (h : scan c cs = ⟨chars, .ok kind⟩)
    (hkind : kind ∈ [.leftBracket, .and, .or]) : ∀ b ∈ chars, isBlank b = false := by
  unfold scan at h
  split at h
  · cases h
    simp at hkind
  · cases h
    exact List.forall_mem_singleton.mpr rfl
  · cases h
    simp at hkind
  · cases h
    simp at hkind
  · unfold pair at h
    split at h <;> cases h
    exact List.forall_mem_cons.mpr ⟨rfl, List.forall_mem_singleton.mpr rfl⟩
  · unfold pair at h
    split at h <;> cases h
    exact List.forall_mem_cons.mpr ⟨rfl, List.forall_mem_singleton.mpr rfl⟩
  · unfold pair at h
    split at h <;> cases h
    simp at hkind
  · unfold pair at h
    split at h <;> cases h
    simp at hkind
  · unfold optionalPair at h
    split at h <;> cases h <;> simp at hkind
  · unfold optionalPair at h
    split at h <;> cases h <;> simp at hkind
  · simp only [quotation] at h
    split at h <;> cases h
    simp at hkind
  · split at h
    · cases h
      simp at hkind
    · split at h
      · simp only [integer] at h
        split at h
        · cases h
        · split at h <;> cases h
          simp at hkind
      · cases h

end Lexeme

end DotPath
