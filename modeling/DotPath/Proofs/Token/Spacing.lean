import DotPath.Proofs.Token.Joining

/-!
This module contains texts that are spread out by blanks. Where a lexeme ends is seen at the character
behind it, and no lexeme goes on with a blank. So blanks that are put in front of the tokens of a text, or
behind the last one, leave the text with tokens of the same kinds.
-/

namespace DotPath

namespace Text

theorem isSymbolChar_of_isBlank {c : Char} (h : isBlank c = true) : isSymbolChar c = false := by
  have halphabetic : isAlphabetic c = false := Range.search_eq_false (by decide +kernel) h
  have hnumeric : isNumeric c = false := Range.search_eq_false (by decide +kernel) h
  have hunderscore : (c == '_') = false := by
    rw [beq_eq_false_iff_ne]
    rintro rfl
    cases h
  rw [isSymbolChar, isAlphanumeric, halphabetic, hnumeric, hunderscore]
  rfl

end Text

open Text

/-- The second text is the first one with blanks put in where tokens begin and end, but not in tokens. -/
inductive Spreads : List Char → List Char → Prop where
  | rest (cs : List Char) : Spreads cs cs
  | insert (hblank : isBlank b = true) (tail : Spreads cs ds) : Spreads cs (b :: ds)
  | blank (hblank : isBlank b = true) (tail : Spreads cs ds) : Spreads (b :: cs) (b :: ds)
  | lexeme (hblank : isBlank c = false)
      (hscan : Lexeme.scan c (cs ++ behind) = ⟨c :: cs, .ok kind⟩) (tail : Spreads behind ds) :
    Spreads (c :: (cs ++ behind)) (c :: (cs ++ ds))

namespace Spreads

variable {cs ds : List Char} {kinds : List TokenKind}

theorem endsToo (h : Spreads cs ds) : Lexeme.EndsToo cs ds := by
  cases h with
  | rest => exact .inl rfl
  | insert hblank _ =>
    right
    constructor
    · intro c hc
      cases hc
      exact isSymbolChar_of_isBlank hblank
    · rintro ⟨⟩
      cases hblank
  | blank => exact .inl rfl
  | lexeme => exact .inl rfl

theorem lexes (h : Spreads cs ds) (hlexes : Lexes cs kinds) : Lexes ds kinds := by
  induction h generalizing kinds with
  | rest cs => exact hlexes
  | insert hblank _ ih => exact .blank hblank (ih hlexes)
  | blank hblank _ ih => exact .blank hblank (ih (hlexes.of_cons_blank hblank))
  | lexeme hblank hscan tail ih =>
    rcases hlexes.exists_of_cons hblank with ⟨others, behind, kind, rest, happend, hscan', rfl, hrest⟩
    rw [hscan] at hscan'
    cases hscan'
    rw [List.append_cancel_left happend] at ih
    exact .lexeme hblank (Lexeme.scan_of_endsToo hscan tail.endsToo) (ih hrest)

end Spreads

end DotPath
