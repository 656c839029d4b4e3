import DotPath.Filter.Printer
import DotPath.Proofs.Path.Grammar
import DotPath.Proofs.Token.Lexing

/-!
This module contains the proof that what is printed of a token lexes to that token again. Symbols and
integers reach as far as they can, and so do the comparators `<` and `>`, so for these it matters what
stands behind them.
-/

namespace DotPath

namespace Text

/-- A number found in both of two tables would lie in two ranges at once. -/
theorem Range.search_eq_false {n : Nat} {ranges others : List Range}
    (hapart : ∀ r ∈ ranges, ∀ s ∈ others, r.last < s.first ∨ s.last < r.first)
    (h : search n others = true) : search n ranges = false := by
  cases hsearch : search n ranges with
  | false => rfl
  | true =>
    rcases exists_mem_of_search hsearch with ⟨r, hr, hfirst, hlast⟩
    rcases exists_mem_of_search h with ⟨s, hs, hfirst', hlast'⟩
    specialize hapart r hr s hs
    omega

theorem isBlank_of_isAlphabetic {c : Char} (h : isAlphabetic c = true) : isBlank c = false :=
  Range.search_eq_false (by decide +kernel) h

theorem toNat_of_isDigit {c : Char} (h : c.isDigit = true) : 0x30 ≤ c.toNat ∧ c.toNat ≤ 0x39 := by
  exact Char.isDigit_iff_toNat.1 h

theorem isAlphabetic_of_isDigit {c : Char} (h : c.isDigit = true) : isAlphabetic c = false := by
  have := toNat_of_isDigit h
  unfold isAlphabetic alphabeticRanges Range.search
  rw [decide_eq_false (by simp; omega)]
  rfl

theorem isBlank_of_isDigit {c : Char} (h : c.isDigit = true) : isBlank c = false := by
  have := toNat_of_isDigit h
  simp [isBlank, blankRanges, Range.search]
  omega

theorem isSymbolChar_of_isDigit {c : Char} (h : c.isDigit = true) : isSymbolChar c = true := by
  have := toNat_of_isDigit h
  unfold isSymbolChar isAlphanumeric isNumeric numericRanges Range.search
  simp
  omega

end Text

namespace Lexeme

open Text

variable {c : Char} {cs tail : List Char}

/-- What stands behind a word does not go on with it. -/
def Apart (tail : List Char) : Prop :=
  ∀ c ∈ tail.head?, isSymbolChar c = false

theorem takeWhile_append_of_apart {p : Char → Bool} (hp : ∀ c, p c = true → isSymbolChar c = true)
    (hcs : ∀ c ∈ cs, p c = true) (htail : Apart tail) : (cs ++ tail).takeWhile p = cs := by
  rw [List.takeWhile_append_of_pos hcs]
  cases tail with
  | nil => simp
  | cons c tail =>
    have : p c = false := by
      specialize htail c rfl
      cases hc : p c with
      | false => rfl
      | true => rw [hp c hc] at htail; cases htail
    rw [List.takeWhile_cons_of_neg (by simp [this]), List.append_nil]

theorem scan_of_isAlphabetic (h : isAlphabetic c = true) : scan c cs = word c cs := by
  unfold scan
  split
  case h_12 => rw [if_pos h]
  all_goals exact absurd h (by decide)

theorem scan_of_isDigit (h : c.isDigit = true) : scan c cs = integer c cs := by
  unfold scan
  split
  case h_12 => rw [if_neg (by simp [isAlphabetic_of_isDigit h]), if_pos h]
  all_goals exact absurd h (by decide)

theorem scan_symbol (h : isSymbol (c :: cs) = true) (htail : Apart tail) :
    scan c (cs ++ tail) = ⟨c :: cs, .ok (.text (String.ofList (c :: cs)))⟩ := by
  simp only [isSymbol, Bool.and_eq_true, List.all_eq_true] at h
  rw [scan_of_isAlphabetic h.1, word]
  rw [takeWhile_append_of_apart (fun _ h => h) h.2 htail]

theorem scan_quoted (hquote : '"' ∉ cs) :
    scan '"' (cs ++ '"' :: tail) = ⟨'"' :: (cs ++ ['"']), .ok (.text (String.ofList cs))⟩ := by
  have htake : (cs ++ '"' :: tail).takeWhile (· != '"') = cs := by
    rw [List.takeWhile_append_of_pos]
    · simp
    · intro c hc
      simp only [bne_iff_ne]
      rintro rfl
      exact hquote hc
  show quotation _ = _
  simp [quotation, htake]

theorem decimalValue_eq (digits : List Char) : decimalValue digits = Nat.ofDigitChars 10 digits 0 := by
  rw [Nat.ofDigitChars_eq_foldl, decimalValue]
  congr 1
  funext n c
  rw [Nat.mul_comm]

theorem scan_digits (hdigits : ∀ d ∈ c :: cs, d.isDigit = true) (htail : Apart tail) :
    scan c (cs ++ tail) = ⟨c :: cs, if decimalValue (c :: cs) < 0x8000000000000000 then
      .ok (.integer (Int64.ofNat (decimalValue (c :: cs)))) else .error .integerOutOfRange⟩ := by
  have hcs : ∀ d ∈ cs, d.isDigit = true := by
    intro d hd
    apply hdigits d (List.mem_cons_of_mem c hd)
  have htake := takeWhile_append_of_apart (fun _ => isSymbolChar_of_isDigit) hcs htail
  have hdrop : (cs ++ tail).dropWhile Char.isDigit = tail := by
    have happend := List.takeWhile_append_dropWhile (p := Char.isDigit) (l := cs ++ tail)
    rw [htake] at happend
    apply List.append_cancel_left happend
  have hnext : tail.head?.any (fun next => isAlphabetic next || next == '_') = false := by
    cases tail with
    | nil => rfl
    | cons next tail =>
      specialize htail next rfl
      simp only [isSymbolChar, isAlphanumeric, Bool.or_eq_false_iff] at htail
      simp [htail]
  rw [scan_of_isDigit (hdigits c List.mem_cons_self)]
  simp only [integer, htake, hdrop, hnext]
  rw [if_neg (by simp)]
  split <;> rfl

/-- The digits of a number scan to this number, or to a fault if it does not fit. -/
theorem exists_scan_toDigits (n : Nat) : ∃ c cs, Nat.toDigits 10 n = c :: cs ∧ isBlank c = false
    ∧ ∀ tail, Apart tail → scan c (cs ++ tail) = ⟨c :: cs, if n < 0x8000000000000000 then
        .ok (.integer (Int64.ofNat n)) else .error .integerOutOfRange⟩ := by
  have hvalue : decimalValue (Nat.toDigits 10 n) = n := by
    rw [decimalValue_eq, Nat.ofDigitChars_ten_toDigits]
  have hdigits : ∀ d ∈ Nat.toDigits 10 n, d.isDigit = true := by
    intro d hd
    apply Nat.isDigit_of_mem_toDigits (by decide) (by decide) hd
  cases hchars : Nat.toDigits 10 n with
  | nil => exact absurd hchars Nat.toDigits_ne_nil
  | cons c cs =>
    rw [hchars] at hvalue hdigits
    refine ⟨c, cs, rfl, isBlank_of_isDigit (hdigits c List.mem_cons_self), ?_⟩
    intro tail htail
    rw [scan_digits hdigits htail, hvalue]

end Lexeme

namespace Lexes

variable {tail : List Char} {kinds : List TokenKind}

theorem single (c : Char) (kind : TokenKind) (hblank : Text.isBlank c = false)
    (hscan : ∀ cs, Lexeme.scan c cs = .single c kind) (h : Lexes tail kinds) :
    Lexes (c :: tail) (kind :: kinds) := by
  rw [← List.nil_append tail]
  apply lexeme hblank ?_ h
  rw [hscan]
  rfl

theorem connective (connective : Connective) (h : Lexes tail kinds) :
    Lexes (connective.symbol.toList ++ tail) (connective.kind :: kinds) := by
  cases connective with
  | and => exact lexeme (c := '&') rfl rfl h
  | or => exact lexeme (c := '|') rfl rfl h

theorem comparator (comparator : Comparator) (h : Lexes tail kinds) (htail : tail.head? ≠ some '=') :
    Lexes (comparator.symbol.toList ++ tail) (.comparator comparator :: kinds) := by
  cases comparator with
  | eq => exact lexeme (c := '=') rfl rfl h
  | neq => exact lexeme (c := '!') rfl rfl h
  | lt => exact lexeme (c := '<') rfl (if_neg htail) h
  | le => exact lexeme (c := '<') rfl rfl h
  | gt => exact lexeme (c := '>') rfl (if_neg htail) h
  | ge => exact lexeme (c := '>') rfl rfl h

theorem symbol {key : String} (hkey : Text.isSymbol key.toList = true) (h : Lexes tail kinds)
    (htail : Lexeme.Apart tail) : Lexes (key.toList ++ tail) (.text key :: kinds) := by
  cases hchars : key.toList with
  | nil =>
    rw [hchars] at hkey
    cases hkey
  | cons c cs =>
    rw [hchars] at hkey
    have hscan := Lexeme.scan_symbol hkey htail
    rw [← hchars, String.ofList_toList, hchars] at hscan
    simp only [Text.isSymbol, Bool.and_eq_true] at hkey
    apply lexeme (Text.isBlank_of_isAlphabetic hkey.1) hscan h

theorem quoted {s : String} (hquote : '"' ∉ s.toList) (h : Lexes tail kinds) :
    Lexes ((Text.quoted s).toList ++ tail) (.text s :: kinds) := by
  have hscan : Lexeme.scan '"' (s.toList ++ '"' :: tail) = _ := Lexeme.scan_quoted hquote
  rw [String.ofList_toList, List.append_cons] at hscan
  have := lexeme (c := '"') rfl hscan h
  simpa [Text.quoted] using this

theorem spellKey {key : String} (hquote : '"' ∉ key.toList) (h : Lexes tail kinds)
    (htail : Lexeme.Apart tail) : Lexes ((Text.spellKey key).toList ++ tail) (.text key :: kinds) := by
  unfold Text.spellKey
  split
  · next hkey => apply symbol hkey h htail
  · apply quoted hquote h

theorem toList_toString_of_nonneg {n : Int64} (hn : 0 ≤ n.toInt) :
    (toString n.toInt).toList = Nat.toDigits 10 n.toInt.toNat := by
  rcases Int.eq_ofNat_of_zero_le hn with ⟨m, hm⟩
  rw [hm]
  apply Nat.toList_repr

theorem integer {n : Int64} (hn : 0 ≤ n.toInt) (h : Lexes tail kinds) (htail : Lexeme.Apart tail) :
    Lexes ((toString n.toInt).toList ++ tail) (.integer n :: kinds) := by
  have hlt := n.toInt_lt
  have hint : Int64.ofNat n.toInt.toNat = n := by
    rw [← Int64.ofInt_eq_ofNat, Int.toNat_of_nonneg hn, Int64.ofInt_toInt]
  rcases Lexeme.exists_scan_toDigits n.toInt.toNat with ⟨c, cs, hchars, hc, hscan⟩
  specialize hscan tail htail
  rw [if_pos (by omega), hint] at hscan
  rw [toList_toString_of_nonneg hn, hchars]
  apply lexeme hc hscan h

theorem lt_of_toDigits {n : Nat} (h : Lexes (Nat.toDigits 10 n ++ tail) kinds)
    (htail : Lexeme.Apart tail) : n < 0x8000000000000000 := by
  rcases Lexeme.exists_scan_toDigits n with ⟨c, cs, hchars, hc, hscan⟩
  rw [hchars, List.cons_append] at h
  rcases h.exists_of_cons hc with ⟨_, _, _, _, -, hfound, -⟩
  rw [hscan tail htail] at hfound
  split at hfound
  · assumption
  · cases hfound

end Lexes
end DotPath
