import DotPath.Path.Printer
import DotPath.Proofs.Path.Shape
import DotPath.Proofs.Token.Spelling

/-!
This module contains the proof that printing and reading paths are inverse to each other. What is
printed of a well-shaped filter or path lexes to tokens that the grammar derives it from; so reading
the text gives it back, and two paths that texts spell are equal if they are printed alike.
-/

namespace DotPath

open Grammar Lexeme

/-- In front of a text that does not go on with its last word, `text` lexes to `kinds`. -/
def Spells (text : String) (kinds : List TokenKind) : Prop :=
  ∀ ⦃tail : List Char⦄ ⦃rest : List TokenKind⦄, Apart tail → Lexes tail rest →
    Lexes (text.toList ++ tail) (kinds ++ rest)

theorem Grammar.Many.snoc {item : List TokenKind → α → Prop} {kinds rest : List TokenKind}
    {as : List α} {a : α} (h : Many item kinds as) (ha : item rest a) :
    Many item (kinds ++ rest) (as ++ [a]) := by
  have := h.append (.cons ha .nil)
  rwa [List.append_nil] at this

theorem apart_comparator (comparator : Comparator) (cs : List Char) :
    Apart (comparator.symbol.toList ++ cs) := by
  intro c hc
  cases comparator <;> cases hc <;> rfl

theorem apart_connective (connective : Connective) (cs : List Char) :
    Apart (connective.symbol.toList ++ cs) := by
  intro c hc
  cases connective <;> cases hc <;> rfl

namespace Operand

theorem spells_print {operand : Operand} (h : operand.Spellable) :
    ∃ kinds, DerivesOperand kinds operand ∧ Spells operand.print kinds := by
  cases operand with
  | text s =>
    refine ⟨_, .text s, ?_⟩
    intro tail rest htail hlexes
    apply hlexes.spellKey h htail
  | integer n =>
    refine ⟨_, .integer n, ?_⟩
    intro tail rest htail hlexes
    apply hlexes.integer h htail

theorem head?_quoted_ne_equals (s : String) (cs : List Char) :
    ((Text.quoted s).toList ++ cs).head? ≠ some '=' := by
  simp [Text.quoted]

theorem head?_integer_ne_equals {n : Int64} (hn : 0 ≤ n.toInt) (cs : List Char) :
    ((toString n.toInt).toList ++ cs).head? ≠ some '=' := by
  rw [Lexes.toList_toString_of_nonneg hn]
  cases hdigits : Nat.toDigits 10 n.toInt.toNat with
  | nil => exact absurd hdigits Nat.toDigits_ne_nil
  | cons d ds =>
    have hd : d.isDigit = true := by
      apply Nat.isDigit_of_mem_toDigits (b := 10) (by decide) (by decide)
      rw [hdigits]
      apply List.mem_cons_self
    rw [List.cons_append, List.head?_cons]
    rintro ⟨⟩
    cases hd

end Operand

namespace Comparison

theorem spells_print {comparison : Comparison} (h : comparison.WellShaped) :
    ∃ kinds, DerivesComparison kinds comparison ∧ Spells comparison.print kinds := by
  rcases comparison with ⟨comparator?, left, right?⟩
  cases comparator? with
  | none =>
    cases h.position rfl
    rcases Operand.spells_print h.left with ⟨kinds, hderives, hspells⟩
    refine ⟨kinds, .position hderives, ?_⟩
    have hprint : print ⟨none, left, none⟩ = left.print := by cases left <;> rfl
    rw [hprint]
    exact hspells
  | some comparator =>
    rcases h.field (by simp) with ⟨⟨name, hname⟩, hright⟩
    cases hname
    have hname := h.left
    cases right? with
    | none => exact absurd rfl hright
    | some right =>
      have hright := h.right right rfl
      cases right with
      | text s =>
        refine ⟨_, .field name comparator (.text s), ?_⟩
        intro tail rest htail hlexes
        simp only [print, operator, String.toList_append, List.append_assoc]
        -- A literal does not begin with an equals sign that the comparator would take for its own.
        apply Lexes.spellKey hname _ (apart_comparator comparator _)
        apply Lexes.comparator comparator _ (Operand.head?_quoted_ne_equals s tail)
        apply hlexes.quoted hright
      | integer n =>
        refine ⟨_, .field name comparator (.integer n), ?_⟩
        intro tail rest htail hlexes
        simp only [print, operator, Operand.print, String.toList_append, List.append_assoc]
        apply Lexes.spellKey hname _ (apart_comparator comparator _)
        apply Lexes.comparator comparator _ (Operand.head?_integer_ne_equals hright tail)
        apply hlexes.integer hright htail

end Comparison

namespace Filter

theorem derives_logical {kinds right : List TokenKind} {filter : Filter} {comparison : Comparison}
    (connective : Connective) (h : DerivesFilter kinds filter)
    (hright : DerivesComparison right comparison) :
    DerivesFilter (kinds ++ connective.kind :: right)
      (.logical connective filter (.comparison comparison)) := by
  cases h with
  | chain head tail =>
    have := DerivesFilter.chain head (tail.snoc (.link connective hright))
    simpa [chain, extend] using this

theorem spells_print {filter : Filter} (h : filter.WellShaped) :
    ∃ kinds, DerivesFilter kinds filter ∧ Spells filter.print kinds := by
  induction filter with
  | comparison c =>
    rcases Comparison.spells_print h with ⟨kinds, hderives, hspells⟩
    have := DerivesFilter.chain hderives .nil
    rw [List.append_nil] at this
    exact ⟨kinds, this, hspells⟩
  | logical connective left right ihLeft =>
    -- What is printed shows no grouping, so the right side has to be a single comparison.
    rcases h with ⟨hleft, c, rfl, hright⟩
    rcases ihLeft hleft with ⟨kinds, hderives, hspells⟩
    rcases Comparison.spells_print hright with ⟨kinds', hderives', hspells'⟩
    refine ⟨_, derives_logical connective hderives hderives', ?_⟩
    intro tail rest htail hlexes
    rw [print, String.toList_append, String.toList_append, List.append_assoc, List.append_assoc,
      List.append_assoc]
    apply hspells (apart_connective connective _)
    apply Lexes.connective connective
    apply hspells' htail hlexes

theorem apart_brackets (filters : List Filter) :
    Apart (String.join (filters.map fun filter => "[" ++ filter.print ++ "]")).toList := by
  intro c hc
  cases filters with
  | nil => cases hc
  | cons filter filters =>
    rw [List.map_cons, String.join_cons, String.toList_append, String.toList_append,
      String.toList_append] at hc
    cases hc
    rfl

theorem lexes_brackets {filters : List Filter} (h : ∀ filter ∈ filters, filter.WellShaped) :
    ∃ kinds, Many DerivesBracketed kinds filters
      ∧ Lexes (String.join (filters.map fun filter => "[" ++ filter.print ++ "]")).toList kinds := by
  induction filters with
  | nil => exact ⟨[], .nil, .nil⟩
  | cons filter filters ih =>
    rw [List.forall_mem_cons] at h
    rcases spells_print h.1 with ⟨kinds, hderives, hspells⟩
    rcases ih h.2 with ⟨kinds', hderives', hlexes⟩
    refine ⟨_, .cons (.brackets hderives) hderives', ?_⟩
    rw [List.map_cons, String.join_cons, String.toList_append, String.toList_append,
      String.toList_append, List.append_assoc, List.append_assoc, List.cons_append, List.append_assoc]
    apply Lexes.single '[' .leftBracket rfl (fun _ => rfl)
    apply hspells (by rintro _ ⟨⟩; rfl)
    apply Lexes.single ']' .rightBracket rfl (fun _ => rfl) hlexes

end Filter

namespace Path

theorem extend_append (path : Path) (others : List String) (key : String) :
    path.extend (others ++ [key]) = .child (path.extend others) ⟨key, false, []⟩ := by
  rw [extend, List.foldl_append]
  rfl

theorem spells_keys {path : Path} (hkeys : ∀ key ∈ path.keys, '"' ∉ key.toList)
    (hmark : ∀ step ∈ path.steps.tail, step.optional = false)
    (hfilters : ∀ step ∈ path.steps, step.filters = []) :
    ∃ marks marked first dotted others, DerivesMark marks marked ∧ Many DerivesKey dotted others
      ∧ path = (Path.first ⟨first, marked, []⟩).extend others
      ∧ Spells path.print (marks ++ .text first :: dotted) := by
  induction path with
  | first step =>
    rcases step with ⟨key, marked, filters⟩
    have hkey := hkeys key List.mem_cons_self
    cases hfilters _ List.mem_cons_self
    cases marked with
    | false =>
      refine ⟨_, _, key, [], [], .absent, .nil, rfl, ?_⟩
      intro tail rest htail hlexes
      have := hlexes.spellKey hkey htail
      simpa [print, Step.print] using this
    | true =>
      refine ⟨_, _, key, [], [], .present, .nil, rfl, ?_⟩
      intro tail rest htail hlexes
      have := hlexes.spellKey hkey htail
      have := this.single '?' .question rfl (fun _ => rfl)
      simpa [print, Step.print] using this
  | child parent step ih =>
    rw [keys, List.forall_mem_append, List.forall_mem_singleton] at hkeys
    rw [tail_steps_child, List.forall_mem_append, List.forall_mem_singleton] at hmark
    rw [steps, List.forall_mem_append, List.forall_mem_singleton] at hfilters
    rcases ih hkeys.1 hmark.1 hfilters.1
      with ⟨marks, marked, first, dotted, others, hmarks, hdotted, rfl, hspells⟩
    rcases step with ⟨key, optional, filters⟩
    cases hmark.2
    cases hfilters.2
    refine ⟨marks, marked, first, _, _, hmarks, hdotted.snoc (.key key), ?_, ?_⟩
    · rw [extend_append]
    · intro tail rest htail hlexes
      have := hlexes.spellKey hkeys.2 htail
      have := this.single '.' .dot rfl (fun _ => rfl)
      have := hspells (by rintro _ ⟨⟩; rfl) this
      simpa [print, Step.print] using this

theorem withFilters_filters (path : Path) : (path.withFilters []).withFilters path.filters = path := by
  cases path <;> rfl

theorem print_eq (path : Path) :
    path.print = (path.withFilters []).print
      ++ String.join (path.filters.map fun filter => "[" ++ filter.print ++ "]") := by
  cases path <;> simp [print, withFilters, filters, last, Step.print, String.append_assoc]

theorem lexes_print {path : Path} (h : path.WellShaped) :
    ∃ kinds, DerivesPath kinds path ∧ Lexes path.print.toList kinds := by
  rcases Filter.lexes_brackets h.last with ⟨bracketed, hbrackets, hlexes⟩
  have hfilters : ∀ step ∈ (path.withFilters []).steps, step.filters = [] := by
    rw [steps_withFilters, List.forall_mem_append, List.forall_mem_singleton]
    exact ⟨h.filters, rfl⟩
  rcases spells_keys (by rw [keys_withFilters]; exact h.keys) (mark_withFilters h.mark) hfilters
    with ⟨marks, marked, first, dotted, others, hmarks, hdotted, hpath, hspells⟩
  refine ⟨marks ++ .text first :: (dotted ++ bracketed), ?_, ?_⟩
  · rw [← path.withFilters_filters, hpath, ← ofKeys_eq_extend]
    exact .path hmarks first hdotted hbrackets
  · rw [print_eq, String.toList_append]
    have := hspells (Filter.apart_brackets path.filters) hlexes
    simpa using this

theorem parse_print {path : Path} (h : path.WellShaped) : parse path.print = .ok path := by
  exact parse_eq_ok_iff_lexes.mpr (lexes_print h)

/--
The paths that texts spell are exactly the well-shaped ones, and each of them is what its own text
spells. So texts that spell paths spell the same one exactly if these are printed alike.
-/
theorem parse_eq_ok_iff_wellShaped (path : Path) :
    ((∃ text, parse text = .ok path) ↔ path.WellShaped)
      ∧ (path.WellShaped ↔ parse path.print = .ok path)
      ∧ (∀ text, parse text = .ok path → parse path.print = .ok path)
      ∧ ∀ text text' other, parse text = .ok path → parse text' = .ok other →
          (path = other ↔ path.print = other.print) := by
  refine ⟨⟨?_, ?_⟩, ⟨parse_print, wellShaped_of_parse⟩, ?_, ?_⟩
  · rintro ⟨text, htext⟩
    apply wellShaped_of_parse htext
  · intro h
    exact ⟨path.print, parse_print h⟩
  · intro text htext
    apply parse_print (wellShaped_of_parse htext)
  · intro text text' other htext htext'
    constructor
    · rintro rfl
      rfl
    · intro hprint
      have hpath := parse_print (wellShaped_of_parse htext)
      rw [hprint, parse_print (wellShaped_of_parse htext')] at hpath
      cases hpath
      rfl

end Path

end DotPath
