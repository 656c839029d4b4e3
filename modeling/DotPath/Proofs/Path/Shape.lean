import DotPath.Proofs.Path.Reading
import DotPath.Proofs.Token.Lexing

/-!
This module contains the shape that a path has if some text spells it. Texts without escapes cannot
spell a quote inside a key, integers are written without a sign, and the grammar knows fewer trees than
the types of filters and paths have.
-/

namespace DotPath

def TokenKind.Spellable (kind : TokenKind) : Prop :=
  match kind with
  | .text s => '"' ∉ s.toList
  | .integer n => 0 ≤ n.toInt
  | _ => True

def Operand.Spellable (operand : Operand) : Prop :=
  match operand with
  | .text s => '"' ∉ s.toList
  | .integer n => 0 ≤ n.toInt

structure Comparison.WellShaped (comparison : Comparison) : Prop where
  left : comparison.left.Spellable
  right : ∀ operand ∈ comparison.right, operand.Spellable
  -- A position has nothing on its right.
  position : comparison.comparator = none → comparison.right = none
  field : comparison.comparator ≠ none →
    (∃ name, comparison.left = .text name) ∧ comparison.right ≠ none

/-- Connectives group to the left, so what stands on the right of one is a comparison. -/
def Filter.WellShaped (filter : Filter) : Prop :=
  match filter with
  | .comparison c => c.WellShaped
  | .logical _ left right => left.WellShaped ∧ ∃ c, right = .comparison c ∧ c.WellShaped

def Path.steps (path : Path) : List Step :=
  match path with
  | .first step => [step]
  | .child parent step => parent.steps ++ [step]

structure Path.WellShaped (path : Path) : Prop where
  keys : ∀ key ∈ path.keys, '"' ∉ key.toList
  -- Only the first step is marked optional.
  mark : ∀ step ∈ path.steps.tail, step.optional = false
  -- Only the last step has filters.
  filters : ∀ step ∈ path.steps.dropLast, step.filters = []
  last : ∀ filter ∈ path.filters, filter.WellShaped

namespace Lexeme

variable {c : Char} {cs : List Char} {kind : TokenKind}

theorem spellable_of_pair {second : Char} {made : TokenKind}
    (h : (pair c second cs made).outcome = .ok kind) (hmade : made.Spellable) :
    kind.Spellable := by
  unfold pair at h
  split at h <;> cases h
  exact hmade

theorem spellable_of_optionalPair {withEquals without : TokenKind}
    (h : (optionalPair c cs withEquals without).outcome = .ok kind) (hwith : withEquals.Spellable)
    (hwithout : without.Spellable) : kind.Spellable := by
  unfold optionalPair at h
  split at h <;> cases h
  · exact hwith
  · exact hwithout

theorem spellable_of_quotation (h : (quotation cs).outcome = .ok kind) : kind.Spellable := by
  simp only [quotation] at h
  split at h <;> cases h
  simp only [TokenKind.Spellable, String.toList_ofList]
  intro hquote
  have := List.all_eq_true.1 List.all_takeWhile _ hquote
  cases this

theorem spellable_of_word (hc : Text.isAlphabetic c = true) (h : (word c cs).outcome = .ok kind) :
    kind.Spellable := by
  cases h
  simp only [TokenKind.Spellable, String.toList_ofList]
  intro hquote
  rcases List.mem_cons.1 hquote with rfl | hquote
  · exact absurd hc (by decide)
  · exact absurd (List.all_eq_true.1 List.all_takeWhile _ hquote) (by decide)

theorem spellable_of_integer (h : (integer c cs).outcome = .ok kind) : kind.Spellable := by
  simp only [integer] at h
  split at h
  · cases h
  · split at h <;> cases h
    next hvalue =>
    simp only [TokenKind.Spellable]
    rw [Int64.toInt_ofNat_of_lt hvalue]
    omega

theorem spellable_of_scan (h : (scan c cs).outcome = .ok kind) : kind.Spellable := by
  unfold scan at h
  split at h
  · cases h
    trivial
  · cases h
    trivial
  · cases h
    trivial
  · cases h
    trivial
  · apply spellable_of_pair h trivial
  · apply spellable_of_pair h trivial
  · apply spellable_of_pair h trivial
  · apply spellable_of_pair h trivial
  · apply spellable_of_optionalPair h trivial trivial
  · apply spellable_of_optionalPair h trivial trivial
  · apply spellable_of_quotation h
  · split at h
    · next hc => apply spellable_of_word hc h
    · split at h
      · apply spellable_of_integer h
      · cases h

end Lexeme

theorem Lexes.spellable {cs : List Char} {kinds : List TokenKind} (h : Lexes cs kinds) :
    ∀ kind ∈ kinds, kind.Spellable := by
  induction h with
  | nil => simp
  | blank hblank tail ih => exact ih
  | lexeme hblank hscan tail ih =>
    intro kind hkind
    rcases List.mem_cons.1 hkind with rfl | hkind
    · apply Lexeme.spellable_of_scan
      rw [hscan]
    · apply ih kind hkind

namespace Grammar

variable {kinds : List TokenKind}

theorem DerivesOperand.spellable {operand : Operand} (h : DerivesOperand kinds operand)
    (hkinds : ∀ kind ∈ kinds, kind.Spellable) : operand.Spellable := by
  cases h <;> exact hkinds _ List.mem_cons_self

theorem DerivesComparison.wellShaped {comparison : Comparison}
    (h : DerivesComparison kinds comparison) (hkinds : ∀ kind ∈ kinds, kind.Spellable) :
    comparison.WellShaped := by
  cases h with
  | position operand =>
    constructor
    · apply operand.spellable hkinds
    · simp
    · simp
    · simp
  | field name comparator operand =>
    constructor
    · apply hkinds _ List.mem_cons_self
    · rintro _ ⟨⟩
      apply operand.spellable
      intro kind hkind
      apply hkinds kind (List.mem_cons_of_mem _ (List.mem_cons_of_mem _ hkind))
    · simp
    · simp

end Grammar

open Grammar

variable {kinds : List TokenKind}

namespace Filter

theorem wellShaped_extend {left : Filter} {links : List (Connective × Comparison)}
    (hleft : left.WellShaped) (h : Many DerivesLink kinds links)
    (hkinds : ∀ kind ∈ kinds, kind.Spellable) : (left.extend links).WellShaped := by
  induction h generalizing left with
  | nil => exact hleft
  | cons head tail ih =>
    rw [List.forall_mem_append] at hkinds
    cases head with
    | link connective right =>
      apply ih
      · refine ⟨hleft, _, rfl, ?_⟩
        apply right.wellShaped
        intro kind hkind
        apply hkinds.1 kind (List.mem_cons_of_mem _ hkind)
      · exact hkinds.2

theorem wellShaped_of_derives {filter : Filter} (h : DerivesFilter kinds filter)
    (hkinds : ∀ kind ∈ kinds, kind.Spellable) : filter.WellShaped := by
  cases h with
  | chain head tail =>
    rw [List.forall_mem_append] at hkinds
    apply wellShaped_extend _ tail hkinds.2
    apply head.wellShaped hkinds.1

theorem wellShaped_of_brackets {filters : List Filter} (h : Many DerivesBracketed kinds filters)
    (hkinds : ∀ kind ∈ kinds, kind.Spellable) : ∀ filter ∈ filters, filter.WellShaped := by
  induction h with
  | nil => simp
  | cons head tail ih =>
    rw [List.forall_mem_append] at hkinds
    rw [List.forall_mem_cons]
    refine ⟨?_, ih hkinds.2⟩
    cases head with
    | brackets inner =>
      apply wellShaped_of_derives inner
      intro kind hkind
      apply hkinds.1
      simp [hkind]

end Filter

namespace Path

theorem keys_extend (path : Path) (others : List String) :
    (path.extend others).keys = path.keys ++ others := by
  induction others generalizing path with
  | nil => rw [List.append_nil]; rfl
  | cons key others ih =>
    rw [extend, List.foldl_cons, ← extend, ih, keys, List.append_assoc]
    rfl

theorem steps_extend (path : Path) (others : List String) :
    (path.extend others).steps = path.steps ++ others.map (⟨·, false, []⟩) := by
  induction others generalizing path with
  | nil => rw [List.map_nil, List.append_nil]; rfl
  | cons key others ih =>
    rw [extend, List.foldl_cons, ← extend, ih, steps, List.append_assoc]
    rfl

theorem steps_ne_nil (path : Path) : path.steps ≠ [] := by
  cases path <;> simp [steps]

theorem tail_steps_child (parent : Path) (step : Step) :
    (child parent step).steps.tail = parent.steps.tail ++ [step] := by
  rw [steps, List.tail_append_of_ne_nil parent.steps_ne_nil]

theorem keys_withFilters (path : Path) (filters : List Filter) :
    (path.withFilters filters).keys = path.keys := by
  cases path <;> rfl

theorem filters_withFilters (path : Path) (filters : List Filter) :
    (path.withFilters filters).filters = filters := by
  cases path <;> rfl

theorem steps_withFilters (path : Path) (filters : List Filter) :
    (path.withFilters filters).steps = path.steps.dropLast ++ [{ path.last with filters }] := by
  cases path <;> simp [withFilters, steps, last]

theorem mark_withFilters {path : Path} {filters : List Filter}
    (h : ∀ step ∈ path.steps.tail, step.optional = false) :
    ∀ step ∈ (path.withFilters filters).steps.tail, step.optional = false := by
  cases path with
  | first step => simp [withFilters, steps]
  | child parent step =>
    rw [tail_steps_child, List.forall_mem_append, List.forall_mem_singleton] at h
    rw [withFilters, tail_steps_child, List.forall_mem_append, List.forall_mem_singleton]
    exact h

theorem quote_not_mem_of_derives {kinds : List TokenKind} {others : List String}
    (h : Many DerivesKey kinds others) (hkinds : ∀ kind ∈ kinds, kind.Spellable) :
    ∀ key ∈ others, '"' ∉ key.toList := by
  induction h with
  | nil => simp
  | cons head tail ih =>
    rw [List.forall_mem_append] at hkinds
    rw [List.forall_mem_cons]
    refine ⟨?_, ih hkinds.2⟩
    cases head with
    | key =>
      apply hkinds.1 (.text _)
      simp

theorem wellShaped_of_derives {path : Path} (h : DerivesPath kinds path)
    (hkinds : ∀ kind ∈ kinds, kind.Spellable) : path.WellShaped := by
  cases h with
  | path mark first keys brackets =>
    rw [List.forall_mem_append, List.forall_mem_cons, List.forall_mem_append] at hkinds
    rcases hkinds with ⟨-, hfirst, hdotted, hbracketed⟩
    constructor
    · rw [ofKeys_eq_extend, keys_withFilters, keys_extend, List.forall_mem_append]
      refine ⟨?_, quote_not_mem_of_derives keys hdotted⟩
      simpa [Path.keys, TokenKind.Spellable] using hfirst
    · rw [ofKeys_eq_extend]
      apply mark_withFilters
      rw [steps_extend]
      simp [steps]
    · rw [ofKeys_eq_extend, steps_withFilters, List.dropLast_concat, steps_extend]
      intro step hstep
      have := List.dropLast_subset _ hstep
      simp only [steps, List.mem_append, List.mem_singleton, List.mem_map] at this
      rcases this with rfl | ⟨key, -, rfl⟩ <;> rfl
    · rw [ofKeys_eq_extend, filters_withFilters]
      apply Filter.wellShaped_of_brackets brackets hbracketed

theorem parse_eq_ok_iff_lexes {text : String} {path : Path} :
    parse text = .ok path ↔ ∃ kinds, DerivesPath kinds path ∧ Lexes text.toList kinds := by
  constructor
  · intro h
    unfold parse at h
    split at h <;> cases h
    next hread =>
    rcases derives_of_read hread with ⟨hderives, hfailure⟩
    exact ⟨_, hderives, Lexes.of_stream rfl hfailure⟩
  · rintro ⟨kinds, hderives, hlexes⟩
    rcases hlexes.stream_eq [] with ⟨rfl, hfailure⟩
    rcases read_of_derives hderives hfailure with ⟨after, hread⟩
    unfold parse Cursor.ofText
    rw [hread]

theorem wellShaped_of_parse {text : String} {path : Path} (h : parse text = .ok path) :
    path.WellShaped := by
  rcases parse_eq_ok_iff_lexes.mp h with ⟨kinds, hderives, hlexes⟩
  apply wellShaped_of_derives hderives hlexes.spellable

end Path

end DotPath
