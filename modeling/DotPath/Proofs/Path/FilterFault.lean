import DotPath.Proofs.Path.Failing
import DotPath.Proofs.Path.Shape

/-!
This module contains what is wrong with a filter that the evaluation of a query calls invalid. Filters can
be built that compare an integer or compare with nothing, but no text spells them. The one fault that a
text can lead to is a word without a comparator, where the position of an item is expected.
-/

namespace DotPath

variable {shown : String} {fault : FilterFault}

theorem Filter.WellShaped.comparisons {filter : Filter} (h : filter.WellShaped) :
    ∀ comparison ∈ filter.comparisons, comparison.WellShaped := by
  induction filter with
  | comparison c =>
    rw [Filter.comparisons, List.forall_mem_singleton]
    exact h
  | logical connective left right ihLeft =>
    rcases h with ⟨hleft, c, rfl, hright⟩
    rw [Filter.comparisons, Filter.comparisons, List.forall_mem_append, List.forall_mem_singleton]
    exact ⟨ihLeft hleft, hright⟩

namespace Comparison

variable {comparison : Comparison}

theorem right_of_evalField {comparator : Comparator} {name : String} {item : Json}
    (h : comparison.evalField comparator name item = .error (.invalidFilter shown fault)) :
    comparison.right = none := by
  rw [evalField, bind_eq_error_iff] at h
  rcases h with hmember | ⟨value, -, h⟩
  · rcases Json.failure_of_member hmember with hfailure | ⟨actual, hfailure⟩ <;> cases hfailure
  · split at h
    · rcases bind_eq_error_iff.mp h with hstring | ⟨_, _, h⟩
      · cases Json.failure_of_asString hstring
      · cases h
    · rcases bind_eq_error_iff.mp h with hnumber | ⟨_, _, h⟩
      · cases Json.failure_of_asNumber hnumber
      · cases h
    · next hright => exact hright

theorem eq_position_of_fails (hshape : comparison.WellShaped)
    (h : comparison.Fails (.invalidFilter shown fault)) :
    fault = .textAsIndex ∧ ∃ name, comparison = ⟨none, .text name, none⟩
      ∧ shown = comparison.print := by
  rcases h with ⟨index, item, h⟩
  rcases comparison with ⟨comparator, left, right⟩
  cases comparator with
  | none =>
    cases hshape.position rfl
    cases left with
    | integer n => cases h
    | text name =>
      cases h
      exact ⟨rfl, name, rfl, rfl⟩
  | some comparator =>
    -- A text spells a field on the left of a comparator and a literal on its right.
    rcases hshape.field (by simp) with ⟨⟨name, rfl⟩, hright⟩
    exact absurd (right_of_evalField h) hright

end Comparison

namespace Path

theorem position_of_eval {text : String} {path : Path} {root : Json} (hparse : parse text = .ok path)
    (h : path.eval root = .error (.invalidFilter shown fault)) :
    fault = .textAsIndex ∧ ∃ filter ∈ path.filters, ∃ name,
      ⟨none, .text name, none⟩ ∈ filter.comparisons
        ∧ shown = Comparison.print ⟨none, .text name, none⟩ := by
  rcases fails_of_eval h with hresolve | ⟨filter, hfilter, comparison, hcomparison, hfails⟩
  · rcases failure_of_resolve hresolve with ⟨above, hfailure | ⟨actual, hfailure⟩⟩
    · cases hoptional : path.isOptional <;> rw [hoptional] at hfailure <;> cases hfailure
    · cases hfailure
  · have hshape := ((wellShaped_of_parse hparse).last filter hfilter).comparisons
    rcases Comparison.eq_position_of_fails (hshape comparison hcomparison) hfails
      with ⟨hfault, name, rfl, hshown⟩
    exact ⟨hfault, filter, hfilter, name, hcomparison, hshown⟩

end Path

end DotPath
