import DotPath.Lookup
import DotPath.Proofs.Outcome

/-!
This module contains which failures the evaluation of a path may end in, part by part. A key blames a
prefix of the path for a missing member or for a value that has no members. A filter never reports that
an optional value is missing: only keys do, and a lookup of a single value whose filters leave nothing.
-/

namespace DotPath

namespace Failure

theorem isOptionalMissing_iff (failure : Failure) :
    failure.isOptionalMissing = true ↔ ∃ path, failure = .optionalMissing path := by
  cases failure <;> simp [isOptionalMissing]

/-- The failures that evaluation can end in, but for the absence of an optional value. -/
inductive OfEvaluation : Failure → Prop where
  | notFound (path : String) : OfEvaluation (.notFound path)
  | typeMismatch (path : String) (expected actual : TypeName) :
    OfEvaluation (.typeMismatch path expected actual)
  | invalidFilter (filter : String) (fault : FilterFault) : OfEvaluation (.invalidFilter filter fault)

theorem OfEvaluation.isOptionalMissing {failure : Failure} (h : failure.OfEvaluation) :
    failure.isOptionalMissing = false := by
  cases h <;> rfl

end Failure

namespace Json

theorem failure_of_member {json : Json} {path key : String} {missing failure : Failure}
    (h : json.member path key missing = .error failure) :
    failure = missing ∨ ∃ actual, failure = .typeMismatch path .object actual := by
  unfold member at h
  split at h
  · split at h
    · cases h
    · cases h
      exact .inl rfl
  · cases h
    exact .inr ⟨_, rfl⟩

theorem failure_of_asString {json : Json} {path : String} {failure : Failure}
    (h : json.asString path = .error failure) : failure = json.mismatch path .string := by
  unfold asString at h
  split at h <;> cases h
  rfl

theorem failure_of_asNumber {json : Json} {path : String} {failure : Failure}
    (h : json.asNumber path = .error failure) : failure = json.mismatch path .number := by
  unfold asNumber at h
  split at h <;> cases h
  rfl

theorem failure_of_asBool {json : Json} {path : String} {failure : Failure}
    (h : json.asBool path = .error failure) : failure = json.mismatch path .boolean := by
  unfold asBool at h
  split at h <;> cases h
  rfl

end Json

theorem Comparison.ofEvaluation_of_evalField {comparison : Comparison} {comparator : Comparator}
    {name : String} {item : Json} {failure : Failure}
    (h : comparison.evalField comparator name item = .error failure) : failure.OfEvaluation := by
  rw [evalField, bind_eq_error_iff] at h
  rcases h with hmember | ⟨value, -, h⟩
  · rcases Json.failure_of_member hmember with rfl | ⟨actual, rfl⟩
    · exact .notFound name
    · exact .typeMismatch name .object actual
  · split at h
    · rcases bind_eq_error_iff.mp h with hstring | ⟨_, _, h⟩
      · rw [Json.failure_of_asString hstring]
        exact .typeMismatch name .string value.typeName
      · cases h
    · rcases bind_eq_error_iff.mp h with hnumber | ⟨_, _, h⟩
      · rw [Json.failure_of_asNumber hnumber]
        exact .typeMismatch name .number value.typeName
      · cases h
    · cases h
      exact .invalidFilter comparison.print .missingRight

theorem Comparison.ofEvaluation_of_eval {comparison : Comparison} {index : Nat} {item : Json}
    {failure : Failure} (h : comparison.eval index item = .error failure) : failure.OfEvaluation := by
  unfold eval at h
  split at h
  · cases h
  · cases h
    exact .invalidFilter comparison.print .textAsIndex
  · cases h
    exact .invalidFilter comparison.print .integerOnLeft
  · exact ofEvaluation_of_evalField h

/-- `failure` is what the comparison fails with on some item, at some index. -/
def Comparison.Fails (comparison : Comparison) (failure : Failure) : Prop :=
  ∃ index item, comparison.eval index item = .error failure

namespace Filter

/-- The comparisons of a filter from left to right, whatever connects them. -/
def comparisons (filter : Filter) : List Comparison :=
  match filter with
  | .comparison c => [c]
  | .logical _ left right => left.comparisons ++ right.comparisons

theorem fails_of_eval {filter : Filter} {index : Nat} {item : Json} {failure : Failure}
    (h : filter.eval index item = .error failure) :
    ∃ comparison ∈ filter.comparisons, comparison.Fails failure := by
  induction filter with
  | comparison c => exact ⟨c, List.mem_singleton_self c, index, item, h⟩
  | logical connective left right ihLeft ihRight =>
    rw [eval, bind_eq_error_iff] at h
    rcases h with hleft | ⟨leftHolds, -, h⟩
    · rcases ihLeft hleft with ⟨c, hc, hfails⟩
      exact ⟨c, List.mem_append_left _ hc, hfails⟩
    · rcases bind_eq_error_iff.mp h with hright | ⟨_, _, h⟩
      · rcases ihRight hright with ⟨c, hc, hfails⟩
        exact ⟨c, List.mem_append_right _ hc, hfails⟩
      · cases h

theorem fails_of_survivors {filter : Filter} {index : Nat} {items : List Json} {failure : Failure}
    (h : filter.survivors index items = .error failure) :
    ∃ comparison ∈ filter.comparisons, comparison.Fails failure := by
  induction items generalizing index with
  | nil => cases h
  | cons item rest ih =>
    rw [survivors, bind_eq_error_iff] at h
    rcases h with heval | ⟨keep, -, h⟩
    · exact fails_of_eval heval
    · rcases bind_eq_error_iff.mp h with hrest | ⟨_, _, h⟩
      · exact ih hrest
      · cases h

end Filter

namespace Path

variable {path : Path} {root : Json} {failure : Failure}

/-- Keys blame some prefix of the path, either for a missing member or for being no object. -/
theorem failure_of_resolve {optional : Bool} (h : path.resolve optional root = .error failure) :
    ∃ above : Path, failure = above.missing optional
      ∨ ∃ actual, failure = .typeMismatch above.dotted .object actual := by
  induction path with
  | first step => exact ⟨_, Json.failure_of_member h⟩
  | child parent step ih =>
    rw [resolve, bind_eq_error_iff] at h
    rcases h with hparent | ⟨value, -, h⟩
    · exact ih hparent
    · exact ⟨_, Json.failure_of_member h⟩

theorem isOptionalMissing_missing (above : Path) (optional : Bool) :
    (above.missing optional).isOptionalMissing = optional := by
  cases optional <;> rfl

theorem ofEvaluation_of_resolve {optional : Bool} (h : path.resolve optional root = .error failure) :
    failure.OfEvaluation ∨ optional = true ∧ ∃ missing, failure = .optionalMissing missing := by
  rcases failure_of_resolve h with ⟨above, rfl | ⟨actual, rfl⟩⟩
  · cases optional with
    | true => exact .inr ⟨rfl, above.dotted, rfl⟩
    | false => exact .inl (.notFound above.dotted)
  · exact .inl (.typeMismatch above.dotted .object actual)

theorem fails_of_applyFilters {filters : List Filter} {items : List Json}
    (h : applyFilters filters items = .error failure) :
    ∃ filter ∈ filters, ∃ comparison ∈ filter.comparisons, comparison.Fails failure := by
  rcases foldlM_eq_error h with ⟨before, filter, behind, left, rfl, -, hfilter⟩
  refine ⟨filter, ?_, Filter.fails_of_survivors hfilter⟩
  exact List.mem_append_right before List.mem_cons_self

/-- There are two places that the failure of a path comes from: its keys and a comparison in a filter. -/
theorem fails_of_eval (h : path.eval root = .error failure) :
    path.resolve path.isOptional root = .error failure
      ∨ ∃ filter ∈ path.filters, ∃ comparison ∈ filter.comparisons, comparison.Fails failure := by
  rw [eval, bind_eq_error_iff] at h
  rcases h with hresolve | ⟨value, -, h⟩
  · exact .inl hresolve
  · split at h
    · cases h
    · rcases bind_eq_error_iff.mp h with hfilters | ⟨_, _, h⟩
      · exact .inr (fails_of_applyFilters hfilters)
      · cases h

theorem ofEvaluation_of_eval (h : path.eval root = .error failure) :
    failure.OfEvaluation ∨ path.isOptional = true ∧ ∃ missing, failure = .optionalMissing missing := by
  rcases fails_of_eval h with hresolve | ⟨_, _, comparison, _, _, _, hfails⟩
  · exact ofEvaluation_of_resolve hresolve
  · exact .inl (comparison.ofEvaluation_of_eval hfails)

theorem isOptional_of_evalOne (h : path.evalOne root = .error failure)
    (hmissing : failure.isOptionalMissing = true) : path.isOptional = true := by
  rw [evalOne, bind_eq_error_iff] at h
  rcases h with heval | ⟨found, -, h⟩
  · rcases ofEvaluation_of_eval heval with hfailure | ⟨hoptional, -⟩
    · rw [hfailure.isOptionalMissing] at hmissing
      cases hmissing
    · exact hoptional
  · split at h
    · cases h
    · cases h
    · cases hoptional : path.isOptional with
      | true => rfl
      | false =>
        rw [hoptional] at h
        cases h
        cases hmissing
    · cases h
      cases hmissing

end Path

end DotPath
