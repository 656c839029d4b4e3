import DotPath.Proofs.Lookup.Scalar
import DotPath.Proofs.Path.FilterFault
import DotPath.Proofs.Record.Target

/-!
This module contains which failures a pipeline reports. That an optional value is missing is a signal
inside the library: selection passes over such a value and extraction leaves the field alone, so nobody
who runs queries or fills records sees it. What stops a run of queries is a malformed text, a missing key,
a value of a wrong type, or a word where a filter needs a position.
-/

namespace DotPath

/-- The failures that can stop a run of queries. -/
inductive Failure.StopsRun : Failure → Prop where
  | malformed (fault : SyntaxFault) (offset : Nat) (consumed remaining : String) :
    StopsRun (.malformed fault offset consumed remaining)
  | notFound (path : String) : StopsRun (.notFound path)
  | typeMismatch (path : String) (expected actual : TypeName) :
    StopsRun (.typeMismatch path expected actual)
  | invalidFilter (filter : String) : StopsRun (.invalidFilter filter .textAsIndex)

theorem Failure.StopsRun.isOptionalMissing {failure : Failure} (h : failure.StopsRun) :
    failure.isOptionalMissing = false := by
  cases h <;> rfl

theorem stopsRun_of_failsFirst {values : List Json} {query : String} {failure : Failure}
    (h : FailsFirst values query failure) : failure.StopsRun := by
  rcases h with hparse | ⟨path, _, value, _, hparse, _, _, heval, hmissing⟩
  · rcases (Path.blames_of_parse hparse).eq_malformed with ⟨fault, offset, consumed, remaining, rfl⟩
    exact .malformed fault offset consumed remaining
  · rcases Path.ofEvaluation_of_eval heval with hfailure | ⟨_, missing, rfl⟩
    · cases hfailure with
      | notFound path => exact .notFound path
      | typeMismatch path expected actual => exact .typeMismatch path expected actual
      | invalidFilter filter fault =>
        rw [(Path.position_of_eval hparse heval).1]
        exact .invalidFilter filter
    · cases hmissing

theorem stopsRun_of_state {root : Json} {queries : List String} {failure : Failure}
    (h : ((Pipeline.ofRoot root).selectAll queries).state = .error failure) : failure.StopsRun := by
  rw [Pipeline.state_run, map_eq_error_iff] at h
  rcases foldlM_eq_error h with ⟨_, _, _, _, _, _, hquery⟩
  exact stopsRun_of_failsFirst (failsFirst_of_stage hquery)

/-- The update never fails for the absence of an optional value. -/
def Update.HidesAbsence {T : Type} (update : Update T) : Prop :=
  ∀ target failure left, update target = .error failure left → failure.isOptionalMissing = false

theorem Field.isOptionalMissing_of_resolve {field : Field} {value : Json} {failure : Failure}
    (h : field.resolve value = .error failure) : failure.isOptionalMissing = false := by
  unfold resolve at h
  split at h
  · next kind _ =>
    cases hparse : Path.parse field.path with
    | error other =>
      rw [Json.lookupScalar?, hparse] at h
      cases h
      exact (Path.blames_of_parse hparse).isOptionalMissing
    | ok path =>
      rw [Json.lookupScalar?_of_parse hparse] at h
      split at h
      · next other _ =>
        cases hmissing : other.isOptionalMissing with
        | true =>
          rw [hmissing] at h
          cases h
        | false =>
          rw [hmissing] at h
          cases h
          exact hmissing
      · next found _ =>
        split at h
        · cases h
        · rcases Json.failure_of_asScalar (map_eq_error_iff.mp h) with ⟨expected, rfl⟩
          rfl
  · cases h
    rfl

namespace Record

variable {R : Type} [Record R]

theorem hidesAbsence_populate (hset : ∀ name scalar, (set name scalar : Update R).HidesAbsence)
    (value : Json) : (populate value : Update R).HidesAbsence := by
  intro record failure left h
  rcases populate_eq_error_iff.mp h with ⟨⟨_, _, _, _, _, hresolve⟩, _⟩ | ⟨_, _, hbreaks⟩
  · exact Field.isOptionalMissing_of_resolve hresolve
  · rcases hbreaks with ⟨_, name, scalar, _, reached, _, _, hfailure⟩
    exact hset name scalar reached failure left hfailure

theorem isOptionalMissing_of_build (hset : ∀ name scalar, (set name scalar : Update R).HidesAbsence)
    {value : Json} {failure : Failure} (h : (build value : Except Failure R) = .error failure) :
    failure.isOptionalMissing = false := by
  rcases build_eq_error_iff.mp h with ⟨left, h⟩
  rw [extractAlone_eq] at h
  exact hidesAbsence_populate hset value initial failure left h

theorem isOptionalMissing_of_mapM_build
    (hset : ∀ name scalar, (set name scalar : Update R).HidesAbsence) {values : List Json}
    {failure : Failure} (h : values.mapM (build (R := R)) = .error failure) :
    failure.isOptionalMissing = false := by
  rcases mapM_eq_error h with ⟨_, _, _, _, _, hbuild⟩
  exact isOptionalMissing_of_build hset hbuild

theorem hidesAbsence_set_boxed (hset : ∀ name scalar, (set name scalar : Update R).HidesAbsence)
    (name : String) (scalar : Scalar) : (set name scalar : Update (Boxed R)).HidesAbsence := by
  rintro ⟨record⟩ failure left h
  rw [set_boxed] at h
  cases hrecord : set name scalar record with
  | ok _ _ =>
    rw [hrecord] at h
    cases h
  | error other _ =>
    rw [hrecord] at h
    cases h
    exact hset name scalar record failure _ hrecord

end Record

theorem Row.hidesAbsence_set (schema : Schema) (name : String) (scalar : Scalar) :
    (Record.set name scalar : Update (Row schema)).HidesAbsence := by
  intro row failure left h
  change Row.set name scalar row = .error failure left at h
  unfold Row.set at h
  split at h
  · cases h
    rfl
  · split at h
    · cases h
      rfl
    · split at h
      · cases h
      · next hconvert =>
        cases h
        unfold Scalar.convert at hconvert
        split at hconvert <;> cases hconvert
        rfl

namespace Pipeline

variable {R : Type} [Record R] {pipeline : Pipeline}

section Extraction

variable (hset : ∀ name scalar, (Record.set name scalar : Update R).HidesAbsence)
  (hstate : ∀ failure, pipeline.state = .error failure → failure.isOptionalMissing = false)

include hset hstate

theorem hidesAbsence_extract_record : (pipeline.extract : Update R).HidesAbsence := by
  intro record failure left h
  rcases (extract_eq_error_iff pipeline record left failure).mp h with ⟨hrefuses, _⟩ | hbreaks
  · cases hrefuses with
    | stopped hstopped => exact hstate failure hstopped
    | empty => rfl
    | several => rfl
    | unresolved _ _ hfields =>
      rcases hfields with ⟨_, _, _, _, _, hresolve⟩
      exact Field.isOptionalMissing_of_resolve hresolve
  · rcases hbreaks with ⟨_, _, _, _, _, _, _, name, scalar, _, reached, _, _, hfailure⟩
    exact hset name scalar reached failure left hfailure

theorem hidesAbsence_extract_list : (pipeline.extract : Update (List R)).HidesAbsence := by
  intro records failure left h
  rcases pipeline with ⟨stopped | selection⟩
  · cases h
    exact hstate _ rfl
  · rw [extract_list] at h
    split at h
    · cases h
    · next hbuild =>
      cases h
      exact Record.isOptionalMissing_of_mapM_build hset hbuild

theorem hidesAbsence_extract_slots : (pipeline.extract : Update (Slots R)).HidesAbsence := by
  intro slots failure left h
  rcases pipeline with ⟨stopped | selection⟩
  · cases h
    exact hstate _ rfl
  · by_cases hlength : slots.records.length = selection.values.length
    · rw [extract_slots hlength] at h
      split at h
      · cases h
      · next hbuild =>
        cases h
        exact Record.isOptionalMissing_of_mapM_build hset hbuild
    · rw [extract_slots_of_length_ne hlength] at h
      cases h
      rfl

end Extraction

/--
A run of queries stops for a malformed text, a missing key, a wrong type or an invalid filter, and never for
the absence of an optional value. Extraction from it into rows of any schema, whatever the target, does not
fail for such an absence either. A filter that a text spells is invalid only for a word without a
comparator, and this is the comparison that the failure shows.
-/
theorem failures_of_run (root : Json) (queries : List String) :
    let run := (ofRoot root).selectAll queries
    (∀ failure, run.failure? = some failure → failure.StopsRun)
      ∧ (∀ schema : Schema,
        (run.extract : Update (Row schema)).HidesAbsence
          ∧ (run.extract : Update (List (Row schema))).HidesAbsence
          ∧ (run.extract : Update (List (Boxed (Row schema)))).HidesAbsence
          ∧ (run.extract : Update (Slots (Row schema))).HidesAbsence)
      ∧ ∀ text path value shown fault, Path.parse text = .ok path →
        path.eval value = .error (.invalidFilter shown fault) →
          fault = .textAsIndex ∧ ∃ filter ∈ path.filters, ∃ name,
            ⟨none, .text name, none⟩ ∈ filter.comparisons
              ∧ shown = Comparison.print ⟨none, .text name, none⟩ := by
  intro run
  have hstate : ∀ failure, run.state = .error failure → failure.isOptionalMissing = false := by
    intro failure h
    exact (stopsRun_of_state h).isOptionalMissing
  refine ⟨?_, ?_, ?_⟩
  · intro failure h
    rw [failure?_eq_some_iff, values, map_eq_error_iff] at h
    exact stopsRun_of_state h
  · intro schema
    have hset := Row.hidesAbsence_set schema
    refine ⟨hidesAbsence_extract_record hset hstate, hidesAbsence_extract_list hset hstate, ?_,
      hidesAbsence_extract_slots hset hstate⟩
    exact hidesAbsence_extract_list (Record.hidesAbsence_set_boxed hset) hstate
  · intro text path value shown fault hparse heval
    exact Path.position_of_eval hparse heval

end Pipeline

end DotPath
