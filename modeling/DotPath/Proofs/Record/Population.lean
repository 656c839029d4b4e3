import DotPath.Pipeline
import DotPath.Proofs.Record.Resolution
import DotPath.Record.Schema
import Mathlib.Control.Monad.Basic

/-!
This module contains the logic of how a record is filled from a value: first all fields are resolved,
then what they resolve to is set, one field after the other. As long as fields are resolved nothing of
the record is touched. So only a field that cannot be set leaves a record filled in part, and this is
what a record type has to exclude if extraction is to be all or nothing.
-/

namespace DotPath

namespace Record

variable {R : Type} [Record R] {record left : R} {failure : Failure} {value : Json}

/-- One of `assignments` cannot be made, after those before it have been made. -/
def Breaks (assignments : List (String × Scalar)) (record : R) (failure : Failure) (left : R) : Prop :=
  ∃ before name scalar behind reached, assignments = before ++ (name, scalar) :: behind
    ∧ setAll before record = .ok () reached ∧ set name scalar reached = .error failure left

theorem setAll_eq_error_iff {assignments : List (String × Scalar)} :
    setAll assignments record = .error failure left ↔ Breaks assignments record failure left := by
  constructor
  · intro h
    induction assignments generalizing record with
    | nil => cases h
    | cons assignment rest ih =>
      rcases assignment with ⟨name, scalar⟩
      rw [setAll] at h
      cases hset : set name scalar record with
      | error failure' left' =>
        rw [hset] at h
        cases h
        exact ⟨[], name, scalar, rest, record, rfl, rfl, hset⟩
      | ok _ next =>
        rw [hset] at h
        rcases ih h with ⟨before, name', scalar', behind, reached, rfl, hbefore, hbreak⟩
        refine ⟨(name, scalar) :: before, name', scalar', behind, reached, rfl, ?_, hbreak⟩
        rw [setAll, hset]
        exact hbefore
  · rintro ⟨before, name, scalar, behind, reached, rfl, hbefore, hset⟩
    induction before generalizing record with
    | nil =>
      cases hbefore
      rw [List.nil_append, setAll, hset]
    | cons assignment before ih =>
      rcases assignment with ⟨name', scalar'⟩
      rw [setAll] at hbefore
      rw [List.cons_append, setAll]
      cases hnext : set name' scalar' record with
      | error failure' left' =>
        rw [hnext] at hbefore
        cases hbefore
      | ok _ next =>
        rw [hnext] at hbefore
        exact ih hbefore

theorem resolved_of_populate (h : populate value record = .ok () left) :
    ∀ field ∈ fields R, ∃ found, field.resolve value = .ok found := by
  rw [populate] at h
  cases hresolved : Field.resolveAll (fields R) value with
  | ok assignments => exact (Field.resolveAll_eq_ok_iff.mp hresolved).1
  | error failure =>
    rw [hresolved] at h
    cases h

theorem populate_eq_error_iff :
    populate value record = .error failure left ↔
      (FirstError (Field.resolve · value) (fields R) failure ∧ left = record)
        ∨ ∃ assignments, Field.resolveAll (fields R) value = .ok assignments
            ∧ Breaks assignments record failure left := by
  rw [← Field.resolveAll_eq_error_iff, populate]
  cases Field.resolveAll (fields R) value with
  | error other =>
    constructor
    · rintro ⟨⟩
      exact .inl ⟨rfl, rfl⟩
    · rintro (⟨⟨⟩, rfl⟩ | ⟨_, ⟨⟩, _⟩)
      rfl
  | ok assignments =>
    constructor
    · intro h
      exact .inr ⟨assignments, rfl, setAll_eq_error_iff.mp h⟩
    · rintro (⟨⟨⟩, _⟩ | ⟨_, ⟨⟩, h⟩)
      exact setAll_eq_error_iff.mpr h

end Record

namespace Pipeline

variable {R : Type} [Record R] {pipeline : Pipeline} {selection : Selection}

/-- Extraction into a single record is refused before anything of the record is set. -/
inductive Refuses (R : Type) [Record R] (pipeline : Pipeline) : Failure → Prop where
  | stopped {failure : Failure} (hstate : pipeline.state = .error failure) :
    Refuses R pipeline failure
  | empty {selection : Selection} (hstate : pipeline.state = .ok selection)
      (hvalues : selection.values = []) : Refuses R pipeline .emptySelection
  | several {selection : Selection} (hstate : pipeline.state = .ok selection)
      (hvalues : 2 ≤ selection.values.length) :
    Refuses R pipeline (.multipleResults selection.describe selection.values.length)
  | unresolved {selection : Selection} {value : Json} {failure : Failure}
      (hstate : pipeline.state = .ok selection) (hvalues : selection.values = [value])
      (hfields : FirstError (Field.resolve · value) (Record.fields R) failure) : Refuses R pipeline failure

/-- Extraction into a single record breaks off: every field is resolved, and one cannot be set. -/
def BreaksOff (pipeline : Pipeline) (record : R) (failure : Failure) (left : R) : Prop :=
  ∃ selection value assignments, pipeline.state = .ok selection ∧ selection.values = [value]
    ∧ Field.resolveAll (Record.fields R) value = .ok assignments
    ∧ Record.Breaks assignments record failure left

theorem extract_of_state_ok {T : Type} [Target T] (hstate : pipeline.state = .ok selection)
    (target : T) : pipeline.extract target = Target.fill selection target := by
  rw [extract, hstate]

theorem fill_of_values_eq_nil (hvalues : selection.values = []) (record : R) :
    Target.fill selection record = .error .emptySelection record := by
  simp only [Target.fill, hvalues]

theorem fill_of_values_eq_singleton {value : Json} (hvalues : selection.values = [value])
    (record : R) : Target.fill selection record = Record.populate value record := by
  simp only [Target.fill, hvalues]

theorem fill_of_two_le_length (hvalues : 2 ≤ selection.values.length) (record : R) :
    Target.fill selection record
      = .error (.multipleResults selection.describe selection.values.length) record := by
  simp only [Target.fill]
  split
  · next h => simp [h] at hvalues
  · next h => simp [h] at hvalues
  · rfl

/--
Extraction into a single record fails in two ways. Either it is refused and the record is as before,
or it breaks off after every field has been resolved, and then the record keeps what was set.
-/
theorem extract_eq_error_iff (pipeline : Pipeline) (record left : R) (failure : Failure) :
    pipeline.extract record = .error failure left ↔
      (pipeline.Refuses R failure ∧ left = record) ∨ pipeline.BreaksOff record failure left := by
  constructor
  · intro h
    cases hstate : pipeline.state with
    | error latched =>
      rw [extract, hstate] at h
      cases h
      exact .inl ⟨.stopped hstate, rfl⟩
    | ok selection =>
      rw [extract_of_state_ok hstate] at h
      cases hvalues : selection.values with
      | nil =>
        rw [fill_of_values_eq_nil hvalues] at h
        cases h
        exact .inl ⟨.empty hstate hvalues, rfl⟩
      | cons value rest =>
        cases rest with
        | nil =>
          rw [fill_of_values_eq_singleton hvalues, Record.populate_eq_error_iff] at h
          rcases h with ⟨hfields, hleft⟩ | ⟨assignments, hresolved, hbreaks⟩
          · exact .inl ⟨.unresolved hstate hvalues hfields, hleft⟩
          · exact .inr ⟨selection, value, assignments, hstate, hvalues, hresolved, hbreaks⟩
        | cons second rest =>
          have hlength : 2 ≤ selection.values.length := by simp [hvalues]
          rw [fill_of_two_le_length hlength] at h
          cases h
          exact .inl ⟨.several hstate hlength, rfl⟩
  · rintro (⟨hrefuses, rfl⟩ | ⟨selection, value, assignments, hstate, hvalues, hresolved, hbreaks⟩)
    · cases hrefuses with
      | stopped hstate => rw [extract, hstate]
      | empty hstate hvalues => rw [extract_of_state_ok hstate, fill_of_values_eq_nil hvalues]
      | several hstate hvalues => rw [extract_of_state_ok hstate, fill_of_two_le_length hvalues]
      | unresolved hstate hvalues hfields =>
        rw [extract_of_state_ok hstate, fill_of_values_eq_singleton hvalues,
          Record.populate_eq_error_iff]
        exact .inl ⟨hfields, rfl⟩
    · rw [extract_of_state_ok hstate, fill_of_values_eq_singleton hvalues,
        Record.populate_eq_error_iff]
      exact .inr ⟨_, hresolved, hbreaks⟩

/-- The second field cannot be set, so extraction fails; the first field has got its new value before. -/
theorem extract_breaks_off_with_first_field_set :
    let schema := Schema.mk
      [.bound "a" "a" (.string ""), ⟨"b", .scalar (.string ""), some ⟨"b", .scalar .string, false⟩⟩]
    let root := Json.object [("a", .string "x"), ("b", .string "y")]
    let record : Row schema := Record.initial
    let left : Row schema := ⟨[("a", .scalar (.string "x")), ("b", .scalar (.string ""))]⟩
    (ofRoot root).extract record = .error (.unknownField "b") left ∧ left ≠ record := by
  intro schema root record left
  constructor
  · have hresolved : Field.resolveAll (Record.fields (Row schema)) root
        = .ok [("a", .string "x"), ("b", .string "y")] := by
      decide +kernel
    have hpopulate : Record.populate root record = .error (.unknownField "b") left := by
      rw [Record.populate, hresolved]
      rfl
    exact hpopulate
  · intro heq
    have hcell : some (Cell.scalar (.string "x")) = some (.scalar (.string "")) :=
      congrArg (fun row : Row schema => row.cell? "a") heq
    simp at hcell

end Pipeline

end DotPath
