import DotPath.Proofs.Record.Population

/-!
This module contains the targets that take many records: a list that grows, a list of boxed records, and
a fixed number of slots. They all take the records that extraction from each value alone makes, or fail
with the first value that makes none. No record that is already there is touched before all are made.
-/

namespace DotPath

variable {R : Type} [Record R]

/-- An outcome for a record, as one for the box around the record. -/
def Boxed.outcome (result : EStateM.Result Failure R Unit) :
    EStateM.Result Failure (Boxed R) Unit :=
  match result with
  | .ok _ record => .ok () ⟨record⟩
  | .error failure record => .error failure ⟨record⟩

namespace Record

theorem set_boxed (name : String) (scalar : Scalar) (record : R) :
    set name scalar (Boxed.mk record) = Boxed.outcome (set name scalar record) := by
  rfl

theorem setAll_boxed (assignments : List (String × Scalar)) (record : R) :
    setAll assignments (Boxed.mk record) = Boxed.outcome (setAll assignments record) := by
  induction assignments generalizing record with
  | nil => rfl
  | cons assignment rest ih =>
    rcases assignment with ⟨name, scalar⟩
    rw [setAll, setAll, set_boxed]
    cases set name scalar record with
    | ok _ next => exact ih next
    | error failure left => rfl

theorem populate_boxed (value : Json) (record : R) :
    populate value (Boxed.mk record) = Boxed.outcome (populate value record) := by
  have hfields : fields (Boxed R) = fields R := rfl
  rw [populate, populate, hfields]
  cases Field.resolveAll (fields R) value with
  | ok assignments => exact setAll_boxed assignments record
  | error failure => rfl

theorem build_boxed (value : Json) :
    (build value : Except Failure (Boxed R)) = (build value).map Boxed.mk := by
  have hinitial : (initial : Boxed R) = ⟨initial⟩ := rfl
  rw [build, build, hinitial, populate_boxed]
  cases populate value (initial : R) <;> rfl

theorem mapM_build_boxed (values : List Json) :
    values.mapM (build (R := Boxed R)) = (values.mapM build).map (List.map Boxed.mk) := by
  induction values with
  | nil => rfl
  | cons value rest ih =>
    rw [List.mapM_cons, List.mapM_cons, build_boxed, ih]
    cases (build value : Except Failure R) with
    | error failure => rfl
    | ok record => cases rest.mapM (build (R := R)) <;> rfl

/-- What comes of extraction from `value` alone into an initial record. -/
def extractAlone (R : Type) [Record R] (value : Json) : EStateM.Result Failure R Unit :=
  (Pipeline.ofRoot value).extract (initial : R)

theorem extractAlone_eq (value : Json) :
    extractAlone R value = populate value (initial : R) := by
  exact Pipeline.fill_of_values_eq_singleton rfl initial

theorem build_eq_ok_iff {value : Json} {record : R} :
    build value = .ok record ↔ extractAlone R value = .ok () record := by
  rw [extractAlone_eq, build]
  cases populate value (initial : R) <;> simp

theorem build_eq_error_iff {value : Json} {failure : Failure} :
    (build value : Except Failure R) = .error failure
      ↔ ∃ left, extractAlone R value = .error failure left := by
  rw [extractAlone_eq, build]
  cases populate value (initial : R) <;> simp

end Record

namespace Pipeline

variable {selection : Selection}

theorem extract_list (selection : Selection) (records : List R) :
    (Pipeline.mk (.ok selection)).extract records =
      match selection.values.mapM Record.build with
      | .ok built => .ok () (records ++ built)
      | .error failure => .error failure records := by
  rfl

theorem extract_boxes (selection : Selection) (boxes : List (Boxed R)) :
    (Pipeline.mk (.ok selection)).extract boxes =
      match selection.values.mapM (Record.build (R := R)) with
      | .ok built => .ok () (boxes ++ built.map Boxed.mk)
      | .error failure => .error failure boxes := by
  rw [extract_list, Record.mapM_build_boxed]
  cases selection.values.mapM (Record.build (R := R)) <;> rfl

theorem extract_slots {slots : Slots R} (h : slots.records.length = selection.values.length) :
    (Pipeline.mk (.ok selection)).extract slots =
      match selection.values.mapM Record.build with
      | .ok built => .ok () ⟨built⟩
      | .error failure => .error failure slots := by
  exact if_pos h

theorem extract_slots_of_length_ne {slots : Slots R}
    (h : slots.records.length ≠ selection.values.length) :
    (Pipeline.mk (.ok selection)).extract slots =
      .error (.invalidTarget slots.records.length selection.values.length) slots := by
  exact if_neg h

/--
All targets of many records succeed if extraction from each value alone does, and then take the records
that it makes, in order. Otherwise they fail with the first value that it fails for, as they were.
-/
theorem extract_all_or_none (selection : Selection) (records : List R) (boxes : List (Boxed R))
    (slots : Slots R) :
    let pipeline := Pipeline.mk (.ok selection)
    let fits := slots.records.length = selection.values.length
    let Succeeds := fun value => ∃ record, Record.extractAlone R value = .ok () record
    let AllSucceed := ∀ value ∈ selection.values, Succeeds value
    ((∃ filled, pipeline.extract records = .ok () filled) ↔ AllSucceed)
      ∧ ((∃ filled, pipeline.extract boxes = .ok () filled) ↔ AllSucceed)
      ∧ (fits → ((∃ filled, pipeline.extract slots = .ok () filled) ↔ AllSucceed))
      ∧ (∀ built, List.Forall₂ (fun value record => Record.extractAlone R value = .ok () record)
          selection.values built →
        pipeline.extract records = .ok () (records ++ built)
          ∧ pipeline.extract boxes = .ok () (boxes ++ built.map Boxed.mk)
          ∧ (fits → pipeline.extract slots = .ok () ⟨built⟩))
      ∧ (∀ before value behind failure left, selection.values = before ++ value :: behind →
        (∀ earlier ∈ before, Succeeds earlier) →
        Record.extractAlone R value = .error failure left →
        pipeline.extract records = .error failure records
          ∧ pipeline.extract boxes = .error failure boxes
          ∧ (fits → pipeline.extract slots = .error failure slots))
      ∧ (¬ fits → pipeline.extract slots
          = .error (.invalidTarget slots.records.length selection.values.length) slots)
      ∧ (selection.values = [] → pipeline.extract records = .ok () records) := by
  intro pipeline fits Succeeds AllSucceed
  have hall : AllSucceed ↔ ∃ built, selection.values.mapM (Record.build (R := R)) = .ok built := by
    rw [exists_mapM_eq_ok_iff]
    simp only [AllSucceed, Succeeds, Record.build_eq_ok_iff]
  have hlist := extract_list selection records
  have hboxes := extract_boxes selection boxes
  have hslots : fits → _ := extract_slots
  refine ⟨?_, ?_, ?_, ?_, ?_, ?_, ?_⟩
  · rw [hall, hlist]
    cases selection.values.mapM (Record.build (R := R)) <;> simp
  · rw [hall, hboxes]
    cases selection.values.mapM (Record.build (R := R)) <;> simp
  · intro hfits
    rw [hall, hslots hfits]
    cases selection.values.mapM (Record.build (R := R)) <;> simp
  · intro built hbuilt
    have hmap : selection.values.mapM (Record.build (R := R)) = .ok built := by
      rw [mapM_eq_ok_iff]
      exact hbuilt.imp fun _ _ h => Record.build_eq_ok_iff.mpr h
    rw [hlist, hboxes, hmap]
    refine ⟨rfl, rfl, ?_⟩
    intro hfits
    rw [hslots hfits, hmap]
  · intro before value behind failure left hvalues hbefore hvalue
    have hmap : selection.values.mapM (Record.build (R := R)) = .error failure := by
      rw [mapM_eq_error_iff]
      refine ⟨before, value, behind, hvalues, ?_, Record.build_eq_error_iff.mpr ⟨left, hvalue⟩⟩
      intro earlier hearlier
      rcases hbefore earlier hearlier with ⟨record, hrecord⟩
      exact ⟨record, Record.build_eq_ok_iff.mpr hrecord⟩
    rw [hlist, hboxes, hmap]
    refine ⟨rfl, rfl, ?_⟩
    intro hfits
    rw [hslots hfits, hmap]
  · exact extract_slots_of_length_ne
  · intro hvalues
    rw [hlist, hvalues, List.mapM_nil]
    exact congrArg _ (List.append_nil records)

end Pipeline

end DotPath
