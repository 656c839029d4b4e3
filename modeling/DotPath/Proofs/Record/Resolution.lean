import DotPath.Proofs.Path.Failing
import DotPath.Record.Field

/-!
This module contains what the fields of a record resolve to. A field resolves to a scalar of its own
kind, or to nothing if its path is optional and leads nowhere or, strings aside, to `null`. The fields of
a record are resolved one after the other, and the first one that cannot be resolved ends this.
-/

namespace DotPath

namespace Json

theorem isNull_iff (json : Json) : json.isNull = true ↔ json = .null := by
  cases json <;> simp [isNull]

theorem kind_of_asScalar {json : Json} {kind : ScalarKind} {path : String} {scalar : Scalar}
    (h : json.asScalar kind path = .ok scalar) : scalar.kind = kind := by
  cases kind
  all_goals
    rcases map_eq_ok_iff.mp h with ⟨_, _, rfl⟩
    rfl

theorem lookupScalar?_of_parse {root : Json} {query : String} {kind : ScalarKind} {path : Path}
    (hparse : Path.parse query = .ok path) :
    root.lookupScalar? query kind =
      match path.evalOne root with
      | .error failure => if failure.isOptionalMissing then .ok none else .error failure
      | .ok found =>
        if found.isNull && path.isOptional && kind != .string then
          .ok none
        else
          (found.asScalar kind query).map some := by
  unfold lookupScalar?
  rw [hparse]
  cases hone : path.evalOne root with
  | error failure => cases failure <;> simp [bind, Except.bind, hone] <;> rfl
  | ok found =>
    simp only [bind, Except.bind, hone]
    split
    · rfl
    · cases found.asScalar kind query <;> rfl

theorem exists_parse_of_lookupScalar? {root : Json} {query : String} {kind : ScalarKind}
    {scalar? : Option Scalar} (h : root.lookupScalar? query kind = .ok scalar?) :
    ∃ path, Path.parse query = .ok path := by
  rw [lookupScalar?, bind_eq_ok_iff] at h
  rcases h with ⟨path, hparse, -⟩
  exact ⟨path, hparse⟩

theorem lookupScalar?_eq_ok_none_iff {root : Json} {query : String} {kind : ScalarKind} :
    root.lookupScalar? query kind = .ok none ↔
      ∃ path, Path.parse query = .ok path ∧ path.isOptional = true
        ∧ ((∃ missing, path.evalOne root = .error (.optionalMissing missing))
          ∨ (kind ≠ .string ∧ path.evalOne root = .ok .null)) := by
  constructor
  · intro h
    rcases exists_parse_of_lookupScalar? h with ⟨path, hparse⟩
    rw [lookupScalar?_of_parse hparse] at h
    refine ⟨path, hparse, ?_⟩
    split at h
    · next failure hone =>
      split at h
      · next hmissing =>
        refine ⟨Path.isOptional_of_evalOne hone hmissing, .inl ?_⟩
        rcases failure.isOptionalMissing_iff.mp hmissing with ⟨missing, rfl⟩
        exact ⟨missing, hone⟩
      · cases h
    · next found hone =>
      split at h
      · next hnull =>
        simp only [Bool.and_eq_true, isNull_iff, bne_iff_ne] at hnull
        rcases hnull with ⟨⟨rfl, hoptional⟩, hkind⟩
        exact ⟨hoptional, .inr ⟨hkind, hone⟩⟩
      · rcases map_eq_ok_iff.mp h with ⟨_, _, hsome⟩
        cases hsome
  · rintro ⟨path, hparse, hoptional, ⟨missing, hone⟩ | ⟨hkind, hone⟩⟩
    · rw [lookupScalar?_of_parse hparse, hone]
      rfl
    · rw [lookupScalar?_of_parse hparse, hone]
      simp [isNull, hoptional, hkind]

theorem kind_of_lookupScalar? {root : Json} {query : String} {kind : ScalarKind} {scalar : Scalar}
    (h : root.lookupScalar? query kind = .ok (some scalar)) : scalar.kind = kind := by
  rcases exists_parse_of_lookupScalar? h with ⟨path, hparse⟩
  rw [lookupScalar?_of_parse hparse] at h
  split at h
  · split at h <;> cases h
  · split at h
    · cases h
    · rcases map_eq_ok_iff.mp h with ⟨_, hscalar, ⟨⟩⟩
      exact kind_of_asScalar hscalar

end Json

namespace Field

/-- Nothing is there for the field: its path is optional and leads nowhere, or to `null` where no string is read. -/
def Absent (field : Field) (value : Json) : Prop :=
  ∃ kind path, field.kind = .scalar kind ∧ Path.parse field.path = .ok path ∧ path.isOptional = true
    ∧ ((∃ missing, path.evalOne value = .error (.optionalMissing missing))
      ∨ (kind ≠ .string ∧ path.evalOne value = .ok .null))

theorem resolve_eq_ok_none_iff (field : Field) (value : Json) :
    field.resolve value = .ok none ↔ field.Absent value := by
  rcases field with ⟨name, path, kind⟩
  cases kind with
  | unsupported type => simp [resolve, Absent]
  | scalar kind => simp [resolve, Absent, Json.lookupScalar?_eq_ok_none_iff]

theorem kind_of_resolve {field : Field} {value : Json} {scalar : Scalar}
    (h : field.resolve value = .ok (some scalar)) : field.kind = .scalar scalar.kind := by
  unfold resolve at h
  split at h
  · next hkind => rw [hkind, Json.kind_of_lookupScalar? h]
  · cases h

/-- What the field sets, if it resolves to anything. -/
def assignment? (field : Field) (value : Json) : Option (String × Scalar) :=
  match field.resolve value with
  | .ok (some scalar) => some (field.name, scalar)
  | _ => none

theorem assignment?_of_resolve_some {field : Field} {value : Json} {scalar : Scalar}
    (h : field.resolve value = .ok (some scalar)) :
    field.assignment? value = some (field.name, scalar) := by
  unfold assignment?
  rw [h]

theorem assignment?_of_resolve_none {field : Field} {value : Json}
    (h : field.resolve value = .ok none) : field.assignment? value = none := by
  unfold assignment?
  rw [h]

theorem resolve_of_assignment? {field : Field} {value : Json} {name : String} {scalar : Scalar}
    (h : field.assignment? value = some (name, scalar)) :
    field.name = name ∧ field.resolve value = .ok (some scalar) := by
  unfold assignment? at h
  split at h
  · next hresolve =>
    cases h
    exact ⟨rfl, hresolve⟩
  · cases h

variable {fields : List Field} {value : Json} {failure : Failure}

theorem resolveAll_eq_ok_iff {assignments : List (String × Scalar)} :
    resolveAll fields value = .ok assignments ↔
      (∀ field ∈ fields, ∃ found, field.resolve value = .ok found)
        ∧ assignments = fields.filterMap (assignment? · value) := by
  induction fields generalizing assignments with
  | nil => simp [resolveAll, eq_comm]
  | cons field rest ih =>
    rw [resolveAll, bind_eq_ok_iff, List.forall_mem_cons]
    constructor
    · rintro ⟨found, hfound, h⟩
      rcases bind_eq_ok_iff.mp h with ⟨others, hothers, h⟩
      rcases ih.mp hothers with ⟨hrest, rfl⟩
      refine ⟨⟨⟨found, hfound⟩, hrest⟩, ?_⟩
      cases found with
      | none =>
        cases h
        simp only [List.filterMap_cons, assignment?_of_resolve_none hfound]
      | some scalar =>
        cases h
        simp only [List.filterMap_cons, assignment?_of_resolve_some hfound]
    · rintro ⟨⟨⟨found, hfound⟩, hrest⟩, rfl⟩
      refine ⟨found, hfound, bind_eq_ok_iff.mpr ⟨_, ih.mpr ⟨hrest, rfl⟩, ?_⟩⟩
      cases found with
      | none =>
        simp only [List.filterMap_cons, assignment?_of_resolve_none hfound]
        rfl
      | some scalar =>
        simp only [List.filterMap_cons, assignment?_of_resolve_some hfound]
        rfl

theorem resolveAll_eq_error_iff :
    resolveAll fields value = .error failure ↔ FirstError (resolve · value) fields failure := by
  rw [← mapM_eq_error_iff]
  induction fields with
  | nil => simp [resolveAll, pure, Except.pure]
  | cons field rest ih =>
    rw [resolveAll, List.mapM_cons]
    cases field.resolve value with
    | error other => simp [bind_eq_error_iff]
    | ok found => cases found <;> simp [bind_eq_error_iff, ih, pure, Except.pure]

end Field

end DotPath
