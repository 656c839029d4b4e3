import DotPath.Proofs.Binary64.Rounding
import DotPath.Proofs.Lookup.Ending
import DotPath.Proofs.Record.Resolution

/-!
This module contains the typed lookups as one lookup with a parameter for the kind of scalar, and how the
fields of records are read: a field is absent where its path leads nowhere or to nothing that it could
hold, and otherwise it is read as the typed lookup of its kind reads it, failures included.
-/

namespace DotPath

namespace Json

def lookupScalar (root : Json) (query : String) (kind : ScalarKind) : Except Failure Scalar :=
  match kind with
  | .string => (root.lookupString query).map .string
  | .number => (root.lookupBinary64 query).map .number
  | .integer => (root.lookupInt64 query).map .integer
  | .boolean => (root.lookupBool query).map .boolean

variable {root found : Json} {query : String} {failure : Failure}

theorem lookupScalar_of_lookupOne_ok (h : root.lookupOne query = .ok found) (kind : ScalarKind) :
    root.lookupScalar query kind = found.asScalar kind query := by
  cases kind with
  | string => rw [lookupScalar, lookupString, h, asScalar]
  | number =>
    rw [lookupScalar, lookupBinary64, h, asScalar]
    rfl
  | integer =>
    rw [lookupScalar, lookupInt64, h, asScalar]
    rfl
  | boolean =>
    rw [lookupScalar, lookupBool, h, asScalar]
    rfl

theorem lookupScalar_of_lookupOne_error (h : root.lookupOne query = .error failure)
    (hmissing : failure.isOptionalMissing = false) (kind : ScalarKind) :
    root.lookupScalar query kind = .error failure := by
  cases kind with
  | string =>
    rw [lookupScalar, lookupString, h]
    cases failure with
    | optionalMissing => cases hmissing
    | _ => rfl
  | number =>
    rw [lookupScalar, lookupBinary64, h]
    rfl
  | integer =>
    rw [lookupScalar, lookupInt64, h]
    rfl
  | boolean =>
    rw [lookupScalar, lookupBool, h]
    rfl

theorem failure_of_asScalar {kind : ScalarKind} {path : String}
    (h : found.asScalar kind path = .error failure) :
    ∃ expected, failure = found.mismatch path expected := by
  cases kind with
  | string => exact ⟨_, failure_of_asString (map_eq_error_iff.mp h)⟩
  | number => exact ⟨_, failure_of_asNumber (map_eq_error_iff.mp (map_eq_error_iff.mp h))⟩
  | integer => exact ⟨_, failure_of_asNumber (map_eq_error_iff.mp (map_eq_error_iff.mp h))⟩
  | boolean => exact ⟨_, failure_of_asBool (map_eq_error_iff.mp h)⟩

end Json

namespace Field

/-- There is nothing to read by a lookup: an optional value is missing, or `null` and not read as a string. -/
def Unread (value : Json) (query : String) (kind : ScalarKind) : Prop :=
  (∃ missing, value.lookupOne query = .error (.optionalMissing missing))
    ∨ kind ≠ .string ∧ (∃ path, Path.parse query = .ok path ∧ path.isOptional = true)
        ∧ value.lookupOne query = .ok .null

variable {value : Json} {query : String} {kind : ScalarKind}

theorem lookupScalar?_eq_none_iff_unread :
    value.lookupScalar? query kind = .ok none ↔ Unread value query kind := by
  rw [Json.lookupScalar?_eq_ok_none_iff]
  constructor
  · rintro ⟨path, hparse, hoptional, ⟨missing, hone⟩ | ⟨hkind, hone⟩⟩
    · rw [← Json.lookupOne_of_parse hparse] at hone
      exact .inl ⟨missing, hone⟩
    · rw [← Json.lookupOne_of_parse hparse] at hone
      exact .inr ⟨hkind, ⟨path, hparse, hoptional⟩, hone⟩
  · rintro (⟨missing, hone⟩ | ⟨hkind, ⟨path, hparse, hoptional⟩, hone⟩)
    · cases hparse : Path.parse query with
      | error failure =>
        -- A malformed text is never taken for the absence of a value.
        rw [Json.lookupOne_of_parse_error hparse] at hone
        cases hone
        cases (Path.blames_of_parse hparse).isOptionalMissing
      | ok path =>
        rw [Json.lookupOne_of_parse hparse] at hone
        exact ⟨path, rfl, Path.isOptional_of_evalOne hone rfl, .inl ⟨missing, hone⟩⟩
    · rw [Json.lookupOne_of_parse hparse] at hone
      exact ⟨path, hparse, hoptional, .inr ⟨hkind, hone⟩⟩

theorem lookupScalar?_of_not_unread (h : ¬ Unread value query kind) :
    value.lookupScalar? query kind = (value.lookupScalar query kind).map some := by
  cases hparse : Path.parse query with
  | error failure =>
    have hone := Json.lookupOne_of_parse_error hparse value
    have hmissing := (Path.blames_of_parse hparse).isOptionalMissing
    rw [Json.lookupScalar_of_lookupOne_error hone hmissing, Json.lookupScalar?, hparse]
    rfl
  | ok path =>
    rw [Json.lookupScalar?_of_parse hparse, ← Json.lookupOne_of_parse hparse]
    split
    · next failure hone =>
      split
      · next hmissing =>
        rcases failure.isOptionalMissing_iff.mp hmissing with ⟨missing, rfl⟩
        exact absurd (.inl ⟨missing, hone⟩) h
      · next hmissing =>
        rw [Bool.not_eq_true] at hmissing
        rw [Json.lookupScalar_of_lookupOne_error hone hmissing]
        rfl
    · next found hone =>
      split
      · next hnull =>
        simp only [Bool.and_eq_true, Json.isNull_iff, bne_iff_ne] at hnull
        rcases hnull with ⟨⟨rfl, hoptional⟩, hkind⟩
        exact absurd (.inr ⟨hkind, ⟨path, hparse, hoptional⟩, hone⟩) h
      · rw [Json.lookupScalar_of_lookupOne_ok hone]

/--
A field is read as the typed lookup of its kind reads its path. It is left out if and only if the lookup
finds an optional value missing, or `null` where an optional path and a kind other than strings allow for
it. In all other cases it is read as what the lookup leads to, or fails with the failure of the lookup.
-/
theorem resolve_iff_lookupScalar (name query : String) (kind : ScalarKind) (value : Json) :
    let resolved := (Field.mk name query (.scalar kind)).resolve value
    let lookup := value.lookupScalar query kind
    (resolved = .ok none ↔ Unread value query kind)
      ∧ (∀ scalar, resolved = .ok (some scalar) ↔ ¬ Unread value query kind ∧ lookup = .ok scalar)
      ∧ ∀ failure, resolved = .error failure ↔ ¬ Unread value query kind ∧ lookup = .error failure := by
  intro resolved lookup
  have hnone : resolved = .ok none ↔ Unread value query kind := lookupScalar?_eq_none_iff_unread
  refine ⟨hnone, ?_⟩
  by_cases h : Unread value query kind
  · rw [hnone.mpr h]
    simp [h]
  · have hresolved : resolved = lookup.map some := lookupScalar?_of_not_unread h
    rw [hresolved]
    cases lookup <;> simp [h, Except.map]

end Field

end DotPath
