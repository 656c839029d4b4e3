import DotPath.Path.Evaluation
import DotPath.Proofs.Json.Position
import DotPath.Proofs.Outcome

/-!
This module contains where the keys of a path lead. If they are resolved, then to the value that stands
at their position. A key is reported missing exactly if the keys before it lead to an object without it,
and that the path is optional decides about nothing but how this is told.
-/

namespace DotPath

/-- The failure as an optional path tells it. -/
def Failure.excused (failure : Failure) : Failure :=
  match failure with
  | .notFound path => .optionalMissing path
  | other => other

namespace Json

/-- The keys lead to an object that the next one is missing in; `missing` is how messages call that key. -/
def Lacks (root : Json) (keys : List String) (missing : String) : Prop :=
  ∃ before key behind members, keys = before ++ key :: behind
    ∧ root.at? (before.map Hop.member) = some (.object members) ∧ Keyed.find? key members = none
    ∧ missing = ".".intercalate (before ++ [key])

/-- The elements of an array. Any other value counts as its own only element. -/
def elements (value : Json) : List Json :=
  match value with
  | .array values => values
  | other => [other]

variable {json root value : Json} {path key : String}

theorem member_eq_ok_iff {missing : Failure} : json.member path key missing = .ok value ↔
    json.child? (.member key) = some value := by
  unfold member child?
  cases json with
  | object members =>
    dsimp only
    cases Keyed.find? key members <;> simp
  | _ => simp

theorem member_eq_notFound {missing : String}
    (h : json.member path key (.notFound path) = .error (.notFound missing)) :
    missing = path ∧ ∃ members, json = .object members ∧ Keyed.find? key members = none := by
  unfold member at h
  split at h
  · next members =>
    split at h
    · cases h
    · next hfind =>
      cases h
      exact ⟨rfl, members, rfl, hfind⟩
  · cases h

theorem member_excused (missing : Failure) : json.member path key missing.excused
    = (json.member path key missing).mapError Failure.excused := by
  unfold member
  split
  · split <;> rfl
  · rfl

theorem Lacks.append {keys : List String} {missing : String} (h : root.Lacks keys missing)
    (others : List String) : root.Lacks (keys ++ others) missing := by
  rcases h with ⟨before, key, behind, members, rfl, hat, hfind, hmissing⟩
  refine ⟨before, key, behind ++ others, members, ?_, hat, hfind, hmissing⟩
  rw [List.append_assoc, List.cons_append]

end Json

namespace Path

theorem items_eq_elements (value : Json) : items value = value.elements := by
  cases value <;> rfl

/-- What filters make of the value that keys have led to. -/
def chosen (filters : List Filter) (value : Json) : Except Failure Matches := do
  if filters.isEmpty then
    return .one value
  else
    return .many (← applyFilters filters (items value))

theorem eval_eq_resolve (path : Path) (root : Json) :
    path.eval root = (path.resolve path.isOptional root).bind (chosen path.filters) := by
  rfl

variable {path : Path} {optional : Bool} {root value : Json} {missing : String}

theorem eval_of_filters_nil (hplain : path.filters = []) :
    path.eval root = (path.resolve path.isOptional root).map .one := by
  rw [eval_eq_resolve, hplain]
  cases path.resolve path.isOptional root <;> rfl

theorem resolve_eq_ok_iff : path.resolve optional root = .ok value ↔
    root.at? (path.keys.map Hop.member) = some value := by
  induction path generalizing value with
  | first step =>
    rw [keys, List.map_singleton, Json.at?_singleton]
    exact Json.member_eq_ok_iff
  | child parent step ih =>
    rw [resolve, bind_eq_ok_iff, keys, List.map_append, List.map_singleton, Json.at?_append,
      Option.bind_eq_some_iff]
    simp only [ih, Json.at?_singleton, Json.member_eq_ok_iff]

theorem lacks_of_resolve (h : path.resolve false root = .error (.notFound missing)) :
    root.Lacks path.keys missing := by
  induction path with
  | first step =>
    rcases Json.member_eq_notFound h with ⟨rfl, members, rfl, hfind⟩
    exact ⟨[], step.key, [], members, rfl, rfl, hfind, rfl⟩
  | child parent step ih =>
    rw [resolve, bind_eq_error_iff] at h
    rcases h with hparent | ⟨value, hparent, hmember⟩
    · exact (ih hparent).append [step.key]
    · rcases Json.member_eq_notFound hmember with ⟨rfl, members, rfl, hfind⟩
      exact ⟨parent.keys, step.key, [], members, rfl, resolve_eq_ok_iff.mp hparent, hfind, rfl⟩

/--
The keys before one of the path lead to a value, and this key leads nowhere from there. Then the path fails
with what this key fails with, told of the keys up to it; what stands behind it does not matter.
-/
theorem resolve_of_child?_eq_none {before behind : List String} {key : String}
    (hkeys : path.keys = before ++ key :: behind)
    (hat : root.at? (before.map Hop.member) = some value)
    (hnone : value.child? (.member key) = none) (optional : Bool) :
    let shown := ".".intercalate (before ++ [key])
    path.resolve optional root
      = value.member shown key (if optional then .optionalMissing shown else .notFound shown) := by
  intro shown
  induction path generalizing behind with
  | first step =>
    cases before with
    | nil =>
      cases hkeys
      cases hat
      rfl
    | cons other before => simp [keys] at hkeys
  | child parent step ih =>
    rcases List.eq_nil_or_concat behind with rfl | ⟨others, last, rfl⟩
    · have hdotted : (child parent step).dotted = shown := by
        rw [dotted, hkeys]
      rcases List.append_inj' hkeys rfl with ⟨rfl, hkey⟩
      cases hkey
      rw [resolve, resolve_eq_ok_iff.mpr hat, missing, hdotted]
      rfl
    · rw [keys, List.concat_eq_append, ← List.cons_append, ← List.append_assoc] at hkeys
      rw [resolve, ih (List.append_inj' hkeys rfl).1]
      cases hmember : value.member shown key
          (if optional then .optionalMissing shown else .notFound shown) with
      | error failure => rfl
      | ok child =>
        rw [Json.member_eq_ok_iff, hnone] at hmember
        cases hmember

theorem resolve_of_lacks (h : root.Lacks path.keys missing) :
    path.resolve false root = .error (.notFound missing) := by
  rcases h with ⟨before, key, behind, members, hkeys, hat, hfind, rfl⟩
  rw [resolve_of_child?_eq_none hkeys hat hfind]
  simp only [Json.member, hfind]
  rfl

/-- Resolving the keys of an optional path differs in nothing but how a missing key is told. -/
theorem resolve_optional (path : Path) (root : Json) :
    path.resolve true root = (path.resolve false root).mapError Failure.excused := by
  induction path with
  | first step => exact Json.member_excused ((first step).missing false)
  | child parent step ih =>
    rw [resolve, resolve, ih]
    cases parent.resolve false root with
    | error failure => rfl
    | ok value => exact Json.member_excused ((child parent step).missing false)

end Path

end DotPath
