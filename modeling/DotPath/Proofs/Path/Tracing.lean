import DotPath.Proofs.Path.Joining
import DotPath.Proofs.Path.Resolving
import Mathlib.Order.Bounds.Defs

/-!
This module contains how the keys of a path are followed one after the other. They lead to a value, or
there is a first key that leads nowhere. A path is evaluated accordingly: its filters see the value that
all keys lead to, and otherwise the failure is told of the keys up to the first one that leads nowhere.
-/

namespace DotPath

namespace Json

/-- Nothing is reached by the keys up to the one with the number `i`. -/
def Lost (root : Json) (keys : List String) (i : Nat) : Prop :=
  i < keys.length ∧ root.at? ((keys.take (i + 1)).map Hop.member) = none

variable {root : Json} {keys : List String} {i : Nat}

theorem exists_at?_of_not_lost (hi : i ≤ keys.length) (h : ∀ j < i, ¬ root.Lost keys j) :
    ∃ value, root.at? ((keys.take i).map Hop.member) = some value := by
  cases i with
  | zero => exact ⟨root, rfl⟩
  | succ j =>
    have hreached := h j (by omega)
    rw [Lost, not_and] at hreached
    exact Option.ne_none_iff_exists'.mp (hreached (by omega))

/-- In front of the first key that leads nowhere a value is reached, and the key is no member of it. -/
theorem child?_eq_none_of_isLeast_lost (h : IsLeast {i | root.Lost keys i} i) :
    ∃ key value, keys.take (i + 1) = keys.take i ++ [key]
      ∧ root.at? ((keys.take i).map Hop.member) = some value
      ∧ value.child? (.member key) = none := by
  rcases h with ⟨⟨hlength, hnone⟩, hleast⟩
  have hbefore : ∀ j < i, ¬ root.Lost keys j := by
    intro j hj hlost
    have := hleast hlost
    omega
  rcases exists_at?_of_not_lost (Nat.le_of_lt hlength) hbefore with ⟨value, hvalue⟩
  have htake : keys.take (i + 1) = keys.take i ++ [keys[i]] := by
    rw [List.take_append_getElem]
  refine ⟨keys[i], value, htake, hvalue, ?_⟩
  rwa [htake, List.map_append, List.map_singleton, at?_of_at? hvalue, at?_singleton] at hnone

end Json

namespace Path

variable {path : Path} {root : Json} {i : Nat}

theorem isOptional_eq_head (path : Path) :
    path.isOptional = (path.steps.head path.steps_ne_nil).optional := by
  induction path with
  | first step => rfl
  | child parent step ih =>
    rw [isOptional, ih]
    simp only [steps, List.head_append_of_ne_nil parent.steps_ne_nil]

theorem resolve_of_isLeast_lost (h : IsLeast {i | root.Lost path.keys i} i) :
    ∃ key value, root.at? ((path.keys.take i).map Hop.member) = some value
      ∧ value.child? (.member key) = none
      ∧ let shown := ".".intercalate (path.keys.take (i + 1))
        path.resolve path.isOptional root = value.member shown key
          (if path.isOptional then .optionalMissing shown else .notFound shown) := by
  rcases Json.child?_eq_none_of_isLeast_lost h with ⟨key, value, htake, hvalue, hnone⟩
  have hkeys : path.keys = path.keys.take i ++ key :: path.keys.drop (i + 1) := by
    have happend := List.take_append_drop (i + 1) path.keys
    rw [htake, List.append_assoc] at happend
    exact happend.symm
  refine ⟨key, value, hvalue, hnone, ?_⟩
  rw [htake]
  exact resolve_of_child?_eq_none hkeys hvalue hnone path.isOptional

/--
If every key of a path leads somewhere, the filters choose among what the last one leads to. Otherwise the
path fails with the first key that does not, whatever its filters are. It is told by the keys up to this
one whether they lead into a value that is no object or that the key is missing in an object; and a missing
key is told as the absence of an optional value if the first step is marked.
-/
theorem eval_stops_at_first_lost_key (path : Path) (root : Json) :
    ((∀ i, ¬ root.Lost path.keys i) →
      ∃ value, root.at? (path.keys.map Hop.member) = some value
        ∧ path.resolve path.isOptional root = .ok value
        ∧ path.eval root = chosen path.filters value)
      ∧ ∀ i, IsLeast {i | root.Lost path.keys i} i →
        ∃ value, root.at? ((path.keys.take i).map Hop.member) = some value
          ∧ ∀ filters,
            let found := (path.withFilters filters).eval root
            let shown := ".".intercalate (path.keys.take (i + 1))
            ((∀ members, value ≠ .object members) →
                found = .error (.typeMismatch shown .object value.typeName))
              ∧ ∀ members, value = .object members →
                found = .error (if (path.steps.head path.steps_ne_nil).optional
                  then .optionalMissing shown else .notFound shown) := by
  constructor
  · intro h
    rcases Json.exists_at?_of_not_lost (Nat.le_refl _) (fun i _ => h i) with ⟨value, hvalue⟩
    rw [List.take_length] at hvalue
    have hresolve : path.resolve path.isOptional root = .ok value := resolve_eq_ok_iff.mpr hvalue
    refine ⟨value, hvalue, hresolve, ?_⟩
    rw [eval_eq_resolve, hresolve]
    rfl
  · intro i hleast
    rcases resolve_of_isLeast_lost hleast with ⟨key, value, hvalue, hnone, hresolve⟩
    refine ⟨value, hvalue, ?_⟩
    intro filters found shown
    have hfound : found = (path.resolve path.isOptional root).bind (chosen filters) := by
      show (path.withFilters filters).eval root = _
      rw [eval_eq_resolve, resolve_of_withFilters, filters_withFilters]
    rw [hfound, hresolve, ← isOptional_eq_head]
    constructor
    · intro hobject
      cases value with
      | object members => exact absurd rfl (hobject members)
      | _ => rfl
    · rintro members rfl
      have hfind : Keyed.find? key members = none := hnone
      simp only [Json.member, hfind]
      rfl

/-- The second key leads into a number, so the third one is to blame, mark or not; the filter is not asked. -/
theorem eval_stops_at_first_lost_key_into_number :
    let path := Path.child (.child (.first ⟨"a", true, []⟩) ⟨"b", false, []⟩)
      ⟨"c", false, [.comparison (.position (.text "k"))]⟩
    let root := Json.object [("a", .object [("b", .ofInt64 1)])]
    IsLeast {i | root.Lost path.keys i} 2
      ∧ path.eval root = .error (.typeMismatch "a.b.c" .object .number) := by
  intro path root
  have hleast : IsLeast {i | root.Lost path.keys i} 2 := by
    refine ⟨⟨by decide, rfl⟩, ?_⟩
    rintro i ⟨-, hnone⟩
    match i, hnone with
    | 0, hnone => cases hnone
    | 1, hnone => cases hnone
    | i + 2, _ => exact Nat.le_add_left 2 i
  refine ⟨hleast, ?_⟩
  rcases (eval_stops_at_first_lost_key path root).2 2 hleast with ⟨value, hvalue, hblame⟩
  cases hvalue
  exact (hblame path.filters).1 (by simp [Json.ofInt64])

end Path

end DotPath
