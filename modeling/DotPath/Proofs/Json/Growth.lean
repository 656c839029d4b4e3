import DotPath.Json.Typed
import DotPath.Proofs.Outcome

/-!
This module contains what it means that a JSON value has grown: objects in it, at any depth, have got
members under keys that they did not have. To read a grown value as a value of some type or to look up
an old key in it leads to what it led to before, grown itself.
-/

namespace DotPath.Json

/-- The second value is the first one with members added to its objects, each under a new and fresh key. -/
inductive Grows (Fresh : String → Prop) : Json → Json → Prop where
  | null : Grows Fresh .null .null
  | bool (value : Bool) : Grows Fresh (.bool value) (.bool value)
  | number (value : Number) : Grows Fresh (.number value) (.number value)
  | string (value : String) : Grows Fresh (.string value) (.string value)
  | array {elements grown : List Json} (h : List.Forall₂ (Grows Fresh) elements grown) :
    Grows Fresh (.array elements) (.array grown)
  | object {members grown : List (String × Json)}
      (kept : ∀ key value, Keyed.find? key members = some value →
        ∃ value', Keyed.find? key grown = some value')
      (within : ∀ key value value', Keyed.find? key members = some value →
        Keyed.find? key grown = some value' → Grows Fresh value value')
      (added : ∀ key value', Keyed.find? key members = none →
        Keyed.find? key grown = some value' → Fresh key) :
    Grows Fresh (.object members) (.object grown)

namespace Grows

variable {Fresh : String → Prop} {json grown value value' : Json} {key : String}
  {members others : List (String × Json)}

theorem nil : (Json.object []).Grows Fresh (.object []) := by
  constructor
  · intro key value hfind
    cases hfind
  · intro key value value' hfind
    cases hfind
  · intro key value' _ hfind
    cases hfind

theorem cons (hvalue : value.Grows Fresh value')
    (h : (Json.object members).Grows Fresh (.object others)) :
    (Json.object ((key, value) :: members)).Grows Fresh (.object ((key, value') :: others)) := by
  cases h with
  | object kept within added =>
    constructor
    · intro other found hfind
      rw [Keyed.find?_cons] at hfind
      rw [Keyed.find?_cons]
      split
      · exact ⟨value', rfl⟩
      · next hne =>
        rw [if_neg hne] at hfind
        exact kept other found hfind
    · intro other found found' hfind hfind'
      rw [Keyed.find?_cons] at hfind hfind'
      split at hfind
      · next heq =>
        rw [if_pos heq] at hfind'
        cases hfind
        cases hfind'
        exact hvalue
      · next hne =>
        rw [if_neg hne] at hfind'
        exact within other found found' hfind hfind'
    · intro other found' hfind hfind'
      rw [Keyed.find?_cons] at hfind hfind'
      split at hfind
      · cases hfind
      · next hne =>
        rw [if_neg hne] at hfind'
        exact added other found' hfind hfind'

theorem cons_fresh (hkey : Keyed.find? key members = none) (hfresh : Fresh key)
    (h : (Json.object members).Grows Fresh (.object others)) :
    (Json.object members).Grows Fresh (.object ((key, value') :: others)) := by
  cases h with
  | object kept within added =>
    have hne : ∀ other found, Keyed.find? other members = some found → key ≠ other := by
      rintro other found hfind rfl
      rw [hkey] at hfind
      cases hfind
    constructor
    · intro other found hfind
      rw [Keyed.find?_cons, if_neg (hne other found hfind)]
      exact kept other found hfind
    · intro other found found' hfind hfind'
      rw [Keyed.find?_cons, if_neg (hne other found hfind)] at hfind'
      exact within other found found' hfind hfind'
    · intro other found' hfind hfind'
      rw [Keyed.find?_cons] at hfind'
      split at hfind'
      · next heq => exact heq ▸ hfresh
      · exact added other found' hfind hfind'

theorem asString_eq (h : json.Grows Fresh grown) (path : String) :
    json.asString path = grown.asString path := by
  cases h <;> rfl

theorem asNumber_eq (h : json.Grows Fresh grown) (path : String) :
    json.asNumber path = grown.asNumber path := by
  cases h <;> rfl

/-- The step of a path: an old key leads to the same value, which may have grown, or is missing in both. -/
theorem member_alike (h : json.Grows Fresh grown) (hkey : ¬ Fresh key) (path : String)
    (missing : Failure) :
    Alike (Grows Fresh) (json.member path key missing) (grown.member path key missing) := by
  cases h with
  | @object members others kept within added =>
    simp only [member]
    cases hold : Keyed.find? key members with
    | some value =>
      rcases kept key value hold with ⟨value', hnew⟩
      rw [hnew]
      exact .ok (within key value value' hold hnew)
    | none =>
      cases hnew : Keyed.find? key others with
      | some value' => exact absurd (added key value' hold hnew) hkey
      | none => exact .error missing
  -- Neither is an object, and both are of the same type.
  | _ => exact .error _

end Grows

end DotPath.Json
