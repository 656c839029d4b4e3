import DotPath.Path.Evaluation
import DotPath.Proofs.Outcome
import DotPath.Proofs.Path.Shape
import DotPath.Proofs.Token.Joining

/-!
This module contains paths that are put together. The texts of two paths with a dot between them spell
the path that goes on with the second one from where the first one leads. So its keys are resolved in two
parts, and a failure of the second part is told with the keys of the first part in front.
-/

namespace DotPath

open Grammar

/-- The failure as it is told of keys that stand behind the path `above`. -/
def Failure.beneath (failure : Failure) (above : String) : Failure :=
  match failure with
  | .notFound path => .notFound (above ++ "." ++ path)
  | .optionalMissing path => .optionalMissing (above ++ "." ++ path)
  | .typeMismatch path expected actual => .typeMismatch (above ++ "." ++ path) expected actual
  | other => other

theorem Failure.isOptionalMissing_beneath (failure : Failure) (above : String) :
    (failure.beneath above).isOptionalMissing = failure.isOptionalMissing := by
  cases failure <;> rfl

theorem Json.member_beneath (json : Json) (above path key : String) (missing : Failure) :
    json.member (above ++ "." ++ path) key (missing.beneath above)
      = (json.member path key missing).mapError (·.beneath above) := by
  unfold member
  split
  · split <;> rfl
  · rfl

namespace Path

/-- The path that goes on with `path` from where `above` leads. -/
def append (above path : Path) : Path :=
  match path with
  | .first step => .child above step
  | .child parent step => .child (above.append parent) step

/-- The path with a mark on its first step. -/
def mark (path : Path) : Path :=
  match path with
  | .first step => .first { step with optional := true }
  | .child parent step => .child parent.mark step

/-- `path` as a query of its own that is asked behind `above`: it takes over the mark. -/
def following (above path : Path) : Path :=
  if above.isOptional then path.mark else path

section Structure

variable (above path : Path) (filters : List Filter) (others : List String)

theorem keys_append : (above.append path).keys = above.keys ++ path.keys := by
  induction path with
  | first step => rfl
  | child parent step ih =>
    rw [append, keys, ih, List.append_assoc]
    rfl

theorem keys_ne_nil : path.keys ≠ [] := by
  cases path <;> simp [keys]

theorem dotted_append : (above.append path).dotted = above.dotted ++ "." ++ path.dotted := by
  rw [dotted, keys_append]
  exact String.intercalate_append_of_ne_nil above.keys_ne_nil path.keys_ne_nil

theorem isOptional_append : (above.append path).isOptional = above.isOptional := by
  induction path with
  | first step => rfl
  | child parent step ih => exact ih

theorem filters_append : (above.append path).filters = path.filters := by
  cases path <;> rfl

theorem append_withFilters :
    above.append (path.withFilters filters) = (above.append path).withFilters filters := by
  cases path <;> rfl

theorem append_extend : above.append (path.extend others) = (above.append path).extend others := by
  induction others generalizing path with
  | nil => rfl
  | cons key others ih => exact ih (.child path ⟨key, false, []⟩)

theorem keys_mark : path.mark.keys = path.keys := by
  induction path with
  | first step => rfl
  | child parent step ih =>
    rw [mark, keys, ih]
    rfl

theorem isOptional_mark : path.mark.isOptional = true := by
  induction path with
  | first step => rfl
  | child parent step ih => exact ih

theorem filters_mark : path.mark.filters = path.filters := by
  cases path <;> rfl

theorem withFilters_mark : path.mark.withFilters filters = (path.withFilters filters).mark := by
  cases path <;> rfl

theorem extend_mark : path.mark.extend others = (path.extend others).mark := by
  induction others generalizing path with
  | nil => rfl
  | cons key others ih => exact ih (.child path ⟨key, false, []⟩)

theorem filters_extend (h : path.filters = []) : (path.extend others).filters = [] := by
  induction others generalizing path with
  | nil => exact h
  | cons key others ih => exact ih (.child path ⟨key, false, []⟩) rfl

theorem withFilters_self : path.withFilters path.filters = path := by
  cases path <;> rfl

theorem isOptional_withFilters : (path.withFilters filters).isOptional = path.isOptional := by
  cases path <;> rfl

theorem isOptional_extend : (path.extend others).isOptional = path.isOptional := by
  induction others generalizing path with
  | nil => rfl
  | cons key others ih => exact ih (.child path ⟨key, false, []⟩)

theorem isOptional_following (h : path.isOptional = false) :
    (following above path).isOptional = above.isOptional := by
  unfold following
  cases above.isOptional with
  | true => exact path.isOptional_mark
  | false => exact h

theorem filters_following : (following above path).filters = path.filters := by
  unfold following
  split
  · apply filters_mark
  · rfl

end Structure

section Reading

variable {p q : String} {above path : Path} {marked : Bool} {first next : String}
  {others behind : List String} {filters : List Filter}

theorem isOptional_ofKeys : (ofKeys marked first others filters).isOptional = marked := by
  rw [ofKeys_eq_extend, isOptional_withFilters, isOptional_extend]
  rfl

theorem filters_ofKeys : (ofKeys marked first others filters).filters = filters := by
  rw [ofKeys_eq_extend, filters_withFilters]

theorem mark_ofKeys : (ofKeys marked first others filters).mark = ofKeys true first others filters := by
  rw [ofKeys_eq_extend, ofKeys_eq_extend, ← withFilters_mark, ← extend_mark]
  rfl

theorem ofKeys_append : (ofKeys marked first others []).append (ofKeys false next behind filters)
    = ofKeys marked first (others ++ next :: behind) filters := by
  have habove := withFilters_self ((Path.first ⟨first, marked, []⟩).extend others)
  rw [filters_extend _ _ rfl] at habove
  rw [ofKeys_eq_extend, ofKeys_eq_extend, ofKeys_eq_extend, habove, append_withFilters, append_extend]
  simp only [append, extend, List.foldl_append, List.foldl_cons]

theorem parse_mark (hq : parse q = .ok path) (hrequired : path.isOptional = false) :
    parse ("?" ++ q) = .ok path.mark := by
  rw [parse_eq_ok_iff_lexes] at hq ⊢
  rcases hq with ⟨kinds, hderives, hlexes⟩
  cases hderives with
  | path mark first keys brackets =>
    rw [isOptional_ofKeys] at hrequired
    subst hrequired
    cases mark
    rw [mark_ofKeys, String.toList_append]
    exact ⟨_, .path .present first keys brackets, Lexes.single '?' .question rfl (fun _ => rfl) hlexes⟩

theorem parse_following (hq : parse q = .ok path) (hrequired : path.isOptional = false) :
    parse (if above.isOptional then "?" ++ q else q) = .ok (following above path) := by
  unfold following
  split
  · exact parse_mark hq hrequired
  · exact hq

theorem parse_append (hp : parse p = .ok above) (hplain : above.filters = [])
    (hq : parse q = .ok path) (hrequired : path.isOptional = false) :
    parse (p ++ "." ++ q) = .ok (above.append path) := by
  rw [parse_eq_ok_iff_lexes] at hp hq ⊢
  rcases hp with ⟨kinds, hderives, hlexes⟩
  rcases hq with ⟨kinds', hderives', hlexes'⟩
  cases hderives with
  | path mark first keys brackets =>
    cases hderives' with
    | path mark' next keys' brackets' =>
      rw [filters_ofKeys] at hplain
      rw [isOptional_ofKeys] at hrequired
      subst hplain hrequired
      cases brackets
      cases mark'
      rw [ofKeys_append]
      refine ⟨_, .path mark first (keys.append (.cons (.key next) keys')) brackets', ?_⟩
      have hdot := Lexes.single '.' .dot rfl (fun _ => rfl) hlexes'
      have hjoined := hlexes.append ?_ ?_ hdot
      · simpa using hjoined
      · rintro c ⟨⟩
        rfl
      · simp

end Reading

section Resolving

variable (above path : Path) (optional : Bool) (root : Json)

theorem missing_append :
    (above.append path).missing optional = (path.missing optional).beneath above.dotted := by
  unfold missing
  rw [dotted_append]
  cases optional <;> rfl

theorem member_append (step : Step) (value : Json) :
    value.member (above.append path).dotted step.key ((above.append path).missing optional)
      = (value.member path.dotted step.key (path.missing optional)).mapError
          (·.beneath above.dotted) := by
  rw [dotted_append, missing_append, Json.member_beneath]

theorem resolve_append : (above.append path).resolve optional root
    = (above.resolve optional root).bind fun value =>
        (path.resolve optional value).mapError (·.beneath above.dotted) := by
  induction path with
  | first step =>
    have hmember := above.member_append (.first step) optional step
    rw [append] at hmember ⊢
    rw [resolve]
    simp only [hmember]
    rfl
  | child parent step ih =>
    have hmember := above.member_append (.child parent step) optional step
    rw [append] at hmember ⊢
    rw [resolve, ih]
    simp only [hmember, resolve]
    cases above.resolve optional root with
    | error failure => rfl
    | ok value =>
      simp only [Except.bind, bind]
      cases parent.resolve optional value <;> rfl

theorem dotted_mark : path.mark.dotted = path.dotted := by
  rw [dotted, keys_mark, dotted]

theorem resolve_mark : path.mark.resolve optional root = path.resolve optional root := by
  induction path with
  | first step => rfl
  | child parent step ih =>
    have hdotted := dotted_mark (.child parent step)
    rw [mark] at hdotted ⊢
    rw [resolve, resolve, ih, missing, missing, hdotted]

theorem resolve_withFilters (filters : List Filter) :
    (path.withFilters filters).resolve optional root = path.resolve optional root := by
  cases path <;> rfl

theorem resolve_of_withFilters (filters : List Filter) :
    (path.withFilters filters).resolve (path.withFilters filters).isOptional root
      = path.resolve path.isOptional root := by
  rw [resolve_withFilters, isOptional_withFilters]

theorem resolve_following :
    (following above path).resolve optional root = path.resolve optional root := by
  unfold following
  split
  · apply resolve_mark
  · rfl

end Resolving

end Path

end DotPath
