import DotPath.Proofs.Path.Joining
import DotPath.Proofs.Path.Resolving

/-!
This module contains what the mark of an optional path changes. The marked text of a path evaluates as
the text without a mark does, but for keys of the path that are missing: these are told as the absence of
an optional value. What filters fail with is the same with and without a mark.
-/

namespace DotPath.Path

variable {text : String} {path : Path} {root : Json} {missing : String}

theorem eval_of_required (hrequired : path.isOptional = false) :
    path.eval root = (path.resolve false root).bind (chosen path.filters) := by
  rw [eval_eq_resolve, hrequired]

theorem eval_mark :
    path.mark.eval root
      = ((path.resolve false root).mapError Failure.excused).bind (chosen path.filters) := by
  rw [eval_eq_resolve, isOptional_mark, filters_mark, resolve_mark, resolve_optional]

theorem mapError_excused_of_not_lacks (h : ∀ missing, ¬ root.Lacks path.keys missing) :
    (path.resolve false root).mapError Failure.excused = path.resolve false root := by
  cases hresolve : path.resolve false root with
  | ok value => rfl
  | error failure =>
    -- The only failure that a mark changes tells of a missing key.
    cases failure with
    | notFound missing => exact absurd (lacks_of_resolve hresolve) (h missing)
    | _ => rfl

/--
A mark in front of a text that spells a required path changes the evaluation of no value, unless a key of
the path is missing there. Then the path is not found, and the optional path is reported as missing, with
the same keys up to the missing one. So a field that a filter does not find is not found in both cases.
-/
theorem eval_marked (hparse : parse text = .ok path) (hrequired : path.isOptional = false)
    (root : Json) :
    ∃ marked, parse ("?" ++ text) = .ok marked
      ∧ (∀ missing, root.Lacks path.keys missing →
        path.eval root = .error (.notFound missing)
          ∧ marked.eval root = .error (.optionalMissing missing))
      ∧ ((∀ missing, ¬ root.Lacks path.keys missing) → marked.eval root = path.eval root) := by
  refine ⟨path.mark, parse_mark hparse hrequired, ?_, ?_⟩
  · intro missing hlacks
    rw [eval_of_required hrequired, eval_mark, resolve_of_lacks hlacks]
    exact ⟨rfl, rfl⟩
  · intro h
    rw [eval_of_required hrequired, eval_mark, mapError_excused_of_not_lacks h]

/-- One object lacks a key of the path, and the other one has them all but not the field of the filter. -/
theorem eval_marked_of_missing_key_and_field :
    let text := "a.b[k==1]"
    let path := Path.child (.first ⟨"a", false, []⟩)
      ⟨"b", false, [.comparison ⟨some .eq, .text "k", some (.integer 1)⟩]⟩
    let lacking := Json.object [("a", .object [("k", .null)])]
    let fieldless := Json.object [("a", .object [("b", .object [])])]
    parse text = .ok path ∧ lacking.Lacks path.keys "a.b"
      ∧ (∀ missing, ¬ fieldless.Lacks path.keys missing)
      ∧ ∃ marked, parse "?a.b[k==1]" = .ok marked
        ∧ marked.eval lacking = .error (.optionalMissing "a.b")
        ∧ marked.eval fieldless = .error (.notFound "k") := by
  intro text path lacking fieldless
  have hparse : parse text = .ok path := by
    decide +kernel
  have hlacks : lacking.Lacks path.keys "a.b" :=
    ⟨["a"], "b", [], [("k", .null)], rfl, rfl, rfl, rfl⟩
  have hnone : ∀ missing, ¬ fieldless.Lacks path.keys missing := by
    intro missing h
    have hresolve := resolve_of_lacks h
    cases hresolve
  refine ⟨hparse, hlacks, hnone, ?_⟩
  rcases eval_marked hparse rfl lacking with ⟨marked, hmarked, hmissing, -⟩
  rcases eval_marked hparse rfl fieldless with ⟨marked', hmarked', -, hsame⟩
  rw [hmarked] at hmarked'
  cases hmarked'
  refine ⟨marked, hmarked, (hmissing _ hlacks).2, ?_⟩
  rw [hsame hnone]
  rfl

end DotPath.Path
