import DotPath.Proofs.Path.Blame
import DotPath.Proofs.Path.Failing
import DotPath.Proofs.Selection.Run

/-!
This module contains how the lookup of a single value agrees with selection. The two take what a path
leads to in different ways, and there are five ways in which they can end. A lookup leads to a value if
selection leads to this value alone, and the failure of a lookup tells how many values selection leads
to, or is the one that stops selection.
-/

namespace DotPath

/-- Selection never ends in one of the failures by which a lookup tells that nothing or too much is found. -/
theorem Failure.ne_of_selection {failure : Failure} {text : List Char}
    (h : failure.Blames text ∨ failure.OfEvaluation) :
    (∀ missing, failure ≠ .optionalMissing missing)
      ∧ ∀ shown count, failure ≠ .multipleResults shown count := by
  rcases h with h | h
  · rcases h.eq_malformed with ⟨_, _, _, _, rfl⟩
    simp
  · cases h <;> simp

namespace Json

/-- The keys of the path that `query` spells lead to a value, and its filters leave nothing of it. -/
def LeavesNothing (root : Json) (query : String) (path : Path) : Prop :=
  Path.parse query = .ok path ∧ path.eval root = .ok (.many [])

/-- What is selected by `query`, and how a lookup by it ends. -/
inductive Ending (root : Json) (query : String) :
    Except Failure (List Json) → Except Failure Json → Prop where
  | single (value : Json) : Ending root query (.ok [value]) (.ok value)
  | several (path : Path) (values : List Json) (h : 2 ≤ values.length) :
    Ending root query (.ok values) (.error (.multipleResults path.print values.length))
  | absent (missing : String) : Ending root query (.ok []) (.error (.optionalMissing missing))
  | nothing (path : Path) (h : root.LeavesNothing query path) :
    Ending root query (.ok []) (.error (.notFound path.print))
  | failing (failure : Failure) (h : failure.Blames query.toList ∨ failure.OfEvaluation)
      (hnothing : ∀ path, ¬ root.LeavesNothing query path) :
    Ending root query (.error failure) (.error failure)

theorem lookupOne_of_parse {query : String} {path : Path} (hparse : Path.parse query = .ok path)
    (root : Json) : root.lookupOne query = path.evalOne root := by
  rw [lookupOne, hparse]
  rfl

theorem lookupOne_of_parse_error {query : String} {failure : Failure}
    (hparse : Path.parse query = .error failure) (root : Json) :
    root.lookupOne query = .error failure := by
  rw [lookupOne, hparse]
  rfl

end Json

namespace Path

variable {path : Path} {root : Json}

theorem evalOne_of_eval_error {failure : Failure} (h : path.eval root = .error failure) :
    path.evalOne root = .error failure := by
  rw [evalOne, h]
  rfl

theorem evalOne_of_eval_nil (h : path.eval root = .ok (.many [])) :
    path.evalOne root
      = .error (if path.isOptional then .optionalMissing path.print else .notFound path.print) := by
  rw [evalOne, h]
  rfl

theorem evalOne_of_eval_singleton {found : Matches} {value : Json} (h : path.eval root = .ok found)
    (hfound : found.values = [value]) : path.evalOne root = .ok value := by
  rw [evalOne, h]
  cases found with
  | one other =>
    cases hfound
    rfl
  | many values =>
    cases hfound
    rfl

theorem evalOne_of_eval_several {found : Matches} (h : path.eval root = .ok found)
    (hfound : 2 ≤ found.values.length) :
    path.evalOne root = .error (.multipleResults path.print found.values.length) := by
  rw [evalOne, h]
  cases found with
  | one value => cases Nat.lt_irrefl 1 hfound
  | many values =>
    cases values with
    | nil => cases Nat.not_succ_le_zero 1 hfound
    | cons value rest =>
      cases rest with
      | nil => cases Nat.lt_irrefl 1 hfound
      | cons second rest => rfl

theorem several_of_evalOne {shown : String} {count : Nat}
    (h : path.evalOne root = .error (.multipleResults shown count)) :
    ∃ found, path.eval root = .ok found ∧ 2 ≤ found.values.length := by
  cases heval : path.eval root with
  | error failure =>
    rw [evalOne_of_eval_error heval] at h
    cases h
    rcases ofEvaluation_of_eval heval with hfailure | ⟨-, missing, hmissing⟩
    · cases hfailure
    · cases hmissing
  | ok found =>
    match found with
    | .one value =>
      rw [evalOne_of_eval_singleton heval rfl] at h
      cases h
    | .many [] =>
      rw [evalOne_of_eval_nil heval] at h
      split at h <;> cases h
    | .many [value] =>
      rw [evalOne_of_eval_singleton heval rfl] at h
      cases h
    | .many (value :: second :: rest) => exact ⟨_, rfl, by simp [Matches.values]⟩

theorem ending_of_parse {query : String} (hparse : Path.parse query = .ok path) (root : Json) :
    root.Ending query (path.contribution root) (path.evalOne root) := by
  cases heval : path.eval root with
  | error failure =>
    rw [contribution_of_eval_error heval, evalOne_of_eval_error heval]
    rcases ofEvaluation_of_eval heval with hfailure | ⟨-, missing, rfl⟩
    · rw [hfailure.isOptionalMissing]
      refine .failing failure (.inr hfailure) ?_
      rintro other ⟨hother, hnothing⟩
      rw [hparse] at hother
      cases hother
      rw [heval] at hnothing
      cases hnothing
    · exact .absent missing
  | ok found =>
    rw [contribution_of_eval_ok heval]
    match found with
    | .one value =>
      rw [evalOne_of_eval_singleton heval rfl]
      exact .single value
    | .many [] =>
      rw [evalOne_of_eval_nil heval]
      cases path.isOptional with
      | true => exact .absent path.print
      | false => exact .nothing path ⟨hparse, heval⟩
    | .many [value] =>
      rw [evalOne_of_eval_singleton heval rfl]
      exact .single value
    | .many (value :: second :: rest) =>
      have hlength : 2 ≤ (Matches.many (value :: second :: rest)).values.length := by
        simp [Matches.values]
      rw [evalOne_of_eval_several heval hlength]
      exact .several path _ hlength

end Path

namespace Pipeline

theorem select_ending (root : Json) (query : String) :
    root.Ending query ((ofRoot root).select query).values (root.lookupOne query) := by
  cases hparse : Path.parse query with
  | error failure =>
    have hselect : ((ofRoot root).select query).values = .error failure := by
      rw [select, ofRoot]
      simp only [values, Selection.select, hparse]
      rfl
    rw [hselect, Json.lookupOne_of_parse_error hparse]
    refine .failing failure (.inl (Path.blames_of_parse hparse)) ?_
    rintro path ⟨hpath, -⟩
    rw [hparse] at hpath
    cases hpath
  | ok path =>
    have hselect : ((ofRoot root).select query).values = path.evalEach [root] :=
      values_select rfl hparse
    rw [hselect, Path.evalEach_singleton, Json.lookupOne_of_parse hparse]
    exact Path.ending_of_parse hparse root

/--
A lookup of one value agrees with selection from the root. It leads to the one value that is selected. It
fails for too many values with their number, and it finds an optional value missing, or nothing left by
the filters, if no value is selected. With any other failure selection fails as well, with the same one:
the text is malformed, or a required key is missing, a type is wrong or a filter is invalid.
-/
theorem select_iff_lookupOne (root : Json) (query : String) :
    let run := (ofRoot root).select query
    let found := root.lookupOne query
    (∀ value, run.values = .ok [value] ↔ found = .ok value)
      ∧ (∀ count, (2 ≤ count ∧ ∃ values, run.values = .ok values ∧ values.length = count)
          ↔ ∃ shown, found = .error (.multipleResults shown count))
      ∧ (run.values = .ok [] ↔
          (∃ missing, found = .error (.optionalMissing missing))
            ∨ ∃ path, root.LeavesNothing query path ∧ found = .error (.notFound path.print))
      ∧ (∀ failure, run.failure? = some failure ↔
          found = .error failure
            ∧ (∀ missing, failure ≠ .optionalMissing missing)
            ∧ (∀ shown count, failure ≠ .multipleResults shown count)
            ∧ ¬ ∃ path, root.LeavesNothing query path ∧ failure = .notFound path.print)
      ∧ ∀ failure, run.failure? = some failure →
          failure.Blames query.toList ∨ failure.OfEvaluation := by
  intro run found
  have hending : root.Ending query run.values found := select_ending root query
  simp only [failure?_eq_some_iff]
  generalize run.values = selected at hending
  generalize found = single at hending
  cases hending with
  | single value =>
    simp
    omega
  | several path values h =>
    have hne : values ≠ [] := by
      rintro rfl
      simp at h
    have hsingle : ∀ value, values ≠ [value] := by
      rintro value rfl
      simp at h
    simp [h, hne, hsingle]
  | absent missing =>
    simp
    omega
  | nothing path h =>
    have hleft : ∃ other, root.LeavesNothing query other ∧ path.print = other.print := ⟨path, h, rfl⟩
    simp [hleft]
    omega
  | failing failure h hnothing =>
    rcases Failure.ne_of_selection h with ⟨hmissing, hcount⟩
    simp [hmissing, hcount, hnothing, h]

end Pipeline

end DotPath
