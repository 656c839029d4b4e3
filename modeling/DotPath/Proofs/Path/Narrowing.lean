import DotPath.Proofs.Path.Joining
import DotPath.Proofs.Path.Resolving
import DotPath.Proofs.Path.RoundTrip
import Mathlib.Algebra.Group.Nat.Defs

/-!
This module contains paths that get one filter more. Its brackets behind the text of the path spell it
as the last filter, and this one is applied to what the path has led to so far.
-/

namespace DotPath

open Grammar

/-- What the next filter goes through: a single value only as long as there has been no filter. -/
def Matches.items (found : Matches) : List Json :=
  match found with
  | .one value => value.elements
  | .many values => values

namespace Path

variable {q : String} {path : Path} {filter : Filter} {root : Json}

/-- The path with one filter more, behind those that it has. -/
def narrow (path : Path) (filter : Filter) : Path :=
  path.withFilters (path.filters ++ [filter])

theorem narrow_ofKeys {marked : Bool} {first : String} {others : List String}
    {filters : List Filter} : (ofKeys marked first others filters).narrow filter
      = ofKeys marked first others (filters ++ [filter]) := by
  rw [narrow, filters_ofKeys, ofKeys_eq_extend, ofKeys_eq_extend]
  generalize (Path.first ⟨first, marked, []⟩).extend others = plain
  cases plain <;> rfl

theorem print_narrow (path : Path) (filter : Filter) :
    (path.narrow filter).print = path.print ++ ("[" ++ filter.print ++ "]") := by
  cases path <;> simp [print, narrow, withFilters, filters, last, Step.print, String.append_assoc]

theorem parse_narrow (hq : parse q = .ok path) (h : filter.WellShaped) :
    parse (q ++ ("[" ++ filter.print ++ "]")) = .ok (path.narrow filter) := by
  rw [parse_eq_ok_iff_lexes] at hq ⊢
  rcases hq with ⟨kinds, hderives, hlexes⟩
  rcases Filter.spells_print h with ⟨inner, hinner, hspells⟩
  cases hderives with
  | path mark first keys brackets =>
    rw [narrow_ofKeys]
    refine ⟨_, .path mark first keys (brackets.snoc (.brackets hinner)), ?_⟩
    have hclosing := Lexes.single ']' .rightBracket rfl (fun _ => rfl) .nil
    have hfilter := hspells (by rintro _ ⟨⟩; rfl) hclosing
    have hopening := Lexes.single '[' .leftBracket rfl (fun _ => rfl) hfilter
    have hjoined := hlexes.append (by rintro _ ⟨⟩; rfl) (by simp) hopening
    simpa using hjoined

theorem chosen_snoc (filters : List Filter) (filter : Filter) (value : Json) :
    chosen (filters ++ [filter]) value
      = (chosen filters value).bind fun found => (filter.survivors 0 found.items).map .many := by
  have hstages : applyFilters (filters ++ [filter]) value.elements
      = applyFilters filters value.elements >>= filter.survivors 0 := by
    rw [applyFilters, List.foldlM_append]
    congr
    funext kept
    exact bind_pure _
  have hmany : chosen (filters ++ [filter]) value
      = (applyFilters (filters ++ [filter]) value.elements).map .many := by
    rw [← items_eq_elements]
    cases filters <;> rfl
  rw [hmany, hstages]
  cases filters with
  | nil => rfl
  | cons head filters =>
    rw [chosen, items_eq_elements]
    cases applyFilters (head :: filters) value.elements <;> rfl

theorem eval_narrow (path : Path) (filter : Filter) (root : Json) : (path.narrow filter).eval root
    = (path.eval root).bind fun found => (filter.survivors 0 found.items).map .many := by
  rw [eval_eq_resolve, eval_eq_resolve, narrow, resolve_of_withFilters, filters_withFilters]
  cases path.resolve path.isOptional root with
  | error failure => rfl
  | ok value => exact chosen_snoc path.filters filter value

theorem exists_one_iff {found : Matches} (h : path.eval root = .ok found) :
    (∃ value, found = .one value) ↔ path.filters = [] := by
  rw [eval_eq_resolve] at h
  rcases bind_eq_ok_iff.mp h with ⟨value, -, hchosen⟩
  rw [chosen] at hchosen
  cases hfilters : path.filters with
  | nil =>
    rw [hfilters] at hchosen
    cases hchosen
    simp
  | cons filter filters =>
    rw [hfilters] at hchosen
    rcases bind_eq_ok_iff.mp hchosen with ⟨kept, -, hmany⟩
    cases hmany
    simp

end Path

end DotPath
