import DotPath.Filter.Evaluation
import DotPath.Path.Basic

/-!
This module contains the evaluation of paths. The keys lead from object to object to a single value.
Without filters that value is the result; with filters its elements go through one filter after the
other, and a value that is no array is taken for its own only element.
-/

namespace DotPath

inductive Matches where
  | one (value : Json)
  | many (values : List Json)

def Matches.values (found : Matches) : List Json :=
  match found with
  | .one value => [value]
  | .many values => values

namespace Path

def missing (path : Path) (optional : Bool) : Failure :=
  if optional then .optionalMissing path.dotted else .notFound path.dotted

def resolve (path : Path) (optional : Bool) (root : Json) : Except Failure Json :=
  match path with
  | .first step => root.member path.dotted step.key (path.missing optional)
  | .child parent step => do
    let value ← parent.resolve optional root
    value.member path.dotted step.key (path.missing optional)

def items (value : Json) : List Json :=
  match value with
  | .array elements => elements
  | other => [other]

/-- Those of `items` that pass all the filters; each filter counts the items that the one before left. -/
def applyFilters (filters : List Filter) (items : List Json) : Except Failure (List Json) :=
  filters.foldlM (fun items filter => filter.survivors 0 items) items

def eval (path : Path) (root : Json) : Except Failure Matches := do
  let value ← path.resolve path.isOptional root
  if path.filters.isEmpty then
    return .one value
  else
    return .many (← applyFilters path.filters (items value))

end Path
end DotPath
