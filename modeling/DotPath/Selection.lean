import DotPath.Path.Evaluation
import DotPath.Path.Parser

/-!
This module contains selections: the values that a series of queries has led to.
-/

namespace DotPath

/-- What `path` leads to from each of `values`, in order. Where an optional path leads nowhere there is nothing. -/
def Path.evalEach (path : Path) (values : List Json) : Except Failure (List Json) :=
  match values with
  | [] => .ok []
  | value :: rest =>
    match path.eval value with
    | .ok found => (path.evalEach rest).map (found.values ++ ·)
    | .error (.optionalMissing _) => path.evalEach rest
    | .error failure => .error failure

structure Selection where
  values : List Json
  trail : List String

namespace Selection

def ofRoot (root : Json) : Selection :=
  ⟨[root], []⟩

def select (selection : Selection) (query : String) : Except Failure Selection := do
  let path ← Path.parse query
  let values ← path.evalEach selection.values
  return ⟨values, selection.trail ++ [query]⟩

def describe (selection : Selection) : String :=
  if selection.trail.isEmpty then "<root>" else " | ".intercalate selection.trail

end Selection
end DotPath
