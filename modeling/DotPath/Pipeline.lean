import DotPath.Record.Target

/-!
This module contains pipelines: selections that start from one value and go on query by query. The
first query that fails stops a pipeline for good, and everything that is asked of it afterwards
answers with that failure.
-/

namespace DotPath

structure Pipeline where
  state : Except Failure Selection

namespace Pipeline

def ofRoot (root : Json) : Pipeline :=
  ⟨.ok (.ofRoot root)⟩

def select (pipeline : Pipeline) (query : String) : Pipeline :=
  match pipeline.state with
  | .ok selection => ⟨selection.select query⟩
  | .error _ => pipeline

def selectAll (pipeline : Pipeline) (queries : List String) : Pipeline :=
  queries.foldl select pipeline

def failure? (pipeline : Pipeline) : Option Failure :=
  match pipeline.state with
  | .ok _ => none
  | .error failure => some failure

def values (pipeline : Pipeline) : Except Failure (List Json) :=
  pipeline.state.map Selection.values

/-- Fills a target from the selection; a pipeline that has stopped leaves the target alone. -/
def extract [Target T] (pipeline : Pipeline) : Update T := fun target =>
  match pipeline.state with
  | .ok selection => Target.fill selection target
  | .error failure => .error failure target

end Pipeline
end DotPath
