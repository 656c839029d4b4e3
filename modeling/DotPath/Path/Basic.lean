import DotPath.Filter.Basic

/-!
This module contains the paths that queries spell: keys that lead from object to object, and filters
that choose among what the last key leads to.

A path is built up from its first key; its last step stands outermost. In every path that a text
spells only the first step is marked optional and only the last one has filters.
-/

namespace DotPath

structure Step where
  key : String
  optional : Bool
  filters : List Filter
  deriving DecidableEq

inductive Path where
  | first (step : Step)
  | child (parent : Path) (step : Step)
  deriving DecidableEq

namespace Path

def last (path : Path) : Step :=
  match path with
  | .first step => step
  | .child _ step => step

def parent? (path : Path) : Option Path :=
  match path with
  | .first _ => none
  | .child parent _ => some parent

/-- The mark on the first step counts for the whole path. -/
def isOptional (path : Path) : Bool :=
  match path with
  | .first step => step.optional
  | .child parent _ => parent.isOptional

def filters (path : Path) : List Filter :=
  path.last.filters

def keys (path : Path) : List String :=
  match path with
  | .first step => [step.key]
  | .child parent step => parent.keys ++ [step.key]

/-- The keys with dots between them, nothing quoted: what messages call the path. -/
def dotted (path : Path) : String :=
  ".".intercalate path.keys

def withFilters (path : Path) (filters : List Filter) : Path :=
  match path with
  | .first step => .first { step with filters }
  | .child parent step => .child parent { step with filters }

end Path
end DotPath
