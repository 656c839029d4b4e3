import DotPath.Json.Basic
import DotPath.Path.Basic

/-!
This module contains the JSON form of paths and filters. Members that say nothing are left out: the
parent of a first step, the mark of a step without one, and an empty list of filters.
-/

namespace DotPath

def Operand.toJson (operand : Operand) : Json :=
  match operand with
  | .text s => .string s
  | .integer n => .ofInt64 n

def Comparator.label (comparator : Comparator) : String :=
  match comparator with
  | .eq => "eq"
  | .neq => "neq"
  | .lt => "lt"
  | .le => "le"
  | .gt => "gt"
  | .ge => "ge"

namespace Comparison

def label (comparison : Comparison) : String :=
  match comparison.comparator with
  | some comparator => comparator.label
  | none => "index"

def toJson (comparison : Comparison) : Json :=
  .object
    [("kind", .string "comparative"),
     ("left", comparison.left.toJson),
     ("op", .string comparison.label),
     ("right", (comparison.right.map Operand.toJson).getD .null)]

end Comparison

def Connective.label (connective : Connective) : String :=
  match connective with
  | .and => "and"
  | .or => "or"

def Filter.toJson (filter : Filter) : Json :=
  match filter with
  | .comparison c => c.toJson
  | .logical connective left right =>
    .object
      [("kind", .string "logical"),
       ("left", left.toJson),
       ("op", .string connective.label),
       ("right", right.toJson)]

namespace Step

def members (step : Step) : List (String × Json) :=
  (if step.filters.isEmpty then [] else [("filters", .array (step.filters.map Filter.toJson))]) ++
    [("key", .string step.key)] ++
    (if step.optional then [("optional", .bool true)] else [])

end Step

def Path.toJson (path : Path) : Json :=
  match path with
  | .first step => .object step.members
  | .child parent step => .object (step.members ++ [("parent", parent.toJson)])

end DotPath
