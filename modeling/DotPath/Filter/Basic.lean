import DotPath.Comparator

/-!
This module contains the filters of a query, what stands between its brackets: comparisons of a field
with a literal and positions, connected by "and" and "or".

The type has values that no text spells, such as a comparison with an integer on its left. They can
be printed like the others, and evaluating them fails.
-/

namespace DotPath

inductive Operand where
  | text (text : String)
  | integer (n : Int64)
  deriving DecidableEq

/--
A field, a comparator and a literal. A comparison without comparator is positional: its left side is
the position that it accepts.
-/
structure Comparison where
  comparator : Option Comparator
  left : Operand
  right : Option Operand
  deriving DecidableEq

namespace Comparison

def position (left : Operand) : Comparison :=
  ⟨none, left, none⟩

end Comparison

inductive Connective where
  | and
  | or
  deriving DecidableEq, Repr

namespace Connective

def symbol (connective : Connective) : String :=
  match connective with
  | .and => "&&"
  | .or => "||"

def apply (connective : Connective) (left right : Bool) : Bool :=
  match connective with
  | .and => left && right
  | .or => left || right

end Connective

inductive Filter where
  | comparison (comparison : Comparison)
  | logical (connective : Connective) (left right : Filter)
  deriving DecidableEq

end DotPath
