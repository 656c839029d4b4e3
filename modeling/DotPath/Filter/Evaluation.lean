import DotPath.Filter.Printer
import DotPath.Json.Typed

/-!
This module contains the evaluation of filters on the items of a sequence. An item passes or not, or
the evaluation fails: a comparison needs an object that has the field, and a value of the literal's
type in it. Both sides of a connective are evaluated, the left one first, whatever its value is.
-/

namespace DotPath

namespace Comparison

def invalid (comparison : Comparison) (fault : FilterFault) : Failure :=
  .invalidFilter comparison.print fault

def evalField (comparison : Comparison) (comparator : Comparator) (name : String) (item : Json) :
    Except Failure Bool := do
  let value ← item.member name name (.notFound name)
  match comparison.right with
  | some (.text literal) =>
    let actual ← value.asString name
    return comparator.holds (compare actual literal)
  | some (.integer literal) =>
    let actual ← value.asNumber name
    return comparator.holds (actual.compareInt64 literal)
  | none => throw (comparison.invalid .missingRight)

def eval (comparison : Comparison) (index : Nat) (item : Json) : Except Failure Bool :=
  match comparison.comparator, comparison.left with
  | none, .integer n => .ok (decide ((index : Int) = n.toInt))
  | none, .text _ => .error (comparison.invalid .textAsIndex)
  | some _, .integer _ => .error (comparison.invalid .integerOnLeft)
  | some comparator, .text name => comparison.evalField comparator name item

end Comparison

namespace Filter

def eval (filter : Filter) (index : Nat) (item : Json) : Except Failure Bool :=
  match filter with
  | .comparison c => c.eval index item
  | .logical connective left right => do
    let leftHolds ← left.eval index item
    let rightHolds ← right.eval index item
    return connective.apply leftHolds rightHolds

/-- Those of `items` that the filter accepts, if the first of them has the number `index`. -/
def survivors (filter : Filter) (index : Nat) (items : List Json) : Except Failure (List Json) :=
  match items with
  | [] => .ok []
  | item :: rest => do
    let keep ← filter.eval index item
    let kept ← filter.survivors (index + 1) rest
    return if keep then item :: kept else kept

end Filter
end DotPath
