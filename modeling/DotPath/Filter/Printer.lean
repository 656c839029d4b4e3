import DotPath.Filter.Basic
import DotPath.Text.Symbol

/-!
This module contains the text of filters, without the brackets around it. A literal on the right of a
field is quoted even if it is a symbol.
-/

namespace DotPath

def Operand.print (operand : Operand) : String :=
  match operand with
  | .text s => Text.spellKey s
  | .integer n => toString n.toInt

namespace Comparison

def operator (comparison : Comparison) : String :=
  match comparison.comparator with
  | some comparator => comparator.symbol
  | none => ""

def print (comparison : Comparison) : String :=
  match comparison.left, comparison.right with
  | .text left, some (.text right) => Text.spellKey left ++ comparison.operator ++ Text.quoted right
  | left, some right => left.print ++ comparison.operator ++ right.print
  | left, none => left.print

end Comparison

def Filter.print (filter : Filter) : String :=
  match filter with
  | .comparison c => c.print
  | .logical connective left right => left.print ++ connective.symbol ++ right.print

end DotPath
