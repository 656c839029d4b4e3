/-!
This module contains the six comparators that a filter can write between a field and a literal.
-/

namespace DotPath

inductive Comparator where
  | eq
  | neq
  | lt
  | le
  | gt
  | ge
  deriving DecidableEq, Repr

namespace Comparator

def symbol (comparator : Comparator) : String :=
  match comparator with
  | .eq => "=="
  | .neq => "!="
  | .lt => "<"
  | .le => "<="
  | .gt => ">"
  | .ge => ">="

def holds (comparator : Comparator) (order : Ordering) : Bool :=
  match comparator with
  | .eq => order == .eq
  | .neq => order != .eq
  | .lt => order == .lt
  | .le => order != .gt
  | .gt => order == .gt
  | .ge => order != .lt

end Comparator
end DotPath
