import DotPath.Binary64.Rounding

/-!
The numbers of a JSON value. A number is an integer that fits 64 bits, signed or unsigned, or a
finite double, and the two kinds stay apart: `1` and `1.0` are different numbers of the same value.
-/

namespace DotPath

inductive Number where
  | integer (n : Int) (fits : -0x8000000000000000 ≤ n ∧ n < 0x10000000000000000)
  | float (x : Binary64) (finite : x.isFinite = true)
  deriving DecidableEq

namespace Number

def toRat (number : Number) : Rat :=
  match number with
  | .integer n _ => n
  | .float x _ => x.toRat

def toBinary64 (number : Number) : Binary64 :=
  match number with
  | .integer n _ => Binary64.ofInt n
  | .float x _ => x

def toInt64? (number : Number) : Option Int64 :=
  match number with
  | .integer n _ => if n < 0x8000000000000000 then some (Int64.ofInt n) else none
  | .float .. => none

/--
The number as an integer of 64 bits with sign. Whatever is no such integer goes through its double,
which loses its fraction and is then moved to the nearer bound, if it lies beyond one.
-/
def toInt64 (number : Number) : Int64 :=
  match number.toInt64? with
  | some n => n
  | none => Int64.ofIntClamp number.toBinary64.truncate

/-- How the number compares to `n`. An integer compares exactly, a double to the nearest double. -/
def compareInt64 (number : Number) (n : Int64) : Ordering :=
  match number with
  | .integer m _ => compare m n.toInt
  | .float x _ => x.order (Binary64.ofInt n.toInt)

end Number
end DotPath
