/-!
Doubles: the 64-bit binary floating point numbers, as a sign and a magnitude.

The magnitude is the bit pattern below the sign bit. Read as a number it enumerates the non-negative
doubles in ascending order, from zero over the subnormal numbers to infinity, so comparing two
doubles is comparing two integers. A run of `0x10000000000000` magnitudes, which is `2 ^ 52`, makes a
binade: the doubles from one power of two to the next. The exact value of a double is the rational
number `toRat`.
-/

namespace DotPath

structure Binary64 where
  negative : Bool
  magnitude : Nat
  magnitude_lt : magnitude < 0x8000000000000000
  deriving DecidableEq

namespace Binary64

/-- The magnitude of infinity. The magnitudes below it are the finite ones, those beyond are NaNs. -/
def infinityMagnitude : Nat := 0x7ff0000000000000

def isFinite (x : Binary64) : Bool :=
  x.magnitude < infinityMagnitude

def ofBits (bits : Nat) : Binary64 where
  negative := bits / 0x8000000000000000 % 2 = 1
  magnitude := bits % 0x8000000000000000
  magnitude_lt := Nat.mod_lt _ (by decide)

def toBits (x : Binary64) : Nat :=
  (if x.negative then 0x8000000000000000 else 0) + x.magnitude

def zero : Binary64 := ⟨false, 0, by decide⟩

instance : Inhabited Binary64 := ⟨zero⟩

def neg (x : Binary64) : Binary64 :=
  { x with negative := !x.negative }

/-- The integer factor of the value of `x`: below `2 ^ 53`, and at least `2 ^ 52` unless subnormal. -/
def significand (x : Binary64) : Nat :=
  if x.magnitude < 0x10000000000000 then
    x.magnitude
  else
    0x10000000000000 + x.magnitude % 0x10000000000000

def exponent (x : Binary64) : Int :=
  if x.magnitude < 0x10000000000000 then
    -1074
  else
    (x.magnitude / 0x10000000000000 : Nat) - 1075

def toRat (x : Binary64) : Rat :=
  let num : Nat := x.significand <<< x.exponent.toNat
  mkRat (if x.negative then -num else num) (1 <<< (-x.exponent).toNat)

/-- The place of `x` among the doubles in ascending order; both zeros have place zero. -/
def rank (x : Binary64) : Int :=
  if x.negative then -x.magnitude else x.magnitude

def order (x y : Binary64) : Ordering :=
  compare x.rank y.rank

def truncate (x : Binary64) : Int :=
  let whole : Nat := x.significand <<< x.exponent.toNat >>> (-x.exponent).toNat
  if x.negative then -whole else whole

end Binary64
end DotPath
