import DotPath.Binary64.Basic

/-!
Rounding to doubles. The exact quotient of two natural numbers goes to the nearest double, a half to
the one with an even significand, and to infinity from half a step beyond the greatest double on.
Integers, products and quotients of doubles are rounded this way.
-/

namespace DotPath.Binary64

def roundDiv (num den : Nat) : Nat :=
  let whole := num / den
  match compare (2 * (num % den)) den with
  | .lt => whole
  | .eq => whole + whole % 2
  | .gt => whole + 1

def log2Div (num den : Nat) : Int :=
  let k : Int := num.log2 - den.log2
  if num <<< (-k).toNat < den <<< k.toNat then k - 1 else k

/--
The magnitude of the double nearest to `num / den`. The spacing of the doubles there is
`2 ^ lastPlace`, and the quotient is rounded in units of it. A significand that is rounded up to
`2 ^ 53` needs no care: the next magnitude is then the first one of the next binade.
-/
def nearestMagnitude (num den : Nat) : Nat :=
  if num = 0 then
    0
  else
    let lastPlace := max (log2Div num den - 52) (-1074)
    let units := roundDiv (num <<< (-lastPlace).toNat) (den <<< lastPlace.toNat)
    min infinityMagnitude ((lastPlace + 1074).toNat * 0x10000000000000 + units)

theorem nearestMagnitude_le (num den : Nat) : nearestMagnitude num den ≤ infinityMagnitude := by
  simp only [nearestMagnitude]
  split
  · exact Nat.zero_le _
  · exact Nat.min_le_left ..

def ofQuotient (negative : Bool) (num den : Nat) : Binary64 where
  negative
  magnitude := nearestMagnitude num den
  magnitude_lt := Nat.lt_of_le_of_lt (nearestMagnitude_le num den) (by decide)

def ofNat (n : Nat) : Binary64 :=
  ofQuotient false n 1

def ofInt (n : Int) : Binary64 :=
  ofQuotient (n < 0) n.natAbs 1

def mul (x y : Binary64) : Binary64 :=
  let e := x.exponent + y.exponent
  ofQuotient (x.negative != y.negative)
    ((x.significand * y.significand) <<< e.toNat) (1 <<< (-e).toNat)

def div (x y : Binary64) : Binary64 :=
  let e := x.exponent - y.exponent
  ofQuotient (x.negative != y.negative)
    (x.significand <<< e.toNat) (y.significand <<< (-e).toNat)

end DotPath.Binary64
