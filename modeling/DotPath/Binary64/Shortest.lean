import DotPath.Binary64.Basic

/-!
The shortest decimal of a double: the fewest significant digits that stand for it, and among the
decimals with that many digits the one nearest to it.

A decimal stands for the double that it is rounded to, so it has to lie between the midpoints to the
two neighbours; the midpoints themselves belong to the doubles with an even significand.
-/

namespace DotPath

structure Decimal where
  coefficient : Nat
  exponent : Int
  deriving DecidableEq, Repr

namespace Decimal

def normalize (d : Decimal) : Decimal :=
  if h : d.coefficient ≠ 0 ∧ d.coefficient % 10 = 0 then
    normalize ⟨d.coefficient / 10, d.exponent + 1⟩
  else
    d
termination_by d.coefficient
decreasing_by exact Nat.div_lt_self (Nat.pos_of_ne_zero h.1) (by decide)

def digits (d : Decimal) : List Char :=
  Nat.toDigits 10 d.coefficient

def leadingExponent (d : Decimal) : Int :=
  d.exponent + d.digits.length - 1

end Decimal

namespace Binary64

/--
A positive rational number and the interval of those that are rounded to it, over the common
denominator `den`.
-/
structure Neighbourhood where
  lower : Nat
  value : Nat
  upper : Nat
  den : Nat
  -- Whether `lower` and `upper` belong to the interval.
  closed : Bool

/--
The neighbourhood of the value of a finite double that is not zero, sign aside. The gap below a
power of two is half as wide as the one above it, except at the smallest normal number.
-/
def neighbourhood (x : Binary64) : Neighbourhood :=
  let narrow := x.significand = 0x10000000000000 ∧ 0x10000000000000 < x.magnitude
  let e := x.exponent - 2
  { lower := (4 * x.significand - if narrow then 1 else 2) <<< e.toNat
    value := (4 * x.significand) <<< e.toNat
    upper := (4 * x.significand + 2) <<< e.toNat
    den := 1 <<< (-e).toNat
    closed := x.significand % 2 = 0 }

namespace Neighbourhood

def contains (nb : Neighbourhood) (num den : Nat) : Bool :=
  if nb.closed then
    nb.lower * den ≤ num * nb.den && num * nb.den ≤ nb.upper * den
  else
    nb.lower * den < num * nb.den && num * nb.den < nb.upper * den

def log10 (nb : Neighbourhood) : Int :=
  if nb.den ≤ nb.value then
    (Nat.toDigits 10 (nb.value / nb.den)).length - 1
  else
    -(Nat.toDigits 10 ((nb.den - 1) / nb.value)).length

/--
The multiple of `10 ^ exponent` in the interval that is nearest to the value, the even one of two
that are equally near. It is one of the value's two neighbours on that grid, if the interval meets
the grid at all.
-/
def onGrid? (nb : Neighbourhood) (exponent : Int) : Option Nat :=
  let num := nb.value * Nat.pow 10 (-exponent).toNat
  let den := nb.den * Nat.pow 10 exponent.toNat
  let below := num / den
  let isIn (n : Nat) := nb.contains (n * Nat.pow 10 exponent.toNat) (Nat.pow 10 (-exponent).toNat)
  match isIn below, isIn (below + 1) with
  | false, false => none
  | true, false => some below
  | false, true => some (below + 1)
  | true, true =>
    match compare (2 * (num % den)) den with
    | .lt => some below
    | .eq => some (below + below % 2)
    | .gt => some (below + 1)

/--
The decimal with the fewest digits in the interval. Seventeen digits always suffice, so the search
over that many grids succeeds.
-/
def shortest (nb : Neighbourhood) : Decimal :=
  let e := nb.log10
  let found := (List.range 17).findSome? fun (n : Nat) =>
    (nb.onGrid? (e - n)).map fun coefficient => Decimal.mk coefficient (e - n)
  (found.getD ⟨0, 0⟩).normalize

end Neighbourhood

def shortest (x : Binary64) : Decimal :=
  if x.magnitude = 0 then ⟨0, 0⟩ else x.neighbourhood.shortest

end Binary64
end DotPath
