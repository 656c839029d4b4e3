import DotPath.Json.Number
import Mathlib.Algebra.Group.Nat.Defs

/-!
This module contains bounds on rounding to doubles. The significand that a natural number is rounded to
is at most the first one of the next binade. So only a number that is as great as the first binade
beyond the doubles is rounded to infinity, and the numbers of a JSON value are not.
-/

namespace DotPath

namespace Binary64

theorem roundDiv_le (num den : Nat) : roundDiv num den ≤ num / den + 1 := by
  unfold roundDiv
  dsimp only
  split
  · omega
  · have hparity := Nat.mod_lt (num / den) Nat.two_pos
    omega
  · omega

theorem log2Div_one {n : Nat} (h : n ≠ 0) : log2Div n 1 = n.log2 := by
  have hone : Nat.log2 1 = 0 := rfl
  have hle : ¬ n < 1 <<< n.log2 := by
    rw [Nat.shiftLeft_eq, Nat.one_mul, Nat.not_lt]
    exact Nat.log2_self_le h
  simp [log2Div, hone, hle]

/-- If `n` has at most 53 digits in units of `2 ^ (b - a)`, it is rounded to at most `2 ^ 53` units. -/
theorem roundDiv_shiftLeft_le {n a b : Nat} (h : n.log2 + a ≤ 52 + b) :
    roundDiv (n <<< a) (1 <<< b) ≤ 2 ^ 53 := by
  have hlt : n * 2 ^ a < 2 ^ 53 * 2 ^ b := by
    calc n * 2 ^ a < 2 ^ (n.log2 + 1) * 2 ^ a :=
          Nat.mul_lt_mul_of_pos_right Nat.lt_log2_self (Nat.two_pow_pos a)
      _ = 2 ^ (n.log2 + 1 + a) := (Nat.pow_add 2 _ _).symm
      _ ≤ 2 ^ (53 + b) := Nat.pow_le_pow_right Nat.two_pos (by omega)
      _ = 2 ^ 53 * 2 ^ b := Nat.pow_add 2 53 b
  have hquotient : n * 2 ^ a / 2 ^ b < 2 ^ 53 := by
    rwa [Nat.div_lt_iff_lt_mul (Nat.two_pow_pos b)]
  have hround := roundDiv_le (n * 2 ^ a) (2 ^ b)
  rw [Nat.shiftLeft_eq, Nat.shiftLeft_eq, Nat.one_mul]
  omega

theorem nearestMagnitude_lt {n : Nat} (h : n.log2 < 1023) :
    nearestMagnitude n 1 < infinityMagnitude := by
  unfold nearestMagnitude
  split
  · decide
  · next hne =>
    have hplace : max (log2Div n 1 - 52) (-1074) = (n.log2 : Int) - 52 := by
      rw [log2Div_one hne]
      omega
    dsimp only
    rw [hplace]
    have hunits : roundDiv (n <<< (-((n.log2 : Int) - 52)).toNat) (1 <<< ((n.log2 : Int) - 52).toNat)
        ≤ 2 ^ 53 := by
      apply roundDiv_shiftLeft_le
      omega
    simp only [infinityMagnitude]
    omega

end Binary64

end DotPath
