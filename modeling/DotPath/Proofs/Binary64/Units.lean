import DotPath.Binary64.Basic
import Mathlib.Algebra.Order.Field.Rat
import Mathlib.Tactic.FieldSimp
import Mathlib.Tactic.NormNum
import Mathlib.Tactic.Ring

/-!
This module contains the values of doubles as multiples of the smallest positive one, which is
`2 ^ -1074`. From one magnitude to the next the value grows, by as much as the binade says. So doubles
stand in the order of their places, and comparing them is comparing their values.
-/

namespace DotPath

theorem compare_eq_compare {α β : Type} [LinearOrder α] [LinearOrder β] {a b : α} {c d : β}
    (hlt : a < b ↔ c < d) (hgt : b < a ↔ d < c) : compare a b = compare c d := by
  rcases lt_trichotomy a b with h | rfl | h
  · rw [compare_lt_iff_lt.mpr h, compare_lt_iff_lt.mpr (hlt.mp h)]
  · have heq : c = d := by
      apply le_antisymm
      · exact not_lt.mp fun h => lt_irrefl a (hgt.mpr h)
      · exact not_lt.mp fun h => lt_irrefl a (hlt.mpr h)
    rw [compare_eq_iff_eq.mpr rfl, compare_eq_iff_eq.mpr heq]
  · rw [compare_gt_iff_gt.mpr h, compare_gt_iff_gt.mpr (hgt.mp h)]

namespace Binary64

/-- How many units the number one has. -/
def unitsOfOne : Nat :=
  2 ^ 1074

/-- The value of the doubles of a magnitude in units of `2 ^ -1074`, sign aside. -/
def units (magnitude : Nat) : Nat :=
  if magnitude < 0x10000000000000 then
    magnitude
  else
    (0x10000000000000 + magnitude % 0x10000000000000) * 2 ^ (magnitude / 0x10000000000000 - 1)

theorem units_of_lt {m : Nat} (h : m < 0x10000000000000) : units m = m :=
  if_pos h

theorem units_mul_add {r : Nat} (e : Nat) (hr : r < 0x10000000000000) :
    units ((e + 1) * 0x10000000000000 + r) = (0x10000000000000 + r) * 2 ^ e := by
  have hdiv : ((e + 1) * 0x10000000000000 + r) / 0x10000000000000 = e + 1 := by omega
  have hmod : ((e + 1) * 0x10000000000000 + r) % 0x10000000000000 = r := by omega
  rw [units, if_neg (by omega), hdiv, hmod, Nat.add_sub_cancel]

theorem units_succ (m : Nat) : units (m + 1) = units m + 2 ^ (m / 0x10000000000000 - 1) := by
  obtain ⟨r, hr, hm⟩ : ∃ r < 0x10000000000000, m = m / 0x10000000000000 * 0x10000000000000 + r :=
    ⟨m % 0x10000000000000, Nat.mod_lt _ (by decide), (Nat.div_add_mod' m _).symm⟩
  cases hbinade : m / 0x10000000000000 with
  | zero =>
    rw [hbinade, Nat.zero_mul, Nat.zero_add] at hm
    subst hm
    rw [units_of_lt hr, Nat.zero_sub, Nat.pow_zero]
    rcases Nat.lt_or_ge (m + 1) (0x10000000000000) with hlt | hge
    · exact units_of_lt hlt
    · have hlast : m + 1 = (0 + 1) * 0x10000000000000 + 0 := by omega
      rw [hlast, units_mul_add 0 (by decide)]
      omega
  | succ e =>
    rw [hbinade] at hm
    rw [hm, units_mul_add e hr, Nat.add_sub_cancel]
    rcases Nat.lt_or_ge (r + 1) (0x10000000000000) with hlt | hge
    · rw [Nat.add_assoc, units_mul_add e hlt, ← Nat.add_assoc, Nat.add_mul _ 1, Nat.one_mul]
    · -- The next magnitude is the first one of the next binade.
      have hlast : (e + 1) * 0x10000000000000 + r + 1 = (e + 1 + 1) * 0x10000000000000 + 0 := by omega
      have hfull : 0x10000000000000 + r + 1 = 0x10000000000000 * 2 := by omega
      calc units ((e + 1) * 0x10000000000000 + r + 1)
        _ = (0x10000000000000 + 0) * 2 ^ (e + 1) := by rw [hlast, units_mul_add (e + 1) (by decide)]
        _ = 0x10000000000000 * 2 * 2 ^ e := by ring
        _ = (0x10000000000000 + r) * 2 ^ e + 2 ^ e := by rw [← hfull, Nat.add_mul _ 1, Nat.one_mul]

theorem units_strictMono : StrictMono units := by
  apply strictMono_nat_of_lt_succ
  intro m
  rw [units_succ]
  exact Nat.lt_add_of_pos_right (Nat.two_pow_pos _)

theorem units_eq_zero_iff {m : Nat} : units m = 0 ↔ m = 0 :=
  units_strictMono.injective.eq_iff' (units_of_lt (by decide))

theorem unitsOfOne_eq : unitsOfOne = 2 ^ 1074 := rfl

-- The power is never to be computed.
attribute [irreducible] unitsOfOne

theorem unitsOfOne_pos : 0 < unitsOfOne := by
  rw [unitsOfOne_eq]
  apply Nat.two_pow_pos

theorem pow_mul_unitsOfOne (e : Nat) : 2 ^ e * unitsOfOne = 2 ^ (e + 1074) := by
  rw [unitsOfOne_eq, Nat.pow_add]

theorem significand_mul_unitsOfOne (x : Binary64) :
    x.significand * 2 ^ x.exponent.toNat * unitsOfOne
      = units x.magnitude * 2 ^ (-x.exponent).toNat := by
  unfold significand exponent
  split
  · next hsubnormal =>
    have hscale : (-1074 : Int).toNat + 1074 = (- -1074 : Int).toNat := by omega
    rw [Nat.mul_assoc, pow_mul_unitsOfOne, hscale, units_of_lt hsubnormal]
  · next hnormal =>
    have hscale : (((x.magnitude / 0x10000000000000 : Nat) : Int) - 1075).toNat + 1074
        = x.magnitude / 0x10000000000000 - 1
          + (-(((x.magnitude / 0x10000000000000 : Nat) : Int) - 1075)).toNat := by
      omega
    rw [Nat.mul_assoc, pow_mul_unitsOfOne, hscale, units, if_neg hnormal, Nat.mul_assoc, ← Nat.pow_add]

/-- The value of a double in units, with its sign. -/
def signedUnits (x : Binary64) : Int :=
  if x.negative then -units x.magnitude else units x.magnitude

theorem toRat_eq (x : Binary64) : x.toRat = x.signedUnits / unitsOfOne := by
  have hone : (unitsOfOne : ℚ) ≠ 0 := Nat.cast_ne_zero.mpr unitsOfOne_pos.ne'
  have hunits : (x.significand * 2 ^ x.exponent.toNat * unitsOfOne : ℚ)
      = units x.magnitude * 2 ^ (-x.exponent).toNat := by
    exact_mod_cast x.significand_mul_unitsOfOne
  rw [toRat, Rat.mkRat_eq_div, signedUnits, Nat.shiftLeft_eq, Nat.shiftLeft_eq, Nat.one_mul]
  push_cast
  rw [div_eq_div_iff (by positivity) hone]
  split
  · rw [neg_mul, neg_mul, hunits]
  · exact hunits

theorem toRat_lt_toRat_iff {x y : Binary64} : x.toRat < y.toRat ↔ x.signedUnits < y.signedUnits := by
  have hone : (0 : ℚ) < unitsOfOne := Nat.cast_pos.mpr unitsOfOne_pos
  rw [toRat_eq, toRat_eq, div_lt_div_iff_of_pos_right hone, Int.cast_lt]

theorem rank_lt_rank_iff {x y : Binary64} : x.rank < y.rank ↔ x.toRat < y.toRat := by
  have hlt := units_strictMono.lt_iff_lt (a := x.magnitude) (b := y.magnitude)
  have hgt := units_strictMono.lt_iff_lt (a := y.magnitude) (b := x.magnitude)
  have hx := units_eq_zero_iff (m := x.magnitude)
  have hy := units_eq_zero_iff (m := y.magnitude)
  rw [toRat_lt_toRat_iff, rank, rank, signedUnits, signedUnits]
  split
  · split <;> omega
  · split <;> omega

theorem order_eq_compare (x y : Binary64) : x.order y = compare x.toRat y.toRat :=
  compare_eq_compare rank_lt_rank_iff rank_lt_rank_iff

end Binary64

end DotPath
