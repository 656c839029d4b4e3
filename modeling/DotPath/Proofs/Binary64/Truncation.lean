import DotPath.Proofs.Binary64.Nearest
import Mathlib.Data.Rat.Floor

/-!
This module contains the integers that numbers are read as. A number loses its fraction and is moved to
the nearer bound if it is too great or too small for 64 bits. The numbers beyond the greatest integer go
through their double, which cannot bring them back below the bound, since the bound is a double itself.
-/

namespace DotPath

/-- The number without its fraction, which brings it nearer to zero. -/
def integerPart (q : ℚ) : Int :=
  if 0 ≤ q then ⌊q⌋ else ⌈q⌉

/-- The nearest integer that has 64 bits with its sign. -/
def saturate (n : Int) : Int :=
  max (-2 ^ 63) (min (2 ^ 63 - 1) n)

theorem integerPart_intCast (n : Int) : integerPart n = n := by
  unfold integerPart
  split
  · apply Int.floor_intCast
  · apply Int.ceil_intCast

theorem integerPart_neg (q : ℚ) : integerPart (-q) = -integerPart q := by
  unfold integerPart
  rcases lt_trichotomy q 0 with hneg | rfl | hpos
  · rw [if_pos (neg_nonneg.mpr hneg.le), if_neg (not_le.mpr hneg), Int.floor_neg]
  · simp
  · rw [if_neg (not_le.mpr (neg_neg_of_pos hpos)), if_pos hpos.le, Int.ceil_neg]

theorem integerPart_mono {q r : ℚ} (h : q ≤ r) : integerPart q ≤ integerPart r := by
  unfold integerPart
  split
  · next hq =>
    rw [if_pos (hq.trans h)]
    exact Int.floor_mono h
  · next hq =>
    split
    · next hr =>
      calc ⌈q⌉
        _ ≤ 0 := Int.ceil_le.mpr (by rw [Int.cast_zero]; exact (not_le.mp hq).le)
        _ ≤ ⌊r⌋ := Int.floor_nonneg.mpr hr
    · exact Int.ceil_mono h

theorem saturate_mono {m n : Int} (h : m ≤ n) : saturate m ≤ saturate n := by
  unfold saturate
  omega

theorem saturate_eq_self {n : Int} (hle : -2 ^ 63 ≤ n) (hlt : n < 2 ^ 63) : saturate n = n := by
  unfold saturate
  omega

theorem saturate_of_le {n : Int} (h : 2 ^ 63 ≤ n) : saturate n = 2 ^ 63 - 1 := by
  unfold saturate
  omega

theorem toInt_ofIntClamp (n : Int) : (Int64.ofIntClamp n).toInt = saturate n := by
  have hmin : Int64.minValue.toInt = -2 ^ 63 := by decide
  have hmax : Int64.maxValue.toInt = 2 ^ 63 - 1 := by decide
  unfold saturate
  rcases Int.lt_or_le n Int64.minValue.toInt with hlow | hlow
  · rw [Int64.ofIntClamp, dif_neg (Int.not_le.mpr hlow)]
    omega
  · rcases Int.lt_or_le Int64.maxValue.toInt n with hhigh | hhigh
    · rw [Int64.ofIntClamp, dif_pos hlow, dif_neg (Int.not_le.mpr hhigh)]
      omega
    · rw [Int64.toInt_ofIntClamp hlow hhigh]
      omega

theorem Binary64.truncate_eq (x : Binary64) : x.truncate = integerPart x.toRat := by
  have habs (num den : Nat) : integerPart (mkRat num den) = (num / den : Nat) := by
    have hnonneg : (0 : ℚ) ≤ num / den := by positivity
    rw [Rat.mkRat_eq_div, Int.cast_natCast, integerPart, if_pos hnonneg, Rat.floor_natCast_div_natCast]
    rfl
  have htoNat : (x.significand <<< x.exponent.toNat) >>> (-x.exponent).toNat =
      (x.significand <<< x.exponent.toNat) / (1 <<< (-x.exponent).toNat) := by
    rw [Nat.shiftRight_eq_div_pow, Nat.one_shiftLeft]
  unfold truncate toRat
  split
  · rw [← Rat.neg_mkRat, integerPart_neg, habs, htoNat]
  · rw [habs, htoNat]

/-- No number beyond the greatest integer is rounded to a double that is not beyond it. -/
theorem Binary64.le_ofInt {n : Int} (hle : 2 ^ 63 ≤ n) (hn : n.natAbs.log2 < 1023) :
    2 ^ 63 ≤ (ofInt n).toRat := by
  have hbound : (ofInt (2 ^ 63)).toRat = 2 ^ 63 := by decide +kernel
  rw [← hbound]
  apply toRat_le_ofInt hn
  rw [hbound]
  exact_mod_cast hle

theorem Number.toInt_toInt64 (number : Number) :
    number.toInt64.toInt = saturate (integerPart number.toRat) := by
  cases number with
  | integer n fits =>
    rw [toRat, integerPart_intCast]
    rcases Int.lt_or_le n 0x8000000000000000 with hlt | hle
    · have hread : (integer n fits).toInt64 = Int64.ofInt n := by
        rw [toInt64, toInt64?, if_pos hlt]
      rw [hread, Int64.toInt_ofInt_of_le (by omega) (by omega), saturate_eq_self (by omega) (by omega)]
    · have hread : (integer n fits).toInt64 = Int64.ofIntClamp (Binary64.ofInt n).truncate := by
        rw [toInt64, toInt64?, if_neg (Int.not_lt.mpr hle)]
        rfl
      have hlog : n.natAbs.log2 < 64 := (Nat.log2_lt (by omega)).mpr (by omega)
      have hround : integerPart (2 ^ 63 : Int) ≤ integerPart (Binary64.ofInt n).toRat := by
        apply integerPart_mono
        exact_mod_cast Binary64.le_ofInt hle (by omega)
      rw [integerPart_intCast] at hround
      rw [hread, toInt_ofIntClamp, Binary64.truncate_eq, saturate_of_le hround, saturate_of_le hle]
  | float x finite =>
    have hread : (float x finite).toInt64 = Int64.ofIntClamp x.truncate := rfl
    rw [hread, toInt_ofIntClamp, Binary64.truncate_eq]
    rfl

end DotPath
