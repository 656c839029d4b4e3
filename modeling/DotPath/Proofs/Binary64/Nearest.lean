import DotPath.Proofs.Binary64.Rounding
import DotPath.Proofs.Binary64.Units
import Mathlib.Algebra.Order.Field.Basic

/-!
This module contains the proof that integers are rounded to the nearest double. The doubles around an
integer are the multiples of its last place, and it is rounded to one of them that is at most half a place
away. So an integer and the double that it is rounded to have no double between them.
-/

namespace DotPath.Binary64

theorem roundDiv_near (num : Nat) {den : Nat} (hden : 0 < den) :
    2 * (roundDiv num den * den) ≤ 2 * num + den ∧ 2 * num ≤ 2 * (roundDiv num den * den) + den := by
  have hdiv := Nat.div_add_mod' num den
  have hsucc : (num / den + 1) * den = num / den * den + den := Nat.succ_mul _ _
  unfold roundDiv
  dsimp only
  split
  · next hlt =>
    rw [Nat.compare_eq_lt] at hlt
    omega
  · next heq =>
    rw [Nat.compare_eq_eq] at heq
    rcases Nat.mod_two_eq_zero_or_one (num / den) with heven | hodd
    · rw [heven, Nat.add_zero]
      omega
    · rw [hodd, hsucc]
      omega
  · next hgt =>
    rw [Nat.compare_eq_gt] at hgt
    have hmod := Nat.mod_lt num hden
    rw [hsucc]
    omega

/-- `n` is rounded to `u` in units of its last place, the `e`-th one; it is at most half a place away. -/
structure Rounded (n e u : Nat) : Prop where
  magnitude : nearestMagnitude n 1 = e * 0x10000000000000 + u
  le_significand : 0x10000000000000 ≤ u
  significand_le : u ≤ 0x20000000000000
  binade : 0x10000000000000 * 2 ^ e ≤ n * unitsOfOne
  le_add : 2 * (u * 2 ^ e) ≤ 2 * (n * unitsOfOne) + 2 ^ e
  add_le : 2 * (n * unitsOfOne) ≤ 2 * (u * 2 ^ e) + 2 ^ e

theorem magnitude_eq_of_log2_lt {n : Nat} (hne : n ≠ 0) (h : n.log2 < 1023) :
    nearestMagnitude n 1 = (n.log2 + 1022) * 0x10000000000000
      + roundDiv (n * 2 ^ (52 - n.log2)) (2 ^ (n.log2 - 52)) := by
  have hfinite := nearestMagnitude_lt h
  have hplace : max (log2Div n 1 - 52) (-1074) = (n.log2 : Int) - 52 := by
    rw [log2Div_one hne]
    omega
  have hnum : (-((n.log2 : Int) - 52)).toNat = 52 - n.log2 := by omega
  have hden : ((n.log2 : Int) - 52).toNat = n.log2 - 52 := by omega
  have hbase : ((n.log2 : Int) - 52 + 1074).toNat = n.log2 + 1022 := by omega
  unfold nearestMagnitude at hfinite ⊢
  rw [if_neg hne] at hfinite ⊢
  simp only [hplace, hnum, hden, hbase, Nat.shiftLeft_eq, Nat.one_mul] at hfinite ⊢
  omega

theorem exists_rounded {n : Nat} (hne : n ≠ 0) (h : n.log2 < 1023) : ∃ e u, Rounded n e u := by
  let num := n * 2 ^ (52 - n.log2)
  let den := 2 ^ (n.log2 - 52)
  obtain ⟨e, he⟩ : ∃ e, e = n.log2 + 1022 := ⟨_, rfl⟩
  have hpos : 0 < den := Nat.two_pow_pos _
  have hscale : n * unitsOfOne * den = num * 2 ^ e := by
    have hexponent : 52 - n.log2 + e = n.log2 - 52 + 1074 := by omega
    show n * unitsOfOne * 2 ^ (n.log2 - 52) = n * 2 ^ (52 - n.log2) * 2 ^ e
    rw [Nat.mul_assoc, Nat.mul_comm unitsOfOne, pow_mul_unitsOfOne, ← hexponent, Nat.pow_add,
      Nat.mul_assoc]
  have hbinade : 0x10000000000000 * den ≤ num := by
    calc 0x10000000000000 * den
      _ = 2 ^ (52 + (n.log2 - 52)) := (Nat.pow_add 2 52 _).symm
      _ = 2 ^ (n.log2 + (52 - n.log2)) := by congr 1; omega
      _ = 2 ^ n.log2 * 2 ^ (52 - n.log2) := Nat.pow_add 2 _ _
      _ ≤ num := Nat.mul_le_mul_right _ (Nat.log2_self_le hne)
  have hnear := roundDiv_near num hpos
  have hupper : roundDiv num den ≤ 0x20000000000000 := by
    have hround := roundDiv_shiftLeft_le (n := n) (a := 52 - n.log2) (b := n.log2 - 52) (by omega)
    rwa [Nat.shiftLeft_eq, Nat.shiftLeft_eq, Nat.one_mul] at hround
  refine ⟨e, roundDiv num den, he ▸ magnitude_eq_of_log2_lt hne h, ?_, hupper, ?_, ?_, ?_⟩
  · by_contra hlt
    have hle : (roundDiv num den + 1) * den ≤ 0x10000000000000 * den :=
      Nat.mul_le_mul_right den (by omega)
    rw [Nat.succ_mul] at hle
    omega
  · apply Nat.le_of_mul_le_mul_right _ hpos
    rw [hscale, Nat.mul_right_comm]
    exact Nat.mul_le_mul_right _ hbinade
  · apply Nat.le_of_mul_le_mul_right _ hpos
    calc 2 * (roundDiv num den * 2 ^ e) * den
      _ = 2 * (roundDiv num den * den) * 2 ^ e := by ring
      _ ≤ (2 * num + den) * 2 ^ e := Nat.mul_le_mul_right _ hnear.1
      _ = 2 * (num * 2 ^ e) + 2 ^ e * den := by ring
      _ = (2 * (n * unitsOfOne) + 2 ^ e) * den := by rw [← hscale]; ring
  · apply Nat.le_of_mul_le_mul_right _ hpos
    calc 2 * (n * unitsOfOne) * den
      _ = 2 * num * 2 ^ e := by rw [Nat.mul_assoc, hscale, ← Nat.mul_assoc]
      _ ≤ (2 * (roundDiv num den * den) + den) * 2 ^ e := Nat.mul_le_mul_right _ hnear.2
      _ = (2 * (roundDiv num den * 2 ^ e) + 2 ^ e) * den := by ring

theorem units_significand {e u : Nat} (hle : 0x10000000000000 ≤ u) (hlt : u ≤ 0x20000000000000) :
    units (e * 0x10000000000000 + u) = u * 2 ^ e := by
  rcases Nat.lt_or_ge u 0x20000000000000 with hinner | hend
  · have hplace : e * 0x10000000000000 + u = (e + 1) * 0x10000000000000 + (u - 0x10000000000000) := by
      omega
    rw [hplace, units_mul_add e (by omega), Nat.add_sub_cancel' hle]
  · have hplace : e * 0x10000000000000 + u = (e + 1 + 1) * 0x10000000000000 + 0 := by omega
    have hend : u = 0x10000000000000 * 2 := by omega
    rw [hplace, units_mul_add (e + 1) (by decide), hend, Nat.add_zero, Nat.pow_succ', Nat.mul_assoc]

namespace Rounded

variable {n e u m : Nat}

theorem units_eq (h : Rounded n e u) : units (nearestMagnitude n 1) = u * 2 ^ e := by
  rw [h.magnitude, units_significand h.le_significand h.significand_le]

/-- The next magnitudes are at least one last place away. -/
theorem above (h : Rounded n e u) (hm : nearestMagnitude n 1 < m) : u * 2 ^ e + 2 ^ e ≤ units m := by
  have hbinade : e ≤ nearestMagnitude n 1 / 0x10000000000000 - 1 := by
    have hmagnitude := h.magnitude
    have hsignificand := h.le_significand
    omega
  calc u * 2 ^ e + 2 ^ e
    _ ≤ units (nearestMagnitude n 1) + 2 ^ (nearestMagnitude n 1 / 0x10000000000000 - 1) := by
      rw [h.units_eq]
      exact Nat.add_le_add_left (Nat.pow_le_pow_right Nat.two_pos hbinade) _
    _ = units (nearestMagnitude n 1 + 1) := (units_succ _).symm
    _ ≤ units m := units_strictMono.monotone hm

/-- The magnitudes before are so, too, unless a binade begins here, and then it has not been rounded up. -/
theorem below (h : Rounded n e u) (hm : m < nearestMagnitude n 1) :
    units m + 2 ^ e ≤ u * 2 ^ e ∨ units m < u * 2 ^ e ∧ u * 2 ^ e ≤ n * unitsOfOne := by
  have hsignificand := h.le_significand
  have hend := h.significand_le
  have hmagnitude := h.magnitude
  rcases Nat.eq_or_lt_of_le hsignificand with hfirst | hinner
  · right
    rw [← h.units_eq]
    refine ⟨units_strictMono hm, ?_⟩
    rw [h.units_eq, ← hfirst]
    exact h.binade
  · left
    have hprevious : units m ≤ units (e * 0x10000000000000 + (u - 1)) :=
      units_strictMono.monotone (by omega)
    rw [units_significand (by omega) (by omega)] at hprevious
    have hplace : (u - 1) * 2 ^ e + 2 ^ e = u * 2 ^ e := by
      rw [← Nat.succ_mul, Nat.succ_eq_add_one, Nat.sub_add_cancel (by omega)]
    omega

theorem exact (h : Rounded n e u) (hplace : 2 ^ e ∣ n * unitsOfOne) : u * 2 ^ e = n * unitsOfOne := by
  rcases hplace with ⟨q, hq⟩
  have hle := h.le_add
  have hge := h.add_le
  have hpos := Nat.two_pow_pos e
  rw [hq, Nat.mul_comm _ q] at hle hge ⊢
  rcases Nat.lt_trichotomy u q with hlt | rfl | hgt
  · have hsucc := Nat.mul_le_mul_right (2 ^ e) (Nat.succ_le_of_lt hlt)
    rw [Nat.succ_mul] at hsucc
    omega
  · rfl
  · have hsucc := Nat.mul_le_mul_right (2 ^ e) (Nat.succ_le_of_lt hgt)
    rw [Nat.succ_mul] at hsucc
    omega

theorem place_dvd_of_lt (h : Rounded n e u) (hn : n < 2 ^ 53) : 2 ^ e ∣ unitsOfOne := by
  have hlt : 2 ^ (52 + e) < 2 ^ (53 + 1074) := by
    calc 2 ^ (52 + e)
      _ = 2 ^ 52 * 2 ^ e := Nat.pow_add 2 52 e
      _ ≤ n * unitsOfOne := h.binade
      _ < 2 ^ 53 * unitsOfOne := Nat.mul_lt_mul_of_pos_right hn unitsOfOne_pos
      _ = 2 ^ (53 + 1074) := pow_mul_unitsOfOne 53
  have hplace := (Nat.pow_lt_pow_iff_right Nat.one_lt_two).mp hlt
  rw [unitsOfOne_eq]
  apply Nat.pow_dvd_pow
  omega

theorem dvd_place_of_le (h : Rounded n e u) (hn : 2 ^ 53 ≤ n) : unitsOfOne ∣ 2 ^ e := by
  rw [unitsOfOne_eq]
  apply Nat.pow_dvd_pow
  by_contra hlt
  have hplace : 2 ^ e * 2 ≤ unitsOfOne := by
    rw [← Nat.pow_succ, unitsOfOne_eq]
    apply Nat.pow_le_pow_right Nat.two_pos
    omega
  have hle : 2 ^ 53 * unitsOfOne ≤ n * unitsOfOne := Nat.mul_le_mul_right _ hn
  have hend : u * 2 ^ e ≤ 2 ^ 53 * 2 ^ e := Nat.mul_le_mul_right _ h.significand_le
  have hnear := h.add_le
  have hpos := unitsOfOne_pos
  omega

end Rounded

theorem le_nearestMagnitude {n m : Nat} (hn : n.log2 < 1023) (h : units m ≤ n * unitsOfOne) :
    m ≤ nearestMagnitude n 1 := by
  rcases Nat.eq_zero_or_pos n with rfl | hpos
  · rw [Nat.zero_mul, Nat.le_zero_eq, units_eq_zero_iff] at h
    omega
  · rcases exists_rounded hpos.ne' hn with ⟨e, u, hround⟩
    by_contra hlt
    have habove := hround.above (Nat.lt_of_not_le hlt)
    have hnear := hround.add_le
    have hplace := Nat.two_pow_pos e
    omega

theorem nearestMagnitude_le_of_le_units {n m : Nat} (hn : n.log2 < 1023)
    (h : n * unitsOfOne ≤ units m) : nearestMagnitude n 1 ≤ m := by
  rcases Nat.eq_zero_or_pos n with rfl | hpos
  · exact Nat.zero_le m
  · rcases exists_rounded hpos.ne' hn with ⟨e, u, hround⟩
    by_contra hlt
    have hnear := hround.le_add
    have hplace := Nat.two_pow_pos e
    rcases hround.below (Nat.lt_of_not_le hlt) with hbelow | hbelow
    · omega
    · omega

theorem units_nearestMagnitude {n : Nat} (hn : n.log2 < 1023) (m : Nat) :
    ((units (nearestMagnitude n 1) : Int) - n * unitsOfOne).natAbs
      ≤ ((units m : Int) - n * unitsOfOne).natAbs := by
  rcases Nat.eq_zero_or_pos n with rfl | hpos
  · have hzero : units (nearestMagnitude 0 1) = 0 := rfl
    rw [hzero]
    omega
  · rcases exists_rounded hpos.ne' hn with ⟨e, u, hround⟩
    have hle := hround.le_add
    have hge := hround.add_le
    rw [hround.units_eq]
    rcases Nat.lt_trichotomy m (nearestMagnitude n 1) with hlt | rfl | hgt
    · rcases hround.below hlt with hbelow | hbelow
      · omega
      · omega
    · rw [hround.units_eq]
    · have habove := hround.above hgt
      omega

theorem units_eq_of_lt {n : Nat} (hn : n < 2 ^ 53) :
    units (nearestMagnitude n 1) = n * unitsOfOne := by
  rcases Nat.eq_zero_or_pos n with rfl | hpos
  · rw [Nat.zero_mul]
    rfl
  · have hlog : n.log2 < 53 := (Nat.log2_lt hpos.ne').mpr hn
    rcases exists_rounded hpos.ne' (by omega) with ⟨e, u, hround⟩
    rw [hround.units_eq]
    apply hround.exact
    exact Dvd.dvd.mul_left (hround.place_dvd_of_lt hn) n

theorem unitsOfOne_dvd_units {n : Nat} (hn : n.log2 < 1023) :
    unitsOfOne ∣ units (nearestMagnitude n 1) := by
  rcases Nat.lt_or_ge n (2 ^ 53) with hlt | hge
  · rw [units_eq_of_lt hlt]
    exact Nat.dvd_mul_left _ _
  · have hne : n ≠ 0 := by
      rintro rfl
      cases hge
    rcases exists_rounded hne hn with ⟨e, u, hround⟩
    rw [hround.units_eq]
    exact Dvd.dvd.mul_left (hround.dvd_place_of_le hge) u

section Signed

variable {x : Binary64} {n : Int}

theorem signedUnits_ofInt_natCast (k : Nat) :
    (ofInt k).signedUnits = units (nearestMagnitude k 1) := by
  have hsign : (ofInt k).negative = false := decide_eq_false (Int.not_lt.mpr (Int.natCast_nonneg k))
  rw [signedUnits, hsign]
  rfl

theorem signedUnits_ofInt_neg (k : Nat) :
    (ofInt (-k)).signedUnits = -units (nearestMagnitude k 1) := by
  have hmagnitude : (ofInt (-k)).magnitude = nearestMagnitude k 1 := by
    show nearestMagnitude (-(k : Int)).natAbs 1 = _
    rw [Int.natAbs_neg, Int.natAbs_natCast]
  rw [signedUnits, hmagnitude]
  split
  · rfl
  · next hsign =>
    -- Zero has no sign.
    have hnonneg : ¬ -(k : Int) < 0 := of_decide_eq_false (Bool.not_eq_true _ ▸ hsign)
    have hzero : k = 0 := by omega
    rw [hzero]
    rfl

theorem toRat_le_intCast_iff : x.toRat ≤ n ↔ x.signedUnits ≤ n * unitsOfOne := by
  have hone : (0 : ℚ) < unitsOfOne := Nat.cast_pos.mpr unitsOfOne_pos
  rw [toRat_eq, div_le_iff₀ hone]
  norm_cast

theorem intCast_le_toRat_iff : n ≤ x.toRat ↔ n * unitsOfOne ≤ x.signedUnits := by
  have hone : (0 : ℚ) < unitsOfOne := Nat.cast_pos.mpr unitsOfOne_pos
  rw [toRat_eq, le_div_iff₀ hone]
  norm_cast

theorem toRat_le_toRat_iff {y : Binary64} : x.toRat ≤ y.toRat ↔ x.signedUnits ≤ y.signedUnits := by
  rw [← not_lt, toRat_lt_toRat_iff, Int.not_lt]

theorem abs_toRat_sub (x : Binary64) (n : Int) :
    |x.toRat - n| = ((x.signedUnits - n * unitsOfOne).natAbs : ℚ) / unitsOfOne := by
  have hone : (0 : ℚ) < unitsOfOne := Nat.cast_pos.mpr unitsOfOne_pos
  have hsub : x.toRat - n = (x.signedUnits - n * unitsOfOne : Int) / unitsOfOne := by
    rw [toRat_eq, Int.cast_sub, sub_div, Int.cast_mul, Int.cast_natCast, mul_div_cancel_right₀ _ hone.ne']
  rw [hsub, abs_div, abs_of_pos hone, Nat.cast_natAbs, Int.cast_abs]

/-- What holds of magnitudes holds of both signs, by symmetry, and doubles of the other sign are far away. -/
theorem signedUnits_ofInt (hn : n.natAbs.log2 < 1023) (x : Binary64) :
    (x.signedUnits ≤ n * unitsOfOne → x.signedUnits ≤ (ofInt n).signedUnits)
      ∧ (n * unitsOfOne ≤ x.signedUnits → (ofInt n).signedUnits ≤ x.signedUnits)
      ∧ ((ofInt n).signedUnits - n * unitsOfOne).natAbs ≤ (x.signedUnits - n * unitsOfOne).natAbs := by
  obtain ⟨k, hk, hsigned⟩ : ∃ k, n.natAbs = k
      ∧ (n * unitsOfOne = (k * unitsOfOne : Nat) ∧ (ofInt n).signedUnits = units (nearestMagnitude k 1)
        ∨ n * unitsOfOne = -(k * unitsOfOne : Nat)
          ∧ (ofInt n).signedUnits = -units (nearestMagnitude k 1)) := by
    rcases Int.eq_nat_or_neg n with ⟨k, rfl | rfl⟩
    · exact ⟨k, Int.natAbs_natCast k, .inl ⟨rfl, signedUnits_ofInt_natCast k⟩⟩
    · exact ⟨k, by simp, .inr ⟨Int.neg_mul _ _, signedUnits_ofInt_neg k⟩⟩
  rw [hk] at hn
  have hle := le_nearestMagnitude (m := x.magnitude) hn
  have hge := nearestMagnitude_le_of_le_units (m := x.magnitude) hn
  rw [← units_strictMono.le_iff_le] at hle hge
  have hnear := units_nearestMagnitude hn x.magnitude
  have hzero := units_nearestMagnitude hn 0
  have hnone : units 0 = 0 := units_of_lt (by decide)
  rw [← Int.natCast_mul] at hnear hzero
  unfold signedUnits at hsigned ⊢
  generalize k * unitsOfOne = distance at hle hge hnear hzero hsigned
  rcases hsigned with ⟨hunits, hround⟩ | ⟨hunits, hround⟩
  · rw [hunits, hround]
    split <;> omega
  · rw [hunits, hround]
    split <;> omega

/-- No double lies between an integer and the double that it is rounded to. -/
theorem toRat_le_ofInt (hn : n.natAbs.log2 < 1023) (h : x.toRat ≤ n) : x.toRat ≤ (ofInt n).toRat := by
  rw [toRat_le_toRat_iff]
  exact (signedUnits_ofInt hn x).1 (toRat_le_intCast_iff.mp h)

theorem ofInt_le_toRat (hn : n.natAbs.log2 < 1023) (h : n ≤ x.toRat) : (ofInt n).toRat ≤ x.toRat := by
  rw [toRat_le_toRat_iff]
  exact (signedUnits_ofInt hn x).2.1 (intCast_le_toRat_iff.mp h)

theorem abs_ofInt_sub_le (hn : n.natAbs.log2 < 1023) (x : Binary64) :
    |(ofInt n).toRat - n| ≤ |x.toRat - n| := by
  have hone : (0 : ℚ) < unitsOfOne := Nat.cast_pos.mpr unitsOfOne_pos
  rw [abs_toRat_sub, abs_toRat_sub, div_le_div_iff_of_pos_right hone, Nat.cast_le]
  exact (signedUnits_ofInt hn x).2.2

theorem ofInt_eq_of_lt (hn : n.natAbs < 2 ^ 53) : (ofInt n).toRat = n := by
  have hone : (unitsOfOne : ℚ) ≠ 0 := Nat.cast_ne_zero.mpr unitsOfOne_pos.ne'
  have hunits := units_eq_of_lt hn
  rw [toRat_eq, div_eq_iff hone]
  rcases Int.eq_nat_or_neg n with ⟨k, rfl | rfl⟩
  · rw [Int.natAbs_natCast] at hunits
    rw [signedUnits_ofInt_natCast, hunits]
    norm_cast
  · rw [Int.natAbs_neg, Int.natAbs_natCast] at hunits
    rw [signedUnits_ofInt_neg, hunits]
    push_cast
    rw [neg_mul]

/-- Integers are rounded to integers. -/
theorem exists_ofInt_eq (hn : n.natAbs.log2 < 1023) : ∃ k : Int, (ofInt n).toRat = k := by
  have hone : (unitsOfOne : ℚ) ≠ 0 := Nat.cast_ne_zero.mpr unitsOfOne_pos.ne'
  rcases unitsOfOne_dvd_units hn with ⟨k, hk⟩
  simp only [toRat_eq, div_eq_iff hone]
  rcases Int.eq_nat_or_neg n with ⟨j, rfl | rfl⟩
  · rw [Int.natAbs_natCast] at hk
    refine ⟨k, ?_⟩
    rw [signedUnits_ofInt_natCast, hk, Nat.mul_comm]
    norm_cast
  · rw [Int.natAbs_neg, Int.natAbs_natCast] at hk
    refine ⟨-k, ?_⟩
    rw [signedUnits_ofInt_neg, hk, Nat.mul_comm]
    push_cast
    rw [neg_mul]

end Signed

end DotPath.Binary64
