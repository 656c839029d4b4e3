import DotPath.Proofs.Binary64.Nearest
import DotPath.Proofs.Filter.Partition

/-!
This module contains what numeric filters make of the values of numbers. An integer is compared to the
literal as it is, and a double to the double nearest to the literal. So a double is taken for the literal
if it is this nearest double. For all others it makes no difference which of the two it is compared to,
since no double lies between an integer and the double nearest to it.
-/

namespace DotPath

namespace Comparator

/-- What the comparator says of two numbers. -/
def Relates (comparator : Comparator) (a b : ℚ) : Prop :=
  match comparator with
  | .eq => a = b
  | .neq => a ≠ b
  | .lt => a < b
  | .le => a ≤ b
  | .gt => b < a
  | .ge => b ≤ a

theorem holds_compare_iff (comparator : Comparator) (a b : ℚ) :
    comparator.holds (compare a b) = true ↔ comparator.Relates a b := by
  cases comparator with
  | eq => simp [holds, Relates]
  | neq => simp [holds, Relates]
  | lt => simp [holds, Relates, compare_lt_iff_lt]
  | le => simp [holds, Relates, compare_gt_iff_gt]
  | gt => simp [holds, Relates, compare_gt_iff_gt]
  | ge => simp [holds, Relates, compare_lt_iff_lt]

end Comparator

theorem log2_natAbs_toInt_lt (n : Int64) : n.toInt.natAbs.log2 < 1023 := by
  have hge := n.le_toInt
  have hlt := n.toInt_lt
  rcases Nat.eq_zero_or_pos n.toInt.natAbs with hzero | hpos
  · rw [hzero]
    decide
  · have hlog : n.toInt.natAbs.log2 < 64 := (Nat.log2_lt hpos.ne').mpr (by omega)
    omega

namespace Number

/-- The number is the double nearest to the integer, and not the integer itself. -/
def Blurs (number : Number) (n : Int) : Prop :=
  ∃ x finite, number = .float x finite ∧ x.toRat = (Binary64.ofInt n).toRat ∧ x.toRat ≠ n

variable {number : Number} {n : Int64}

theorem compareInt64_of_not_blurs (h : ¬ number.Blurs n.toInt) :
    number.compareInt64 n = compare number.toRat n.toInt := by
  cases number with
  | integer m fits =>
    show compare m n.toInt = compare (m : ℚ) n.toInt
    exact compare_eq_compare Int.cast_lt.symm Int.cast_lt.symm
  | float x finite =>
    have hlog := log2_natAbs_toInt_lt n
    -- Rounding the literal passes no double. At most it ends at `x`, and then `x` is taken for the literal.
    have hne (hdiffers : x.toRat ≠ n.toInt) : x.toRat ≠ (Binary64.ofInt n.toInt).toRat := by
      intro hnearest
      exact h ⟨x, finite, rfl, hnearest, hdiffers⟩
    show x.order (Binary64.ofInt n.toInt) = compare x.toRat n.toInt
    rw [Binary64.order_eq_compare]
    apply compare_eq_compare
    · constructor
      · intro hlt
        by_contra hge
        exact hlt.not_ge (Binary64.ofInt_le_toRat hlog (not_lt.mp hge))
      · intro hlt
        exact lt_of_le_of_ne (Binary64.toRat_le_ofInt hlog hlt.le) (hne hlt.ne)
    · constructor
      · intro hgt
        by_contra hle
        exact hgt.not_ge (Binary64.toRat_le_ofInt hlog (not_lt.mp hle))
      · intro hgt
        exact lt_of_le_of_ne (Binary64.ofInt_le_toRat hlog hgt.le) (hne hgt.ne').symm

theorem compareInt64_of_blurs (h : number.Blurs n.toInt) : number.compareInt64 n = .eq := by
  rcases h with ⟨x, finite, rfl, hnearest, -⟩
  show x.order (Binary64.ofInt n.toInt) = .eq
  rw [Binary64.order_eq_compare, compare_eq_iff_eq]
  exact hnearest

/-- Only integers can be taken for other integers, and only where not every integer is a double. -/
theorem Blurs.le_natAbs (h : number.Blurs n.toInt) :
    2 ^ 53 ≤ n.toInt.natAbs ∧ ∃ k : Int, number.toRat = k := by
  rcases h with ⟨x, finite, rfl, hnearest, hdiffers⟩
  constructor
  · by_contra hlt
    rw [Binary64.ofInt_eq_of_lt (Nat.lt_of_not_le hlt)] at hnearest
    exact hdiffers hnearest
  · rcases Binary64.exists_ofInt_eq (log2_natAbs_toInt_lt n) with ⟨k, hk⟩
    exact ⟨k, hnearest.trans hk⟩

end Number

namespace Json

variable {item : Json} {name : String} {number : Number}

theorem compareField_number (h : item.child? (.member name) = some (.number number)) (n : Int64) :
    item.compareField name (.integer n) = .ok (number.compareInt64 n) := by
  rw [compareField, member_eq_ok_iff.mpr h]
  rfl

end Json

namespace Filter

variable {item : Json} {name : String} {number : Number}

/--
A field that holds a number is compared to a literal. This never fails, and all comparators say of the
field what is true of its value, unless it is a double that is nearest to the literal without being the
literal. Such a double is taken for the literal. It is an integer then, and the literal has more than 53 bits.
No double is nearer to the literal than the one that it is rounded to.
-/
theorem eval_number_iff (h : item.child? (.member name) = some (.number number)) (literal : Int64)
    (index : Nat) :
    let compared (comparator : Comparator) :=
      (Filter.comparison (.field comparator name (.integer literal))).eval index item
    (∀ comparator, ∃ holds, compared comparator = .ok holds)
      ∧ ((∀ comparator, compared comparator = .ok true ↔ comparator.Relates number.toRat literal.toInt)
          ↔ ¬ number.Blurs literal.toInt)
      ∧ (number.Blurs literal.toInt →
        (∀ comparator, compared comparator = .ok (comparator.holds .eq))
          ∧ 2 ^ 53 ≤ literal.toInt.natAbs ∧ ∃ k : Int, number.toRat = k)
      ∧ ∀ x : Binary64, |(Binary64.ofInt literal.toInt).toRat - literal.toInt| ≤ |x.toRat - literal.toInt| := by
  intro compared
  have hcompared (comparator : Comparator) :
      compared comparator = .ok (comparator.holds (number.compareInt64 literal)) := by
    show Filter.eval _ index item = _
    rw [Filter.eval, Comparison.eval_field, Json.compareField_number h]
    rfl
  simp only [hcompared]
  refine ⟨?_, ⟨?_, ?_⟩, ?_, ?_⟩
  · intro comparator
    exact ⟨_, rfl⟩
  · intro hexact hblurs
    have hequal : number.toRat = literal.toInt := by
      apply (hexact .eq).mp
      rw [Number.compareInt64_of_blurs hblurs]
      rfl
    rcases hblurs with ⟨x, finite, rfl, -, hdiffers⟩
    exact hdiffers hequal
  · intro hblurs comparator
    rw [Number.compareInt64_of_not_blurs hblurs, ← Comparator.holds_compare_iff, Except.ok.injEq]
  · intro hblurs
    refine ⟨?_, hblurs.le_natAbs⟩
    intro comparator
    rw [Number.compareInt64_of_blurs hblurs]
  · exact Binary64.abs_ofInt_sub_le (log2_natAbs_toInt_lt literal)

/-- A hundred written with an exponent is a double, and one that is equal to the integer `100`. -/
theorem eval_number_iff_of_hundred :
    let number := Number.float ⟨false, 0x4059000000000000, by decide⟩ (by decide)
    let item := Json.object [("k", .number number)]
    let compared (comparator : Comparator) :=
      (Filter.comparison (.field comparator "k" (.integer 100))).eval 0 item
    item.child? (.member "k") = some (.number number) ∧ number.toRat = 100
      ∧ ¬ number.Blurs (100 : Int64).toInt ∧ compared .eq = .ok true ∧ compared .lt ≠ .ok true := by
  intro number item compared
  have hfield : item.child? (.member "k") = some (.number number) := rfl
  have hvalue : number.toRat = 100 := by decide +kernel
  have hliteral : (100 : Int64).toInt = 100 := by decide
  rcases eval_number_iff hfield 100 0 with ⟨-, hexact, hblurs, -⟩
  have hsharp : ¬ number.Blurs (100 : Int64).toInt := by
    intro h
    exact absurd (hblurs h).2.1 (by decide)
  have hrelates := hexact.mpr hsharp
  rw [hvalue, hliteral] at hrelates
  refine ⟨hfield, hvalue, hsharp, (hrelates .eq).mpr rfl, ?_⟩
  intro hless
  exact absurd ((hrelates .lt).mp hless) (lt_irrefl 100)

/-- The double is `2 ^ 53`, the literal is one more, and both have the same nearest double. -/
theorem lookup_takes_nearest_double_for_literal :
    let number := Number.float ⟨false, 0x4340000000000000, by decide⟩ (by decide)
    let item := Json.object [("k", .number number)]
    let root := Json.object [("a", item)]
    number.toRat = 9007199254740992
      ∧ ¬ Comparator.eq.Relates number.toRat (9007199254740993 : Int64).toInt
      ∧ (Filter.comparison (.field .eq "k" (.integer 9007199254740993))).eval 0 item = .ok true
      ∧ root.lookup "a[k==9007199254740993]" = .ok (.many [item]) := by
  intro number item root
  have hvalue : number.toRat = 9007199254740992 := by decide +kernel
  have hliteral : (9007199254740993 : Int64).toInt = 9007199254740993 := by decide
  let filter := Filter.comparison (.field .eq "k" (.integer 9007199254740993))
  have hparse : Path.parse "a[k==9007199254740993]" = .ok (.first ⟨"a", false, [filter]⟩) := by
    decide +kernel
  have hkeeps : filter.eval 0 item = .ok true := by
    decide +kernel
  refine ⟨hvalue, ?_, hkeeps, ?_⟩
  · rw [hvalue, hliteral]
    show ¬ (9007199254740992 : ℚ) = (9007199254740993 : Int)
    norm_num
  · rw [Json.lookup, hparse]
    rfl

end Filter

end DotPath
