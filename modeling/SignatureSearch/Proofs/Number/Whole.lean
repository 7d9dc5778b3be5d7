import Mathlib.Algebra.Order.Field.Power
import Mathlib.Data.Rat.Cast.Order
import Mathlib.Tactic.NormNum
import Mathlib.Tactic.Positivity
import Mathlib.Tactic.Ring
import SignatureSearch.Number.Binary

/-!
# Whole numbers in the double format

Every whole number up to two to the fifty-third is a number of the double format.  So a fraction
whose value is such a whole number is its own nearest number, and so is a sum of two numbers of the
format when it comes to one.
-/

namespace SignatureSearch

open Number (twoTo)

theorem nearestWhole_mul (whole : Nat) {denominator : Nat} (pos : 0 < denominator) :
    nearestWhole (whole * denominator) denominator = whole := by
  rw [nearestWhole, Nat.mul_div_cancel _ pos, Nat.mul_mod_left, Nat.mul_zero, if_pos pos]

namespace Binary

/-- The number that a fraction of whole numbers stands for. -/
def ratio (fraction : Nat × Nat) : ℚ :=
  fraction.1 / fraction.2

/-- The number that a binary number stands for. -/
def value (x : Binary) : ℚ :=
  (if x.negative then -1 else 1) * (x.mantissa * 2 ^ x.exponent)

theorem cast_twoTo (exponent : Nat) : (twoTo exponent : ℚ) = 2 ^ exponent :=
  Nat.cast_pow 2 exponent

theorem value_negated (x : Binary) : x.negated.value = -x.value := by
  rw [value, value, negated]
  cases x.negative <;> simp

theorem value_eq_zero_iff (x : Binary) : x.value = 0 ↔ x.mantissa = 0 := by
  have sign : (if x.negative then (-1 : ℚ) else 1) ≠ 0 := by
    split <;> norm_num
  have power : (2 : ℚ) ^ x.exponent ≠ 0 := by positivity
  rw [value, mul_eq_zero, mul_eq_zero, or_iff_right sign, or_iff_left power, Nat.cast_eq_zero]

/-! ## Scaling -/

theorem scale_pos {fraction : Nat × Nat} (pos : 0 < fraction.2) (exponent : Int) :
    0 < (scale fraction exponent).2 := by
  rw [scale]
  split
  · exact Nat.mul_pos pos (Number.twoTo_pos _)
  · exact pos

theorem ratio_scale (fraction : Nat × Nat) (exponent : Int) :
    ratio (scale fraction exponent) = ratio fraction * 2 ^ exponent := by
  rw [scale]
  split
  · rename_i negative
    obtain ⟨places, rfl⟩ := Int.eq_negSucc_of_lt_zero negative
    rw [ratio, ratio, Nat.cast_mul, cast_twoTo, Int.natAbs_negSucc, zpow_negSucc,
      div_mul_eq_div_div, div_eq_mul_inv _ ((2 : ℚ) ^ _)]
  · rename_i positive
    obtain ⟨places, rfl⟩ := Int.eq_ofNat_of_zero_le (not_lt.mp positive)
    rw [ratio, ratio, Nat.cast_mul, cast_twoTo, Int.toNat_natCast, zpow_natCast, div_mul_eq_mul_div]

/-- A number counted in a power of two that is not above its own. -/
theorem value_eq_multiple (x : Binary) {exponent : Int} (least : exponent ≤ x.exponent) :
    x.value = x.multiple exponent * 2 ^ exponent := by
  have places : (2 : ℚ) ^ x.exponent = 2 ^ (x.exponent - exponent).toNat * 2 ^ exponent := by
    rw [← zpow_natCast, ← zpow_add₀ two_ne_zero, Int.toNat_of_nonneg (by omega)]
    congr 1
    omega
  rw [value, multiple, places]
  split
  · push_cast [cast_twoTo]
    ring
  · push_cast [cast_twoTo]
    ring

/-! ## The size of a fraction -/

theorem two_pow_log2_le {n : Nat} (pos : 0 < n) : (2 : ℚ) ^ (n.log2 : Int) ≤ n := by
  rw [zpow_natCast]
  exact_mod_cast Nat.log2_self_le pos.ne'

theorem lt_two_pow_log2 (n : Nat) : (n : ℚ) < 2 ^ (n.log2 + 1 : Int) := by
  have above : (n : ℚ) < 2 ^ (n.log2 + 1) := by exact_mod_cast Nat.lt_log2_self
  exact_mod_cast above

/-- The magnitude of a fraction is the power of two below it. -/
theorem magnitude_spec {fraction : Nat × Nat} (above : 0 < fraction.1) (below : 0 < fraction.2) :
    2 ^ magnitude fraction ≤ ratio fraction ∧ ratio fraction < 2 ^ (magnitude fraction + 1) := by
  let guess : Int := (fraction.1.log2 : Int) - fraction.2.log2
  have denominator : (0 : ℚ) < fraction.2 := by exact_mod_cast below
  have low : (2 : ℚ) ^ (guess - 1) ≤ ratio fraction := by
    rw [ratio, le_div_iff₀ denominator]
    calc (2 : ℚ) ^ (guess - 1) * fraction.2
        ≤ 2 ^ (guess - 1) * 2 ^ (fraction.2.log2 + 1 : Int) := by
          gcongr
          exact (lt_two_pow_log2 _).le
      _ = 2 ^ (fraction.1.log2 : Int) := by
          rw [← zpow_add₀ two_ne_zero]
          congr 1
          omega
      _ ≤ fraction.1 := two_pow_log2_le above
  have high : ratio fraction < 2 ^ (guess + 1) := by
    rw [ratio, div_lt_iff₀ denominator]
    calc (fraction.1 : ℚ)
        < 2 ^ (fraction.1.log2 + 1 : Int) := lt_two_pow_log2 _
      _ = 2 ^ (guess + 1) * 2 ^ (fraction.2.log2 : Int) := by
          rw [← zpow_add₀ two_ne_zero]
          congr 1
          omega
      _ ≤ 2 ^ (guess + 1) * fraction.2 := by
          gcongr
          exact two_pow_log2_le below
  have smaller : (scale fraction (-guess)).1 < (scale fraction (-guess)).2 ↔
      ratio fraction < 2 ^ guess := by
    have positive : (0 : ℚ) < (scale fraction (-guess)).2 := by
      exact_mod_cast scale_pos below _
    rw [← Nat.cast_lt (α := ℚ), ← div_lt_one positive, ← ratio, ratio_scale, zpow_neg,
      ← div_eq_mul_inv, div_lt_one (by positivity)]
  rw [magnitude]
  split
  · rename_i less
    exact ⟨low, by rw [sub_add_cancel]; exact smaller.mp less⟩
  · rename_i notLess
    exact ⟨not_lt.mp (mt smaller.mpr notLess), high⟩

/-! ## Numbers of the format -/

theorem nearestWhole_of_ratio {fraction : Nat × Nat} {whole : Nat} (below : 0 < fraction.2)
    (same : ratio fraction = whole) : nearestWhole fraction.1 fraction.2 = whole := by
  have denominator : (fraction.2 : ℚ) ≠ 0 := by exact_mod_cast below.ne'
  have numerator : fraction.1 = whole * fraction.2 := by
    exact_mod_cast (div_eq_iff denominator).mp same
  rw [numerator, nearestWhole_mul whole below]

/-- The power of two of which the number nearest to a fraction is a multiple. -/
def unit (fraction : Nat × Nat) : Int :=
  max (magnitude fraction - 52) leastExponent

theorem lt_of_multiple {fraction : Nat × Nat} {m : Nat} (below : 0 < fraction.2)
    (multiple : ratio fraction = m * 2 ^ unit fraction) : m < twoTo 53 := by
  have power : (0 : ℚ) < 2 ^ unit fraction := by positivity
  rcases Nat.eq_zero_or_pos fraction.1 with zero | above
  · have none : (m : ℚ) = 0 := by
      have vanishes : ratio fraction = 0 := by rw [ratio, zero, Nat.cast_zero, zero_div]
      exact (mul_eq_zero.mp (multiple.symm.trans vanishes)).resolve_right power.ne'
    rw [Nat.cast_eq_zero.mp none]
    exact Number.twoTo_pos 53
  · have high := (magnitude_spec above below).2
    have bound : ratio fraction < 2 ^ (53 : Int) * 2 ^ unit fraction := by
      refine high.trans_le ?_
      rw [← zpow_add₀ two_ne_zero]
      refine zpow_le_zpow_right₀ one_le_two ?_
      have reaches : magnitude fraction - 52 ≤ unit fraction := le_max_left _ _
      omega
    rw [multiple] at bound
    have less : (m : ℚ) < 2 ^ (53 : Int) := lt_of_mul_lt_mul_right bound power.le
    rw [← Nat.cast_lt (α := ℚ), cast_twoTo]
    exact_mod_cast less

/-- A fraction that is a multiple of the unit is its own nearest number. -/
theorem value_nearest_of_multiple {fraction : Nat × Nat} {m : Nat} (below : 0 < fraction.2)
    (multiple : ratio fraction = m * 2 ^ unit fraction) (negative : Bool) :
    (nearest negative fraction).value = (if negative then -1 else 1) * ratio fraction := by
  have counted : ratio (scale fraction (-unit fraction)) = m := by
    rw [ratio_scale, multiple, mul_assoc, ← zpow_add₀ two_ne_zero, add_neg_cancel, zpow_zero,
      mul_one]
  have mantissa : nearestWhole (scale fraction (-unit fraction)).1
      (scale fraction (-unit fraction)).2 = m :=
    nearestWhole_of_ratio (scale_pos below _) counted
  rw [nearest, ← unit, mantissa, if_pos (lt_of_multiple below multiple), value, multiple]

/-- Whole numbers up to two to the fifty-third are numbers of the format. -/
theorem exists_multiple {fraction : Nat × Nat} {n : Nat} (small : n ≤ 2 ^ 53)
    (below : 0 < fraction.2) (whole : ratio fraction = n) :
    ∃ m : Nat, ratio fraction = m * 2 ^ unit fraction := by
  rcases lt_or_ge 0 (unit fraction) with coarse | fine
  · -- The unit is above one only for two to the fifty-third itself.
    have large : unit fraction = magnitude fraction - 52 := by
      rw [unit, leastExponent] at coarse ⊢
      omega
    rcases Nat.eq_zero_or_pos fraction.1 with zero | above
    · exact ⟨0, by rw [ratio, zero, Nat.cast_zero, zero_div, zero_mul]⟩
    · have low := (magnitude_spec above below).1
      have top : (2 : ℚ) ^ magnitude fraction ≤ 2 ^ (53 : Int) := by
        rw [whole] at low
        refine low.trans ?_
        exact_mod_cast small
      have exponent : magnitude fraction = 53 := by
        have most := (zpow_le_zpow_iff_right₀ (one_lt_two : (1 : ℚ) < 2)).mp top
        omega
      have equal : n = 2 ^ 53 := by
        rw [whole, exponent] at low
        exact le_antisymm small (by exact_mod_cast low)
      refine ⟨2 ^ 52, ?_⟩
      rw [whole, large, exponent, equal]
      norm_num
  · refine ⟨n * 2 ^ (-unit fraction).toNat, ?_⟩
    have power : ((2 ^ (-unit fraction).toNat : Nat) : ℚ) = 2 ^ (-unit fraction) := by
      rw [Nat.cast_pow, Nat.cast_ofNat, ← zpow_natCast, Int.toNat_of_nonneg (by omega)]
    rw [Nat.cast_mul, power, mul_assoc, ← zpow_add₀ two_ne_zero, neg_add_cancel, zpow_zero,
      mul_one, whole]

theorem value_nearest {fraction : Nat × Nat} {n : Nat} (small : n ≤ 2 ^ 53)
    (below : 0 < fraction.2) (whole : ratio fraction = n) (negative : Bool) :
    (nearest negative fraction).value = (if negative then -1 else 1) * n := by
  obtain ⟨m, multiple⟩ := exists_multiple small below whole
  rw [value_nearest_of_multiple below multiple, whole]

/-- A whole number with its sign taken off and put back. -/
theorem sign_mul_natAbs (n : Int) :
    (if decide (n < 0) = true then -1 else 1) * (n.natAbs : ℚ) = n := by
  rw [Nat.cast_natAbs]
  by_cases below : n < 0
  · rw [if_pos (decide_eq_true below), abs_of_neg below, Int.cast_neg, neg_one_mul, neg_neg]
  · rw [if_neg (by simpa using below), abs_of_nonneg (not_lt.mp below), one_mul]

/-- A whole number that is not too large is kept as it is. -/
theorem value_ofInt? {n : Int} (small : n.natAbs ≤ 2 ^ 53) :
    ∃ x, ofInt? n = some x ∧ x.value = n := by
  have fits :
      Decimal.overflows { negative := n < 0, digits := n.natAbs, exponent := 0 } = false := by
    have bound : 2 ^ 53 < twoTo 1024 - twoTo 970 := by decide +kernel
    rw [Decimal.overflows]
    split
    · rfl
    · simp [Number.tenTo]
      omega
  rw [ofInt?, if_neg (by simp [fits])]
  refine ⟨_, rfl, ?_⟩
  rw [ofDecimal, value_nearest small]
  · exact sign_mul_natAbs n
  · exact Nat.one_pos
  · simp [ratio, Decimal.fraction, Number.tenTo]

/-- A sum that comes to a whole number is that number, if it is not too large. -/
theorem value_add {x y : Binary} {n : Int} (small : n.natAbs ≤ 2 ^ 53)
    (whole : x.value + y.value = n) : (x.add y).value = n := by
  let exponent := min x.exponent y.exponent
  let sum := x.multiple exponent + y.multiple exponent
  have power : (0 : ℚ) < 2 ^ exponent := by positivity
  have counted : (sum : ℚ) * 2 ^ exponent = n := by
    rw [← whole, value_eq_multiple x (min_le_left _ _), value_eq_multiple y (min_le_right _ _),
      ← add_mul, ← Int.cast_add]
  have size : ratio (scale (sum.natAbs, 1) exponent) = n.natAbs := by
    rw [ratio_scale, ratio, Nat.cast_one, div_one, Nat.cast_natAbs, Nat.cast_natAbs, Int.cast_abs,
      Int.cast_abs, ← counted, abs_mul, abs_of_pos power]
  have sign : decide (sum < 0) = decide (n < 0) := by
    have both : (sum : ℚ) < 0 ↔ (n : ℚ) < 0 := by
      rw [← counted, ← neg_pos, ← neg_pos, ← neg_mul, mul_pos_iff_of_pos_right power]
    exact decide_eq_decide.mpr (by exact_mod_cast both)
  rw [add, sign, value_nearest small (scale_pos Nat.one_pos exponent) size]
  exact sign_mul_natAbs n

end Binary
end SignatureSearch
