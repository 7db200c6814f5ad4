import EntityQuery.Decimal.Binary64
import Mathlib.Algebra.Order.Field.Power
import Mathlib.Data.Int.Log
import Mathlib.Data.Rat.Floor
import Mathlib.Tactic.FieldSimp
import Mathlib.Tactic.Linarith
import Mathlib.Tactic.NormNum
import Mathlib.Tactic.Positivity
import Mathlib.Tactic.Ring

/-!
# Rounding to the nearest

A ratio of natural numbers is rounded to a number of the format that no other is
closer to, and of two such numbers to the one with the even significand.  Only a
ratio that is half a step or more beyond the largest number is not finite.

## Main Definitions

* `Binary64.magnitude`: the absolute value of a number.
* `Binary64.InFormat`: the one representation that every number has.
* `Binary64.IsNearest`: what a positive number is rounded to.
* `Binary64.RoundsTo`: the rounding of a number, which may be infinite.

## Main Statements

* `Binary64.roundsTo_ofRatio?`: the rounding of a ratio.

## Design Notes

Rounding happens on a grid of multiples of `2 ^ e`.  With that exponent, the
ratio has a significand of 53 bits before the point, or `e` is the least exponent
there is.  Numbers of the format that are not on the grid are smaller than the
least significand of 53 bits, which is on it, and so never closer.
-/

namespace EntityQuery.Decimal

/-! ## Division -/

section Division

variable {den : Nat}

/-- A ratio is its quotient and the part that is left over. -/
theorem ratio_eq_div_add_mod (num : Nat) (pos : 0 < den) :
    (num : ℚ) / den = (num / den : Nat) + (num % den : Nat) / (den : ℚ) := by
  have split : (den : ℚ) * (num / den : Nat) + (num % den : Nat) = num := by
    exact_mod_cast Nat.div_add_mod num den
  have nonzero : (den : ℚ) ≠ 0 := by positivity
  rw [← split]
  field_simp

/-- Rounded division is off by a half at most, and by a half only to reach an even number. -/
theorem divideToEven_near (num : Nat) (pos : 0 < den) :
    |(divideToEven num den : ℚ) - num / den| ≤ 1 / 2 ∧
      (|(divideToEven num den : ℚ) - num / den| = 1 / 2 → Even (divideToEven num den)) := by
  have positive : (0 : ℚ) < den := by exact_mod_cast pos
  set q := num / den with quotient
  set r := num % den with remainder
  have split : (num : ℚ) / den = q + r / (den : ℚ) := ratio_eq_div_add_mod num pos
  have nonneg : (0 : ℚ) ≤ r / (den : ℚ) := by positivity
  have lt_one : (r : ℚ) / den < 1 := by
    rw [div_lt_one positive]
    exact_mod_cast Nat.mod_lt num pos
  have value : divideToEven num den =
      if 2 * r > den ∨ 2 * r = den ∧ q % 2 = 1 then q + 1 else q := by
    simp [divideToEven, ← quotient, ← remainder]
  rw [value, split]
  rcases lt_trichotomy (2 * r) den with below | half | above
  · -- Below a half the quotient is taken, and the distance is what is left over.
    have less : (r : ℚ) / den < 1 / 2 := by
      rw [div_lt_div_iff₀ positive two_pos]
      exact_mod_cast (by omega : r * 2 < 1 * den)
    rw [if_neg (by omega), sub_add_cancel_left, abs_neg, abs_of_nonneg nonneg]
    exact ⟨less.le, fun tie => absurd tie less.ne⟩
  · have equal : (r : ℚ) / den = 1 / 2 := by
      rw [div_eq_div_iff positive.ne' two_ne_zero]
      exact_mod_cast (by omega : r * 2 = 1 * den)
    rw [equal]
    by_cases odd : q % 2 = 1
    · rw [if_pos (.inr ⟨half, odd⟩)]
      refine ⟨?_, fun _ => by grind⟩
      push_cast
      rw [add_sub_add_left_eq_sub]
      norm_num
    · rw [if_neg (by omega)]
      refine ⟨?_, fun _ => by grind⟩
      rw [sub_add_cancel_left, abs_neg]
      norm_num
  · have more : 1 / 2 < (r : ℚ) / den := by
      rw [div_lt_div_iff₀ two_pos positive]
      exact_mod_cast (by omega : 1 * den < r * 2)
    have short : ((q + 1 : Nat) : ℚ) - (q + r / (den : ℚ)) = 1 - r / (den : ℚ) := by
      push_cast
      ring
    rw [if_pos (.inl above), short, abs_of_pos (by linarith)]
    exact ⟨by linarith, fun tie => by linarith⟩

end Division

namespace Binary64

/-! ## Scaling -/

theorem hiddenBit_eq : hiddenBit = 2 ^ 52 := rfl

section Scaling

variable {num den : Nat}

theorem scaleDenominator_snd_pos (num : Nat) (e : Int) (pos : 0 < den) :
    0 < (scaleDenominator num den e).2 := by
  unfold scaleDenominator
  split
  · exact Nat.mul_pos pos (Nat.two_pow_pos _)
  · exact pos

/-- Scaling divides the ratio by a power of two. -/
theorem scaleDenominator_ratio (num den : Nat) (e : Int) :
    ((scaleDenominator num den e).1 : ℚ) / (scaleDenominator num den e).2 =
      (num : ℚ) / den / 2 ^ e := by
  have power (n k : Nat) : ((n * Nat.pow 2 k : Nat) : ℚ) = n * 2 ^ k := by
    rw [Nat.pow_eq]
    push_cast
    rfl
  unfold scaleDenominator
  split
  · rename_i nonneg
    obtain ⟨k, rfl⟩ := Int.eq_ofNat_of_zero_le nonneg
    rw [Int.toNat_natCast, power, zpow_natCast, div_div]
  · obtain ⟨k, rfl⟩ : ∃ k : Nat, e = -(k : Int) := ⟨(-e).toNat, by omega⟩
    rw [neg_neg, Int.toNat_natCast, power, zpow_neg, zpow_natCast, div_inv_eq_mul,
      div_mul_eq_mul_div]

theorem two_zpow_mul_pow {e : Int} {j k : Nat} (sum : e + j = k) : (2 : ℚ) ^ e * 2 ^ j = 2 ^ k := by
  rw [← zpow_natCast, ← zpow_natCast, ← sum, zpow_add₀ two_ne_zero]

/-- The lengths of numerator and denominator tell the exponent of the ratio up to one. -/
theorem log_ratio_near (positive : 0 < num) (pos : 0 < den) :
    let k : Int := num.log2 - den.log2
    k - 1 ≤ Int.log 2 ((num : ℚ) / den) ∧ Int.log 2 ((num : ℚ) / den) < k + 1 := by
  intro k
  have ratio_pos : (0 : ℚ) < (num : ℚ) / den := by positivity
  have numerator : ((2 ^ num.log2 : Nat) : ℚ) ≤ num ∧ (num : ℚ) < (2 ^ (num.log2 + 1) : Nat) := by
    exact_mod_cast And.intro (Nat.log2_self_le positive.ne') Nat.lt_log2_self
  have denominator : ((2 ^ den.log2 : Nat) : ℚ) ≤ den ∧ (den : ℚ) < (2 ^ (den.log2 + 1) : Nat) := by
    exact_mod_cast And.intro (Nat.log2_self_le pos.ne') Nat.lt_log2_self
  push_cast at numerator denominator
  constructor
  · have low : 2 ^ (k - 1) ≤ (num : ℚ) / den := by
      rw [le_div_iff₀ (by positivity)]
      calc 2 ^ (k - 1) * (den : ℚ) ≤ 2 ^ (k - 1) * 2 ^ (den.log2 + 1) := by
            gcongr
            exact denominator.2.le
        _ = 2 ^ num.log2 := two_zpow_mul_pow (by omega)
        _ ≤ (num : ℚ) := numerator.1
    exact (Int.zpow_le_iff_le_log (by norm_num) ratio_pos).mp (by exact_mod_cast low)
  · have high : (num : ℚ) / den < 2 ^ (k + 1) := by
      rw [div_lt_iff₀ (by positivity)]
      calc (num : ℚ) < 2 ^ (num.log2 + 1) := numerator.2
        _ = 2 ^ (k + 1) * 2 ^ den.log2 := (two_zpow_mul_pow (by omega)).symm
        _ ≤ 2 ^ (k + 1) * den := by
          gcongr
          exact denominator.1
    exact (Int.lt_zpow_iff_log_lt (by norm_num) ratio_pos).mp (by exact_mod_cast high)

/-- The scaled ratio has fewer than 53 bits before the point exactly if its exponent says so. -/
theorem scaledQuotient_lt_iff (positive : 0 < num) (pos : 0 < den) (e : Int) :
    (scaleDenominator num den e).1 / (scaleDenominator num den e).2 < hiddenBit ↔
      Int.log 2 ((num : ℚ) / den) < e + 52 := by
  have ratio_pos : (0 : ℚ) < (num : ℚ) / den := by positivity
  have scaled := scaleDenominator_snd_pos num e pos
  rw [Nat.div_lt_iff_lt_mul scaled, ← Int.lt_zpow_iff_log_lt (b := 2) (by norm_num) ratio_pos]
  rw [add_comm e, zpow_add₀ (by norm_num), ← div_lt_iff₀ (by positivity)]
  push_cast
  rw [← scaleDenominator_ratio, div_lt_iff₀ (by exact_mod_cast scaled), hiddenBit_eq]
  norm_cast

/-- The exponent of the grid is that of the ratio, with 52 bits after the first, but for the least
exponent. -/
theorem exponentFor_eq (positive : 0 < num) (pos : 0 < den) :
    exponentFor num den = max minExponent (Int.log 2 ((num : ℚ) / den) - 52) := by
  obtain ⟨above, below⟩ := log_ratio_near positive pos
  have short := scaledQuotient_lt_iff positive pos
  unfold exponentFor
  simp only [short]
  split_ifs with less <;> omega

end Scaling

/-! ## The format -/

/-- The absolute value of a number. -/
def magnitude (x : Binary64) : ℚ :=
  x.significand * 2 ^ x.exponent

/-- The one representation of a number: with a significand of 53 bits, or of fewer at the least
exponent. -/
structure InFormat (x : Binary64) : Prop where
  significand_lt : x.significand < 2 * hiddenBit
  minExponent_le : minExponent ≤ x.exponent
  exponent_le : x.exponent ≤ maxExponent
  normal : hiddenBit ≤ x.significand ∨ x.exponent = minExponent

/-- No number is closer to `a`, and none as close but where the significand is even. -/
structure IsNearest (x : Binary64) (a : ℚ) : Prop where
  inFormat : x.InFormat
  closest : ∀ y : Binary64, y.InFormat → |x.magnitude - a| ≤ |y.magnitude - a|
  even : ∀ y : Binary64, y.InFormat → y.magnitude ≠ x.magnitude →
    |x.magnitude - a| = |y.magnitude - a| → Even x.significand

/-- From here on a number is rounded to infinity: half a step beyond the largest number. -/
def leastInfinite : ℚ :=
  (2 * hiddenBit - 1 / 2) * 2 ^ maxExponent

/-- What a number with the given sign and absolute value is rounded to; `none` stands for
infinity. -/
inductive RoundsTo (negative : Bool) (a : ℚ) : Option Binary64 → Prop
  | finite {x : Binary64} (lt : a < leastInfinite) (sign : x.negative = negative)
      (nearest : x.IsNearest a) : RoundsTo negative a (some x)
  | infinite (le : leastInfinite ≤ a) : RoundsTo negative a none

variable {x y : Binary64} {a : ℚ} {e : Int} {m : Nat}

theorem inFormat_zero (negative : Bool) : (zero negative).InFormat where
  significand_lt := Nat.zero_lt_succ _
  minExponent_le := le_rfl
  exponent_le := by norm_num [zero, minExponent, maxExponent]
  normal := .inr rfl

@[simp] theorem magnitude_zero (negative : Bool) : (zero negative).magnitude = 0 := by
  simp [magnitude, zero]

/-- With an exponent that is not below that of a grid, a number is on the grid. -/
theorem exists_magnitude_eq (le : e ≤ y.exponent) : ∃ k : Nat, y.magnitude = k * 2 ^ e := by
  obtain ⟨j, shift⟩ := Int.le.dest le
  refine ⟨y.significand * 2 ^ j, ?_⟩
  rw [magnitude, ← shift, zpow_add₀ two_ne_zero, zpow_natCast]
  push_cast
  ring

/-- With one below, it is smaller than what has 53 bits on the grid. -/
theorem InFormat.magnitude_lt (inFormat : y.InFormat) (lt : y.exponent < e) :
    y.magnitude < hiddenBit * 2 ^ e := by
  have small : (y.significand : ℚ) < 2 * hiddenBit := by
    exact_mod_cast inFormat.significand_lt
  calc y.magnitude < 2 * hiddenBit * 2 ^ y.exponent := by
        unfold magnitude
        gcongr
    _ ≤ 2 * hiddenBit * 2 ^ (e - 1) := by
        gcongr
        · norm_num
        · omega
    _ = hiddenBit * 2 ^ e := by
        rw [zpow_sub_one₀ two_ne_zero]
        ring

/-- What is off by a half at most is off no more than any other natural number, and off as much as
another one only by a half. -/
theorem near_le {q : ℚ} (near : |(m : ℚ) - q| ≤ 1 / 2) (k : Nat) :
    |(m : ℚ) - q| ≤ |(k : ℚ) - q| ∧
      (k ≠ m → |(m : ℚ) - q| = |(k : ℚ) - q| → |(m : ℚ) - q| = 1 / 2) := by
  by_cases same : k = m
  · exact ⟨by rw [same], fun other => absurd same other⟩
  · have apart : (1 : ℚ) ≤ |(k : ℚ) - m| := by
      have : (1 : ℤ) ≤ |(k : ℤ) - m| := Int.one_le_abs (by omega)
      exact_mod_cast this
    have triangle : |(k : ℚ) - m| ≤ |(k : ℚ) - q| + |(m : ℚ) - q| := by
      rw [abs_sub_comm (m : ℚ) q]
      exact abs_sub_le _ _ _
    exact ⟨by linarith, fun _ tie => by linarith⟩

/-- Rounding on a grid that keeps 53 bits, or on the finest one, is rounding to the nearest. -/
theorem isNearest_of_grid (inFormat : x.InFormat) (value : x.magnitude = m * 2 ^ e)
    (near : |(m : ℚ) - a / 2 ^ e| ≤ 1 / 2)
    (even : |(m : ℚ) - a / 2 ^ e| = 1 / 2 → Even x.significand)
    (fine : (hiddenBit : ℚ) ≤ a / 2 ^ e ∨ e = minExponent) : x.IsNearest a := by
  have step : (0 : ℚ) < 2 ^ e := by positivity
  have distance (k : ℚ) : |k * 2 ^ e - a| = |k - a / 2 ^ e| * 2 ^ e := by
    rw [← abs_of_pos step, ← abs_mul, abs_of_pos step, sub_mul, div_mul_cancel₀ _ step.ne']
  -- A number that is finer than the grid is below all that has 53 bits on it, hence farther off than
  -- the least of these, which is no closer than `x`.
  have below {y : Binary64} (format : y.InFormat) (lt : y.exponent < e) :
      |x.magnitude - a| < |y.magnitude - a| := by
    have least := format.minExponent_le
    have wide : (hiddenBit : ℚ) ≤ a / 2 ^ e := fine.resolve_right (by omega)
    have wide' : hiddenBit * 2 ^ e ≤ a := (le_div_iff₀ step).mp wide
    have small := format.magnitude_lt lt
    have reached : |x.magnitude - a| ≤ |hiddenBit * 2 ^ e - a| := by
      rw [value, distance, distance]
      gcongr ?_ * _
      exact (near_le near hiddenBit).1
    rw [abs_sub_comm y.magnitude, abs_of_pos (by linarith : 0 < a - y.magnitude)]
    rw [abs_sub_comm (_ * _), abs_of_nonneg (by linarith : 0 ≤ a - hiddenBit * 2 ^ e)] at reached
    linarith
  refine ⟨inFormat, fun y format => ?_, fun y format other tie => ?_⟩
  · rcases le_or_gt e y.exponent with le | lt
    · obtain ⟨k, on⟩ := exists_magnitude_eq le
      rw [value, on, distance, distance]
      gcongr ?_ * _
      exact (near_le near k).1
    · exact (below format lt).le
  · rcases le_or_gt e y.exponent with le | lt
    · obtain ⟨k, on⟩ := exists_magnitude_eq le
      rw [value, on, distance, distance, mul_left_inj' step.ne'] at tie
      refine even ((near_le near k).2 ?_ tie)
      rintro rfl
      exact other (on.trans value.symm)
    · exact absurd tie (below format lt).ne

/-! ## Ratios -/

/-- Up to the greatest exponent, what is less than half a step above the greatest significand is
finite. -/
theorem lt_leastInfinite (small : a / 2 ^ e < 2 * hiddenBit - 1 / 2) (le : e ≤ maxExponent) :
    a < leastInfinite := by
  have nonneg : (0 : ℚ) ≤ 2 * hiddenBit - 1 / 2 := by norm_num [hiddenBit]
  calc a < (2 * hiddenBit - 1 / 2) * 2 ^ e := (div_lt_iff₀ (by positivity)).mp small
    _ ≤ leastInfinite := by
      unfold leastInfinite
      gcongr
      norm_num

/-- From the greatest exponent on, what is not less is infinite. -/
theorem leastInfinite_le (wide : 2 * hiddenBit - 1 / 2 ≤ a / 2 ^ e) (le : maxExponent ≤ e) :
    leastInfinite ≤ a := by
  have nonneg : (0 : ℚ) ≤ 2 * hiddenBit - 1 / 2 := by norm_num [hiddenBit]
  calc leastInfinite ≤ (2 * hiddenBit - 1 / 2) * 2 ^ e := by
        unfold leastInfinite
        gcongr
        norm_num
    _ ≤ a := (le_div_iff₀ (by positivity)).mp wide

/-- The next exponent halves the significand. -/
theorem two_mul_div_succ (a : ℚ) (e : Int) : 2 * (a / 2 ^ (e + 1)) = a / 2 ^ e := by
  rw [zpow_add_one₀ two_ne_zero]
  field_simp

/-- On its grid, a ratio has 53 bits before the point, or the grid is the finest one. -/
theorem exponentFor_fits {num den : Nat} (positive : 0 < num) (pos : 0 < den) :
    let e := exponentFor num den
    let q := (num : ℚ) / den / 2 ^ e
    minExponent ≤ e ∧ q < 2 * hiddenBit ∧ ((hiddenBit : ℚ) ≤ q ∨ e = minExponent) := by
  have ratio_pos : (0 : ℚ) < (num : ℚ) / den := by positivity
  have low := Int.zpow_log_le_self (b := 2) (by norm_num) ratio_pos
  have high := Int.lt_zpow_succ_log_self (b := 2) (by norm_num) ((num : ℚ) / den)
  rw [exponentFor_eq positive pos]
  generalize Int.log 2 ((num : ℚ) / den) = k at low high
  push_cast at low high
  refine ⟨le_max_left _ _, ?_, ?_⟩
  · rw [div_lt_iff₀ (by positivity)]
    calc (num : ℚ) / den < 2 ^ (k + 1) := high
      _ ≤ 2 ^ (53 + max minExponent (k - 52)) :=
        zpow_le_zpow_right₀ one_le_two (by omega)
      _ = 2 * hiddenBit * 2 ^ max minExponent (k - 52) := by
        rw [zpow_add₀ two_ne_zero, hiddenBit_eq]
        norm_num
  · rcases le_total (k - 52) minExponent with least | more
    · exact .inr (max_eq_left least)
    · left
      rw [max_eq_right more, le_div_iff₀ (by positivity)]
      calc (hiddenBit : ℚ) * 2 ^ (k - 52) = 2 ^ k := by
            rw [hiddenBit_eq, zpow_sub₀ two_ne_zero]
            push_cast
            rw [mul_div_cancel₀]
            norm_num
        _ ≤ (num : ℚ) / den := low

/-- A ratio other than zero is rounded on its grid; what is carried into another bit takes the next
exponent. -/
theorem ofRatio?_of_pos {num den : Nat} (negative : Bool) (positive : 0 < num) :
    let e := exponentFor num den
    let m := divideToEven (scaleDenominator num den e).1 (scaleDenominator num den e).2
    ofRatio? negative num den =
      if m = 2 * hiddenBit then
        if maxExponent < e + 1 then none else some ⟨negative, hiddenBit, e + 1⟩
      else if maxExponent < e then none else some ⟨negative, m, e⟩ := by
  intro e m
  have same : ofRatio? negative num den = if num = 0 then some (zero negative) else
      let carried := if m = 2 * hiddenBit then (hiddenBit, e + 1) else (m, e)
      if maxExponent < carried.2 then none else some ⟨negative, carried.1, carried.2⟩ := rfl
  rw [same, if_neg positive.ne']
  by_cases carry : m = 2 * hiddenBit
  · rw [if_pos carry, if_pos carry]
  · rw [if_neg carry, if_neg carry]

/-- What is smaller than half of the least number is rounded to zero. -/
theorem roundsTo_zero (negative : Bool) (nonneg : 0 ≤ a) (lt : a < 2 ^ minExponent / 2) :
    RoundsTo negative a (some (zero negative)) := by
  have scaled_nonneg : 0 ≤ a / 2 ^ minExponent := by positivity
  have scaled_lt : a / 2 ^ minExponent < 1 / 2 := by
    rw [div_lt_iff₀ (by positivity)]
    linarith
  have near : |((0 : Nat) : ℚ) - a / 2 ^ minExponent| ≤ 1 / 2 := by
    rw [Nat.cast_zero, zero_sub, abs_neg, abs_of_nonneg scaled_nonneg]
    exact scaled_lt.le
  have small : a / 2 ^ minExponent < 2 * hiddenBit - 1 / 2 := by
    norm_num [hiddenBit]
    linarith
  have nearest : (zero negative).IsNearest a :=
    isNearest_of_grid (inFormat_zero negative) (by simp) near (fun _ => ⟨0, rfl⟩) (.inr rfl)
  exact .finite (lt_leastInfinite small (by decide)) rfl nearest

section Rounded

variable {q : ℚ} (near : |(m : ℚ) - q| ≤ 1 / 2)

include near

/-- What has 53 bits keeps them when it is rounded. -/
theorem hiddenBit_le_of_near (wide : hiddenBit ≤ q) : hiddenBit ≤ m := by
  obtain ⟨lower, -⟩ := abs_le.mp near
  have close : (hiddenBit : ℚ) < m + 1 := by linarith
  have close' : hiddenBit < m + 1 := by exact_mod_cast close
  omega

/-- What has no more bits gets one more at most, and then it is the least with that many. -/
theorem le_of_near (small : q < 2 * hiddenBit) : m ≤ 2 * hiddenBit := by
  obtain ⟨-, upper⟩ := abs_le.mp near
  have close : (m : ℚ) < 2 * hiddenBit + 1 := by linarith
  have close' : m < 2 * hiddenBit + 1 := by exact_mod_cast close
  omega

/-- The greatest significand is odd, so a tie with the next one is not rounded to it. -/
theorem lt_of_near_of_lt (even : |(m : ℚ) - q| = 1 / 2 → Even m) (lt : m < 2 * hiddenBit) :
    q < 2 * hiddenBit - 1 / 2 := by
  obtain ⟨lower, -⟩ := abs_le.mp near
  have whole : ((m + 1 : Nat) : ℚ) ≤ (2 * hiddenBit : Nat) := by exact_mod_cast lt
  push_cast at whole
  by_contra reached
  have tie : |(m : ℚ) - q| = 1 / 2 := by
    rw [abs_of_neg (by linarith)]
    linarith
  have top : ((m + 1 : Nat) : ℚ) = (2 * hiddenBit : Nat) := by
    push_cast
    linarith
  have top' : m + 1 = 2 * hiddenBit := by exact_mod_cast top
  obtain ⟨half, double⟩ := even tie
  omega

end Rounded

/-- A ratio is rounded to the nearest number. -/
theorem roundsTo_ofRatio? {den : Nat} (negative : Bool) (num : Nat) (pos : 0 < den) :
    RoundsTo negative ((num : ℚ) / den) (ofRatio? negative num den) := by
  rcases Nat.eq_zero_or_pos num with rfl | positive
  · rw [ofRatio?, if_pos rfl, Nat.cast_zero, zero_div]
    exact roundsTo_zero negative le_rfl (by positivity)
  obtain ⟨least, small, fine⟩ := exponentFor_fits positive pos
  rw [ofRatio?_of_pos negative positive]
  set e := exponentFor num den
  set a : ℚ := (num : ℚ) / den
  have scaled : 0 < (scaleDenominator num den e).2 := scaleDenominator_snd_pos num e pos
  have rounded := divideToEven_near (scaleDenominator num den e).1 scaled
  rw [scaleDenominator_ratio] at rounded
  obtain ⟨near, even⟩ := rounded
  set m := divideToEven (scaleDenominator num den e).1 (scaleDenominator num den e).2
  have order : minExponent < maxExponent := by decide
  split_ifs with carry beyond beyond
  · -- The carry leads beyond the greatest exponent.
    obtain ⟨-, upper⟩ := abs_le.mp near
    rw [carry] at upper
    push_cast at upper
    have reached : 2 * hiddenBit - 1 / 2 ≤ a / 2 ^ e := by linarith
    exact .infinite (leastInfinite_le reached (by omega))
  · have half := two_mul_div_succ a e
    have halved : a / 2 ^ (e + 1) < 2 * hiddenBit - 1 / 2 := by
      norm_num [hiddenBit] at small ⊢
      linarith
    have format : InFormat ⟨negative, hiddenBit, e + 1⟩ :=
      ⟨by norm_num [hiddenBit], by simp only; omega, not_lt.mp beyond, .inl le_rfl⟩
    refine .finite (lt_leastInfinite halved (not_lt.mp beyond)) rfl ?_
    refine isNearest_of_grid format ?_ near (fun _ => ⟨2 ^ 51, rfl⟩) fine
    rw [carry, magnitude, zpow_add_one₀ two_ne_zero]
    push_cast
    ring
  · have wide : (hiddenBit : ℚ) ≤ a / 2 ^ e := fine.resolve_right (by omega)
    have double := two_mul_div_succ a (e - 1)
    rw [sub_add_cancel] at double
    have doubled : 2 * hiddenBit - 1 / 2 ≤ a / 2 ^ (e - 1) := by linarith
    exact .infinite (leastInfinite_le doubled (by omega))
  · have bounded : m < 2 * hiddenBit := lt_of_le_of_ne (le_of_near near small) carry
    have normal : hiddenBit ≤ m ∨ e = minExponent := fine.imp_left (hiddenBit_le_of_near near)
    have format : InFormat ⟨negative, m, e⟩ := ⟨bounded, least, not_lt.mp beyond, normal⟩
    have finite : a < leastInfinite :=
      lt_leastInfinite (lt_of_near_of_lt near even bounded) (not_lt.mp beyond)
    exact .finite finite rfl (isNearest_of_grid format rfl near even fine)

end Binary64

end EntityQuery.Decimal
