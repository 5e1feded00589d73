import Mathlib.Algebra.Order.Field.Power
import Mathlib.Data.Nat.Cast.Order.Field
import Mathlib.Tactic.FieldSimp
import Mathlib.Tactic.Linarith
import Mathlib.Tactic.Ring
import ScenarioRunner.Numeral.Binary64

/-! How large a double-precision number can get. A quotient is rounded to a finite number just below
a limit halfway between the largest of these numbers and the power of two above it, and what is left
of a finite number without its fraction stays below that power. -/
namespace ScenarioRunner

/-- Rounding reaches an even number from halfway below it. -/
theorem le_roundDiv_iff {num den n : Nat} (hDen : 0 < den) (hEven : n % 2 = 0) (hPos : 0 < n) :
    n ≤ roundDiv num den ↔ (2 * n - 1) * den ≤ 2 * num := by
  have hSplit : den * (num / den) + num % den = num := Nat.div_add_mod num den
  have hRest : num % den < den := Nat.mod_lt num hDen
  obtain ⟨k, rfl⟩ : ∃ k, n = k + 1 := ⟨n - 1, by omega⟩
  have hHalf : (2 * (k + 1) - 1) * den = 2 * (den * k) + den := by
    rw [show 2 * (k + 1) - 1 = 2 * k + 1 by omega]
    ring
  rw [hHalf, roundDiv]
  generalize num / den = q at *
  generalize num % den = r at *
  rcases Nat.lt_trichotomy q k with hLess | rfl | hMore
  · have hStep : den * (q + 1) ≤ den * k := Nat.mul_le_mul_left den hLess
    rw [Nat.mul_succ] at hStep
    refine iff_of_false ?_ (by omega)
    split_ifs <;> omega
  · split_ifs <;> omega
  · have hStep : den * (k + 1) ≤ den * q := Nat.mul_le_mul_left den hMore
    rw [Nat.mul_succ] at hStep
    refine iff_of_true ?_ (by omega)
    split_ifs <;> omega

/-- Rounding never falls below the whole part of a quotient. -/
theorem div_le_roundDiv (num den : Nat) : num / den ≤ roundDiv num den := by
  rw [roundDiv]
  split_ifs <;> omega

/-- Rounding never exceeds the whole part of a quotient by more than one. -/
theorem roundDiv_le (num den : Nat) : roundDiv num den ≤ num / den + 1 := by
  rw [roundDiv]
  split_ifs <;> omega

namespace Binary64

/-- Halfway between the largest finite number and the next power of two: from here on a magnitude is
rounded to an infinity. -/
def limit : Nat := (2 ^ 54 - 1) * 2 ^ 970

theorem limit_pos : 0 < limit := by
  rw [limit]
  positivity

/-! The exponent of a quotient. -/

/-- A quotient in units of a power of two, as two natural numbers. -/
def scaled (num den : Nat) (q : Int) : Nat × Nat :=
  (num * Nat.pow 2 (-q).toNat, den * Nat.pow 2 q.toNat)

def unitsOf (num den : Nat) (q : Int) : Nat := (scaled num den q).1 / (scaled num den q).2

def unitExponent (num den : Nat) : Int :=
  let guess : Int := (num.log2 : Int) - den.log2 - 53
  max (if unitsOf num den guess < 2 ^ 53 then guess else guess + 1) (-1074)

/-- The bits of a quotient without its sign, unless they are too many. -/
def magnitudeOf (num den : Nat) : Nat :=
  let q := unitExponent num den
  let m := roundDiv (scaled num den q).1 (scaled num den q).2
  if m < 2 ^ 52 then m else (q + 1074).toNat * 2 ^ 52 + m

section

variable {num den : Nat}

/-- A ratio is rounded to its magnitude with its sign, or to infinity where it is too large. -/
theorem ofRatio_eq (negative : Bool) (hNum : num ≠ 0) :
    ofRatio negative num den =
      if 0x7FF0000000000000 ≤ magnitudeOf num den then infinity negative
      else ⟨signBit negative ||| UInt64.ofNat (magnitudeOf num den)⟩ := by
  rw [ofRatio, if_neg hNum]
  rfl

theorem scaled_pos (hDen : 0 < den) (q : Int) : 0 < (scaled num den q).2 :=
  Nat.mul_pos hDen (Nat.two_pow_pos _)

theorem scaled_succ (n : Nat) : scaled num den (n + 1 : Nat) = (num, 2 * (2 ^ n * den)) := by
  have hPower : den * Nat.pow 2 (n + 1) = 2 * (2 ^ n * den) := by
    rw [Nat.pow_eq, pow_succ]
    ring
  have hLeft : (-((n + 1 : Nat) : Int)).toNat = 0 := by omega
  rw [scaled, Int.toNat_natCast, hPower, hLeft, Nat.pow_eq, pow_zero, mul_one]

/-- How many units go into a ratio is a question of multiplying out. -/
theorem le_unitsOf_iff (hDen : 0 < den) (c : Nat) (q : Int) :
    c ≤ unitsOf num den q ↔ (c : ℚ) * 2 ^ q ≤ (num : ℚ) / den := by
  have hDenQ : (0 : ℚ) < den := by exact_mod_cast hDen
  rw [unitsOf, Nat.le_div_iff_mul_le (scaled_pos hDen q), le_div_iff₀ hDenQ, scaled]
  obtain ⟨n, rfl | rfl⟩ := q.eq_nat_or_neg
  · have hCast : c * (den * 2 ^ n) ≤ num * 2 ^ 0 ↔ (c : ℚ) * (den * 2 ^ n) ≤ num * 2 ^ 0 := by
      exact_mod_cast Iff.rfl
    simpa [mul_assoc, mul_comm, mul_left_comm] using hCast
  · have hCast : c * (den * 2 ^ 0) ≤ num * 2 ^ n ↔ (c : ℚ) * den ≤ num * 2 ^ n := by
      rw [pow_zero, mul_one]
      exact_mod_cast Iff.rfl
    rw [zpow_neg, zpow_natCast, mul_right_comm, ← div_eq_mul_inv, div_le_iff₀ (by positivity),
      ← hCast]
    simp

/-- The quotient fits into 53 bits in this unit, and needs all of them unless the unit is the least
one. -/
structure Fits (num den : Nat) (q : Int) : Prop where
  upper : (num : ℚ) / den < 2 ^ (q + 53)
  lower : q = -1074 ∨ (2 : ℚ) ^ (q + 52) ≤ (num : ℚ) / den

theorem two_zpow_add (q : Int) (n : Nat) : ((2 ^ n : Nat) : ℚ) * 2 ^ q = 2 ^ (q + n) := by
  rw [zpow_add₀ two_ne_zero, zpow_natCast, mul_comm]
  norm_cast

/-- The lengths of numerator and denominator tell a quotient up to a factor of two on both sides. -/
theorem div_between (hNum : num ≠ 0) (hDen : den ≠ 0) :
    (2 : ℚ) ^ ((num.log2 : Int) - den.log2 - 1) ≤ (num : ℚ) / den ∧
      (num : ℚ) / den < 2 ^ ((num.log2 : Int) - den.log2 + 1) := by
  have hNumLow : (2 : ℚ) ^ (num.log2 : Int) ≤ num := by
    rw [zpow_natCast]
    exact_mod_cast Nat.log2_self_le hNum
  have hNumHigh : (num : ℚ) < 2 ^ ((num.log2 : Int) + 1) := by
    exact_mod_cast Nat.lt_log2_self (n := num)
  have hDenLow : (2 : ℚ) ^ (den.log2 : Int) ≤ den := by
    rw [zpow_natCast]
    exact_mod_cast Nat.log2_self_le hDen
  have hDenHigh : (den : ℚ) < 2 ^ ((den.log2 : Int) + 1) := by
    exact_mod_cast Nat.lt_log2_self (n := den)
  have hDenPos : (0 : ℚ) < den := by exact_mod_cast Nat.pos_of_ne_zero hDen
  constructor
  · rw [le_div_iff₀ hDenPos]
    calc (2 : ℚ) ^ ((num.log2 : Int) - den.log2 - 1) * den
      _ ≤ 2 ^ ((num.log2 : Int) - den.log2 - 1) * 2 ^ ((den.log2 : Int) + 1) := by gcongr
      _ = 2 ^ (num.log2 : Int) := by
          rw [← zpow_add₀ two_ne_zero]
          congr 1
          omega
      _ ≤ num := hNumLow
  · rw [div_lt_iff₀ hDenPos]
    calc (num : ℚ)
      _ < 2 ^ ((num.log2 : Int) + 1) := hNumHigh
      _ = 2 ^ ((num.log2 : Int) - den.log2 + 1) * 2 ^ (den.log2 : Int) := by
          rw [← zpow_add₀ two_ne_zero]
          congr 1
          omega
      _ ≤ 2 ^ ((num.log2 : Int) - den.log2 + 1) * den := by gcongr

/-- The exponent of the unit is chosen so that the significand fits its bits. -/
theorem fits_unitExponent (hNum : num ≠ 0) (hDen : den ≠ 0) :
    Fits num den (unitExponent num den) := by
  obtain ⟨hLow, hHigh⟩ := div_between hNum hDen
  let guess : Int := (num.log2 : Int) - den.log2 - 53
  have hGuess : unitsOf num den guess < 2 ^ 53 ↔ (num : ℚ) / den < 2 ^ (guess + 53) := by
    have hUnits : 2 ^ 53 ≤ unitsOf num den guess ↔
        ((2 ^ 53 : Nat) : ℚ) * 2 ^ guess ≤ (num : ℚ) / den :=
      le_unitsOf_iff (Nat.pos_of_ne_zero hDen) (2 ^ 53) guess
    rw [two_zpow_add] at hUnits
    exact lt_iff_lt_of_le_iff_le hUnits
  -- the exponent that would be taken if there were no least one
  obtain ⟨q, hq, hUpper, hLower⟩ : ∃ q, unitExponent num den = max q (-1074) ∧
      (num : ℚ) / den < 2 ^ (q + 53) ∧ (2 : ℚ) ^ (q + 52) ≤ (num : ℚ) / den := by
    by_cases hFew : unitsOf num den guess < 2 ^ 53
    · refine ⟨guess, congrArg (max · (-1074)) (if_pos hFew), hGuess.mp hFew, ?_⟩
      convert hLow using 2
      show (num.log2 : Int) - den.log2 - 53 + 52 = _
      omega
    · refine ⟨guess + 1, congrArg (max · (-1074)) (if_neg hFew), ?_, ?_⟩
      · convert hHigh using 2
        show (num.log2 : Int) - den.log2 - 53 + 1 + 53 = _
        omega
      · have hMany := not_lt.mp (mt hGuess.mpr hFew)
        rwa [show guess + 1 + 52 = guess + 53 by ring]
  rw [hq]
  rcases le_total q (-1074) with hLeast | hMost
  · rw [max_eq_right hLeast]
    refine ⟨hUpper.trans_le ?_, .inl rfl⟩
    exact zpow_le_zpow_right₀ one_le_two (by omega)
  · rw [max_eq_left hMost]
    exact ⟨hUpper, .inr hLower⟩

/-- With a unit below the last one, a quotient stays below the limit. -/
theorem lt_limit_of_lt {x : ℚ} {q : Int} (hx : x < 2 ^ (q + 53)) (hq : q < 971) :
    x < ((2 ^ 54 - 1 : Nat) : ℚ) * 2 ^ (970 : Int) := by
  calc x
    _ < 2 ^ (q + 53) := hx
    _ ≤ 2 ^ ((970 : Int) + (53 : Nat)) := zpow_le_zpow_right₀ one_le_two (by omega)
    _ = ((2 ^ 53 : Nat) : ℚ) * 2 ^ (970 : Int) := (two_zpow_add 970 53).symm
    _ ≤ ((2 ^ 54 - 1 : Nat) : ℚ) * 2 ^ (970 : Int) := by
        gcongr
        norm_num

/-- With a unit above the last one, a quotient of full precision reaches the limit. -/
theorem limit_le_of_le {x : ℚ} {q : Int} (hx : 2 ^ (q + 52) ≤ x) (hq : 971 < q) :
    ((2 ^ 54 - 1 : Nat) : ℚ) * 2 ^ (970 : Int) ≤ x := by
  calc ((2 ^ 54 - 1 : Nat) : ℚ) * 2 ^ (970 : Int)
    _ ≤ ((2 ^ 54 : Nat) : ℚ) * 2 ^ (970 : Int) := by
        gcongr
        norm_num
    _ = 2 ^ ((970 : Int) + (54 : Nat)) := two_zpow_add 970 54
    _ ≤ 2 ^ (q + 52) := zpow_le_zpow_right₀ one_le_two (by omega)
    _ ≤ x := hx

/-- A quotient is too large just when it reaches the limit. -/
theorem le_magnitudeOf_iff (hNum : num ≠ 0) (hDen : den ≠ 0) :
    0x7FF0000000000000 ≤ magnitudeOf num den ↔ limit * den ≤ num := by
  have hDenPos : 0 < den := Nat.pos_of_ne_zero hDen
  have hDenQ : (0 : ℚ) < den := by exact_mod_cast hDenPos
  obtain ⟨hUpper, hLower⟩ := fits_unitExponent hNum hDen
  have hLimit : limit * den ≤ num ↔ ((2 ^ 54 - 1 : Nat) : ℚ) * 2 ^ (970 : Int) ≤ (num : ℚ) / den := by
    rw [le_div_iff₀ hDenQ, limit]
    exact_mod_cast Iff.rfl
  have hUnits (c : Nat) (q : Int) : c ≤ unitsOf num den q ↔ (c : ℚ) * 2 ^ q ≤ (num : ℚ) / den :=
    le_unitsOf_iff hDenPos c q
  generalize hq : unitExponent num den = q at *
  have hFew : unitsOf num den q < 2 ^ 53 := by
    by_contra hMany
    have hReach := (hUnits (2 ^ 53) q).mp (not_lt.mp hMany)
    rw [two_zpow_add] at hReach
    exact absurd hUpper (not_lt.mpr hReach)
  have hMany : q = -1074 ∨ 2 ^ 52 ≤ unitsOf num den q := hLower.imp_right fun hLow =>
    (hUnits (2 ^ 52) q).mpr (by rwa [two_zpow_add])
  have hLeast := div_le_roundDiv (scaled num den q).1 (scaled num den q).2
  have hMost := roundDiv_le (scaled num den q).1 (scaled num den q).2
  change unitsOf num den q ≤ _ at hLeast
  change _ ≤ unitsOf num den q + 1 at hMost
  rw [magnitudeOf, hq]
  rcases lt_trichotomy q 971 with hLess | rfl | hMore
  · have hBelow := lt_limit_of_lt hUpper hLess
    refine iff_of_false ?_ (mt hLimit.mp (not_le.mpr hBelow))
    split_ifs <;> omega
  · -- the one exponent at which rounding decides, and the limit lies halfway to the next power of two
    have hRound : 2 ^ 53 ≤ roundDiv (scaled num den 971).1 (scaled num den 971).2 ↔
        (2 * 2 ^ 53 - 1) * (scaled num den 971).2 ≤ 2 * (scaled num den 971).1 :=
      le_roundDiv_iff (scaled_pos hDenPos 971) (by decide) (by decide)
    have hScaled : scaled num den 971 = (num, 2 * (2 ^ 970 * den)) := scaled_succ 970
    have hProduct : limit * den = (2 ^ 54 - 1) * (2 ^ 970 * den) := Nat.mul_assoc _ _ _
    have hFull := hMany.resolve_left (by omega)
    rw [hProduct]
    rw [hScaled] at hRound hLeast hMost ⊢
    generalize 2 ^ 970 * den = half at *
    split_ifs <;> omega
  · have hAbove := limit_le_of_le (hLower.resolve_left (by omega)) hMore
    refine iff_of_true ?_ (hLimit.mpr hAbove)
    have hFull := hMany.resolve_left (by omega)
    split_ifs <;> omega

end

/-- Infinity is not finite. -/
theorem isFinite_infinity (negative : Bool) : (infinity negative).isFinite = false := by
  cases negative <;> decide

/-- Bits below those of an infinity are those of a finite number. -/
theorem isFinite_of_lt (negative : Bool) {magnitude : Nat} (h : magnitude < 0x7FF0000000000000) :
    (Binary64.mk (signBit negative ||| UInt64.ofNat magnitude)).isFinite = true := by
  have hWord : (UInt64.ofNat magnitude).toNat = magnitude :=
    UInt64.toNat_ofNat_of_lt (h.trans (by decide))
  have hSign : (signBit negative).toNat >>> 52 &&& 2 ^ 11 - 1 = 0 := by cases negative <;> decide
  have hField : (Binary64.mk (signBit negative ||| UInt64.ofNat magnitude)).exponentField =
      magnitude / 2 ^ 52 % 2 ^ 11 := by
    show ((signBit negative ||| UInt64.ofNat magnitude) >>> 52 &&& 0x7FF).toNat = _
    rw [UInt64.toNat_and, UInt64.toNat_shiftRight, UInt64.toNat_or, hWord]
    show ((signBit negative).toNat ||| magnitude) >>> 52 &&& 2 ^ 11 - 1 = _
    rw [Nat.shiftRight_or_distrib, Nat.and_or_distrib_right, hSign, Nat.zero_or,
      Nat.and_two_pow_sub_one_eq_mod, Nat.shiftRight_eq_div_pow]
  rw [isFinite, hField, bne_iff_ne]
  omega

/-- The number nearest to a quotient is finite just below the limit. -/
theorem isFinite_ofRatio_iff (negative : Bool) {num den : Nat} (hDen : den ≠ 0) :
    (ofRatio negative num den).isFinite = true ↔ num < limit * den := by
  by_cases hNum : num = 0
  · subst hNum
    have hZero : (ofRatio negative 0 den).isFinite = true := by
      rw [ofRatio, if_pos rfl]
      cases negative <;> decide
    exact iff_of_true hZero (Nat.mul_pos limit_pos (Nat.pos_of_ne_zero hDen))
  · rw [ofRatio_eq negative hNum, ← not_le, ← le_magnitudeOf_iff hNum hDen]
    split_ifs with hLarge
    · simp [isFinite_infinity, hLarge]
    · simp [isFinite_of_lt negative (not_le.mp hLarge), hLarge]

/-- A significand has at most 53 bits. -/
theorem significand_lt (x : Binary64) : x.significand < 2 ^ 53 := by
  have hFraction : x.fraction < 2 ^ 52 := by
    show (x.bits &&& 0xFFFFFFFFFFFFF).toNat < 2 ^ 52
    rw [UInt64.toNat_and]
    exact Nat.and_lt_two_pow _ (by decide)
  rw [significand, Nat.pow_eq]
  split_ifs <;> omega

/-- Without its fraction a finite number stays below the limit. -/
theorem natAbs_truncate_lt_limit {x : Binary64} (hFinite : x.isFinite = true) :
    x.truncate.natAbs < limit := by
  have hField : x.exponentField < 2 ^ 11 := by
    show (x.bits >>> 52 &&& 0x7FF).toNat < 2 ^ 11
    rw [UInt64.toNat_and]
    exact Nat.and_lt_two_pow _ (by decide)
  have hScale : x.scale.toNat ≤ 971 := by
    rw [isFinite, bne_iff_ne] at hFinite
    rw [scale]
    split_ifs <;> omega
  have hNatAbs : x.truncate.natAbs = x.ratio.1 / x.ratio.2 := by
    rw [truncate]
    split_ifs
    · rw [Int.natAbs_neg, Int.natAbs_natCast]
    · rw [Int.natAbs_natCast]
  have hLess : x.significand * 2 < 2 ^ 54 - 1 := by
    have hSignificand := significand_lt x
    omega
  rw [hNatAbs]
  calc x.ratio.1 / x.ratio.2
    _ ≤ x.significand * 2 ^ x.scale.toNat := Nat.div_le_self _ _
    _ ≤ x.significand * 2 ^ 971 := by gcongr; decide
    _ = x.significand * 2 * 2 ^ 970 := by rw [pow_succ', mul_assoc]
    _ < limit := by
        rw [limit]
        gcongr

end Binary64

end ScenarioRunner
