import Lisplet.Proofs.FloatBits

/-!
The nearest float to a rational number: every rational that is nearer to one float than to its
neighbours gets the bits of that float.
-/

namespace Lisplet

namespace Decimal

/-- Rounding gives the natural number that is at most a half away, if a half counts only next to
even numbers. -/
theorem roundHalfEven_eq {numerator denominator result : Nat} (positive : 0 < denominator)
    (lower : 2 * (result * denominator) ≤ 2 * numerator + denominator)
    (upper : 2 * numerator ≤ 2 * (result * denominator) + denominator)
    (lowerTie : 2 * (result * denominator) = 2 * numerator + denominator → result % 2 = 0)
    (upperTie : 2 * numerator = 2 * (result * denominator) + denominator → result % 2 = 0) :
    roundHalfEven numerator denominator = result := by
  have parts := Nat.div_add_mod numerator denominator
  have rest := Nat.mod_lt numerator positive
  rw [roundHalfEven]
  generalize numerator / denominator = quotient at *
  generalize numerator % denominator = remainder at *
  subst parts
  rw [Nat.mul_comm denominator quotient] at *
  have notBelow : quotient ≤ result := by
    by_contra less
    have step : (result + 1) * denominator ≤ quotient * denominator :=
      Nat.mul_le_mul_right _ (by omega)
    rw [Nat.add_mul, Nat.one_mul] at step
    omega
  have notAbove : result ≤ quotient + 1 := by
    by_contra more
    have step : (quotient + 2) * denominator ≤ result * denominator :=
      Nat.mul_le_mul_right _ (by omega)
    rw [Nat.add_mul] at step
    omega
  rcases Nat.lt_or_ge quotient result with above | same
  · obtain rfl : result = quotient + 1 := by omega
    rw [Nat.add_mul, Nat.one_mul] at *
    rw [if_neg]
    omega
  · obtain rfl : result = quotient := by omega
    rw [if_pos]
    omega

theorem roundHalfEven_of_quotient (result : Nat) {numerator denominator : Nat} (positive : 0 < denominator)
    (lower : (result : ℚ) - 1 / 2 ≤ (numerator : ℚ) / denominator)
    (upper : (numerator : ℚ) / denominator ≤ result + 1 / 2)
    (lowerTie : (numerator : ℚ) / denominator = result - 1 / 2 → result % 2 = 0)
    (upperTie : (numerator : ℚ) / denominator = result + 1 / 2 → result % 2 = 0) :
    roundHalfEven numerator denominator = result := by
  have denominatorPositive : (0 : ℚ) < denominator := by exact_mod_cast positive
  rw [le_div_iff₀ denominatorPositive] at lower
  rw [div_le_iff₀ denominatorPositive] at upper
  rw [div_eq_iff denominatorPositive.ne'] at lowerTie upperTie
  apply roundHalfEven_eq positive
  · have cast : (2 * (result * denominator) : ℚ) ≤ 2 * numerator + denominator := by linarith
    exact_mod_cast cast
  · have cast : (2 * numerator : ℚ) ≤ 2 * (result * denominator) + denominator := by linarith
    exact_mod_cast cast
  · intro tie
    have cast : (2 * (result * denominator) : ℚ) = 2 * numerator + denominator := by
      exact_mod_cast tie
    exact lowerTie (by linarith)
  · intro tie
    have cast : (2 * numerator : ℚ) = 2 * (result * denominator) + denominator := by
      exact_mod_cast tie
    exact upperTie (by linarith)

end Decimal

namespace Binary64

def inBinaryUnits (exponent : Int) (numerator denominator : Nat) : Nat × Nat :=
  match exponent with
  | .ofNat power => (numerator, denominator * Nat.pow 2 power)
  | .negSucc power => (numerator * Nat.pow 2 (power + 1), denominator)

theorem inBinaryUnits_spec (exponent : Int) (numerator : Nat) {denominator : Nat}
    (positive : 0 < denominator) :
    0 < (inBinaryUnits exponent numerator denominator).2 ∧
      ((inBinaryUnits exponent numerator denominator).1 : ℚ) /
        (inBinaryUnits exponent numerator denominator).2 =
          (numerator : ℚ) / denominator / 2 ^ exponent := by
  have denominatorPositive : (0 : ℚ) < denominator := by exact_mod_cast positive
  cases exponent with
  | ofNat power =>
      refine ⟨Nat.mul_pos positive (Nat.pow_pos (by decide)), ?_⟩
      simp only [inBinaryUnits, Nat.pow_eq, Int.ofNat_eq_natCast, zpow_natCast]
      push_cast
      field_simp
  | negSucc power =>
      refine ⟨positive, ?_⟩
      simp only [inBinaryUnits, Nat.pow_eq, zpow_negSucc]
      push_cast
      field_simp

theorem scaledBelow_iff (exponent : Int) (numerator : Nat) {denominator : Nat} (positive : 0 < denominator) :
    nearestBits.scaledBelow numerator denominator exponent = true ↔
      (numerator : ℚ) / denominator < 2 ^ exponent := by
  have denominatorPositive : (0 : ℚ) < denominator := by exact_mod_cast positive
  rw [div_lt_iff₀ denominatorPositive]
  cases exponent with
  | ofNat power =>
      simp only [nearestBits.scaledBelow, decide_eq_true_eq, Nat.pow_eq, Int.ofNat_eq_natCast,
        zpow_natCast]
      rw [← Nat.cast_lt (α := ℚ)]
      push_cast
      rw [mul_comm]
  | negSucc power =>
      simp only [nearestBits.scaledBelow, decide_eq_true_eq, Nat.pow_eq, zpow_negSucc]
      rw [← Nat.cast_lt (α := ℚ), inv_mul_eq_div, lt_div_iff₀ (by positivity)]
      push_cast
      rfl

def binaryExponent (numerator denominator : Nat) : Int :=
  let estimate : Int := (Nat.log2 numerator : Int) - Nat.log2 denominator
  if nearestBits.scaledBelow numerator denominator estimate then estimate - 1 else estimate

/-- The lengths of both numbers tell the exponent up to one place. -/
theorem quotient_near_estimate {numerator denominator : Nat} (numeratorPositive : 0 < numerator)
    (denominatorPositive : 0 < denominator) :
    (2 : ℚ) ^ ((numerator.log2 : Int) - denominator.log2 - 1) ≤ (numerator : ℚ) / denominator ∧
      (numerator : ℚ) / denominator < 2 ^ ((numerator.log2 : Int) - denominator.log2 + 1) := by
  have positive : (0 : ℚ) < denominator := by exact_mod_cast denominatorPositive
  have two : (2 : ℚ) ≠ 0 := by norm_num
  rw [le_div_iff₀ positive, div_lt_iff₀ positive]
  constructor
  · have numeratorLower : (2 : ℚ) ^ numerator.log2 ≤ numerator := by
      exact_mod_cast Nat.log2_self_le (Nat.ne_of_gt numeratorPositive)
    have denominatorUpper : (denominator : ℚ) < 2 ^ (denominator.log2 + 1) := by
      exact_mod_cast Nat.lt_log2_self (n := denominator)
    calc (2 : ℚ) ^ ((numerator.log2 : Int) - denominator.log2 - 1) * denominator
        ≤ 2 ^ ((numerator.log2 : Int) - denominator.log2 - 1) * 2 ^ (denominator.log2 + 1) := by gcongr
      _ = 2 ^ numerator.log2 := by
          rw [← zpow_natCast, ← zpow_natCast, ← zpow_add₀ two]
          congr 1
          push_cast
          omega
      _ ≤ numerator := numeratorLower
  · have numeratorUpper : (numerator : ℚ) < 2 ^ (numerator.log2 + 1) := by
      exact_mod_cast Nat.lt_log2_self (n := numerator)
    have denominatorLower : (2 : ℚ) ^ denominator.log2 ≤ denominator := by
      exact_mod_cast Nat.log2_self_le (Nat.ne_of_gt denominatorPositive)
    calc (numerator : ℚ) < 2 ^ (numerator.log2 + 1) := numeratorUpper
      _ = 2 ^ ((numerator.log2 : Int) - denominator.log2 + 1) * 2 ^ denominator.log2 := by
          rw [← zpow_natCast, ← zpow_natCast, ← zpow_add₀ two]
          congr 1
          push_cast
          omega
      _ ≤ 2 ^ ((numerator.log2 : Int) - denominator.log2 + 1) * denominator := by gcongr

theorem binaryExponent_spec {numerator denominator : Nat} (numeratorPositive : 0 < numerator)
    (denominatorPositive : 0 < denominator) :
    (2 : ℚ) ^ binaryExponent numerator denominator ≤ (numerator : ℚ) / denominator ∧
      (numerator : ℚ) / denominator < 2 ^ (binaryExponent numerator denominator + 1) := by
  obtain ⟨least, most⟩ := quotient_near_estimate numeratorPositive denominatorPositive
  unfold binaryExponent
  dsimp only
  generalize (numerator.log2 : Int) - denominator.log2 = estimate at *
  have below := scaledBelow_iff estimate numerator denominatorPositive
  by_cases corrected : nearestBits.scaledBelow numerator denominator estimate = true
  · rw [if_pos corrected]
    exact ⟨least, by simpa using below.1 corrected⟩
  · rw [if_neg corrected]
    exact ⟨not_lt.1 fun less => corrected (below.2 less), most⟩

def unitExponent (numerator denominator : Nat) : Int :=
  max (binaryExponent numerator denominator - 52) leastExponent

theorem nearestBits_eq (numerator denominator : Nat) :
    nearestBits numerator denominator =
      min (magnitudeBits
        (Decimal.roundHalfEven
          (inBinaryUnits (unitExponent numerator denominator) numerator denominator).1
          (inBinaryUnits (unitExponent numerator denominator) numerator denominator).2)
        (unitExponent numerator denominator)) (specialField * fieldWeight) := by
  have unfolded : unitExponent numerator denominator = max (binaryExponent numerator denominator - 52)
    leastExponent := rfl
  unfold nearestBits
  simp only [binaryExponent] at unfolded
  dsimp only
  rw [← unfolded]
  cases unitExponent numerator denominator <;> rfl

/-- The rationals that are nearest to a float. The neighbour below a power of two is only half as far
away as the one above it, and a rational in the middle belongs to the even mantissa. -/
structure IsNearest (mantissa : Nat) (exponent : Int) (value : ℚ) : Prop where
  lower : (mantissa - 1 / 2) * 2 ^ exponent ≤ value
  upper : value ≤ (mantissa + 1 / 2) * 2 ^ exponent
  lowerTie : value = (mantissa - 1 / 2) * 2 ^ exponent → mantissa % 2 = 0
  upperTie : value = (mantissa + 1 / 2) * 2 ^ exponent → mantissa % 2 = 0
  boundary : mantissa = fieldWeight → exponent ≠ leastExponent →
    (mantissa - 1 / 4) * 2 ^ exponent ≤ value

theorem two_zpow_lt_iff {first second : Int} :
    (2 : ℚ) ^ first < 2 ^ second ↔ first < second :=
  zpow_lt_zpow_iff_right₀ (by norm_num)

theorem unitExponent_eq {numerator denominator : Nat} {exponent : Int}
    (least_le : leastExponent ≤ exponent) (numeratorPositive : 0 < numerator)
    (denominatorPositive : 0 < denominator)
    (large : exponent ≠ leastExponent → 2 ^ (52 + exponent) ≤ (numerator : ℚ) / denominator)
    (small : (numerator : ℚ) / denominator < 2 ^ (53 + exponent)) :
    unitExponent numerator denominator = exponent := by
  obtain ⟨least, most⟩ := binaryExponent_spec numeratorPositive denominatorPositive
  have below := two_zpow_lt_iff.1 (lt_of_le_of_lt least small)
  unfold unitExponent
  by_cases same : exponent = leastExponent
  · omega
  · have above := two_zpow_lt_iff.1 (lt_of_le_of_lt (large same) most)
    omega

theorem magnitudeBits_lt {mantissa : Nat} {exponent : Int} (canonical : IsCanonical mantissa exponent) :
    magnitudeBits mantissa exponent ≤ specialField * fieldWeight := by
  have mantissa_lt := canonical.mantissa_lt
  have exponent_le := canonical.exponent_le
  have index : (exponent - leastExponent).toNat ≤ 2045 := by
    unfold leastExponent
    omega
  have weight := Nat.mul_le_mul_right fieldWeight index
  unfold magnitudeBits specialField
  generalize fieldWeight = size at *
  omega

theorem nearestBits_of_unit {numerator denominator mantissa : Nat} {exponent : Int}
    (denominatorPositive : 0 < denominator) (unit : unitExponent numerator denominator = exponent)
    (near : IsNearest mantissa exponent ((numerator : ℚ) / denominator)) :
    nearestBits numerator denominator =
      min (magnitudeBits mantissa exponent) (specialField * fieldWeight) := by
  obtain ⟨positive, quotient⟩ := inBinaryUnits_spec exponent numerator denominatorPositive
  have unitPositive : (0 : ℚ) < 2 ^ exponent := by positivity
  rw [nearestBits_eq, unit, Decimal.roundHalfEven_of_quotient mantissa positive]
  · rw [quotient, le_div_iff₀ unitPositive]
    exact near.lower
  · rw [quotient, div_le_iff₀ unitPositive]
    exact near.upper
  · rw [quotient, div_eq_iff unitPositive.ne']
    exact near.lowerTie
  · rw [quotient, div_eq_iff unitPositive.ne']
    exact near.upperTie

/-! ### Just below a power of two -/

theorem two_zpow_add (places : Nat) (exponent : Int) :
    (2 : ℚ) ^ ((places : Int) + exponent) = 2 ^ places * 2 ^ exponent := by
  rw [zpow_add₀ (by norm_num), zpow_natCast]

theorem two_zpow_halved (exponent : Int) : (2 : ℚ) ^ exponent = 2 * 2 ^ (exponent - 1) := by
  rw [← zpow_one_add₀ (by norm_num)]
  congr 1
  omega

theorem IsCanonical.mantissa_le {mantissa : Nat} {exponent : Int}
    (canonical : IsCanonical mantissa exponent) : (mantissa : ℚ) ≤ 2 ^ 53 - 1 := by
  have strict := canonical.mantissa_lt
  have cast : ((mantissa + 1 : Nat) : ℚ) ≤ (2 ^ 53 : Nat) := by
    unfold fieldWeight at strict
    exact_mod_cast strict
  push_cast at cast
  linarith

/-- Only what is nearest to a power of two can be less than all normal mantissas stand for. -/
theorem IsNearest.isPower {mantissa : Nat} {exponent : Int} {value : ℚ}
    (near : IsNearest mantissa exponent value) (normal : fieldWeight ≤ mantissa)
    (below : value < 2 ^ 52 * 2 ^ exponent) : mantissa = fieldWeight := by
  have strict : ((mantissa : ℚ) - 1 / 2) * 2 ^ exponent < 2 ^ 52 * 2 ^ exponent :=
    lt_of_le_of_lt near.lower below
  have less := lt_of_mul_lt_mul_right strict (by positivity)
  have cast : (mantissa : ℚ) < (2 ^ 52 + 1 : Nat) := by
    push_cast
    linarith
  have upper : mantissa < 2 ^ 52 + 1 := by exact_mod_cast cast
  unfold fieldWeight at *
  omega

/-- In the unit of the smaller neighbour, the power of two is an even mantissa. -/
theorem IsNearest.halved {exponent : Int} {value : ℚ} (near : IsNearest fieldWeight exponent value)
    (notLeast : exponent ≠ leastExponent) (below : value < 2 ^ 52 * 2 ^ exponent) :
    IsNearest (2 * fieldWeight) (exponent - 1) value := by
  have above := near.boundary rfl notLeast
  have half : (fieldWeight : ℚ) = 2 ^ 52 := by norm_num [fieldWeight]
  have positive : (0 : ℚ) < 2 ^ (exponent - 1) := by positivity
  rw [half, two_zpow_halved] at above
  rw [two_zpow_halved] at below
  refine ⟨?_, ?_, fun _ => by simp, fun _ => by simp, fun same => by simp [fieldWeight] at same⟩
  · push_cast
    rw [half]
    linarith
  · push_cast
    rw [half]
    linarith

theorem magnitudeBits_halved {exponent : Int} (above : leastExponent < exponent) :
    magnitudeBits (2 * fieldWeight) (exponent - 1) = magnitudeBits fieldWeight exponent := by
  obtain ⟨index, shape⟩ : ∃ index, (exponent - leastExponent).toNat = index + 1 :=
    ⟨(exponent - 1 - leastExponent).toNat, by omega⟩
  have before : (exponent - 1 - leastExponent).toNat = index := by omega
  rw [magnitudeBits, magnitudeBits, shape, before]
  ring

theorem unitExponent_halved {numerator denominator : Nat} {exponent : Int}
    (numeratorPositive : 0 < numerator) (denominatorPositive : 0 < denominator)
    (above : leastExponent < exponent)
    (near : IsNearest fieldWeight exponent ((numerator : ℚ) / denominator))
    (below : (numerator : ℚ) / denominator < 2 ^ 52 * 2 ^ exponent) :
    unitExponent numerator denominator = exponent - 1 := by
  have least := near.boundary rfl (ne_of_gt above)
  have half : (fieldWeight : ℚ) = 2 ^ 52 := by norm_num [fieldWeight]
  have positive : (0 : ℚ) < 2 ^ (exponent - 1) := by positivity
  rw [half, two_zpow_halved] at least
  rw [two_zpow_halved] at below
  apply unitExponent_eq (by omega) numeratorPositive denominatorPositive
  · intro _
    refine le_of_eq_of_le (two_zpow_add 52 (exponent - 1)) ?_
    linarith
  · refine lt_of_lt_of_eq ?_ (two_zpow_add 53 (exponent - 1)).symm
    linarith

/-- Every rational gets the bits of the float that it is nearest to. -/
theorem nearestBits_of_isNearest {numerator denominator mantissa : Nat} {exponent : Int}
    (canonical : IsCanonical mantissa exponent) (numeratorPositive : 0 < numerator)
    (denominatorPositive : 0 < denominator)
    (near : IsNearest mantissa exponent ((numerator : ℚ) / denominator)) :
    nearestBits numerator denominator = magnitudeBits mantissa exponent := by
  have bounded := magnitudeBits_lt canonical
  by_cases reaches : exponent ≠ leastExponent → 2 ^ 52 * 2 ^ exponent ≤ (numerator : ℚ) / denominator
  · have small : (numerator : ℚ) / denominator < 2 ^ (53 + exponent) := by
      have unitPositive : (0 : ℚ) < 2 ^ exponent := by positivity
      have strict : ((mantissa : ℚ) + 1 / 2) * 2 ^ exponent < 2 ^ 53 * 2 ^ exponent := by
        have mantissa_le := canonical.mantissa_le
        gcongr
        linarith
      exact lt_of_lt_of_eq (lt_of_le_of_lt near.upper strict) (two_zpow_add 53 exponent).symm
    have unit := unitExponent_eq canonical.least_le numeratorPositive denominatorPositive
      (fun notLeast => le_of_eq_of_le (two_zpow_add 52 exponent) (reaches notLeast)) small
    rw [nearestBits_of_unit denominatorPositive unit near, Nat.min_eq_left bounded]
  · obtain ⟨notLeast, below⟩ := Classical.not_imp.mp reaches
    rw [not_le] at below
    have above : leastExponent < exponent := lt_of_le_of_ne canonical.least_le (Ne.symm notLeast)
    obtain rfl := near.isPower (canonical.normal notLeast) below
    have unit := unitExponent_halved numeratorPositive denominatorPositive above near below
    rw [nearestBits_of_unit denominatorPositive unit (near.halved notLeast below),
      magnitudeBits_halved above, Nat.min_eq_left bounded]

end Binary64

end Lisplet
