import Lisplet.Decimal.Shortest
import Lisplet.Proofs.Nearest

/-!
The decimal that a float is written as is nearest to that float, and has few digits. Seventeen
digits are always enough: their grid is finer than the floats are.
-/

namespace Lisplet

namespace Decimal

open Binary64

theorem inUnits_spec (exponent : Int) (numerator : Nat) {denominator : Nat} (positive : 0 < denominator) :
    0 < (inUnits exponent numerator denominator).2 ∧
      ((inUnits exponent numerator denominator).1 : ℚ) / (inUnits exponent numerator denominator).2 =
        (numerator : ℚ) / denominator / 10 ^ exponent := by
  have denominatorPositive : (0 : ℚ) < denominator := by exact_mod_cast positive
  cases exponent with
  | ofNat power =>
      refine ⟨Nat.mul_pos positive (Nat.pow_pos (by decide)), ?_⟩
      simp only [inUnits, Nat.pow_eq, Int.ofNat_eq_natCast, zpow_natCast]
      push_cast
      field_simp
  | negSucc power =>
      refine ⟨positive, ?_⟩
      simp only [inUnits, Nat.pow_eq, zpow_negSucc]
      push_cast
      field_simp

theorem ratio_spec (mantissa : Nat) (exponent : Int) :
    0 < (ratio mantissa exponent).2 ∧
      ((ratio mantissa exponent).1 : ℚ) / (ratio mantissa exponent).2 = mantissa * 2 ^ exponent := by
  cases exponent with
  | ofNat power => simp [ratio]
  | negSucc power =>
      refine ⟨Nat.pow_pos (by decide), ?_⟩
      simp only [ratio, Nat.pow_eq, zpow_negSucc]
      push_cast
      field_simp

theorem lt_pow_digitCount (number : Nat) : number < 10 ^ digitCount number :=
  (Nat.length_toDigits_le_iff (by decide) Nat.length_toDigits_pos).1 (Nat.le_refl _)

theorem digitCount_positive (number : Nat) : 0 < digitCount number :=
  Nat.length_toDigits_pos

theorem pow_le_of_digitCount {number count : Nat} (positive : 0 < number)
    (digits : digitCount number = count + 1) : 10 ^ count ≤ number := by
  cases count with
  | zero => exact positive
  | succ count =>
      by_contra less
      have short := (Nat.length_toDigits_le_iff (b := 10) (n := number) (by decide)
        (Nat.succ_pos count)).2 (not_le.1 less)
      unfold digitCount at digits
      omega

theorem leadingExponent_spec {numerator denominator : Nat} (numeratorPositive : 0 < numerator)
    (denominatorPositive : 0 < denominator) :
    (10 : ℚ) ^ leadingExponent numerator denominator ≤ (numerator : ℚ) / denominator ∧
      (numerator : ℚ) / denominator < 10 ^ (leadingExponent numerator denominator + 1) := by
  have positive : (0 : ℚ) < denominator := by exact_mod_cast denominatorPositive
  rw [le_div_iff₀ positive, div_lt_iff₀ positive]
  unfold leadingExponent
  by_cases whole : denominator ≤ numerator
  · rw [if_pos whole]
    obtain ⟨count, digits⟩ : ∃ count, digitCount (numerator / denominator) = count + 1 :=
      ⟨_, (Nat.succ_pred_eq_of_pos (digitCount_positive _)).symm⟩
    have lower := pow_le_of_digitCount (Nat.div_pos whole denominatorPositive) digits
    have upper := lt_pow_digitCount (numerator / denominator)
    rw [Nat.le_div_iff_mul_le denominatorPositive] at lower
    rw [Nat.div_lt_iff_lt_mul denominatorPositive] at upper
    rw [digits] at upper ⊢
    have first : ((count + 1 : Nat) : Int) - 1 = count := by omega
    rw [first, zpow_natCast, zpow_add_one₀ (by norm_num), zpow_natCast]
    constructor
    · exact_mod_cast lower
    · rw [← pow_succ]
      exact_mod_cast upper
  · rw [if_neg whole]
    obtain ⟨count, digits⟩ : ∃ count, digitCount ((denominator - 1) / numerator) = count + 1 :=
      ⟨_, (Nat.succ_pred_eq_of_pos (digitCount_positive _)).symm⟩
    have upper := lt_pow_digitCount ((denominator - 1) / numerator)
    rw [Nat.div_lt_iff_lt_mul numeratorPositive] at upper
    rw [digits] at upper ⊢
    have strict : numerator * 10 ^ count < denominator := by
      cases count with
      | zero => omega
      | succ count =>
          have present : 0 < (denominator - 1) / numerator := by
            refine Nat.pos_of_ne_zero fun zero => ?_
            rw [zero] at digits
            simp [digitCount, Nat.toDigits_zero] at digits
          have lower := pow_le_of_digitCount present digits
          rw [Nat.le_div_iff_mul_le numeratorPositive, Nat.mul_comm] at lower
          omega
    have covers : denominator ≤ numerator * 10 ^ (count + 1) := by
      rw [Nat.mul_comm]
      omega
    have last : -((count + 1 : Nat) : Int) + 1 = -(count : Nat) := by omega
    rw [last, zpow_neg, zpow_neg, zpow_natCast, zpow_natCast, inv_mul_eq_div, inv_mul_eq_div,
      div_le_iff₀ (by positivity), lt_div_iff₀ (by positivity)]
    constructor
    · exact_mod_cast covers
    · exact_mod_cast strict

/-- The grid of decimals with an exponent, compared with the quarters of a float's unit. -/
structure Grid (exponent gridExponent : Int) (quarter unit : Nat) : Prop where
  positive : 0 < unit
  units : (quarter : ℚ) / unit = 2 ^ (exponent - 2) / 10 ^ gridExponent

section Grids

variable {exponent gridExponent : Int} {quarter unit : Nat}

theorem grid_of_inUnits (exponent gridExponent : Int) :
    Grid exponent gridExponent
      (inUnits gridExponent (ratio 1 (exponent - 2)).1 (ratio 1 (exponent - 2)).2).1
      (inUnits gridExponent (ratio 1 (exponent - 2)).1 (ratio 1 (exponent - 2)).2).2 := by
  obtain ⟨onePositive, quarters⟩ := ratio_spec 1 (exponent - 2)
  obtain ⟨positive, units⟩ := inUnits_spec gridExponent (ratio 1 (exponent - 2)).1 onePositive
  refine ⟨positive, ?_⟩
  rw [units, quarters, Nat.cast_one, one_mul]

theorem Grid.scale (grid : Grid exponent gridExponent quarter unit) (bound : Nat) :
    ((bound * quarter : Nat) : ℚ) * 10 ^ gridExponent = unit * (bound / 4 * 2 ^ exponent) := by
  have unitCast : (0 : ℚ) < unit := by exact_mod_cast grid.positive
  have quarters : (quarter : ℚ) = unit * (2 ^ (exponent - 2) / 10 ^ gridExponent) := by
    rw [← grid.units]
    field_simp
  rw [zpow_sub₀ (by norm_num)] at quarters
  push_cast
  rw [quarters]
  field_simp
  norm_num

theorem Grid.point (_grid : Grid exponent gridExponent quarter unit) (candidate : Nat) :
    ((candidate * unit : Nat) : ℚ) * 10 ^ gridExponent = unit * (candidate * 10 ^ gridExponent) := by
  push_cast
  ring

theorem Grid.le_iff (grid : Grid exponent gridExponent quarter unit) (bound candidate : Nat) :
    bound * quarter ≤ candidate * unit ↔
      (bound : ℚ) / 4 * 2 ^ exponent ≤ candidate * 10 ^ gridExponent := by
  have unitCast : (0 : ℚ) < unit := by exact_mod_cast grid.positive
  have gridPositive : (0 : ℚ) < 10 ^ gridExponent := by positivity
  rw [← Nat.cast_le (α := ℚ), ← mul_le_mul_iff_left₀ gridPositive, grid.scale, grid.point,
    mul_le_mul_iff_right₀ unitCast]

theorem Grid.ge_iff (grid : Grid exponent gridExponent quarter unit) (bound candidate : Nat) :
    candidate * unit ≤ bound * quarter ↔
      (candidate : ℚ) * 10 ^ gridExponent ≤ bound / 4 * 2 ^ exponent := by
  have unitCast : (0 : ℚ) < unit := by exact_mod_cast grid.positive
  have gridPositive : (0 : ℚ) < 10 ^ gridExponent := by positivity
  rw [← Nat.cast_le (α := ℚ), ← mul_le_mul_iff_left₀ gridPositive, grid.scale, grid.point,
    mul_le_mul_iff_right₀ unitCast]

theorem Grid.admits_iff (grid : Grid exponent gridExponent quarter unit) (interval : Interval)
    (candidate : Nat) :
    interval.admits quarter unit candidate = true ↔
      if interval.closed then
        (interval.low : ℚ) / 4 * 2 ^ exponent ≤ candidate * 10 ^ gridExponent ∧
          (candidate : ℚ) * 10 ^ gridExponent ≤ interval.high / 4 * 2 ^ exponent
      else
        (interval.low : ℚ) / 4 * 2 ^ exponent < candidate * 10 ^ gridExponent ∧
          (candidate : ℚ) * 10 ^ gridExponent < interval.high / 4 * 2 ^ exponent := by
  unfold Interval.admits
  cases interval.closed with
  | true => simp [grid.le_iff, grid.ge_iff]
  | false =>
      simp only [Bool.false_eq_true, if_false, Bool.and_eq_true, decide_eq_true_eq]
      rw [← not_le, ← not_le, grid.le_iff, grid.ge_iff, not_le, not_le]

theorem intervalOf_low {mantissa : Nat} (positive : 0 < mantissa) (exponent : Int) :
    ((mantissa = fieldWeight ∧ exponent ≠ leastExponent) ∧
        ((intervalOf mantissa exponent).low : ℚ) / 4 = mantissa - 1 / 4) ∨
      (¬ (mantissa = fieldWeight ∧ exponent ≠ leastExponent) ∧
        ((intervalOf mantissa exponent).low : ℚ) / 4 = mantissa - 1 / 2) := by
  by_cases nearBelow : mantissa = fieldWeight ∧ exponent ≠ leastExponent
  · refine .inl ⟨nearBelow, ?_⟩
    have low : (intervalOf mantissa exponent).low = 4 * mantissa - 1 := if_pos nearBelow
    rw [low, Nat.cast_sub (by omega)]
    push_cast
    ring
  · refine .inr ⟨nearBelow, ?_⟩
    have low : (intervalOf mantissa exponent).low = 4 * mantissa - 2 := if_neg nearBelow
    rw [low, Nat.cast_sub (by omega)]
    push_cast
    ring

theorem intervalOf_high (mantissa : Nat) (exponent : Int) :
    ((intervalOf mantissa exponent).high : ℚ) / 4 = mantissa + 1 / 2 := by
  have high : (intervalOf mantissa exponent).high = 4 * mantissa + 2 := rfl
  rw [high]
  push_cast
  ring

theorem Grid.isNearest (grid : Grid exponent gridExponent quarter unit) {mantissa candidate : Nat}
    (positive : 0 < mantissa)
    (admits : (intervalOf mantissa exponent).admits quarter unit candidate = true) :
    IsNearest mantissa exponent (candidate * 10 ^ gridExponent) := by
  have unitPositive : (0 : ℚ) < 2 ^ exponent := by positivity
  rw [grid.admits_iff, intervalOf_high] at admits
  have low : (mantissa - 1 / 2 : ℚ) * 2 ^ exponent ≤
      (intervalOf mantissa exponent).low / 4 * 2 ^ exponent := by
    gcongr
    rcases intervalOf_low positive exponent with ⟨-, same⟩ | ⟨-, same⟩ <;> linarith
  have boundary (isPower : mantissa = fieldWeight) (notLeast : exponent ≠ leastExponent) :
      ((intervalOf mantissa exponent).low : ℚ) / 4 = mantissa - 1 / 4 := by
    rcases intervalOf_low positive exponent with ⟨-, same⟩ | ⟨other, -⟩
    · exact same
    · exact absurd ⟨isPower, notLeast⟩ other
  by_cases even : mantissa % 2 = 0
  · have closed : (intervalOf mantissa exponent).closed = true := decide_eq_true even
    rw [closed, if_pos rfl] at admits
    refine ⟨low.trans admits.1, admits.2, fun _ => even, fun _ => even, ?_⟩
    intro isPower notLeast
    rw [← boundary isPower notLeast]
    exact admits.1
  · have closed : (intervalOf mantissa exponent).closed = false := decide_eq_false even
    rw [closed, if_neg (by decide)] at admits
    have strict := lt_of_le_of_lt low admits.1
    refine ⟨strict.le, admits.2.le, fun tie => absurd tie strict.ne', fun tie => absurd tie
      admits.2.ne, ?_⟩
    intro isPower notLeast
    rw [← boundary isPower notLeast]
    exact admits.1.le

/-- The grid of seventeen digits is fine enough to hit the interval of a float. -/
theorem Grid.hits (grid : Grid exponent gridExponent quarter unit) {mantissa : Nat}
    (canonical : IsCanonical mantissa exponent) (positive : 0 < mantissa)
    (fine : (10 : ℚ) ^ gridExponent * 10 ^ 16 ≤ mantissa * 2 ^ exponent) {below : Nat}
    (lower : below * unit ≤ 4 * mantissa * quarter)
    (upper : ¬ (below + 1) * unit ≤ 4 * mantissa * quarter) :
    (intervalOf mantissa exponent).admits quarter unit below = true ∨
      (intervalOf mantissa exponent).admits quarter unit (below + 1) = true := by
  have unitPositive : (0 : ℚ) < 2 ^ exponent := by positivity
  rw [grid.ge_iff] at lower upper
  rw [not_le] at upper
  push_cast at lower upper
  by_contra missed
  rw [not_or, grid.admits_iff, grid.admits_iff, intervalOf_high] at missed
  push_cast at missed
  obtain ⟨missedBelow, missedAbove⟩ := missed
  have belowLow : (below : ℚ) * 10 ^ gridExponent ≤
      (intervalOf mantissa exponent).low / 4 * 2 ^ exponent := by
    by_contra inside
    apply missedBelow
    have high : (below : ℚ) * 10 ^ gridExponent < (mantissa + 1 / 2) * 2 ^ exponent := by linarith
    split
    · exact ⟨(not_le.1 inside).le, high.le⟩
    · exact ⟨not_le.1 inside, high⟩
  have aboveHigh : ((mantissa : ℚ) + 1 / 2) * 2 ^ exponent ≤
      ((below : ℚ) + 1) * 10 ^ gridExponent := by
    by_contra inside
    apply missedAbove
    have low : ((intervalOf mantissa exponent).low : ℚ) / 4 * 2 ^ exponent <
        (below + 1) * 10 ^ gridExponent := by
      rcases intervalOf_low positive exponent with ⟨-, same⟩ | ⟨-, same⟩ <;> (rw [same]; linarith)
    split
    · exact ⟨low.le, (not_le.1 inside).le⟩
    · exact ⟨low, not_le.1 inside⟩
  -- Otherwise a step of the grid covers the whole interval, which is wider than the step.
  rcases intervalOf_low positive exponent with ⟨⟨isPower, -⟩, same⟩ | ⟨-, same⟩
  · have half : (mantissa : ℚ) = 2 ^ 52 := by norm_num [isPower, fieldWeight]
    rw [same] at belowLow
    rw [half] at fine
    linarith
  · have bound : (mantissa : ℚ) < 2 ^ 53 := lt_of_le_of_lt canonical.mantissa_le (by norm_num)
    have wide := mul_lt_mul_of_pos_right bound unitPositive
    rw [same] at belowLow
    linarith

end Grids

section Search

variable {mantissa : Nat} {exponent : Int}

/-- What is found on a grid is nearest to the float. -/
theorem nearestOnGrid_isNearest (positive : 0 < mantissa) {gridExponent : Int} {digits : Nat}
    (found : nearestOnGrid? (intervalOf mantissa exponent) (exponent - 2) gridExponent =
      some digits) : IsNearest mantissa exponent (digits * 10 ^ gridExponent) := by
  have grid := grid_of_inUnits exponent gridExponent
  unfold nearestOnGrid? at found
  dsimp only at found
  generalize inUnits gridExponent (ratio 1 (exponent - 2)).1 (ratio 1 (exponent - 2)).2 = units
    at grid found
  apply grid.isNearest positive
  split at found
  · rename_i first second
    simp only [Option.some.injEq] at found
    subst found
    split
    · exact first
    · exact second
  · rename_i first _
    simp only [Option.some.injEq] at found
    exact found ▸ first
  · rename_i _ second
    simp only [Option.some.injEq] at found
    exact found ▸ second
  · simp at found

theorem nearestOnGrid_isSome (canonical : IsCanonical mantissa exponent) (positive : 0 < mantissa)
    {gridExponent : Int} (fine : (10 : ℚ) ^ gridExponent * 10 ^ 16 ≤ mantissa * 2 ^ exponent) :
    nearestOnGrid? (intervalOf mantissa exponent) (exponent - 2) gridExponent ≠ none := by
  have grid := grid_of_inUnits exponent gridExponent
  unfold nearestOnGrid?
  dsimp only
  generalize inUnits gridExponent (ratio 1 (exponent - 2)).1 (ratio 1 (exponent - 2)).2 = units
    at grid
  have value : (intervalOf mantissa exponent).value = 4 * mantissa := rfl
  rw [value]
  have lower : 4 * mantissa * units.1 / units.2 * units.2 ≤ 4 * mantissa * units.1 :=
    Nat.div_mul_le_self _ _
  have upper : ¬ (4 * mantissa * units.1 / units.2 + 1) * units.2 ≤ 4 * mantissa * units.1 := by
    rw [Nat.add_mul, Nat.one_mul, not_le]
    exact Nat.lt_div_mul_add grid.positive
  rcases grid.hits canonical positive fine lower upper with hit | hit
  · rw [hit]
    split <;> simp_all
  · rw [hit]
    split <;> simp_all

theorem dropZeros_spec (fuel : Nat) (decimal : Scaled) :
    ((decimal.dropZeros fuel).digits : ℚ) * 10 ^ (decimal.dropZeros fuel).exponent =
        decimal.digits * 10 ^ decimal.exponent ∧
      (decimal.dropZeros fuel).digits ≤ decimal.digits := by
  fun_induction Scaled.dropZeros fuel decimal with
  | case1 => exact ⟨rfl, Nat.le_refl _⟩
  | case2 fuel decimal shortens ih =>
      obtain ⟨same, fewer⟩ := ih
      refine ⟨same.trans ?_, fewer.trans (Nat.div_le_self _ _)⟩
      have whole : decimal.digits = decimal.digits / 10 * 10 := by omega
      have cast : (decimal.digits : ℚ) = ((decimal.digits / 10 : Nat) : ℚ) * 10 := by
        exact_mod_cast whole
      rw [zpow_add_one₀ (by norm_num), cast]
      simp
      ring
  | case3 => exact ⟨rfl, Nat.le_refl _⟩

/-- A decimal that stands for a float in its text. -/
structure Stands (mantissa : Nat) (exponent : Int) (decimal : Scaled) : Prop where
  nearest : IsNearest mantissa exponent (decimal.digits * 10 ^ decimal.exponent)
  few : decimal.digits < 10 ^ 18

theorem digits_lt {leading gridExponent : Int} {digits : Nat} (positive : 0 < mantissa)
    (upper : (mantissa : ℚ) * 2 ^ exponent < 10 ^ (leading + 1))
    (coarse : leading - 16 ≤ gridExponent)
    (nearest : IsNearest mantissa exponent (digits * 10 ^ gridExponent)) : digits < 10 ^ 18 := by
  have unitPositive : (0 : ℚ) < 2 ^ exponent := by positivity
  have finePositive : (0 : ℚ) < 10 ^ (leading - 16) := by positivity
  have oneLe : (1 : ℚ) ≤ mantissa := by exact_mod_cast positive
  have finer : (10 : ℚ) ^ (leading - 16) ≤ 10 ^ gridExponent :=
    zpow_le_zpow_right₀ (by norm_num) coarse
  have whole : (10 : ℚ) ^ (leading + 1) = 10 ^ 17 * 10 ^ (leading - 16) := by
    rw [← zpow_natCast, ← zpow_add₀ (by norm_num)]
    congr 1
    push_cast
    omega
  have doubled : ((mantissa : ℚ) + 1 / 2) * 2 ^ exponent ≤ 2 * (mantissa * 2 ^ exponent) := by
    have half := mul_le_mul_of_nonneg_right oneLe unitPositive.le
    linarith
  have bounded : (digits : ℚ) * 10 ^ (leading - 16) < 2 * 10 ^ 17 * 10 ^ (leading - 16) := by
    calc (digits : ℚ) * 10 ^ (leading - 16) ≤ digits * 10 ^ gridExponent := by gcongr
      _ ≤ (mantissa + 1 / 2) * 2 ^ exponent := nearest.upper
      _ < 2 * 10 ^ 17 * 10 ^ (leading - 16) := by linarith
  have few := lt_of_mul_lt_mul_right bounded finePositive.le
  have cast : (digits : ℚ) < (10 ^ 18 : Nat) := by
    push_cast
    linarith
  exact_mod_cast cast

theorem shortest_stands (canonical : IsCanonical mantissa exponent) (positive : 0 < mantissa) :
    Stands mantissa exponent (shortest mantissa exponent) := by
  obtain ⟨denominatorPositive, value⟩ := ratio_spec mantissa exponent
  have numeratorPositive : 0 < (ratio mantissa exponent).1 := by
    cases exponent with
    | ofNat power => exact Nat.mul_pos positive (Nat.pow_pos (by decide))
    | negSucc power => exact positive
  obtain ⟨lower, upper⟩ := leadingExponent_spec numeratorPositive denominatorPositive
  rw [value] at lower upper
  unfold shortest
  dsimp only
  generalize leadingExponent (ratio mantissa exponent).1 (ratio mantissa exponent).2 = leading at *
  generalize search : List.findSome? _ _ = found
  cases found with
  | none =>
      rw [List.findSome?_eq_none_iff] at search
      have last := search (leading - (16 : Nat)) (List.mem_map.2 ⟨16, by decide, rfl⟩)
      rw [Option.map_eq_none_iff] at last
      refine absurd last (nearestOnGrid_isSome canonical positive ?_)
      have whole : (10 : ℚ) ^ leading = 10 ^ (leading - (16 : Nat)) * 10 ^ 16 := by
        rw [← zpow_natCast, ← zpow_add₀ (by norm_num)]
        congr 1
        push_cast
        omega
      rw [← whole]
      exact lower
  | some decimal =>
      obtain ⟨gridExponent, searched, hit⟩ := List.exists_of_findSome?_eq_some search
      obtain ⟨extra, few, rfl⟩ := List.mem_map.1 searched
      obtain ⟨digits, foundDigits, rfl⟩ := Option.map_eq_some_iff.1 hit
      have nearest := nearestOnGrid_isNearest positive foundDigits
      obtain ⟨same, fewer⟩ := dropZeros_spec mostDigits ⟨digits, leading - extra⟩
      have most := List.mem_range.1 few
      unfold mostDigits at most
      have bound := digits_lt positive upper (by omega) nearest
      exact ⟨by rw [same]; exact nearest, lt_of_le_of_lt fewer bound⟩

end Search

end Decimal

end Lisplet
