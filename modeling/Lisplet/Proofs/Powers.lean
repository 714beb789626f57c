import Lisplet.Proofs.Wrapping

/-!
Powers of integers. They are computed modulo `2 ^ 64` by repeated squaring, and what comes out is the
exact power, wrapped: of several exponents the one with their product, and of nested powers the same.
-/

namespace Lisplet

namespace Integer64

theorem ofInt_emod (number : Int) : Int64.ofInt (number % modulus) = Int64.ofInt number :=
  (ofInt_eq_iff _ _).mpr (Int.mod_modEq number modulus)

theorem ofInt_pow (base : Int) (exponent : Nat) :
    Int64.ofInt (base ^ exponent) = Int64.ofInt base ^ exponent := by
  induction exponent with
  | zero => simp
  | succ exponent ih => rw [Int.pow_succ, Int64.ofInt_mul, ih, Int64.pow_succ]

/-- Repeated squaring modulo `2 ^ 64` gives a number that is congruent to the power. -/
theorem ofInt_powerModulo (base : Int) (exponent : Nat) :
    Int64.ofInt (powerModulo base exponent) = Int64.ofInt (base ^ exponent) := by
  induction exponent using Nat.strongRecOn generalizing base with
  | ind exponent ih =>
      rw [powerModulo]
      by_cases zero : exponent = 0
      · rw [if_pos zero, zero, pow_zero]
      rw [if_neg zero]
      have half : Int64.ofInt (powerModulo (base * base % modulus) (exponent / 2)) =
          Int64.ofInt (base ^ (2 * (exponent / 2))) := by
        rw [ih _ (by omega), ofInt_pow, ofInt_emod, ← ofInt_pow, pow_mul, sq]
      by_cases odd : exponent % 2 = 1
      · have whole : exponent = 2 * (exponent / 2) + 1 := by omega
        rw [if_pos odd, ofInt_emod, Int64.ofInt_mul, half, ← Int64.ofInt_mul]
        conv_rhs => rw [whole, pow_succ, mul_comm]
      · have whole : exponent = 2 * (exponent / 2) := by omega
        rw [if_neg odd, half, ← whole]

end Integer64

namespace Arithmetic

/-- The exact power, with all exponents multiplied. It is `1` if one of them is zero. -/
def exactPower (base : Int) (exponents : List Int64) : Int :=
  base ^ (exponents.map fun exponent => exponent.toInt.toNat).prod

theorem exactPower_cons (base : Int) (exponent : Int64) (exponents : List Int64) :
    exactPower base (exponent :: exponents) =
      exactPower (base ^ exponent.toInt.toNat) exponents := by
  rw [exactPower, exactPower, List.map_cons, List.prod_cons, pow_mul]

/-- A base may be wrapped before it is raised. -/
theorem ofInt_exactPower {base other : Int} (exponents : List Int64)
    (same : Int64.ofInt base = Int64.ofInt other) :
    Int64.ofInt (exactPower base exponents) = Int64.ofInt (exactPower other exponents) := by
  rw [exactPower, exactPower, Integer64.ofInt_pow, same, Integer64.ofInt_pow]

theorem foldl_powerOfIntegers (base : Int) (exponents : List Int64) :
    Int64.ofInt ((exponents.map Int64.toInt).foldl powerOfIntegers base) =
      Int64.ofInt (exactPower base exponents) := by
  induction exponents generalizing base with
  | nil => simp [exactPower]
  | cons exponent rest ih =>
      rw [List.map_cons, List.foldl_cons, ih, exactPower_cons]
      exact ofInt_exactPower rest (Integer64.ofInt_powerModulo base exponent.toInt.toNat)

/-- The power that is wrapped behind every exponent. -/
theorem foldl_wrappedPower (base : Int64) (exponents : List Int64) :
    exponents.foldl (fun base exponent => Int64.ofInt (base.toInt ^ exponent.toInt.toNat)) base =
      Int64.ofInt (exactPower base.toInt exponents) := by
  induction exponents generalizing base with
  | nil => simp [exactPower]
  | cons exponent rest ih =>
      rw [List.foldl_cons, ih, exactPower_cons]
      exact ofInt_exactPower rest (Int64.ofInt_toInt _)

theorem call_power (base : Int64 × Option Ref) {rest : List (Int64 × Option Ref)}
    (several : rest ≠ []) (nonnegative : ∀ exponent ∈ rest.map Prod.fst, 0 ≤ exponent.toInt) :
    power.function.call ((base :: rest).map operand) =
      pure (.integer (Int64.ofInt (exactPower base.1.toInt (rest.map Prod.fst))) none) := by
  have enough : power.minimum ≤ rest.length + 1 :=
    Nat.succ_le_succ (List.length_pos_iff.mpr several)
  have whole : power.needsFloats ((rest.map Prod.fst).map Int64.toInt) = false := by
    rw [needsFloats, List.any_eq_false]
    intro exponent member negative
    obtain ⟨number, present, rfl⟩ := List.mem_map.mp member
    have := nonnegative number present
    simp only [decide_eq_true_eq] at negative
    omega
  rw [call_integers _ _ _ enough whole, onIntegers, ← foldl_powerOfIntegers]
  rfl

theorem call_power_single (base exponent : Int64 × Option Ref)
    (nonnegative : 0 ≤ exponent.1.toInt) :
    power.function.call [operand base, operand exponent] =
      pure (operand (Int64.ofInt (base.1.toInt ^ exponent.1.toInt.toNat), none)) := by
  have called := call_power base (List.cons_ne_nil exponent [])
    (List.forall_mem_singleton.mpr nonnegative)
  rwa [List.map_singleton, exactPower, List.map_singleton, List.prod_singleton] at called

/-- The power of an integer by exponents that are not negative is the exact one by their product,
wrapped, and so is the power by one exponent after the other. -/
theorem power_several (base : Int64 × Option Ref) (rest : List (Int64 × Option Ref))
    (several : rest ≠ []) (nonnegative : ∀ exponent ∈ rest, 0 ≤ exponent.1.toInt) :
    ∃ result : Int64,
      result.toInt = Integer64.wrap (exactPower base.1.toInt (rest.map Prod.fst)) ∧
      power.function.call ((base :: rest).map operand) = pure (.integer result none) ∧
      nestedCalls power (operand base) (rest.map operand) = pure (.integer result none) := by
  have exponents : ∀ exponent ∈ rest.map Prod.fst, 0 ≤ exponent.toInt :=
    List.forall_mem_map.mpr nonnegative
  refine ⟨_, Integer64.toInt_ofInt _, call_power base several exponents, ?_⟩
  rw [← foldl_wrappedPower]
  exact nestedCalls_eq (fun base exponent => Int64.ofInt (base.toInt ^ exponent.toInt.toNat))
    (0 ≤ ·.toInt) call_power_single base several exponents

/-- The power of `-2` by `21` and then by `3` is the least integer, and that of `0` by `0` is `1`. -/
theorem power_several_negative :
    power.function.call [operand (-2, none), operand (21, none), operand (3, none)] =
        pure (.integer Int64.minValue none) ∧
      nestedCalls power (operand (0, none)) [operand (0, none)] = pure (.integer 1 none) := by
  obtain ⟨least, exactly, called, -⟩ := power_several (-2, none) [(21, none), (3, none)]
    (List.cons_ne_nil _ _) (by decide)
  obtain ⟨one, exactlyOne, -, nested⟩ := power_several (0, none) [(0, none)]
    (List.cons_ne_nil _ _) (by decide)
  have isLeast : least = Int64.minValue := Int64.toInt_inj.mp (exactly.trans (by decide))
  have isOne : one = 1 := Int64.toInt_inj.mp (exactlyOne.trans (by decide))
  exact ⟨isLeast ▸ called, isOne ▸ nested⟩

end Arithmetic

end Lisplet
