import Lisplet.Proofs.Expressions
import Lisplet.Proofs.IntegerCalls
import Mathlib.Data.List.Count

/-!
Division of integers. A quotient rounds toward zero, it leaves the range only where the least integer
is negated, and a division is refused exactly if it meets a zero.

Of several integers the operator keeps the quotients exact and wraps the last one, while nested
divisions wrap every quotient. The two differ where the least integer is negated on the way: its exact
negation is out of range, and what is divided next has the other sign.
-/

namespace Lisplet

namespace Arithmetic

/-! ### Quotients of 64 bits -/

/-- Do the divisors negate an odd number of times before one of them makes the quotient smaller? -/
def turns (divisors : List Int64) : Bool :=
  (divisors.takeWhile fun divisor => divisor = 1 || divisor = -1).count (-1) % 2 = 1

theorem turns_one (divisors : List Int64) : turns (1 :: divisors) = turns divisors := by
  simp [turns]

theorem turns_negative_one (divisors : List Int64) :
    turns (-1 :: divisors) = !turns divisors := by
  simp only [turns, List.takeWhile_cons, decide_true, Bool.or_true, if_true, List.count_cons_self]
  by_cases even : (divisors.takeWhile fun divisor => divisor = 1 || divisor = -1).count (-1) % 2 = 0
  · simp [even, Nat.add_mod]
  · simp [Nat.mod_two_ne_zero.mp even, Nat.add_mod]

theorem turns_large {divisor : Int64} (divisors : List Int64) (notOne : divisor ≠ 1)
    (notNegative : divisor ≠ -1) : turns (divisor :: divisors) = false := by
  simp [turns, notOne, notNegative]

/-- The exact quotient, from the dividend on. -/
def exactQuotient (dividend : Int) (divisors : List Int64) : Int :=
  (divisors.map Int64.toInt).foldl Int.tdiv dividend

theorem exactQuotient_cons (dividend : Int) (divisor : Int64) (divisors : List Int64) :
    exactQuotient dividend (divisor :: divisors) =
      exactQuotient (dividend.tdiv divisor.toInt) divisors :=
  rfl

theorem exactQuotient_neg (dividend : Int) (divisors : List Int64) :
    exactQuotient (-dividend) divisors = -exactQuotient dividend divisors := by
  induction divisors generalizing dividend with
  | nil => rfl
  | cons divisor rest ih => rw [exactQuotient_cons, exactQuotient_cons, Int.neg_tdiv, ih]

/-- A quotient is the least integer only if the dividend is. -/
theorem div_ne_minValue {dividend : Int64} (divisor : Int64) (inside : dividend ≠ Int64.minValue) :
    dividend / divisor ≠ Int64.minValue := by
  rw [Ne, ← Int64.toInt_inj] at inside ⊢
  rw [Int64.toInt_div_of_ne_left _ _ (mt Int64.toInt_inj.mpr inside)]
  have smaller := Int.natAbs_tdiv_le_natAbs dividend.toInt divisor.toInt
  have upper := dividend.toInt_lt
  have lower := dividend.le_toInt
  rw [Int64.toInt_minValue] at *
  omega

theorem minValue_div_ne {divisor : Int64} (notOne : divisor ≠ 1) (notNegative : divisor ≠ -1) :
    Int64.minValue / divisor ≠ Int64.minValue := by
  rw [Ne, ← Int64.toInt_inj] at notOne notNegative ⊢
  rw [Int64.toInt_div_of_ne_right _ _ (mt Int64.toInt_inj.mpr notNegative), Int64.toInt_minValue]
  intro same
  have magnitude := congrArg Int.natAbs same
  rw [Int.natAbs_tdiv] at magnitude
  have : divisor.toInt.natAbs ≠ 1 := by
    change divisor.toInt ≠ 1 at notOne
    change divisor.toInt ≠ -1 at notNegative
    omega
  have shrinks : 2 ^ 63 / divisor.toInt.natAbs ≠ 2 ^ 63 := by
    rcases Nat.eq_zero_or_pos divisor.toInt.natAbs with zero | positive
    · simp [zero]
    · exact Nat.ne_of_lt (Nat.div_lt_self (by decide) (by omega))
  exact shrinks magnitude

theorem ofInt_exactQuotient {dividend : Int64} (divisors : List Int64)
    (inside : dividend ≠ Int64.minValue) :
    Int64.ofInt (exactQuotient dividend.toInt divisors) = divisors.foldl (· / ·) dividend := by
  induction divisors generalizing dividend with
  | nil => exact Int64.ofInt_toInt dividend
  | cons divisor rest ih =>
      rw [exactQuotient_cons, ← Int64.toInt_div_of_ne_left _ _ inside]
      exact ih (div_ne_minValue divisor inside)

theorem ofInt_exactQuotient_minValue (divisors : List Int64) :
    Int64.ofInt (exactQuotient Int64.minValue.toInt divisors) =
      if turns divisors then -divisors.foldl (· / ·) Int64.minValue
      else divisors.foldl (· / ·) Int64.minValue := by
  induction divisors with
  | nil => rfl
  | cons divisor rest ih =>
      rw [exactQuotient_cons, List.foldl_cons]
      by_cases one : divisor = 1
      · rw [one, turns_one, show Int64.minValue / 1 = Int64.minValue from rfl]
        exact ih
      by_cases negative : divisor = -1
      · -- The exact quotient leaves the range here; the wrapped one is the least integer again.
        rw [negative, turns_negative_one, show Int64.minValue / -1 = Int64.minValue from rfl]
        rw [show Int64.minValue.toInt.tdiv (-1 : Int64).toInt = -Int64.minValue.toInt from rfl]
        rw [exactQuotient_neg, Int64.ofInt_neg, ih]
        cases turns rest <;> simp
      · rw [turns_large rest one negative, if_neg Bool.false_ne_true]
        rw [← Int64.toInt_div_of_ne_right _ _ negative]
        exact ofInt_exactQuotient rest (minValue_div_ne one negative)

/-! ### Calls -/

theorem ofInt_exactQuotient_single (dividend divisor : Int64) :
    Int64.ofInt (exactQuotient dividend.toInt [divisor]) = dividend / divisor := by
  rw [← Int64.toInt_inj, Int64.toInt_ofInt, Int64.toInt_div]
  rfl

theorem foldlM_divideIntegers (dividend : Int) {divisors : List Int64}
    (nonzero : ∀ divisor ∈ divisors, divisor ≠ 0) :
    (divisors.map Int64.toInt).foldlM divideIntegers dividend =
      .ok (exactQuotient dividend divisors) := by
  induction divisors generalizing dividend with
  | nil => rfl
  | cons divisor rest ih =>
      obtain ⟨head, tail⟩ := List.forall_mem_cons.mp nonzero
      have exact : divideIntegers dividend divisor.toInt = .ok (dividend.tdiv divisor.toInt) :=
        if_neg (mt Int64.toInt_inj.mp head)
      rw [List.map_cons, List.foldlM_cons, exact]
      exact ih _ tail

theorem call_divide (first : Int64 × Option Ref) {rest : List (Int64 × Option Ref)}
    (several : rest ≠ []) (nonzero : ∀ divisor ∈ rest.map Prod.fst, divisor ≠ 0) :
    divide.function.call ((first :: rest).map operand) =
      pure (.integer (Int64.ofInt (exactQuotient first.1.toInt (rest.map Prod.fst))) none) := by
  have enough : divide.minimum ≤ rest.length + 1 :=
    Nat.succ_le_succ (List.length_pos_iff.mpr several)
  rw [call_integers _ _ _ enough rfl, onIntegers, foldlM_divideIntegers _ nonzero]
  rfl

/-- Nested divisions: the quotient so far is divided by one operand after the other. -/
def nestedDivisions (first : Value) (rest : List Value) : Run Value :=
  rest.foldlM (fun quotient divisor => divide.function.call [quotient, divisor]) first

theorem call_divide_single (dividend divisor : Int64 × Option Ref) (nonzero : divisor.1 ≠ 0) :
    divide.function.call [operand dividend, operand divisor] =
      pure (operand (dividend.1 / divisor.1, none)) := by
  have called := call_divide dividend (List.cons_ne_nil divisor [])
    (List.forall_mem_singleton.mpr nonzero)
  rwa [List.map_singleton, ofInt_exactQuotient_single] at called

theorem nestedDivisions_integers (first : Int64 × Option Ref) {rest : List (Int64 × Option Ref)}
    (several : rest ≠ []) (nonzero : ∀ divisor ∈ rest.map Prod.fst, divisor ≠ 0) :
    nestedDivisions (operand first) (rest.map operand) =
      pure (.integer ((rest.map Prod.fst).foldl (· / ·) first.1) none) :=
  nestedCalls_eq (· / ·) (· ≠ 0) call_divide_single first several nonzero

/-- Dividing by several integers gives what nested divisions give, up to the sign where they turn
the least integer. -/
theorem divide_several (first : Int64 × Option Ref) (rest : List (Int64 × Option Ref))
    (several : rest ≠ []) (nonzero : ∀ divisor ∈ rest, divisor.1 ≠ 0) :
    let quotient := (rest.map Prod.fst).foldl (· / ·) first.1
    nestedDivisions (operand first) (rest.map operand) = pure (.integer quotient none) ∧
      divide.function.call ((first :: rest).map operand) =
        pure (.integer
          (if first.1 = Int64.minValue ∧ turns (rest.map Prod.fst) then -quotient else quotient)
          none) := by
  have divisors : ∀ divisor ∈ rest.map Prod.fst, divisor ≠ 0 := List.forall_mem_map.mpr nonzero
  refine ⟨nestedDivisions_integers first several divisors, ?_⟩
  rw [call_divide first several divisors]
  by_cases least : first.1 = Int64.minValue
  · rw [least, ofInt_exactQuotient_minValue]
    simp
  · rw [ofInt_exactQuotient _ least]
    simp [least]

/-- The least integer divided by `-1` and then by `2`. -/
theorem divide_several_least :
    nestedDivisions (operand (Int64.minValue, none)) [operand (-1, none), operand (2, none)] =
        pure (.integer (-4611686018427387904) none) ∧
      divide.function.call
          [operand (Int64.minValue, none), operand (-1, none), operand (2, none)] =
        pure (.integer 4611686018427387904 none) :=
  divide_several (Int64.minValue, none) [(-1, none), (2, none)] (List.cons_ne_nil _ _) (by decide)

theorem divide_not_nested :
    ∃ first rest, 2 ≤ rest.length ∧ (∀ divisor ∈ rest, divisor.1 ≠ 0) ∧
      divide.function.call ((first :: rest).map operand) ≠
        nestedDivisions (operand first) (rest.map operand) := by
  have nonzero : ∀ divisor ∈ ([(-1, none), (2, none)] : List (Int64 × Option Ref)),
      divisor.1 ≠ 0 := by decide
  refine ⟨(Int64.minValue, none), [(-1, none), (2, none)], Nat.le_refl 2, nonzero, fun same => ?_⟩
  rw [call_divide _ (List.cons_ne_nil _ _) (List.forall_mem_map.mpr nonzero)] at same
  rw [nestedDivisions_integers _ (List.cons_ne_nil _ _) (List.forall_mem_map.mpr nonzero)] at same
  have results := congrArg Prod.fst (congrFun same ⟨.empty, #[]⟩)
  rw [Run.pure_apply, Run.pure_apply, Except.ok.injEq, Value.integer.injEq] at results
  exact absurd results.1 (by decide)

/-! ### Remainders and zeros -/

/-- A quotient rounds toward zero: the remainder is smaller than the divisor and has the sign of the
dividend. -/
theorem exists_remainder (dividend : Int) {divisor : Int} (nonzero : divisor ≠ 0) :
    ∃ remainder, dividend = divisor * dividend.tdiv divisor + remainder ∧
      remainder.natAbs < divisor.natAbs ∧ (remainder = 0 ∨ remainder.sign = dividend.sign) := by
  refine ⟨dividend.tmod divisor, (Int.mul_tdiv_add_tmod dividend divisor).symm, ?_, ?_⟩
  · rw [Int.natAbs_tmod]
    exact Nat.mod_lt _ (by omega)
  · rw [Int.sign_tmod]
    by_cases divides : divisor ∣ dividend
    · exact .inl (Int.tmod_eq_zero_of_dvd divides)
    · exact .inr (if_neg divides)

/-- Only the negation of the least integer leaves the range. -/
theorem toInt_div_exact {dividend divisor : Int64}
    (inside : ¬(dividend = Int64.minValue ∧ divisor = -1)) :
    (dividend / divisor).toInt = dividend.toInt.tdiv divisor.toInt := by
  by_cases least : dividend = Int64.minValue
  · exact Int64.toInt_div_of_ne_right _ _ fun negative => inside ⟨least, negative⟩
  · exact Int64.toInt_div_of_ne_left _ _ least

theorem foldlM_divideIntegers_zero (dividend : Int) {divisors : List Int64}
    (zero : ∃ divisor ∈ divisors, divisor = 0) :
    (divisors.map Int64.toInt).foldlM divideIntegers dividend = .error .integerDivisionByZero := by
  induction divisors generalizing dividend with
  | nil => simp at zero
  | cons divisor rest ih =>
      rw [List.map_cons, List.foldlM_cons]
      by_cases first : divisor = 0
      · rw [first]
        rfl
      · have step : divideIntegers dividend divisor.toInt = .ok (dividend.tdiv divisor.toInt) :=
          if_neg (mt Int64.toInt_inj.mp first)
        obtain ⟨other, member, isZero⟩ := zero
        have later : other ∈ rest := by
          rcases List.mem_cons.mp member with rfl | later
          · exact absurd isZero first
          · exact later
        rw [step]
        exact ih _ ⟨other, later, isZero⟩

theorem call_divide_zero (first : Int64 × Option Ref) {rest : List (Int64 × Option Ref)}
    (zero : ∃ divisor ∈ rest, divisor.1 = 0) :
    divide.function.call ((first :: rest).map operand) =
      Run.fail (.ofFault .integerDivisionByZero) := by
  obtain ⟨divisor, member, isZero⟩ := zero
  have enough : divide.minimum ≤ rest.length + 1 :=
    Nat.succ_le_succ (List.length_pos_of_mem member)
  have among : ∃ divisor ∈ rest.map Prod.fst, divisor = 0 :=
    ⟨divisor.1, List.mem_map_of_mem member, isZero⟩
  rw [call_integers _ _ _ enough rfl, onIntegers, foldlM_divideIntegers_zero _ among]
  rfl

/-- Divisions of several integers are refused or give an integer. -/
theorem call_divide_cases (first : Int64 × Option Ref) {rest : List (Int64 × Option Ref)}
    (several : rest ≠ []) :
    ((∃ divisor ∈ rest, divisor.1 = 0) ∧ divide.function.call ((first :: rest).map operand) =
        Run.fail (.ofFault .integerDivisionByZero)) ∨
      ((¬∃ divisor ∈ rest, divisor.1 = 0) ∧ ∃ quotient,
        divide.function.call ((first :: rest).map operand) = pure (.integer quotient none)) := by
  by_cases zero : ∃ divisor ∈ rest, divisor.1 = 0
  · exact .inl ⟨zero, call_divide_zero first zero⟩
  · refine .inr ⟨zero, _, call_divide first several (List.forall_mem_map.mpr ?_)⟩
    exact fun divisor member isZero => zero ⟨divisor, member, isZero⟩

/-- Division of two integers rounds toward zero, but for the one quotient that is out of range. -/
theorem call_divide_pair (dividend divisor : Int64 × Option Ref) (nonzero : divisor.1 ≠ 0) :
    ∃ quotient : Int64,
      divide.function.call [operand dividend, operand divisor] = pure (.integer quotient none) ∧
        if dividend.1 = Int64.minValue ∧ divisor.1 = -1 then quotient = Int64.minValue
        else
          divide.onIntegers dividend.1.toInt [divisor.1.toInt] = .ok quotient.toInt ∧
            ∃ remainder : Int,
              dividend.1.toInt = divisor.1.toInt * quotient.toInt + remainder ∧
                remainder.natAbs < divisor.1.toInt.natAbs ∧
                (remainder = 0 ∨ remainder.sign = dividend.1.toInt.sign) := by
  refine ⟨_, call_divide_single dividend divisor nonzero, ?_⟩
  split
  · next overflows =>
      rw [overflows.1, overflows.2]
      rfl
  · next inside =>
      have away : divisor.1.toInt ≠ (0 : Int64).toInt := mt Int64.toInt_inj.mp nonzero
      have exact := toInt_div_exact inside
      refine ⟨?_, ?_⟩
      · rw [exact]
        exact foldlM_divideIntegers _ (List.forall_mem_singleton.mpr nonzero)
      · rw [exact]
        exact exists_remainder dividend.1.toInt away

theorem call_divide_refused_iff (first : Int64 × Option Ref) {rest : List (Int64 × Option Ref)}
    (several : rest ≠ []) (world : World) :
    (∃ fault : Fault, fault.kind = "ZeroDivisionError" ∧
      divide.function.call ((first :: rest).map operand) world =
        (.error (.fault fault []), world)) ↔ ∃ divisor ∈ rest, divisor.1 = 0 := by
  rcases call_divide_cases first several with ⟨zero, refused⟩ | ⟨nonzero, quotient, divided⟩
  · exact ⟨fun _ => zero, fun _ => ⟨.integerDivisionByZero, rfl, congrFun refused world⟩⟩
  · refine ⟨?_, fun zero => absurd zero nonzero⟩
    rintro ⟨fault, -, refused⟩
    rw [divided] at refused
    cases refused

/-- A program that divides by zero ends in a panic. -/
theorem evaluate_divide_panics_iff (first : Int64 × Option Ref)
    {rest : List (Int64 × Option Ref)} (several : rest ≠ []) (catalogue : Catalogue) (depth : Nat)
    {scope : ScopeId} {name : Identifier} (ref : Option Ref) {world : World}
    (bound : world.forest.get? scope name.name = some (.function divide.function)) :
    let expression := Value.list (.identifier name :: (first :: rest).map operand) ref
    (∃ fault : Fault, fault.kind = "ZeroDivisionError" ∧
      (evaluate catalogue (depth + 2) expression scope).bounded world =
        (.error (.panic fault [expression]), world)) ↔ ∃ divisor ∈ rest, divisor.1 = 0 := by
  intro expression
  have constants : ∀ argument ∈ (first :: rest).map operand, argument.isConstant = true :=
    List.forall_mem_map.mpr fun _ _ => rfl
  have called : evaluate catalogue (depth + 2) expression scope world =
      Run.within expression (divide.function.call ((first :: rest).map operand)) world :=
    Catalogue.valueOf_application name.ref ref bound constants
  rw [Run.bounded, called]
  rcases call_divide_cases first several with ⟨zero, refused⟩ | ⟨nonzero, quotient, divided⟩
  · rw [refused]
    exact ⟨fun _ => zero, fun _ => ⟨.integerDivisionByZero, rfl, rfl⟩⟩
  · rw [divided]
    refine ⟨?_, fun zero => absurd zero nonzero⟩
    rintro ⟨fault, -, ⟨⟩⟩

/-- Division of two integers rounds toward zero and leaves the range in one place only. Of several
operands, one of those behind the first is zero exactly if the division is refused by the host, and
evaluation panics then. -/
theorem divide_truncates :
    (∀ dividend divisor : Int64 × Option Ref, divisor.1 ≠ 0 → ∃ quotient : Int64,
      divide.function.call [operand dividend, operand divisor] =
          pure (.integer quotient none) ∧
        if dividend.1 = Int64.minValue ∧ divisor.1 = -1 then quotient = Int64.minValue
        else
          divide.onIntegers dividend.1.toInt [divisor.1.toInt] = .ok quotient.toInt ∧
            ∃ remainder : Int,
              dividend.1.toInt = divisor.1.toInt * quotient.toInt + remainder ∧
                remainder.natAbs < divisor.1.toInt.natAbs ∧
                (remainder = 0 ∨ remainder.sign = dividend.1.toInt.sign)) ∧
    ∀ (first : Int64 × Option Ref), ∀ rest ≠ [],
      (∀ world, (∃ fault : Fault, fault.kind = "ZeroDivisionError" ∧
          divide.function.call ((first :: rest).map operand) world =
            (.error (.fault fault []), world)) ↔ ∃ divisor ∈ rest, divisor.1 = 0) ∧
      ∀ (catalogue : Catalogue) (depth : Nat) (scope : ScopeId) (name : Identifier)
        (ref : Option Ref) (world : World),
        world.forest.get? scope name.name = some (.function divide.function) →
        let expression := Value.list (.identifier name :: (first :: rest).map operand) ref
        (∃ fault : Fault, fault.kind = "ZeroDivisionError" ∧
          (evaluate catalogue (depth + 2) expression scope).bounded world =
            (.error (.panic fault [expression]), world)) ↔ ∃ divisor ∈ rest, divisor.1 = 0 := by
  refine ⟨call_divide_pair, fun first rest several => ⟨fun world => ?_, ?_⟩⟩
  · exact call_divide_refused_iff first several world
  · intro catalogue depth scope name ref world bound
    exact evaluate_divide_panics_iff first several catalogue depth ref bound

/-- The least integer by `-1` stays what it is, and a zero is found behind a quotient of zero. -/
theorem divide_truncates_least :
    divide.function.call [operand (Int64.minValue, none), operand (-1, none)] =
        pure (.integer Int64.minValue none) ∧
      ∀ world, ∃ fault : Fault, fault.kind = "ZeroDivisionError" ∧
        divide.function.call [operand (0, none), operand (5, none), operand (0, none)] world =
          (.error (.fault fault []), world) := by
  obtain ⟨quotient, divided, isLeast⟩ :=
    divide_truncates.1 (Int64.minValue, none) (-1, none) (by decide)
  refine ⟨?_, fun world => ?_⟩
  · rw [if_pos ⟨rfl, rfl⟩] at isLeast
    rw [divided, isLeast]
  · have refused := (divide_truncates.2 (0, none) [(5, none), (0, none)] (List.cons_ne_nil _ _)).1
    exact (refused world).mpr ⟨(0, none), by simp, rfl⟩

end Arithmetic

end Lisplet
