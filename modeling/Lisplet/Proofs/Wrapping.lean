import Lisplet.Proofs.IntegerCalls
import Mathlib.Algebra.BigOperators.Group.List.Basic
import Mathlib.Data.Int.ModEq

/-!
Sums, differences and products of integers. Taking an integer to the one of 64 bits that is congruent
to it respects all three, so it is the same whether the exact result is wrapped or every result on
the way is, and calls of the operators obey the laws of a ring.
-/

namespace Lisplet

namespace Integer64

/-- The only integer of 64 bits that is congruent to the exact one. -/
structure IsResidue (exact : Int) (result : Int64) : Prop where
  range : least ≤ result.toInt ∧ result.toInt ≤ greatest
  congruent : result.toInt ≡ exact [ZMOD modulus]
  only : ∀ other : Int, least ≤ other → other ≤ greatest → other ≡ exact [ZMOD modulus] →
    other = result.toInt

theorem ofInt_eq_iff (left right : Int) :
    Int64.ofInt left = Int64.ofInt right ↔ left ≡ right [ZMOD modulus] := by
  rw [← Int64.toInt_inj, toInt_ofInt, toInt_ofInt, wrap, wrap, Int.ModEq]
  constructor
  · intro same
    rw [← Int.bmod_emod, same, Int.bmod_emod]
  · intro same
    rw [← Int.emod_bmod, same, Int.emod_bmod]

theorem isResidue_ofInt (exact : Int) : IsResidue exact (Int64.ofInt exact) := by
  refine ⟨?_, ?_, ?_⟩
  · rw [toInt_ofInt]
    exact wrap_range exact
  · rw [← ofInt_eq_iff, Int64.ofInt_toInt]
  · intro other lower upper congruent
    rw [← (ofInt_eq_iff other exact).mpr congruent]
    unfold least at lower
    unfold greatest at upper
    exact (Int64.toInt_ofInt_of_le (by omega) (by omega)).symm

theorem residue_modEq (number : Int) : (Int64.ofInt number).toInt ≡ number [ZMOD modulus] :=
  (isResidue_ofInt number).congruent

theorem sum_residues (numbers : List Int) :
    (numbers.map fun number => (Int64.ofInt number).toInt).sum ≡ numbers.sum [ZMOD modulus] := by
  induction numbers with
  | nil => rfl
  | cons number rest ih => exact (residue_modEq number).add ih

theorem prod_residues (numbers : List Int) :
    (numbers.map fun number => (Int64.ofInt number).toInt).prod ≡ numbers.prod [ZMOD modulus] := by
  induction numbers with
  | nil => rfl
  | cons number rest ih => exact (residue_modEq number).mul ih

end Integer64

/-! ### Single calls -/

/-- The exact integers that operands stand for. -/
def integers (operands : List (Int64 × Option Ref)) : List Int :=
  (operands.map Prod.fst).map Int64.toInt

theorem integers_cons (first : Int64 × Option Ref) (rest : List (Int64 × Option Ref)) :
    integers (first :: rest) = first.1.toInt :: integers rest :=
  rfl

theorem integers_append (front back : List (Int64 × Option Ref)) :
    integers (front ++ back) = integers front ++ integers back := by
  simp [integers]

theorem integers_perm {operands others : List (Int64 × Option Ref)} (same : operands.Perm others) :
    (integers operands).Perm (integers others) :=
  (same.map Prod.fst).map Int64.toInt

inductive RingOperator
  | sum
  | difference
  | product

namespace RingOperator

open Arithmetic (operand nestedCalls)

def arithmetic : RingOperator → Arithmetic
  | sum => .add
  | difference => .subtract
  | product => .multiply

/-- The call of the operator on integers, as programs make it. -/
def on (operator : RingOperator) (numbers : List (Int64 × Option Ref)) : Run Value :=
  operator.arithmetic.function.call (numbers.map operand)

/-- The exact result. The difference of a single operand is its negation. -/
def exact (first : Int) (rest : List Int) : RingOperator → Int
  | sum => (first :: rest).sum
  | difference => if rest = [] then -first else first - rest.sum
  | product => (first :: rest).prod

/-- One step from left to right, on integers of 64 bits. -/
def step (left right : Int64) : RingOperator → Int64
  | sum => left + right
  | difference => left - right
  | product => left * right

theorem onIntegers_eq (operator : RingOperator) (first : Int) (rest : List Int) :
    operator.arithmetic.onIntegers first rest = .ok (operator.exact first rest) := by
  cases operator with
  | sum =>
      have fold : rest.foldl (· + ·) first = first + rest.sum := by
        induction rest generalizing first with
        | nil => simp
        | cons next rest ih => simp [ih, add_assoc]
      simp [RingOperator.arithmetic, Arithmetic.onIntegers, exact, fold]
  | difference =>
      have fold : rest.foldl (· - ·) first = first - rest.sum := by
        induction rest generalizing first with
        | nil => simp
        | cons next rest ih => simp [ih, sub_sub]
      simp [RingOperator.arithmetic, Arithmetic.onIntegers, exact, fold, List.isEmpty_iff]
  | product =>
      have fold : rest.foldl (· * ·) first = first * rest.prod := by
        induction rest generalizing first with
        | nil => simp
        | cons next rest ih => simp [ih, mul_assoc]
      simp [RingOperator.arithmetic, Arithmetic.onIntegers, exact, fold]

theorem on_eq (operator : RingOperator) (first : Int64 × Option Ref)
    (rest : List (Int64 × Option Ref)) :
    operator.on (first :: rest) =
      pure (operand (Int64.ofInt (operator.exact first.1.toInt (integers rest)), none)) := by
  have enough : operator.arithmetic.minimum ≤ rest.length + 1 := by
    cases operator <;> exact Nat.le_add_left 1 rest.length
  have whole (numbers : List Int) : operator.arithmetic.needsFloats numbers = false := by
    cases operator <;> rfl
  rw [on, Arithmetic.call_integers _ _ _ enough (whole _), onIntegers_eq]
  rfl

theorem exact_cons (operator : RingOperator) (first next : Int) {rest : List Int}
    (several : rest ≠ []) :
    operator.exact first (next :: rest) = operator.exact (operator.exact first [next]) rest := by
  cases operator with
  | sum => simp [exact, add_assoc]
  | difference => simp [exact, several, sub_sub]
  | product => simp [exact, mul_assoc]

/-- Operands may be wrapped before the exact result is taken. -/
theorem exact_residues (operator : RingOperator) (first : Int) (rest : List Int) :
    operator.exact (Int64.ofInt first).toInt (rest.map fun number => (Int64.ofInt number).toInt) ≡
      operator.exact first rest [ZMOD Integer64.modulus] := by
  have head := Integer64.residue_modEq first
  cases operator with
  | sum => exact head.add (Integer64.sum_residues rest)
  | product => exact head.mul (Integer64.prod_residues rest)
  | difference =>
      unfold exact
      by_cases single : rest = []
      · simpa [single] using head.neg
      · simpa [single] using head.sub (Integer64.sum_residues rest)

theorem step_eq (operator : RingOperator) (left right : Int64) :
    operator.step left right = Int64.ofInt (operator.exact left.toInt [right.toInt]) := by
  cases operator <;> simp [exact, step]

theorem on_pair (operator : RingOperator) (left right : Int64 × Option Ref) :
    operator.on [left, right] = pure (operand (operator.step left.1 right.1, none)) := by
  rw [on_eq, step_eq]
  rfl

/-- Wrapping behind every step gives what wrapping the exact result gives. -/
theorem foldl_step (operator : RingOperator) (first : Int64) {rest : List Int64}
    (several : rest ≠ []) :
    rest.foldl (fun left right => operator.step left right) first =
      Int64.ofInt (operator.exact first.toInt (rest.map Int64.toInt)) := by
  induction rest generalizing first with
  | nil => exact absurd rfl several
  | cons next rest ih =>
      rw [List.foldl_cons, List.map_cons]
      by_cases last : rest = []
      · rw [last]
        exact operator.step_eq first next
      · have wrapped := operator.exact_residues (operator.exact first.toInt [next.toInt])
          (rest.map Int64.toInt)
        simp only [List.map_map, Function.comp_def, Int64.ofInt_toInt] at wrapped
        have more : rest.map Int64.toInt ≠ [] := by simpa using last
        rw [ih _ last, step_eq, exact_cons operator _ _ more]
        exact (Integer64.ofInt_eq_iff _ _).mpr wrapped

theorem on_eq_nestedCalls (operator : RingOperator) (first second : Int64 × Option Ref)
    (rest : List (Int64 × Option Ref)) :
    operator.on (first :: second :: rest) =
      nestedCalls operator.arithmetic (operand first) ((second :: rest).map operand) := by
  have several : (second :: rest).map Prod.fst ≠ [] := List.cons_ne_nil _ _
  have nested := Arithmetic.nestedCalls_eq (operator.step · ·) (fun _ => True)
    (fun left right _ => operator.on_pair left right) first (List.cons_ne_nil second rest)
    (fun _ _ => trivial)
  rw [nested, on_eq, foldl_step operator first.1 several]
  rfl

theorem on_sum {numbers : List (Int64 × Option Ref)} (several : numbers ≠ []) :
    sum.on numbers = pure (operand (Int64.ofInt (integers numbers).sum, none)) := by
  obtain ⟨first, rest, rfl⟩ := List.exists_cons_of_ne_nil several
  exact sum.on_eq first rest

theorem on_product {numbers : List (Int64 × Option Ref)} (several : numbers ≠ []) :
    product.on numbers = pure (operand (Int64.ofInt (integers numbers).prod, none)) := by
  obtain ⟨first, rest, rfl⟩ := List.exists_cons_of_ne_nil several
  exact product.on_eq first rest

theorem on_perm {operator : RingOperator} (commutes : operator ≠ difference)
    {numbers others : List (Int64 × Option Ref)} (same : numbers.Perm others) :
    operator.on numbers = operator.on others := by
  by_cases empty : numbers = []
  · subst empty
    rw [List.nil_perm.mp same]
  have more : others ≠ [] := fun none => empty (List.perm_nil.mp (none ▸ same))
  cases operator with
  | sum => rw [on_sum empty, on_sum more, (integers_perm same).sum_eq]
  | product => rw [on_product empty, on_product more, (integers_perm same).prod_eq]
  | difference => exact absurd rfl commutes

end RingOperator

/-! ### Nested calls -/

/-- Integers that are combined by calls of the three operators, nested in any way. -/
inductive Calculation
  | number (given : Int64 × Option Ref)
  | call (operator : RingOperator) (first : Calculation) (rest : List Calculation)

namespace Calculation

open Arithmetic (operand)

mutual

/-- The exact result. -/
def exact : Calculation → Int
  | number given => given.1.toInt
  | call operator first rest => operator.exact first.exact (allExact rest)

def allExact : List Calculation → List Int
  | [] => []
  | calculation :: rest => calculation.exact :: allExact rest

end

mutual

/-- Makes all calls, the inner ones first. -/
def run : Calculation → Run Value
  | number given => return operand given
  | call operator first rest => do
    let head ← first.run
    let others ← runAll rest
    operator.arithmetic.function.call (head :: others)

def runAll : List Calculation → Run (List Value)
  | [] => return []
  | calculation :: rest => do
    let value ← calculation.run
    let others ← runAll rest
    return value :: others

end

/-- The result of 64 bits. Calls give a number without a place. -/
def result : Calculation → Int64 × Option Ref
  | number given => given
  | call operator first rest => (Int64.ofInt (call operator first rest).exact, none)

theorem result_eq (calculation : Calculation) :
    calculation.result.1 = Int64.ofInt calculation.exact := by
  cases calculation with
  | number given => simp [result, exact]
  | call operator first rest => rfl

theorem allExact_numbers (numbers : List (Int64 × Option Ref)) :
    allExact (numbers.map number) = integers numbers := by
  induction numbers with
  | nil => rfl
  | cons first rest ih => rw [List.map_cons, allExact, ih, exact, integers_cons]

theorem results_eq (calculations : List Calculation) :
    integers (calculations.map result) =
      (allExact calculations).map fun number => (Int64.ofInt number).toInt := by
  induction calculations with
  | nil => rfl
  | cons calculation rest ih =>
      rw [allExact, List.map_cons, List.map_cons, integers_cons, result_eq, ih]

theorem on_results (operator : RingOperator) (first : Calculation) (rest : List Calculation) :
    operator.on (first.result :: rest.map result) = pure (operand (call operator first rest).result) := by
  have wrapped := operator.exact_residues first.exact (allExact rest)
  rw [RingOperator.on_eq, result_eq, results_eq, (Integer64.ofInt_eq_iff _ _).mpr wrapped]
  rfl

mutual

/-- However calls are nested, the result is the exact one, wrapped. -/
theorem run_eq (calculation : Calculation) :
    calculation.run = pure (operand calculation.result) := by
  match calculation with
  | .number given => rfl
  | .call operator first rest =>
      rw [run, run_eq first, runAll_eq rest, pure_bind, pure_bind]
      exact on_results operator first rest

theorem runAll_eq (calculations : List Calculation) :
    runAll calculations = pure ((calculations.map result).map operand) := by
  match calculations with
  | [] => rfl
  | calculation :: rest =>
      rw [runAll, run_eq calculation, runAll_eq rest]
      rfl

end

mutual

/-- The integers that are combined, from left to right. -/
def operands : Calculation → List (Int64 × Option Ref)
  | number given => [given]
  | call _ first rest => first.operands ++ allOperands rest

def allOperands : List Calculation → List (Int64 × Option Ref)
  | [] => []
  | calculation :: rest => calculation.operands ++ allOperands rest

end

mutual

/-- All calls are calls of the operator, so the calculation groups operands of it. -/
def Groups (operator : RingOperator) : Calculation → Prop
  | number _ => True
  | call used first rest => used = operator ∧ first.Groups operator ∧ AllGroup operator rest

def AllGroup (operator : RingOperator) : List Calculation → Prop
  | [] => True
  | calculation :: rest => calculation.Groups operator ∧ AllGroup operator rest

end

mutual

theorem exact_of_sums (calculation : Calculation) (groups : calculation.Groups .sum) :
    calculation.exact = (integers calculation.operands).sum := by
  match calculation with
  | .number given => simp [exact, operands, integers]
  | .call operator first rest =>
      obtain ⟨rfl, head, tail⟩ := groups
      rw [exact, operands, integers_append, List.sum_append, ← exact_of_sums first head,
        ← allExact_of_sums rest tail]
      rfl

theorem allExact_of_sums (calculations : List Calculation) (group : AllGroup .sum calculations) :
    (allExact calculations).sum = (integers (allOperands calculations)).sum := by
  match calculations with
  | [] => rfl
  | calculation :: rest =>
      rw [allExact, allOperands, integers_append, List.sum_cons, List.sum_append,
        exact_of_sums calculation group.1, allExact_of_sums rest group.2]

end

mutual

theorem exact_of_products (calculation : Calculation) (groups : calculation.Groups .product) :
    calculation.exact = (integers calculation.operands).prod := by
  match calculation with
  | .number given => simp [exact, operands, integers]
  | .call operator first rest =>
      obtain ⟨rfl, head, tail⟩ := groups
      rw [exact, operands, integers_append, List.prod_append, ← exact_of_products first head,
        ← allExact_of_products rest tail]
      rfl

theorem allExact_of_products (calculations : List Calculation)
    (group : AllGroup .product calculations) :
    (allExact calculations).prod = (integers (allOperands calculations)).prod := by
  match calculations with
  | [] => rfl
  | calculation :: rest =>
      rw [allExact, allOperands, integers_append, List.prod_cons, List.prod_append,
        exact_of_products calculation group.1, allExact_of_products rest group.2]

end

theorem operands_ne_nil (calculation : Calculation) : calculation.operands ≠ [] := by
  match calculation with
  | .number given => exact List.cons_ne_nil given []
  | .call _ first rest =>
      rw [operands]
      exact List.append_ne_nil_of_left_ne_nil (operands_ne_nil first) _

/-- Sums may be grouped in any way, and so may products. -/
theorem run_grouped {operator : RingOperator} (associates : operator ≠ .difference)
    (first : Calculation) (rest : List Calculation)
    (groups : (call operator first rest).Groups operator) :
    (call operator first rest).run = operator.on (call operator first rest).operands := by
  have several := operands_ne_nil (call operator first rest)
  rw [run_eq, result]
  cases operator with
  | sum => rw [RingOperator.on_sum several, exact_of_sums _ groups]
  | product => rw [RingOperator.on_product several, exact_of_products _ groups]
  | difference => exact absurd rfl associates

/-- What holds of the exact results holds of calls. -/
theorem run_congr {operator other : RingOperator} {first head : Calculation}
    {rest tail : List Calculation}
    (same : (call operator first rest).exact ≡ (call other head tail).exact
      [ZMOD Integer64.modulus]) :
    (call operator first rest).run = (call other head tail).run := by
  rw [run_eq, run_eq, result, result, (Integer64.ofInt_eq_iff _ _).mpr same]

end Calculation

/-! ### The laws -/

/-- Calls on integers behave like the ring of integers modulo `2 ^ 64`. -/
structure RingLaws : Prop where
  sum : ∀ numbers ≠ [], ∃ result, RingOperator.sum.on numbers = pure (.integer result none) ∧
    Integer64.IsResidue (integers numbers).sum result
  product : ∀ numbers ≠ [], ∃ result,
    RingOperator.product.on numbers = pure (.integer result none) ∧
      Integer64.IsResidue (integers numbers).prod result
  difference : ∀ first, ∀ rest ≠ [], ∃ result,
    RingOperator.difference.on (first :: rest) = pure (.integer result none) ∧
      Integer64.IsResidue (first.1.toInt - (integers rest).sum) result
  negation : ∀ number, ∃ result,
    RingOperator.difference.on [number] = pure (.integer result none) ∧
      Integer64.IsResidue (-number.1.toInt) result
  /-- Wrapping once is the same as wrapping behind every step, in calls nested to the left. -/
  stepwise : ∀ (operator : RingOperator) (first second : Int64 × Option Ref)
    (rest : List (Int64 × Option Ref)), operator.on (first :: second :: rest) =
      Arithmetic.nestedCalls operator.arithmetic (Arithmetic.operand first)
        ((second :: rest).map Arithmetic.operand)
  /-- The first two operands may be combined beforehand, if there are more. -/
  firstPair : ∀ (operator : RingOperator) (first second : Int64 × Option Ref), ∀ rest ≠ [],
    operator.on (first :: second :: rest) =
      (Calculation.call operator (.call operator (.number first) [.number second])
        (rest.map .number)).run
  permuted : ∀ operator ≠ RingOperator.difference, ∀ numbers others : List (Int64 × Option Ref),
    numbers.Perm others → operator.on numbers = operator.on others
  grouped : ∀ operator ≠ RingOperator.difference, ∀ first rest,
    (Calculation.call operator first rest).Groups operator →
      (Calculation.call operator first rest).run =
        operator.on (Calculation.call operator first rest).operands
  distributed : ∀ a b c : Int64 × Option Ref,
    (Calculation.call .product (.number a) [.call .sum (.number b) [.number c]]).run =
      (Calculation.call .sum (.call .product (.number a) [.number b])
        [.call .product (.number a) [.number c]]).run
  /-- However the three are nested, the result is the exact one, wrapped. -/
  nested : ∀ calculation : Calculation,
    calculation.run = pure (Arithmetic.operand calculation.result) ∧
      Integer64.IsResidue calculation.exact calculation.result.1

theorem RingOperator.on_firstPair (operator : RingOperator) (first second : Int64 × Option Ref)
    {rest : List (Int64 × Option Ref)} (several : rest ≠ []) :
    operator.on (first :: second :: rest) =
      (Calculation.call operator (.call operator (.number first) [.number second])
        (rest.map .number)).run := by
  have more : integers rest ≠ [] := by simpa [integers] using several
  rw [on_eq, integers_cons, exact_cons operator _ _ more, Calculation.run_eq, Calculation.result,
    Calculation.exact, Calculation.allExact_numbers]
  rfl

theorem Arithmetic.integers_form_ring : RingLaws where
  sum numbers several := ⟨_, RingOperator.on_sum several, Integer64.isResidue_ofInt _⟩
  product numbers several := ⟨_, RingOperator.on_product several, Integer64.isResidue_ofInt _⟩
  difference first rest several := by
    refine ⟨_, RingOperator.difference.on_eq first rest, ?_⟩
    have more : integers rest ≠ [] := by simpa [integers] using several
    rw [RingOperator.exact, if_neg more]
    exact Integer64.isResidue_ofInt _
  negation number :=
    ⟨_, RingOperator.difference.on_eq number [], Integer64.isResidue_ofInt _⟩
  stepwise := RingOperator.on_eq_nestedCalls
  firstPair operator first second rest several := operator.on_firstPair first second several
  permuted operator commutes numbers others same := RingOperator.on_perm commutes same
  grouped operator associates first rest groups :=
    Calculation.run_grouped associates first rest groups
  distributed a b c := by
    refine Calculation.run_congr ?_
    simp [Calculation.exact, Calculation.allExact, RingOperator.exact, mul_add]
  nested calculation := by
    refine ⟨calculation.run_eq, ?_⟩
    rw [calculation.result_eq]
    exact Integer64.isResidue_ofInt _

/-- The greatest integer and `1` and `1` again: the sum leaves the range, in every order and with
every grouping. -/
theorem Arithmetic.integers_form_ring_greatest :
    RingOperator.sum.on [(Int64.maxValue, none), (1, none), (1, none)] =
        RingOperator.sum.on [(1, none), (1, none), (Int64.maxValue, none)] ∧
      (Calculation.call .sum (.number (Int64.maxValue, none))
          [.call .sum (.number (1, none)) [.number (1, none)]]).run =
        RingOperator.sum.on [(Int64.maxValue, none), (1, none), (1, none)] ∧
      Integer64.IsResidue (integers [(Int64.maxValue, none), (1, none), (1, none)]).sum
        (Int64.minValue + 1) := by
  have laws := integers_form_ring
  refine ⟨?_, ?_, ?_⟩
  · exact laws.permuted .sum nofun _ _ ((List.Perm.swap _ _ _).trans ((List.Perm.swap _ _ _).cons _))
  · exact laws.grouped .sum nofun (.number (Int64.maxValue, none))
      [.call .sum (.number (1, none)) [.number (1, none)]]
      ⟨rfl, trivial, ⟨rfl, trivial, trivial, trivial⟩, trivial⟩
  · obtain ⟨result, -, residue⟩ :=
      laws.sum [(Int64.maxValue, none), (1, none), (1, none)] (List.cons_ne_nil _ _)
    have same := residue.only (Int64.minValue + 1).toInt (by decide) (by decide) (by decide)
    rwa [Int64.toInt_inj.mp same]

end Lisplet
