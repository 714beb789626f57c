import Lisplet.Proofs.Division
import Lisplet.Proofs.Operands

/-!
What calls of the operators come to, for operands of any type and number. Too few operands are
reported before a wrong type is, and nothing is computed before all operands are looked at. What is
left to fail are divisions by zero and powers of floats.
-/

namespace Lisplet

/-! ### How calls end -/

namespace Run

variable {α : Type}

/-- The run ends in an error of the language and leaves the world as it was. -/
def Raises (kind : ErrorKind) (run : Run α) (world : World) : Prop :=
  ∃ error : RuntimeError, error.kind = kind ∧ run world = (.error (.error error), world)

def Faults (run : Run α) (world : World) : Prop :=
  ∃ fault : Fault, run world = (.error (.fault fault []), world)

def Returns (run : Run α) (world : World) : Prop :=
  ∃ result, run world = (.ok result, world)

variable {kind : ErrorKind} {world : World}

@[simp]
theorem raises_ofCause_iff {cause : Cause} {ref : Option Ref} :
    (ofExcept (.error (.ofCause cause ref)) : Run α).Raises kind world ↔ cause.kind = kind := by
  constructor
  · rintro ⟨error, same, ends⟩
    cases ends
    exact same
  · exact fun same => ⟨⟨cause, ref, []⟩, same, rfl⟩

@[simp]
theorem not_raises_fault (fault : Fault) :
    ¬(ofExcept (.error (.ofFault fault)) : Run α).Raises kind world := by
  rintro ⟨error, -, ends⟩
  cases ends

@[simp]
theorem not_raises_ok (result : α) : ¬(ofExcept (.ok result)).Raises kind world := by
  rintro ⟨error, -, ends⟩
  cases ends

theorem not_faults_ok (result : α) : ¬(ofExcept (.ok result)).Faults world := by
  rintro ⟨fault, ends⟩
  cases ends

theorem not_returns_error (failure : Failure) :
    ¬(ofExcept (.error failure) : Run α).Returns world := by
  rintro ⟨result, ends⟩
  cases ends

end Run

/-! ### Arithmetic -/

namespace Arithmetic

variable {operator : Arithmetic}

/-- Integers give an integer, unless an exponent is negative. -/
def KeepsIntegers (operator : Arithmetic) (operands : List Value) : Prop :=
  (∀ operand ∈ operands, operand.isInteger = true) ∧
    (operator = power → ∀ exponent ∈ operands.tail, exponent.isNegative = false)

inductive Result (operator : Arithmetic) (operands : List Value) : Except Failure Value → Prop
  | integer (keeps : operator.KeepsIntegers operands)
      (nonzero : operator = divide → ∀ divisor ∈ operands.tail, divisor.isZero = false)
      (number : Int64) : Result operator operands (.ok (.integer number none))
  | float (leaves : ¬operator.KeepsIntegers operands)
      (nonzero : operator = divide → ∀ divisor ∈ operands.tail, divisor.isZero = false)
      (number : Float) : Result operator operands (.ok (.float number none))
  | division (divides : operator = divide)
      (zero : ∃ divisor ∈ operands.tail, divisor.isZero = true)
      (fault : Fault) : Result operator operands (.error (.ofFault fault))
  | power (leaves : ¬operator.KeepsIntegers operands) (raises : operator = power)
      (fault : Fault) : Result operator operands (.error (.ofFault fault))

inductive Outcome (operator : Arithmetic) (operands : List Value) : Except Failure Value → Prop
  | few (few : operands.length < operator.minimum) :
      Outcome operator operands
        (.error (.ofCause (.fewOperands operator.name operator.minimum) none))
  | mistyped (enough : operator.minimum ≤ operands.length)
      (other : ∃ operand ∈ operands, operand.isNumber = false) (found : Text) :
      Outcome operator operands (.error (.ofCause (.operandType operator.name found) none))
  | computed (enough : operator.minimum ≤ operands.length)
      (numbers : ∀ operand ∈ operands, operand.isNumber = true) {outcome : Except Failure Value}
      (result : operator.Result operands outcome) : Outcome operator operands outcome

theorem foldlM_divideFloats (dividend : Float) (divisors : List Float) :
    divisors.foldlM divideFloats dividend =
      if divisors.any Binary64.isZero then .error .floatDivisionByZero
      else .ok (divisors.foldl (· / ·) dividend) := by
  induction divisors generalizing dividend with
  | nil => rfl
  | cons divisor rest ih =>
      rw [List.foldlM_cons, divideFloats, List.any_cons]
      cases Binary64.isZero divisor with
      | true => rfl
      | false => exact ih (dividend / divisor)

theorem result_floats {first : Numeral} {rest : List Numeral}
    (leaves : ¬operator.KeepsIntegers ((first :: rest).map Numeral.value)) :
    operator.Result ((first :: rest).map Numeral.value)
      (Failure.orFault (operator.compute (.floats first.real (rest.map Numeral.real))) >>=
        operator.function.accept) := by
  cases operator with
  | add | subtract | multiply => exact .float leaves (by rintro ⟨⟩) _
  | divide =>
      rw [compute, onFloats, foldlM_divideFloats]
      have tail : (((first :: rest).map Numeral.value).tail.any Value.isZero) =
          (rest.map Numeral.real).any Binary64.isZero := by
        simp only [List.map_cons, List.tail_cons, List.any_map, Function.comp_def,
          Numeral.isZero_real]
      cases zero : (rest.map Numeral.real).any Binary64.isZero with
      | true => exact .division rfl (List.any_eq_true.mp (tail.trans zero)) .floatDivisionByZero
      | false =>
          refine .float leaves (fun _ divisor member => ?_) _
          exact Bool.eq_false_iff.mpr (List.any_eq_false.mp (tail.trans zero) divisor member)
  | power =>
      rw [compute, onFloats]
      cases (rest.map Numeral.real).foldlM Binary64.power first.real with
      | ok result => exact .float leaves (by rintro ⟨⟩) result
      | error fault => exact .power leaves rfl fault

theorem keepsIntegers_iff (first : Int64 × Option Ref) (rest : List (Int64 × Option Ref)) :
    operator.KeepsIntegers ((first :: rest).map operand) ↔
      operator.needsFloats ((rest.map Prod.fst).map Int64.toInt) = false := by
  have integers : ∀ value ∈ (first :: rest).map operand, value.isInteger = true :=
    List.forall_mem_map.mpr fun _ _ => rfl
  cases operator with
  | add | subtract | multiply | divide =>
      exact iff_of_true ⟨integers, by rintro ⟨⟩⟩ rfl
  | power =>
      rw [KeepsIntegers, needsFloats, List.any_eq_false, and_iff_right integers]
      simp only [forall_const, List.map_cons, List.tail_cons, List.forall_mem_map,
        decide_eq_true_eq]
      refine forall₂_congr fun exponent _ => ?_
      change decide (exponent.1 < 0) = false ↔ _
      rw [decide_eq_false_iff_not, Int64.lt_iff_toInt_lt]
      rfl

theorem result_integers {first : Int64 × Option Ref} {rest : List (Int64 × Option Ref)}
    (keeps : operator.KeepsIntegers ((first :: rest).map operand)) :
    operator.Result ((first :: rest).map operand)
      (Failure.orFault (operator.compute
          (.integers first.1.toInt ((rest.map Prod.fst).map Int64.toInt))) >>=
        operator.function.accept) := by
  rw [compute, (keepsIntegers_iff first rest).mp keeps, if_neg Bool.false_ne_true]
  cases operator with
  | add | subtract | multiply | power => exact .integer keeps (by rintro ⟨⟩) _
  | divide =>
      by_cases zero : ∃ divisor ∈ rest.map Prod.fst, divisor = 0
      · rw [onIntegers, foldlM_divideIntegers_zero _ zero]
        refine .division rfl ?_ .integerDivisionByZero
        simpa [operand, Value.isZero] using zero
      · have nonzero : ∀ divisor ∈ rest.map Prod.fst, divisor ≠ 0 :=
          fun divisor member isZero => zero ⟨divisor, member, isZero⟩
        rw [onIntegers, foldlM_divideIntegers _ nonzero]
        refine .integer keeps (fun _ => List.forall_mem_map.mpr fun divisor member => ?_) _
        exact decide_eq_false (nonzero divisor.1 (List.mem_map_of_mem member))

/-- A negative exponent promotes all operands, like a float among them. -/
theorem compute_negative {first : Int64} {rest : List Int64}
    (needs : operator.needsFloats (rest.map Int64.toInt) = true) :
    operator.compute (.integers first.toInt (rest.map Int64.toInt)) =
      operator.compute (.floats (Binary64.ofInt first.toInt)
        (rest.map fun number => Binary64.ofInt number.toInt)) := by
  have floats : (rest.map Int64.toInt).mapM Binary64.ofIntChecked =
      .ok (rest.map fun number => Binary64.ofInt number.toInt) := by
    rw [List.mapM_map, Function.comp_def, funext Binary64.ofIntChecked_toInt]
    exact List.mapM_pure
  rw [compute, if_pos needs, Binary64.ofIntChecked_toInt, floats]
  rfl

theorem minimum_pos (operator : Arithmetic) : 0 < operator.minimum := by
  cases operator <;> decide

theorem result_numbers {operands : List Value} (enough : operator.minimum ≤ operands.length)
    (numbers : ∀ operand ∈ operands, operand.isNumber = true) :
    operator.Result operands
      (operator.run (operands.map Value.toHost) >>= operator.function.accept) := by
  have some := Nat.lt_of_lt_of_le operator.minimum_pos enough
  by_cases integers : ∀ operand ∈ operands, operand.isInteger = true
  · obtain ⟨whole, rfl⟩ := Numeral.exists_integers integers
    cases whole with
    | nil => cases some
    | cons first rest =>
        rw [run, read_operands operator.name (by simpa using enough)]
        change operator.Result _ (Failure.orFault (operator.compute _) >>= _)
        by_cases keeps : operator.KeepsIntegers ((first :: rest).map operand)
        · exact result_integers keeps
        · -- A negative exponent: the integers go the way of floats.
          have needs := mt (keepsIntegers_iff first rest).mpr keeps
          have numerals : (first :: rest).map operand =
              (Numeral.integer first.1 first.2 ::
                rest.map fun number => Numeral.integer number.1 number.2).map Numeral.value := by
            simp [operand, Numeral.value]
          rw [compute_negative (Bool.eq_true_of_not_eq_false needs)]
          rw [numerals] at keeps ⊢
          have result := result_floats keeps
          rwa [List.map_map] at result ⊢
  · have mixed := Value.exists_float numbers integers
    have leaves : ¬operator.KeepsIntegers operands := fun keeps => integers keeps.1
    obtain ⟨numerals, rfl⟩ := Numeral.exists_numerals numbers
    cases numerals with
    | nil => cases some
    | cons first rest =>
        rw [run, Operands.read_mixed operator.name (by simpa using enough) (by simpa using mixed)]
        exact result_floats leaves

theorem exists_outcome (operator : Arithmetic) {operands : List Value}
    (ordinary : ∀ operand ∈ operands, operand.isOrdinary = true) :
    ∃ outcome, operator.function.call operands = Run.ofExcept outcome ∧
      operator.Outcome operands outcome := by
  refine ⟨_, operator.call_eq operands, ?_⟩
  rcases Nat.lt_or_ge operands.length operator.minimum with few | enough
  · rw [run, Operands.read_few operator.name (by simpa using few)]
    exact .few few
  by_cases numbers : ∀ operand ∈ operands, operand.isNumber = true
  · exact .computed enough numbers (result_numbers enough numbers)
  · obtain ⟨operand, member, other⟩ : ∃ operand ∈ operands, operand.isNumber = false := by
      simpa using numbers
    obtain ⟨found, refused⟩ := Operands.read_refused operator.name (by simpa using enough)
      (List.mem_map_of_mem member) (Value.ofObject?_eq_none (ordinary operand member) other)
    rw [run, refused]
    exact .mistyped enough ⟨operand, member, other⟩ found

section Outcomes

variable {operands : List Value} {outcome : Except Failure Value}

theorem Outcome.few_iff (comes : operator.Outcome operands outcome) (world : World) :
    (Run.ofExcept outcome).Raises .arityMismatch world ↔ operands.length < operator.minimum := by
  cases comes with
  | few few => simpa [Cause.kind] using few
  | mistyped enough other found => simpa [Cause.kind] using enough
  | computed enough numbers result => cases result <;> simpa using enough

theorem Outcome.mistyped_iff (comes : operator.Outcome operands outcome) (world : World) :
    (Run.ofExcept outcome).Raises .typeMismatch world ↔
      operator.minimum ≤ operands.length ∧ ∃ operand ∈ operands, operand.isNumber = false := by
  cases comes with
  | few few =>
      refine iff_of_false (by simp [Cause.kind]) fun mistyped => ?_
      exact absurd few (Nat.not_lt.mpr mistyped.1)
  | mistyped enough other found => exact iff_of_true (by simp [Cause.kind]) ⟨enough, other⟩
  | computed enough numbers result =>
      refine iff_of_false (by cases result <;> simp) ?_
      rintro ⟨-, operand, member, other⟩
      rw [numbers operand member] at other
      cases other

theorem Outcome.type_of_ok {value : Value} (comes : operator.Outcome operands (.ok value)) :
    (value.isInteger = true ↔ operator.KeepsIntegers operands) ∧
      (value.isFloat = true ↔ ¬operator.KeepsIntegers operands) := by
  cases comes with
  | computed enough numbers result =>
      cases result with
      | integer keeps nonzero number =>
          exact ⟨iff_of_true rfl keeps, iff_of_false Bool.false_ne_true (not_not_intro keeps)⟩
      | float leaves nonzero number =>
          exact ⟨iff_of_false Bool.false_ne_true leaves, iff_of_true rfl leaves⟩

end Outcomes

/-- How calls of an operator come out that needs a number of operands. -/
structure Predictable (operator : Arithmetic) (minimum : Nat) (operands : List Value)
    (world : World) : Prop where
  few : (operator.function.call operands).Raises .arityMismatch world ↔
    operands.length < minimum
  mistyped : (operator.function.call operands).Raises .typeMismatch world ↔
    minimum ≤ operands.length ∧ ∃ operand ∈ operands, operand.isNumber = false
  typed : ∀ result later, operator.function.call operands world = (.ok result, later) →
    (result.isInteger = true ↔ operator.KeepsIntegers operands) ∧
      (result.isFloat = true ↔ ¬operator.KeepsIntegers operands)
  promoted : (∀ operand ∈ operands, operand.isNumber = true) →
    (∃ operand ∈ operands, operand.isFloat = true) →
      operator.function.call (operands.map Value.promoted) = operator.function.call operands

theorem predictable (operator : Arithmetic) {operands : List Value}
    (ordinary : ∀ operand ∈ operands, operand.isOrdinary = true) (world : World) :
    operator.Predictable operator.minimum operands world := by
  obtain ⟨outcome, called, comes⟩ := operator.exists_outcome ordinary
  refine ⟨?_, ?_, fun result later ends => ?_, fun numbers mixed => ?_⟩
  · rw [called]
    exact comes.few_iff world
  · rw [called]
    exact comes.mistyped_iff world
  · rw [called] at ends
    cases ends
    exact comes.type_of_ok
  · rw [call_eq, call_eq, run, run, Operands.read_promoted operator.name numbers mixed]

/-! #### Numbers -/

section Numbers

variable {operands : List Value} (numbers : ∀ operand ∈ operands, operand.isNumber = true)
include numbers

theorem exists_result (operator : Arithmetic) (enough : operator.minimum ≤ operands.length) :
    ∃ outcome, operator.function.call operands = Run.ofExcept outcome ∧
      operator.Result operands outcome :=
  ⟨_, operator.call_eq operands, result_numbers enough numbers⟩

theorem call_returns (enough : operator.minimum ≤ operands.length) (total : operator ≠ divide)
    (exact : operator = power → operator.KeepsIntegers operands) (world : World) :
    (operator.function.call operands).Returns world := by
  obtain ⟨outcome, called, result⟩ := exists_result numbers operator enough
  rw [called]
  cases result with
  | integer | float => exact ⟨_, rfl⟩
  | division divides => exact absurd divides total
  | power leaves raises => exact absurd (exact raises) leaves

theorem call_divide_faults_iff (enough : 2 ≤ operands.length) (world : World) :
    ((divide.function.call operands).Faults world ↔
        ∃ divisor ∈ operands.tail, divisor.isZero = true) ∧
      ((divide.function.call operands).Returns world ↔
        ¬∃ divisor ∈ operands.tail, divisor.isZero = true) := by
  obtain ⟨outcome, called, result⟩ := exists_result numbers divide enough
  rw [called]
  cases result with
  | integer keeps nonzero number | float leaves nonzero number =>
      have noZero : ¬∃ divisor ∈ operands.tail, divisor.isZero = true := by
        simpa using nonzero rfl
      exact ⟨iff_of_false (Run.not_faults_ok _) noZero, iff_of_true ⟨_, rfl⟩ noZero⟩
  | division divides zero fault =>
      exact ⟨iff_of_true ⟨fault, rfl⟩ zero,
        iff_of_false (Run.not_returns_error _) (not_not_intro zero)⟩
  | power leaves raises => cases raises

theorem call_power_settled (enough : 2 ≤ operands.length) (world : World) :
    (power.function.call operands).Returns world ∨
      (power.function.call operands).Faults world := by
  obtain ⟨outcome, called, result⟩ := exists_result numbers power enough
  rw [called]
  cases result with
  | integer | float => exact .inl ⟨_, rfl⟩
  | division _ _ fault | power _ _ fault => exact .inr ⟨fault, rfl⟩

end Numbers

end Arithmetic

/-! ### Comparisons -/

namespace Comparison

variable {comparison : Comparison}

/-- The names under which programs start with a comparison. -/
def names : Comparison → List Text
  | equal => ["==", "eq?"]
  | notEqual => ["!="]
  | less => ["<"]
  | lessEqual => ["<="]
  | greater => [">"]
  | greaterEqual => [">="]

def function (comparison : Comparison) (name : Text) : HostFunction :=
  (Builtin.comparison comparison).function name

theorem function_registered (comparison : Comparison) {name : Text}
    (named : name ∈ comparison.names) :
    ∃ registrant, (name, .function registrant [] true) ∈ Library.basic ∧
      registrant.toFunction name [] true = .ok (comparison.function name) := by
  have listed : Library.operator name (.comparison comparison) ∈ Library.basic := by
    revert name
    cases comparison <;> simp [names, Library.basic]
  exact ⟨_, listed, rfl⟩

inductive Outcome (comparison : Comparison) (operands : List Value) : Except Failure Value → Prop
  | few (few : operands.length < 2) :
      Outcome comparison operands (.error (.ofCause (.fewComparands comparison.name) none))
  | mistyped (enough : 2 ≤ operands.length)
      (texts : ¬∀ operand ∈ operands, operand.isString = true)
      (numbers : ¬∀ operand ∈ operands, operand.isNumber = true) (found : Text) :
      Outcome comparison operands (.error (.ofCause (.operandType comparison.name found) none))
  | decided (enough : 2 ≤ operands.length)
      (alike : (∀ operand ∈ operands, operand.isString = true) ∨
        ∀ operand ∈ operands, operand.isNumber = true)
      (truth : Bool) : Outcome comparison operands (.ok (.boolean truth none))

end Comparison

namespace Comparands

theorem exists_texts {operands : List Value}
    (texts : ∀ operand ∈ operands, operand.isString = true) :
    ∃ contents : List (Text × Option Ref),
      operands = contents.map fun content => .string content.1 content.2 := by
  refine Value.exists_map fun operand member => ?_
  have isString := texts operand member
  cases operand with
  | string text ref => exact ⟨(text, ref), rfl⟩
  | _ => cases isString

/-- Strings among themselves are read as their texts. -/
theorem read_strings (operator : Text) {first : Text × Option Ref}
    {rest : List (Text × Option Ref)} (several : rest ≠ []) :
    read operator (((first :: rest).map fun content => .string content.1 content.2).map
      Value.toHost) = .ok (.texts first.1 (rest.map Prod.fst)) := by
  have found : (((first :: rest).map fun content => Value.string content.1 content.2).map
      Value.toHost).mapM text? = some ((first :: rest).map Prod.fst) := by
    rw [List.map_map, List.mapM_map]
    exact List.mapM_pure
  rw [read, if_neg (by simpa using several), found]
  rfl

theorem read_texts (operator : Text) {operands : List Value} (enough : 2 ≤ operands.length)
    (texts : ∀ operand ∈ operands, operand.isString = true) :
    ∃ comparands, read operator (operands.map Value.toHost) = .ok comparands := by
  obtain ⟨contents, rfl⟩ := exists_texts texts
  match contents with
  | [] | [_] => simp at enough
  | _ :: second :: rest => exact ⟨_, read_strings operator (List.cons_ne_nil second rest)⟩

theorem read_eq (operator : Text) {arguments : List HostObject} (enough : 2 ≤ arguments.length)
    {argument : HostObject} (member : argument ∈ arguments) (other : text? argument = none) :
    read operator arguments = (Operands.read operator 1 arguments).map .numbers := by
  rw [read, if_neg (Nat.not_lt.mpr enough), Operands.mapM_eq_none member other]

end Comparands

namespace Comparison

theorem call_eq (comparison : Comparison) (name : Text) (operands : List Value) :
    (comparison.function name).call operands =
      Run.ofExcept (comparison.run (operands.map Value.toHost) >>=
        (comparison.function name).accept) :=
  Builtin.call_function (fun _ => rfl) name operands

theorem exists_outcome (comparison : Comparison) (name : Text) {operands : List Value}
    (ordinary : ∀ operand ∈ operands, operand.isOrdinary = true) :
    ∃ outcome, (comparison.function name).call operands = Run.ofExcept outcome ∧
      comparison.Outcome operands outcome := by
  refine ⟨_, comparison.call_eq name operands, ?_⟩
  rcases Nat.lt_or_ge operands.length 2 with few | enough
  · rw [run, Comparands.read, if_pos (by simpa using few)]
    exact .few few
  by_cases texts : ∀ operand ∈ operands, operand.isString = true
  · obtain ⟨comparands, read⟩ := Comparands.read_texts comparison.name enough texts
    rw [run, read]
    exact .decided enough (.inl texts) _
  obtain ⟨operand, member, noText⟩ : ∃ operand ∈ operands, operand.isString = false := by
    simpa using texts
  rw [run, Comparands.read_eq comparison.name (by simpa using enough)
    (List.mem_map_of_mem member) (Value.text?_eq_none (ordinary operand member) noText)]
  by_cases numbers : ∀ operand ∈ operands, operand.isNumber = true
  · obtain ⟨result, read⟩ := Operands.read_numbers comparison.name (Nat.le_of_lt enough)
      (List.ne_nil_of_mem member) numbers
    rw [read]
    exact .decided enough (.inr numbers) _
  · obtain ⟨other, among, noNumber⟩ : ∃ operand ∈ operands, operand.isNumber = false := by
      simpa using numbers
    obtain ⟨found, refused⟩ := Operands.read_refused comparison.name
      (by simpa using Nat.le_of_lt enough) (List.mem_map_of_mem among)
      (Value.ofObject?_eq_none (ordinary other among) noNumber)
    rw [refused]
    exact .mistyped enough texts numbers found

theorem call_promoted (comparison : Comparison) (name : Text) {operands : List Value}
    (numbers : ∀ operand ∈ operands, operand.isNumber = true)
    (mixed : ∃ operand ∈ operands, operand.isFloat = true) :
    (comparison.function name).call (operands.map Value.promoted) =
      (comparison.function name).call operands := by
  have reads : Comparands.read comparison.name ((operands.map Value.promoted).map Value.toHost) =
      Comparands.read comparison.name (operands.map Value.toHost) := by
    rcases Nat.lt_or_ge operands.length 2 with few | enough
    · rw [Comparands.read, Comparands.read, if_pos (by simpa using few),
        if_pos (by simpa using few)]
    · obtain ⟨operand, member, isFloat⟩ := mixed
      have noText : Comparands.text? operand.toHost = none ∧ operand.promoted = operand := by
        cases operand with
        | float => exact ⟨rfl, rfl⟩
        | _ => cases isFloat
      have promoted : operand ∈ operands.map Value.promoted :=
        noText.2 ▸ List.mem_map_of_mem member
      rw [Comparands.read_eq _ (by simpa using enough) (List.mem_map_of_mem promoted) noText.1,
        Comparands.read_eq _ (by simpa using enough) (List.mem_map_of_mem member) noText.1,
        Operands.read_promoted _ numbers ⟨operand, member, isFloat⟩]
  rw [call_eq, call_eq, run, run, reads]

/-- How calls of a comparison come out. -/
structure Predictable (comparison : Comparison) (name : Text) (operands : List Value)
    (world : World) : Prop where
  few : ((comparison.function name).call operands).Raises .arityMismatch world ↔
    operands.length < 2
  mistyped : ((comparison.function name).call operands).Raises .typeMismatch world ↔
    2 ≤ operands.length ∧
      ¬((∀ operand ∈ operands, operand.isString = true) ∨
        ∀ operand ∈ operands, operand.isNumber = true)
  decides : 2 ≤ operands.length →
    ((∀ operand ∈ operands, operand.isString = true) ∨
      ∀ operand ∈ operands, operand.isNumber = true) →
    ∃ truth, (comparison.function name).call operands world = (.ok (.boolean truth none), world)
  promoted : (∀ operand ∈ operands, operand.isNumber = true) →
    (∃ operand ∈ operands, operand.isFloat = true) →
      (comparison.function name).call (operands.map Value.promoted) =
        (comparison.function name).call operands

theorem predictable (comparison : Comparison) (name : Text) {operands : List Value}
    (ordinary : ∀ operand ∈ operands, operand.isOrdinary = true) (world : World) :
    comparison.Predictable name operands world := by
  obtain ⟨outcome, called, comes⟩ := comparison.exists_outcome name ordinary
  refine ⟨?_, ?_, ?_, comparison.call_promoted name⟩ <;> rw [called]
  · cases comes with
    | few few => simpa [Cause.kind] using few
    | mistyped enough | decided enough =>
        exact iff_of_false (by simp [Cause.kind]) (Nat.not_lt.mpr enough)
  · cases comes with
    | few few =>
        refine iff_of_false (by simp [Cause.kind]) fun mistyped => ?_
        exact absurd few (Nat.not_lt.mpr mistyped.1)
    | mistyped enough texts numbers found =>
        exact iff_of_true (by simp [Cause.kind]) ⟨enough, not_or_intro texts numbers⟩
    | decided enough alike truth =>
        exact iff_of_false (by simp) fun mistyped => mistyped.2 alike
  · intro enough alike
    cases comes with
    | few few => exact absurd few (Nat.not_lt.mpr enough)
    | mistyped _ texts numbers found => exact absurd alike (not_or_intro texts numbers)
    | decided _ _ truth => exact ⟨truth, rfl⟩

end Comparison

/-- Operators fail exactly when they should, and the types of their operands say which type the
result has. -/
theorem Builtin.operators_predictable (operands : List Value)
    (ordinary : ∀ operand ∈ operands, operand.isOrdinary = true) (world : World) :
    (∀ operator ∈ [Arithmetic.add, .subtract, .multiply],
      operator.Predictable 1 operands world ∧
        (1 ≤ operands.length → (∀ operand ∈ operands, operand.isNumber = true) →
          (operator.function.call operands).Returns world)) ∧
    (Arithmetic.divide.Predictable 2 operands world ∧
      (2 ≤ operands.length → (∀ operand ∈ operands, operand.isNumber = true) →
        ((Arithmetic.divide.function.call operands).Faults world ↔
            ∃ divisor ∈ operands.tail, divisor.isZero = true) ∧
          ((Arithmetic.divide.function.call operands).Returns world ↔
            ¬∃ divisor ∈ operands.tail, divisor.isZero = true))) ∧
    (Arithmetic.power.Predictable 2 operands world ∧
      (2 ≤ operands.length → (∀ operand ∈ operands, operand.isNumber = true) →
        ((Arithmetic.power.function.call operands).Returns world ∨
            (Arithmetic.power.function.call operands).Faults world) ∧
          (Arithmetic.power.KeepsIntegers operands →
            (Arithmetic.power.function.call operands).Returns world))) ∧
    ∀ (comparison : Comparison) (name : Text), comparison.Predictable name operands world := by
  refine ⟨fun operator among => ?_, ⟨Arithmetic.divide.predictable ordinary world, ?_⟩,
    ⟨Arithmetic.power.predictable ordinary world, fun enough numbers => ⟨?_, fun keeps => ?_⟩⟩,
    fun comparison name => comparison.predictable name ordinary world⟩
  · have total : operator.minimum = 1 ∧ operator ≠ .divide ∧ operator ≠ .power := by
      revert operator
      decide
    refine ⟨total.1 ▸ operator.predictable ordinary world, fun enough numbers => ?_⟩
    exact Arithmetic.call_returns numbers (total.1 ▸ enough) total.2.1
      (fun power => absurd power total.2.2) world
  · exact fun enough numbers => Arithmetic.call_divide_faults_iff numbers enough world
  · exact Arithmetic.call_power_settled numbers enough world
  · have several : Arithmetic.power.minimum ≤ operands.length := enough
    exact Arithmetic.call_returns numbers several (by decide) (fun _ => keeps) world

/-- An integer is divided by the float zero and compared with it, a truth value is no summand, and a
single number has no power. -/
theorem Builtin.operators_predictable_mixed :
    (Arithmetic.divide.function.call [.integer 6 none, .float 0.0 none]).Faults ⟨.empty, #[]⟩ ∧
      (∃ truth, (Comparison.less.function "<").call [.integer 6 none, .float 0.0 none]
        ⟨.empty, #[]⟩ = (.ok (.boolean truth none), ⟨.empty, #[]⟩)) ∧
      (Arithmetic.add.function.call [.integer 6 none, .boolean true none]).Raises
        .typeMismatch ⟨.empty, #[]⟩ ∧
      (Arithmetic.power.function.call [.integer 6 none]).Raises .arityMismatch ⟨.empty, #[]⟩ := by
  obtain ⟨-, ⟨-, divides⟩, -, compares⟩ :=
    operators_predictable [.integer 6 none, .float 0.0 none] (by decide) ⟨.empty, #[]⟩
  obtain ⟨adds, -⟩ :=
    operators_predictable [.integer 6 none, .boolean true none] (by decide) ⟨.empty, #[]⟩
  obtain ⟨-, -, ⟨powers, -⟩, -⟩ :=
    operators_predictable [.integer 6 none] (by decide) ⟨.empty, #[]⟩
  refine ⟨?_, ?_, ?_, ?_⟩
  · exact (divides (by decide) (by decide)).1.mpr ⟨.float 0.0 none, List.mem_cons_self, by decide⟩
  · exact (compares .less "<").decides (by decide) (.inr (by decide))
  · exact (adds .add List.mem_cons_self).1.mistyped.mpr
      ⟨by decide, .boolean true none, by simp, rfl⟩
  · exact powers.few.mpr (by decide)

end Lisplet
