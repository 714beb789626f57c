import Lisplet.Operator.Comparison
import Lisplet.Proofs.FloatBits
import Lisplet.Proofs.IntegerCalls

/-!
How operators read values as operands. There have to be enough of them, all of them have to be
numbers, and one float among them promotes the others.
-/

namespace Lisplet

namespace Value

def isInteger : Value → Bool
  | integer _ _ => true
  | _ => false

def isFloat : Value → Bool
  | float _ _ => true
  | _ => false

/-- Truth values are no numbers. -/
def isNumber (value : Value) : Bool :=
  value.isInteger || value.isFloat

def isString : Value → Bool
  | string _ _ => true
  | _ => false

/-- Foreign numbers and texts are operands like those of the language, all other foreign objects are
neither. -/
def isOrdinary : Value → Bool
  | foreign (.integer _) _ | foreign (.float _) _ | foreign (.text _) _ => false
  | _ => true

def isZero : Value → Bool
  | integer number _ => number = 0
  | float number _ => Binary64.isZero number
  | _ => false

def isNegative : Value → Bool
  | integer number _ => number < 0
  | float number _ => number < 0.0
  | _ => false

/-- An integer becomes the nearest float. -/
def promoted : Value → Value
  | integer number ref => float (Binary64.ofInt number.toInt) ref
  | other => other

variable {value : Value}

theorem ofObject?_eq_none (ordinary : value.isOrdinary = true) (other : value.isNumber = false) :
    HostNumber.ofObject? value.toHost = none := by
  cases value with
  | integer | float => cases other
  | foreign object =>
      cases object with
      | integer | float => cases ordinary
      | _ => rfl
  | _ => rfl

theorem text?_eq_none (ordinary : value.isOrdinary = true) (other : value.isString = false) :
    Comparands.text? value.toHost = none := by
  cases value with
  | string => cases other
  | foreign object =>
      cases object with
      | text => cases ordinary
      | _ => rfl
  | _ => rfl

end Value

theorem Value.exists_map {α : Type} {shape : α → Value} {operands : List Value}
    (shaped : ∀ operand ∈ operands, ∃ content, shape content = operand) :
    ∃ contents : List α, operands = contents.map shape := by
  obtain ⟨contents, same⟩ : operands ∈ Set.range (List.map shape) := by
    rw [Set.range_list_map]
    exact shaped
  exact ⟨contents, same.symm⟩

theorem Value.exists_float {operands : List Value}
    (numbers : ∀ operand ∈ operands, operand.isNumber = true)
    (mixed : ¬∀ operand ∈ operands, operand.isInteger = true) :
    ∃ operand ∈ operands, operand.isFloat = true := by
  obtain ⟨operand, member, other⟩ : ∃ operand ∈ operands, operand.isInteger = false := by
    simpa using mixed
  have isNumber := numbers operand member
  rw [Value.isNumber, other, Bool.false_or] at isNumber
  exact ⟨operand, member, isNumber⟩

theorem Binary64.ofIntChecked_toInt (number : Int64) :
    ofIntChecked number.toInt = .ok (ofInt number.toInt) := by
  have upper := number.toInt_lt
  have lower := number.le_toInt
  refine if_neg (Nat.not_le.mpr ?_)
  unfold overflowBound
  -- The exponents are too large to compute with.
  generalize large : 1024 = larger
  generalize small : 970 = power
  rw [Nat.pow_eq, Nat.pow_eq]
  have less : 2 ^ 63 < 2 ^ power := Nat.pow_lt_pow_right (by decide) (by omega)
  have twice : 2 ^ (power + 1) ≤ 2 ^ larger := Nat.pow_le_pow_right (by decide) (by omega)
  rw [Nat.pow_succ] at twice
  omega

/-! ### Numbers among the values -/

inductive Numeral
  | integer (number : Int64) (ref : Option Ref)
  | float (number : Float) (ref : Option Ref)

namespace Numeral

def value : Numeral → Value
  | integer number ref => .integer number ref
  | float number ref => .float number ref

def number : Numeral → HostNumber
  | integer number _ => .integer number.toInt
  | float number _ => .float number

/-- What a number counts as among floats. -/
def real : Numeral → Float
  | integer number _ => Binary64.ofInt number.toInt
  | float number _ => number

def promoted (numeral : Numeral) : Numeral :=
  float numeral.real numeral.value.ref

theorem value_promoted (numeral : Numeral) : numeral.promoted.value = numeral.value.promoted := by
  cases numeral <;> rfl

theorem toFloat_number (numeral : Numeral) : numeral.number.toFloat = .ok numeral.real := by
  cases numeral with
  | integer number => exact Binary64.ofIntChecked_toInt number
  | float number => rfl

theorem isZero_real (numeral : Numeral) :
    Binary64.isZero numeral.real = numeral.value.isZero := by
  cases numeral with
  | integer number =>
      rw [Bool.eq_iff_iff]
      refine (Binary64.ofInt_beq_zero_iff number.toInt).trans ?_
      change number.toInt = (0 : Int64).toInt ↔ decide (number = 0) = true
      rw [decide_eq_true_iff, Int64.toInt_inj]
  | float number => rfl

theorem exists_numerals {operands : List Value}
    (numbers : ∀ operand ∈ operands, operand.isNumber = true) :
    ∃ numerals : List Numeral, operands = numerals.map value := by
  refine Value.exists_map fun operand member => ?_
  have isNumber := numbers operand member
  cases operand with
  | integer number ref => exact ⟨integer number ref, rfl⟩
  | float number ref => exact ⟨float number ref, rfl⟩
  | _ => cases isNumber

theorem exists_integers {operands : List Value}
    (integers : ∀ operand ∈ operands, operand.isInteger = true) :
    ∃ numbers : List (Int64 × Option Ref), operands = numbers.map Arithmetic.operand := by
  refine Value.exists_map fun operand member => ?_
  have isInteger := integers operand member
  cases operand with
  | integer number ref => exact ⟨(number, ref), rfl⟩
  | _ => cases isInteger

end Numeral

/-! ### Reading -/

namespace Operands

variable (operator : Text) {minimum : Nat}

theorem read_few {arguments : List HostObject} (few : arguments.length < minimum) :
    read operator minimum arguments = .error (.ofCause (.fewOperands operator minimum) none) :=
  if_pos few

theorem mapM_number_refused {arguments : List HostObject} {argument : HostObject}
    (member : argument ∈ arguments) (other : HostNumber.ofObject? argument = none) :
    ∃ found, arguments.mapM (number operator) =
      .error (.ofCause (.operandType operator found) none) := by
  induction arguments with
  | nil => cases member
  | cons head rest ih =>
      rw [List.mapM_cons]
      cases reads : HostNumber.ofObject? head with
      | none =>
          -- Another operand is refused before the given one is looked at.
          refine ⟨head.typeName, ?_⟩
          rw [number, reads]
          rfl
      | some numeral =>
          have later : argument ∈ rest := by
            rcases List.mem_cons.mp member with rfl | later
            · rw [other] at reads
              cases reads
            · exact later
          obtain ⟨found, refused⟩ := ih later
          refine ⟨found, ?_⟩
          rw [number, reads, refused]
          rfl

/-- The operands are looked at from left to right, before anything is promoted. -/
theorem read_eq {arguments : List HostObject} (enough : minimum ≤ arguments.length)
    (some : arguments ≠ []) :
    read operator minimum arguments = arguments.mapM (number operator) >>= fun numbers =>
      match numbers with
      | first :: rest => Failure.orFault (promote first rest)
      | [] => .error (.ofCause (.fewOperands operator minimum) none) := by
  cases arguments with
  | nil => exact absurd rfl some
  | cons first rest =>
      rw [read, if_neg (Nat.not_lt.mpr enough), List.mapM_cons]
      cases number operator first with
      | error failure => rfl
      | ok head =>
          cases rest.mapM (number operator) <;> rfl

theorem read_refused {arguments : List HostObject} (enough : minimum ≤ arguments.length)
    {argument : HostObject} (member : argument ∈ arguments)
    (other : HostNumber.ofObject? argument = none) :
    ∃ found, read operator minimum arguments =
      .error (.ofCause (.operandType operator found) none) := by
  obtain ⟨found, refused⟩ := mapM_number_refused operator member other
  refine ⟨found, ?_⟩
  rw [read_eq operator enough (List.ne_nil_of_mem member), refused]
  rfl

theorem mapM_eq_none {α β : Type} {reading : α → Option β} {items : List α} {item : α}
    (member : item ∈ items) (none : reading item = .none) : items.mapM reading = .none := by
  induction items with
  | nil => cases member
  | cons head rest ih =>
      rw [List.mapM_cons]
      rcases List.mem_cons.mp member with rfl | later
      · rw [none]
        rfl
      · rw [ih later]
        cases reading head <;> rfl

theorem promote_mixed {first : Numeral} {rest : List Numeral}
    (mixed : ∃ numeral ∈ first :: rest, numeral.value.isFloat = true) :
    promote first.number (rest.map Numeral.number) =
      .ok (.floats first.real (rest.map Numeral.real)) := by
  have reals : (rest.map Numeral.number).mapM HostNumber.toFloat =
      .ok (rest.map Numeral.real) := by
    rw [List.mapM_map]
    exact (congrArg rest.mapM (funext Numeral.toFloat_number)).trans List.mapM_pure
  have noWholes : ∀ whole others,
      ¬(whole? first.number = some whole ∧
        (rest.map Numeral.number).mapM whole? = some others) := by
    rintro whole others ⟨head, tail⟩
    obtain ⟨numeral, member, isFloat⟩ := mixed
    have noWhole : whole? numeral.number = none := by
      cases numeral with
      | integer => cases isFloat
      | float => rfl
    rcases List.mem_cons.mp member with rfl | later
    · rw [noWhole] at head
      cases head
    · rw [mapM_eq_none (List.mem_map_of_mem later) noWhole] at tail
      cases tail
  unfold promote
  split
  · next head tail => exact absurd ⟨head, tail⟩ (noWholes _ _)
  · rw [Numeral.toFloat_number, reals]
    rfl

/-- One float promotes all operands. -/
theorem read_mixed {first : Numeral} {rest : List Numeral} (enough : minimum ≤ rest.length + 1)
    (mixed : ∃ numeral ∈ first :: rest, numeral.value.isFloat = true) :
    read operator minimum (((first :: rest).map Numeral.value).map Value.toHost) =
      .ok (.floats first.real (rest.map Numeral.real)) := by
  have numbers : (((first :: rest).map Numeral.value).map Value.toHost).mapM (number operator) =
      .ok ((first :: rest).map Numeral.number) := by
    have each (numeral : Numeral) :
        number operator numeral.value.toHost = .ok numeral.number := by
      cases numeral <;> rfl
    rw [List.map_map, List.mapM_map]
    exact (congrArg (first :: rest).mapM (funext each)).trans List.mapM_pure
  rw [read_eq operator (by simpa using enough) (by simp), numbers]
  exact congrArg Failure.orFault (promote_mixed mixed)

theorem read_numbers {operands : List Value} (enough : minimum ≤ operands.length)
    (some : operands ≠ []) (numbers : ∀ operand ∈ operands, operand.isNumber = true) :
    ∃ result, read operator minimum (operands.map Value.toHost) = .ok result := by
  by_cases integers : ∀ operand ∈ operands, operand.isInteger = true
  · obtain ⟨whole, rfl⟩ := Numeral.exists_integers integers
    cases whole with
    | nil => exact absurd rfl some
    | cons first rest => exact ⟨_, Arithmetic.read_operands operator (by simpa using enough)⟩
  · have mixed := Value.exists_float numbers integers
    obtain ⟨numerals, rfl⟩ := Numeral.exists_numerals numbers
    cases numerals with
    | nil => exact absurd rfl some
    | cons first rest =>
        exact ⟨_, read_mixed operator (by simpa using enough) (by simpa using mixed)⟩

/-- Operands are read as if they had been promoted before. -/
theorem read_promoted {operands : List Value}
    (numbers : ∀ operand ∈ operands, operand.isNumber = true)
    (mixed : ∃ operand ∈ operands, operand.isFloat = true) :
    read operator minimum ((operands.map Value.promoted).map Value.toHost) =
      read operator minimum (operands.map Value.toHost) := by
  obtain ⟨numerals, rfl⟩ := Numeral.exists_numerals numbers
  cases numerals with
  | nil => simp at mixed
  | cons first rest =>
      by_cases enough : minimum ≤ rest.length + 1
      · have promoted : ((first :: rest).map Numeral.value).map Value.promoted =
            ((first :: rest).map Numeral.promoted).map Numeral.value := by
          simp only [List.map_map, Function.comp_def, Numeral.value_promoted]
        have floats : ∃ numeral ∈ first.promoted :: rest.map Numeral.promoted,
            numeral.value.isFloat = true :=
          ⟨first.promoted, List.mem_cons_self, rfl⟩
        rw [promoted, List.map_cons, read_mixed operator (by simpa using enough) floats]
        rw [read_mixed operator enough (by simpa using mixed), List.map_map]
        rfl
      · have few := Nat.not_le.mp enough
        rw [read_few operator (by simpa using few), read_few operator (by simpa using few)]

end Operands

end Lisplet
