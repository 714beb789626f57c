import Lisplet.Token
import Mathlib.Algebra.Group.Nat.Defs

/-!
Decimal digits: those of a natural number denote it again, and a literal of a 64-bit integer is
read back to it.
-/

namespace Lisplet

namespace Text

theorem ofNat_ne_nil (number : Nat) : ofNat number ≠ [] := by
  simp [ofNat]

theorem isDigit_of_mem_ofNat {number : Nat} {point : CodePoint} (member : point ∈ ofNat number) :
    point.isDigit = true := by
  obtain ⟨character, digit, rfl⟩ := List.mem_map.1 member
  have isDigit := Nat.isDigit_of_mem_toDigits (by decide) (by decide) digit
  simp only [Char.isDigit, Bool.and_eq_true, decide_eq_true_eq, ge_iff_le, UInt32.le_iff_toNat_le]
    at isDigit
  simp only [CodePoint.isDigit, Bool.and_eq_true, decide_eq_true_eq]
  exact isDigit

theorem length_ofNat_le {number count : Nat} (positive : 0 < count) :
    (ofNat number).length ≤ count ↔ number < 10 ^ count := by
  rw [ofNat, List.length_map]
  exact Nat.length_toDigits_le_iff (by decide) positive

end Text

namespace Decimal

theorem digitsValue_ofNat (number : Nat) : digitsValue (Text.ofNat number) = number := by
  have same (start : Nat) (characters : List Char) :
      (characters.map CodePoint.ofChar).foldl (fun value digit => value * 10 + digit.digitValue) start =
        Nat.ofDigitChars 10 characters start := by
    induction characters generalizing start with
    | nil => rfl
    | cons character characters ih =>
        rw [Nat.ofDigitChars_cons, List.map_cons, List.foldl_cons, ih, Nat.mul_comm]
        rfl
  rw [digitsValue, Text.ofNat, same]
  exact Nat.ofDigitChars_toDigits (by decide) (by decide)

def marks : Text :=
  [minus, plus, point, CodePoint.ofChar 'e']

def IsPart (part : CodePoint) : Prop :=
  part.isDigit = true ∨ part ∈ marks

theorem isPart_of_mem_ofInt {number : Int} {part : CodePoint} (member : part ∈ Text.ofInt number) :
    IsPart part := by
  cases number with
  | ofNat magnitude => exact .inl (Text.isDigit_of_mem_ofNat member)
  | negSucc magnitude =>
      rcases List.mem_append.1 member with sign | digit
      · obtain rfl : part = minus := by simpa [Text.ofString, minus] using sign
        exact .inr (by simp [marks])
      · exact .inl (Text.isDigit_of_mem_ofNat digit)

theorem wholeLiteral_of_digits {digits : Text} (present : digits ≠ [])
    (allDigits : ∀ point ∈ digits, point.isDigit = true) :
    wholeLiteral? digits = some (false, digits) ∧
      wholeLiteral? (minus :: digits) = some (true, digits) := by
  obtain ⟨first, rest, rfl⟩ := List.exists_cons_of_ne_nil present
  have digit := allDigits first (by simp)
  have notMinus : first ≠ minus := by
    rintro rfl
    exact absurd digit (by decide)
  have notPlus : first ≠ plus := by
    rintro rfl
    exact absurd digit (by decide)
  have all : (first :: rest).all CodePoint.isDigit = true := List.all_eq_true.2 allDigits
  constructor
  · simp [wholeLiteral?, splitSign, notMinus, notPlus, all]
  · simp [wholeLiteral?, splitSign, all]

theorem wholeLiteral_ofInt (number : Int) :
    wholeLiteral? (Text.ofInt number) = some (decide (number < 0), Text.ofNat number.natAbs) := by
  cases number with
  | ofNat magnitude =>
      exact (wholeLiteral_of_digits (Text.ofNat_ne_nil magnitude)
        fun _ => Text.isDigit_of_mem_ofNat).1
  | negSucc magnitude =>
      rw [decide_eq_true (Int.negSucc_lt_zero magnitude)]
      exact (wholeLiteral_of_digits (Text.ofNat_ne_nil (magnitude + 1))
        fun _ => Text.isDigit_of_mem_ofNat).2

theorem applySign_natAbs (number : Int) : applySign (decide (number < 0)) number.natAbs = number := by
  by_cases negative : number < 0
  · rw [applySign, decide_eq_true negative, if_pos rfl]
    omega
  · rw [applySign, decide_eq_false negative, if_neg Bool.false_ne_true]
    omega

end Decimal

namespace NumberToken

theorem looksNumeric_of_digit {first : CodePoint} (digit : first.isDigit = true) (rest : Text) :
    looksNumeric (first :: rest) = true ∧
      looksNumeric (Decimal.minus :: first :: rest) = true := by
  cases rest <;> simp [looksNumeric, digit]

theorem looksNumeric_ofInt (number : Int) : looksNumeric (Text.ofInt number) = true := by
  cases number with
  | ofNat magnitude =>
      obtain ⟨first, rest, shape⟩ := List.exists_cons_of_ne_nil (Text.ofNat_ne_nil magnitude)
      have digit : first.isDigit = true := Text.isDigit_of_mem_ofNat (by rw [shape]; simp)
      rw [Text.ofInt, shape]
      exact (looksNumeric_of_digit digit rest).1
  | negSucc magnitude =>
      obtain ⟨first, rest, shape⟩ := List.exists_cons_of_ne_nil (Text.ofNat_ne_nil (magnitude + 1))
      have digit : first.isDigit = true := Text.isDigit_of_mem_ofNat (by rw [shape]; simp)
      rw [Text.ofInt, shape]
      exact (looksNumeric_of_digit digit rest).2

theorem read_ofInt (number : Int64) (ref : Option Ref) :
    read (Text.ofInt number.toInt) ref =
      .ok ⟨.integer number, Text.ofInt number.toInt, ref⟩ := by
  have lower : Integer64.least ≤ number.toInt := number.le_toInt
  have upper : number.toInt ≤ Integer64.greatest := Int.le_of_lt_add_one number.toInt_lt
  have short : (Text.ofNat number.toInt.natAbs).length ≤ 19 := by
    rw [Text.length_ofNat_le (by decide)]
    unfold Integer64.least at lower
    unfold Integer64.greatest at upper
    omega
  have notOversized : ¬ mostDigits < (Text.ofNat number.toInt.natAbs).length := by
    unfold mostDigits
    omega
  unfold read
  rw [Decimal.wholeLiteral_ofInt]
  simp only [notOversized, if_false, Decimal.digitsValue_ofNat, Decimal.applySign_natAbs]
  rw [if_pos ⟨lower, upper⟩, Int64.ofInt_toInt]

end NumberToken

end Lisplet
