import Lisplet.Decimal.Binary64
import Mathlib

/-!
The bits of finite floats follow from what the floats stand for.
-/

namespace Lisplet

namespace Binary64

/-- Does a float stand for a number? -/
def isFinite (number : Float) : Bool :=
  match ofFloat number with
  | .finite _ _ _ => true
  | .nan | .infinite _ => false

variable {number : Float}

theorem beq_self (finite : isFinite number = true) : (number == number) = true := by
  rw [Float.beq_self_iff]
  rintro rfl
  exact absurd finite (by decide)

theorem not_nan_of_beq_self (comparable : (number == number) = true) : ofFloat number ≠ .nan := by
  rw [Float.beq_self_iff] at comparable
  obtain ⟨⟨word, valid⟩⟩ := number
  intro stands
  have special : word.toNat / 2 ^ 52 % 2 ^ 11 = 2047 ∧ word.toNat % 2 ^ 52 ≠ 0 := by
    change ofBits word.toNat = .nan at stands
    unfold ofBits at stands
    dsimp only at stands
    split at stands
    · rename_i field
      split at stands
      · cases stands
      · rename_i fraction
        exact ⟨field, fraction⟩
    · split at stands <;> cases stands
  have packed : word.toBitVec = Float.nan.toBits.toBitVec := by
    refine (valid.eq_packedNaN (BitVec.eq_of_toNat_eq ?_) fun zero => special.2 ?_).trans (by decide)
    · simpa [Float.Model.UnpackedFloat.unpackExponent, Nat.shiftRight_eq_div_pow] using special.1
    · simpa [Float.Model.UnpackedFloat.unpackMantissa] using congrArg BitVec.toNat zero
  refine comparable ?_
  rw [← Float.ofBits_toBits Float.nan, ← UInt64.eq_of_toBitVec_eq packed]
  exact (Float.ofBits_toBits ⟨⟨word, valid⟩⟩).symm

/-- The bits of a magnitude: whatever the exponent leaves of the mantissa carries into its field. -/
def magnitudeBits (mantissa : Nat) (exponent : Int) : Nat :=
  (exponent - leastExponent).toNat * fieldWeight + mantissa

/-- A mantissa and an exponent in the form that floats have. Only the floats next to zero have
smaller mantissas. -/
structure IsCanonical (mantissa : Nat) (exponent : Int) : Prop where
  mantissa_lt : mantissa < 2 * fieldWeight
  least_le : leastExponent ≤ exponent
  exponent_le : exponent ≤ 971
  normal : exponent ≠ leastExponent → fieldWeight ≤ mantissa

theorem ofBits_finite {bits mantissa : Nat} {negative : Bool} {exponent : Int}
    (small : bits < 2 * signWeight) (stands : ofBits bits = .finite negative mantissa exponent) :
    IsCanonical mantissa exponent ∧
      bits = (if negative then signWeight else 0) + magnitudeBits mantissa exponent := by
  have field := Nat.mod_lt (bits / fieldWeight) (y := 2048) (by decide)
  have fraction := Nat.mod_lt bits (y := fieldWeight) (by decide)
  have sign : bits = (if signWeight ≤ bits then signWeight else 0) +
      (bits / fieldWeight % 2048 * fieldWeight + bits % fieldWeight) := by
    unfold signWeight fieldWeight at *
    split <;> omega
  unfold ofBits at stands
  dsimp only at stands
  generalize bits / fieldWeight % 2048 = index at *
  generalize bits % fieldWeight = low at *
  split at stands
  · split at stands <;> simp at stands
  · rename_i notSpecial
    unfold specialField at notSpecial
    split at stands
    · rename_i subnormal
      simp only [finite.injEq] at stands
      obtain ⟨rfl, rfl, rfl⟩ := stands
      refine ⟨⟨by omega, by decide, by decide, fun other => absurd rfl other⟩, ?_⟩
      simpa [subnormal, magnitudeBits] using sign
    · simp only [finite.injEq] at stands
      obtain ⟨rfl, rfl, rfl⟩ := stands
      have exponent : (leastExponent + (index : Int) - 1 - leastExponent).toNat = index - 1 := by
        omega
      refine ⟨⟨by omega, by omega, ?_, fun _ => by omega⟩, ?_⟩
      · unfold leastExponent
        omega
      · have carried : (index - 1) * fieldWeight + (low + fieldWeight) = index * fieldWeight + low := by
          obtain ⟨before, rfl⟩ : ∃ before, index = before + 1 := ⟨index - 1, by omega⟩
          rw [Nat.add_sub_cancel, Nat.add_mul]
          omega
        rw [magnitudeBits, exponent, carried]
        simpa using sign

theorem toBits_of_finite {mantissa : Nat} {negative : Bool} {exponent : Int}
    (stands : ofFloat number = .finite negative mantissa exponent) :
    IsCanonical mantissa exponent ∧ number.toBits =
      UInt64.ofNat ((if negative then signWeight else 0) + magnitudeBits mantissa exponent) := by
  obtain ⟨canonical, bits⟩ := ofBits_finite (by simpa [signWeight] using number.toBits.toNat_lt) stands
  exact ⟨canonical, by rw [← bits, UInt64.ofNat_toNat]⟩

/-- Words up to the bits of infinity are kept as they are. -/
theorem toBits_ofBits {word : UInt64} {sign magnitude : Nat}
    (bits : word.toNat = sign + magnitude) (isSign : sign = 0 ∨ sign = signWeight)
    (bounded : magnitude ≤ specialField * fieldWeight) : (Float.ofBits word).toBits = word := by
  unfold signWeight at isSign
  unfold specialField fieldWeight at bounded
  have valid : Float.Model.Format.binary64.Valid word.toBitVec := by
    constructor
    intro special fraction
    refine absurd (BitVec.eq_of_toNat_eq ?_) fraction
    have field : word.toNat >>> 52 % 2 ^ 11 = 2047 := by
      simpa [Float.Model.UnpackedFloat.unpackExponent] using congrArg BitVec.toNat special
    have rest : word.toNat % 2 ^ 52 = 0 := by
      rw [bits, Nat.shiftRight_eq_div_pow] at field
      rw [bits]
      omega
    simpa [Float.Model.UnpackedFloat.unpackMantissa] using rest
  exact congrArg Float.toBits (Float.ofBits_toBits ⟨⟨word, valid⟩⟩)

/-- Nothing up to the bits of infinity is a NaN. -/
theorem ofBits_beq_self {word : UInt64} {sign magnitude : Nat}
    (bits : word.toNat = sign + magnitude) (isSign : sign = 0 ∨ sign = signWeight)
    (bounded : magnitude ≤ specialField * fieldWeight) :
    (Float.ofBits word == Float.ofBits word) = true := by
  rw [Float.beq_self_iff]
  intro same
  have value : word.toNat = Float.nan.toBits.toNat := by
    rw [← same, toBits_ofBits bits isSign bounded]
  have nan : Float.nan.toBits.toNat = 0x7FF8000000000000 := by decide
  unfold signWeight at isSign
  unfold specialField fieldWeight at bounded
  omega

theorem nearestBits_le (numerator denominator : Nat) :
    nearestBits numerator denominator ≤ specialField * fieldWeight := by
  unfold nearestBits
  exact Nat.min_le_right _ _

theorem toNat_signed {sign magnitude : Nat} (isSign : sign = 0 ∨ sign = signWeight)
    (bounded : magnitude ≤ specialField * fieldWeight) :
    (UInt64.ofNat (sign + magnitude)).toNat = sign + magnitude := by
  apply UInt64.toNat_ofNat_of_lt'
  unfold signWeight specialField fieldWeight at *
  change sign + magnitude < 18446744073709551616
  omega

/-- The sign and the magnitude of the nearest float are the bits of a word. -/
theorem exists_nearest_word (negative : Bool) (numerator denominator : Nat) :
    ∃ (word : UInt64) (sign magnitude : Nat),
      nearest negative numerator denominator = Float.ofBits word ∧
      word.toNat = sign + magnitude ∧ (sign = 0 ∨ sign = signWeight) ∧
      magnitude ≤ specialField * fieldWeight ∧
      magnitude = if numerator = 0 then 0 else nearestBits numerator denominator := by
  have bounded : (if numerator = 0 then 0 else nearestBits numerator denominator) ≤
      specialField * fieldWeight := by
    split
    · exact Nat.zero_le _
    · exact nearestBits_le numerator denominator
  unfold nearest
  dsimp only
  generalize (if numerator = 0 then 0 else nearestBits numerator denominator) = magnitude
    at bounded ⊢
  cases negative with
  | false =>
      have bits := toNat_signed (.inl rfl) bounded
      rw [Nat.zero_add] at bits
      rw [if_neg Bool.false_ne_true]
      exact ⟨.ofNat magnitude, 0, magnitude, rfl, bits.trans (Nat.zero_add _).symm, .inl rfl,
        bounded, rfl⟩
  | true =>
      rw [if_pos rfl]
      exact ⟨.ofNat (signWeight + magnitude), signWeight, magnitude, rfl,
        toNat_signed (.inr rfl) bounded, .inr rfl, bounded, rfl⟩

theorem nearest_beq_self (negative : Bool) (numerator denominator : Nat) :
    (nearest negative numerator denominator == nearest negative numerator denominator) = true := by
  obtain ⟨word, sign, magnitude, stored, bits, isSign, bounded, -⟩ :=
    exists_nearest_word negative numerator denominator
  rw [stored]
  exact ofBits_beq_self bits isSign bounded

/-- Only the two zeros equal zero. -/
theorem toNat_toBits_of_beq_zero (zero : (number == 0.0) = true) :
    number.toBits.toNat = 0 ∨ number.toBits.toNat = signWeight := by
  obtain ⟨-, -, same | ⟨same, -⟩ | ⟨same, -⟩⟩ := Float.beq_iff_ne_nan_and_eq.mp zero
  · exact .inl (same ▸ by decide)
  · exact .inl (same ▸ by decide)
  · exact .inr (same ▸ by decide)

/-- The exponent of an integer is far above the least one. -/
theorem nearestBits_integer_pos (numerator : Nat) : 0 < nearestBits numerator 1 := by
  have single : Nat.log2 1 = 0 := by decide
  unfold nearestBits
  dsimp only
  rw [single]
  refine Nat.lt_min.mpr ⟨Nat.add_pos_left (Nat.mul_pos ?_ (by decide)) _, by decide⟩
  unfold leastExponent
  split <;> omega

theorem ofInt_beq_zero_iff (number : Int) : (ofInt number == 0.0) = true ↔ number = 0 := by
  constructor
  · intro zero
    obtain ⟨word, sign, magnitude, stored, bits, isSign, bounded, amount⟩ :=
      exists_nearest_word (decide (number < 0)) number.natAbs 1
    have same : (ofInt number).toBits.toNat = sign + magnitude := by
      rw [ofInt, stored, toBits_ofBits bits isSign bounded, bits]
    have none : magnitude = 0 := by
      have among := toNat_toBits_of_beq_zero zero
      unfold signWeight specialField fieldWeight at *
      omega
    refine Classical.byContradiction fun nonzero => ?_
    rw [if_neg (mt Int.natAbs_eq_zero.mp nonzero)] at amount
    exact absurd (amount.symm.trans none) (Nat.ne_of_gt (nearestBits_integer_pos _))
  · rintro rfl
    decide

end Binary64

end Lisplet
