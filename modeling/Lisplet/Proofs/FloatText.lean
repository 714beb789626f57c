import Lisplet.Proofs.Digits
import Lisplet.Proofs.ShortestDecimal

/-!
The text of a finite float is a literal of that float. Every layout of a decimal keeps its value, and
the value is nearest to the float.
-/

namespace Lisplet

namespace Decimal

/-! ### Runs of digits -/

def AllDigits (digits : Text) : Prop :=
  ∀ point ∈ digits, point.isDigit = true

theorem AllDigits.append {first second : Text} (before : AllDigits first) (behind : AllDigits second) :
    AllDigits (first ++ second) := by
  intro point member
  rcases List.mem_append.1 member with member | member
  · exact before point member
  · exact behind point member

theorem allDigits_ofNat (number : Nat) : AllDigits (Text.ofNat number) :=
  fun _ => Text.isDigit_of_mem_ofNat

theorem allDigits_zeros (count : Nat) : AllDigits (List.replicate count (CodePoint.ofChar '0')) := by
  intro point member
  rw [List.eq_of_mem_replicate member]
  decide

theorem digitsValue_append (first second : Text) :
    digitsValue (first ++ second) = digitsValue first * 10 ^ second.length + digitsValue second := by
  have shift (start : Nat) (digits : Text) :
      digits.foldl (fun value digit => value * 10 + digit.digitValue) start =
        start * 10 ^ digits.length + digitsValue digits := by
    induction digits generalizing start with
    | nil => simp [digitsValue]
    | cons digit digits ih =>
        rw [digitsValue, List.foldl_cons, List.foldl_cons, ih, ih (0 * 10 + _), List.length_cons]
        ring
  rw [digitsValue, List.foldl_append, shift]
  rfl

theorem digitsValue_zeros (count : Nat) :
    digitsValue (List.replicate count (CodePoint.ofChar '0')) = 0 := by
  induction count with
  | zero => rfl
  | succ count ih =>
      rw [List.replicate_succ', digitsValue_append, ih]
      rfl

/-! ### Texts that are literals -/

/-- Whatever its sign, the text is read as digits and an exponent that have the value. -/
structure Denotes (text : Text) (value : ℚ) : Prop where
  reads : ∃ digits exponent, (∀ negative, Literal.read? (signText negative ++ text) =
    some ⟨negative, digits, exponent⟩) ∧ AllDigits digits ∧ digits.length ≤ 100 ∧
      (digitsValue digits : ℚ) * 10 ^ exponent = value
  notWhole : ∀ negative, wholeLiteral? (signText negative ++ text) = none
  startsWithDigit : ∃ first rest, text = first :: rest ∧ first.isDigit = true
  parts : ∀ part ∈ text, IsPart part

theorem splitSign_signText {text rest : Text} {first : CodePoint} (shape : text = first :: rest)
    (digit : first.isDigit = true) (negative : Bool) :
    splitSign (signText negative ++ text) = (negative, text) := by
  subst shape
  cases negative with
  | true => rfl
  | false =>
      have notMinus : first ≠ minus := by
        rintro rfl
        exact absurd digit (by decide)
      have notPlus : first ≠ plus := by
        rintro rfl
        exact absurd digit (by decide)
      simp [signText, Text.ofString, splitSign, notMinus, notPlus]

def EndsDigits (text : Text) : Prop :=
  ∀ point ∈ text.head?, point.isDigit = false

theorem takeWhile_digits {digits rest : Text} (allDigits : AllDigits digits)
    (ends : EndsDigits rest) :
    (digits ++ rest).takeWhile CodePoint.isDigit = digits ∧
      (digits ++ rest).dropWhile CodePoint.isDigit = rest := by
  rw [List.takeWhile_append_of_pos allDigits, List.dropWhile_append_of_pos allDigits]
  cases rest with
  | nil => simp
  | cons point rest => simp [ends point (by simp)]

theorem denotes_pointed (whole fraction : Text) {mark : Text} {exponent : Int} (present : whole ≠ [])
    (wholeDigits : AllDigits whole) (fractionDigits : AllDigits fraction) (ends : EndsDigits mark)
    (read : exponentPart? mark = some exponent) (parts : ∀ part ∈ mark, IsPart part)
    (short : (whole ++ fraction).length ≤ 100) :
    Denotes (whole ++ point :: (fraction ++ mark))
      (digitsValue (whole ++ fraction) * 10 ^ (exponent - fraction.length)) := by
  obtain ⟨first, rest, shape⟩ := List.exists_cons_of_ne_nil present
  have digit : first.isDigit = true := wholeDigits first (by simp [shape])
  have start : whole ++ point :: (fraction ++ mark) = first :: (rest ++ point :: (fraction ++ mark)) :=
    by rw [shape]; rfl
  have notDigit : EndsDigits (point :: (fraction ++ mark)) := by
    intro other isFirst
    obtain rfl : point = other := by simpa using isFirst
    decide
  obtain ⟨takeWhole, dropWhole⟩ := takeWhile_digits wholeDigits notDigit
  obtain ⟨takeFraction, dropFraction⟩ := takeWhile_digits fractionDigits ends
  refine ⟨⟨whole ++ fraction, exponent - fraction.length, ?_, wholeDigits.append fractionDigits, short,
    rfl⟩, ?_, ⟨first, _, start, digit⟩, ?_⟩
  · intro negative
    unfold Literal.read?
    rw [splitSign_signText start digit]
    simp [takeWhole, dropWhole, takeFraction, dropFraction, present, read]
  · intro negative
    unfold wholeLiteral?
    rw [splitSign_signText start digit]
    simp [show point.isDigit = false by decide]
  · intro part member
    rcases List.mem_append.1 member with member | member
    · exact .inl (wholeDigits part member)
    · rcases List.mem_cons.1 member with rfl | member
      · exact .inr (by decide)
      · rcases List.mem_append.1 member with member | member
        · exact .inl (fractionDigits part member)
        · exact parts part member

theorem denotes_unpointed {whole mark : Text} {exponent : Int} (present : whole ≠ [])
    (wholeDigits : AllDigits whole) (ends : EndsDigits mark)
    (marked : ∃ first rest, mark = first :: rest ∧ first ≠ point)
    (read : exponentPart? mark = some exponent) (parts : ∀ part ∈ mark, IsPart part)
    (short : whole.length ≤ 100) :
    Denotes (whole ++ mark) (digitsValue whole * 10 ^ exponent) := by
  obtain ⟨first, rest, shape⟩ := List.exists_cons_of_ne_nil present
  have digit : first.isDigit = true := wholeDigits first (by simp [shape])
  have start : whole ++ mark = first :: (rest ++ mark) := by rw [shape]; rfl
  obtain ⟨takeWhole, dropWhole⟩ := takeWhile_digits wholeDigits ends
  obtain ⟨other, behind, markShape, notPoint⟩ := marked
  refine ⟨⟨whole, exponent, ?_, wholeDigits, short, rfl⟩, ?_, ⟨first, _, start, digit⟩, ?_⟩
  · intro negative
    unfold Literal.read?
    rw [splitSign_signText start digit]
    simp only [takeWhole, dropWhole]
    rw [markShape] at read ⊢
    simp [notPoint, present, read]
  · intro negative
    unfold wholeLiteral?
    rw [splitSign_signText start digit, markShape]
    have notDigit : other.isDigit = false := ends other (by simp [markShape])
    simp [notDigit]
  · intro part member
    rcases List.mem_append.1 member with member | member
    · exact .inl (wholeDigits part member)
    · exact parts part member

theorem exponentText_shape (exponent : Int) :
    ∃ sign digits, exponentText floatLayout exponent = CodePoint.ofChar 'e' :: sign :: digits ∧
      (sign = minus ∧ exponent < 0 ∨ sign = plus ∧ 0 ≤ exponent) ∧ AllDigits digits ∧
        digits ≠ [] ∧ digitsValue digits = exponent.natAbs := by
  have padded : padZeros floatLayout.exponentDigits (Text.ofNat exponent.natAbs) =
      List.replicate (2 - (Text.ofNat exponent.natAbs).length) (CodePoint.ofChar '0') ++
        Text.ofNat exponent.natAbs := by
    simp [padZeros, List.leftpad, floatLayout]
  refine ⟨if exponent < 0 then minus else plus,
    padZeros floatLayout.exponentDigits (Text.ofNat exponent.natAbs), ?_, ?_, ?_, ?_, ?_⟩
  · unfold exponentText
    split <;> rfl
  · by_cases negative : exponent < 0
    · exact .inl ⟨by simp [negative], negative⟩
    · exact .inr ⟨by simp [negative], by omega⟩
  · rw [padded]
    exact (allDigits_zeros _).append (allDigits_ofNat _)
  · rw [padded]
    simp [Text.ofNat_ne_nil]
  · rw [padded, digitsValue_append, digitsValue_zeros, digitsValue_ofNat]
    omega

theorem exponentPart_exponentText (exponent : Int) :
    exponentPart? (exponentText floatLayout exponent) = some exponent := by
  obtain ⟨sign, digits, shape, signs, allDigits, present, value⟩ := exponentText_shape exponent
  have all : digits.all CodePoint.isDigit = true := List.all_eq_true.2 allDigits
  have signed := applySign_natAbs exponent
  rw [shape]
  rcases signs with ⟨rfl, negative⟩ | ⟨rfl, positive⟩
  · rw [decide_eq_true negative] at signed
    simp [exponentPart?, wholeLiteral?, splitSign, present, all, value, signed]
  · have apart : plus ≠ minus := by decide
    rw [decide_eq_false (by omega)] at signed
    simp [exponentPart?, wholeLiteral?, splitSign, present, all, value, signed, apart]

theorem exponentText_parts (exponent : Int) :
    EndsDigits (exponentText floatLayout exponent) ∧
      ∀ part ∈ exponentText floatLayout exponent, IsPart part := by
  obtain ⟨sign, digits, shape, signs, allDigits, -, -⟩ := exponentText_shape exponent
  rw [shape]
  constructor
  · intro other isFirst
    obtain rfl : CodePoint.ofChar 'e' = other := by simpa using isFirst
    decide
  · intro part member
    rcases List.mem_cons.1 member with rfl | member
    · exact .inr (by decide)
    · rcases List.mem_cons.1 member with rfl | member
      · rcases signs with ⟨rfl, -⟩ | ⟨rfl, -⟩ <;> exact .inr (by decide)
      · exact .inl (allDigits part member)

section Layouts

variable {digits : Text}

theorem denotes_plain (whole fraction : Text) (present : whole ≠ [])
    (wholeDigits : AllDigits whole) (fractionDigits : AllDigits fraction) (short : (whole ++ fraction).length ≤ 100) :
    Denotes (whole ++ point :: fraction)
      (digitsValue (whole ++ fraction) * 10 ^ (-(fraction.length : Int))) := by
  have ends : EndsDigits [] := by simp [EndsDigits]
  have read : exponentPart? [] = some 0 := rfl
  have denotes := denotes_pointed whole fraction present wholeDigits fractionDigits ends read (by simp)
    short
  simpa using denotes

theorem denotes_positional (allDigits : AllDigits digits) (present : digits ≠ [])
    (short : digits.length ≤ 18) (whole : Int) (notMuch : -4 < whole) (notMany : whole ≤ 16) :
    Denotes (positional floatLayout digits whole)
      (digitsValue digits * 10 ^ (whole - digits.length)) := by
  have zeroDigits : AllDigits [zero] := by
    intro point member
    rw [List.mem_singleton.1 member]
    decide
  have zeroValue : digitsValue [zero] = 0 := rfl
  unfold positional
  split
  · have denotes := denotes_plain [zero] digits (by simp) zeroDigits allDigits (by simp; omega)
    rw [digitsValue_append, zeroValue] at denotes
    simpa [Text.ofString, zero, point] using denotes
  · rename_i count _
    have bound : count ≤ 16 := Int.ofNat_le.1 notMany
    dsimp only
    split
    · rename_i shorter
      have denotes := denotes_plain (digits ++ List.replicate (count - digits.length) zero)
        [zero] (by simp [present]) (allDigits.append (allDigits_zeros _)) zeroDigits
        (by simp; omega)
      have value : (digitsValue (digits ++ List.replicate (count - digits.length) zero ++ [zero]) : ℚ)
          * 10 ^ (-(([zero] : Text).length : Int)) =
            digitsValue digits * 10 ^ (Int.ofNat count - digits.length) := by
        have places : Int.ofNat count - digits.length = ((count - digits.length : Nat) : Int) := by
          simp only [Int.ofNat_eq_natCast]
          omega
        rw [digitsValue_append, digitsValue_append, zeroValue, zero, digitsValue_zeros, places,
          zpow_natCast]
        push_cast
        simp
      rw [value] at denotes
      simpa [Text.ofString, zero, point, floatLayout] using denotes
    · rename_i longer
      have positive : count ≠ 0 := by
        rintro rfl
        simp_all
      have denotes := denotes_plain (digits.take count) (digits.drop count)
        (by simp [present, positive]) (fun part member => allDigits part (List.mem_of_mem_take member))
        (fun part member => allDigits part (List.mem_of_mem_drop member)) (by simp; omega)
      have places : -((digits.drop count).length : Int) = Int.ofNat count - digits.length := by
        simp only [List.length_drop, Int.ofNat_eq_natCast]
        omega
      rw [places, List.take_append_drop] at denotes
      simpa [Text.ofString, point] using denotes
  · rename_i missing
    have denotes := denotes_plain [zero] (List.replicate (missing + 1) zero ++ digits) (by simp)
      zeroDigits ((allDigits_zeros _).append allDigits) (by simp; omega)
    have places : -((List.replicate (missing + 1) zero ++ digits).length : Int) =
        Int.negSucc missing - digits.length := by
      simp only [List.length_append, List.length_replicate]
      omega
    rw [places, digitsValue_append, zeroValue, digitsValue_append, zero, digitsValue_zeros] at denotes
    simpa [Text.ofString, zero, point] using denotes

theorem denotes_scientific (allDigits : AllDigits digits) (present : digits ≠ [])
    (short : digits.length ≤ 18) (exponent : Int) :
    Denotes (scientificDigits digits ++ exponentText floatLayout exponent)
      (digitsValue digits * 10 ^ (exponent + 1 - digits.length)) := by
  obtain ⟨ends, parts⟩ := exponentText_parts exponent
  have read := exponentPart_exponentText exponent
  match digits with
  | [] => exact absurd rfl present
  | [digit] =>
      obtain ⟨sign, rest, shape, -⟩ := exponentText_shape exponent
      have denotes := denotes_unpointed present allDigits ends ⟨_, _, shape, by decide⟩ read parts
        (by omega)
      simpa [scientificDigits] using denotes
  | first :: second :: rest =>
      have behind : AllDigits (second :: rest) := fun part member => allDigits part (by simp [member])
      have start : AllDigits [first] := fun part member => allDigits part (by simp_all)
      have denotes := denotes_pointed [first] (second :: rest) (by simp) start behind ends read parts
        (by simp at short ⊢; omega)
      have places : exponent - ((second :: rest).length : Int) =
          exponent + 1 - ((first :: second :: rest).length : Int) := by
        simp only [List.length_cons]
        omega
      rw [places] at denotes
      simpa [scientificDigits, point] using denotes

end Layouts

theorem denotes_render {decimal : Scaled} (few : decimal.digits < 10 ^ 18) :
    Denotes (decimal.render floatLayout) (decimal.digits * 10 ^ decimal.exponent) := by
  have short : (Text.ofNat decimal.digits).length ≤ 18 :=
    (Text.length_ofNat_le (by decide)).2 few
  have allDigits := allDigits_ofNat decimal.digits
  have present := Text.ofNat_ne_nil decimal.digits
  unfold Scaled.render
  dsimp only
  generalize leadingIs : decimal.exponent + ((Text.ofNat decimal.digits).length : Int) - 1 = leading
  have exponentIs : decimal.exponent = leading + 1 - ((Text.ofNat decimal.digits).length : Int) := by
    omega
  rw [exponentIs]
  split
  · rename_i moderate
    simp only [floatLayout] at moderate
    have denotes := denotes_positional allDigits present short (leading + 1) (by omega) (by omega)
    rwa [digitsValue_ofNat] at denotes
  · have denotes := denotes_scientific allDigits present short leading
    rwa [digitsValue_ofNat] at denotes

/-! ### Literals near a float -/

theorem digitValue_le {digit : CodePoint} (isDigit : digit.isDigit = true) : digit.digitValue ≤ 9 := by
  simp only [CodePoint.isDigit, Bool.and_eq_true, decide_eq_true_eq] at isDigit
  unfold CodePoint.digitValue
  omega

theorem digitValue_pos {digit : CodePoint} (isDigit : digit.isDigit = true) (notZero : digit ≠ zero) :
    1 ≤ digit.digitValue := by
  simp only [CodePoint.isDigit, Bool.and_eq_true, decide_eq_true_eq] at isDigit
  have other : digit.val ≠ 0x30 := by
    intro same
    apply notZero
    obtain ⟨number, inSpace⟩ := digit
    obtain rfl : number = 0x30 := same
    rfl
  unfold CodePoint.digitValue
  omega

theorem digitsValue_cons (digit : CodePoint) (digits : Text) :
    digitsValue (digit :: digits) = digit.digitValue * 10 ^ digits.length + digitsValue digits := by
  have split := digitsValue_append [digit] digits
  simpa [digitsValue] using split

theorem digitsValue_lt {digits : Text} (allDigits : AllDigits digits) :
    digitsValue digits < 10 ^ digits.length := by
  induction digits with
  | nil => decide
  | cons digit digits ih =>
      have small := digitValue_le (allDigits digit (by simp))
      have rest := ih fun part member => allDigits part (by simp [member])
      have weight := Nat.mul_le_mul_right (10 ^ digits.length) small
      rw [digitsValue_cons, List.length_cons, Nat.pow_succ]
      omega

theorem digitsValue_dropWhile (digits : Text) :
    digitsValue (digits.dropWhile (· = zero)) = digitsValue digits := by
  induction digits with
  | nil => rfl
  | cons digit digits ih =>
      by_cases isZero : digit = zero
      · subst isZero
        rw [digitsValue_cons]
        simpa [zero, CodePoint.digitValue, CodePoint.ofChar] using ih
      · simp [isZero]

theorem le_digitsValue {digits : Text} (allDigits : AllDigits digits) {first : CodePoint} {rest : Text}
    (shape : digits.dropWhile (· = zero) = first :: rest) :
    10 ^ rest.length ≤ digitsValue digits := by
  have notZero : first ≠ zero := by
    intro isZero
    have start := List.head_dropWhile_not (p := (· = zero)) (l := digits) (by simp [shape])
    simp [shape, isZero] at start
  have digit : first.isDigit = true :=
    allDigits first ((List.dropWhile_suffix _).mem (by rw [shape]; simp))
  have positive := Nat.mul_le_mul_right (10 ^ rest.length) (digitValue_pos digit notZero)
  rw [← digitsValue_dropWhile, shape, digitsValue_cons]
  omega

open Binary64

variable {mantissa : Nat} {exponent : Int} {value : ℚ}

theorem tiny : (10 : ℚ) ^ (-330 : Int) < 1 / 2 * 2 ^ leastExponent := by
  have power : (2 : ℚ) ^ 1075 < 10 ^ 330 := by
    calc (2 : ℚ) ^ 1075 ≤ 2 ^ (109 * 10) := pow_le_pow_right₀ (by norm_num) (by norm_num)
      _ = (2 ^ 109) ^ 10 := pow_mul _ _ _
      _ < (10 ^ 33) ^ 10 := by gcongr; norm_num
      _ = 10 ^ 330 := by rw [← pow_mul]
  have half : (1 / 2 : ℚ) * 2 ^ leastExponent = (2 ^ 1075)⁻¹ := by
    rw [leastExponent, zpow_neg, one_div, ← mul_inv, zpow_ofNat, ← pow_succ']
  rw [half, zpow_neg, zpow_ofNat]
  exact inv_strictAnti₀ (by positivity) power

theorem huge : (2 : ℚ) ^ 53 * 2 ^ (971 : Int) < 10 ^ (309 : Int) := by
  rw [zpow_ofNat, zpow_ofNat, ← pow_add]
  calc (2 : ℚ) ^ (53 + 971) = 2 ^ (93 * 11 + 1) := by norm_num only
    _ = (2 ^ 93) ^ 11 * 2 := by rw [pow_succ, pow_mul]
    _ < (10 ^ 28) ^ 11 * 10 := by
        gcongr <;> norm_num
    _ = 10 ^ (28 * 11 + 1) := by rw [← pow_mul, ← pow_succ]

theorem range_of_isNearest (canonical : IsCanonical mantissa exponent) (positive : 0 < mantissa)
    (nearest : IsNearest mantissa exponent value) :
    (10 : ℚ) ^ (-330 : Int) < value ∧ value < 10 ^ (309 : Int) := by
  have unitPositive : (0 : ℚ) < 2 ^ exponent := by positivity
  have oneLe : (1 : ℚ) ≤ mantissa := by exact_mod_cast positive
  have mantissa_le := canonical.mantissa_le
  have least : (2 : ℚ) ^ leastExponent ≤ 2 ^ exponent :=
    zpow_le_zpow_right₀ (by norm_num) canonical.least_le
  have most : (2 : ℚ) ^ exponent ≤ 2 ^ (971 : Int) :=
    zpow_le_zpow_right₀ (by norm_num) canonical.exponent_le
  constructor
  · calc (10 : ℚ) ^ (-330 : Int) < 1 / 2 * 2 ^ leastExponent := tiny
      _ ≤ 1 / 2 * 2 ^ exponent := by gcongr
      _ ≤ (mantissa - 1 / 2) * 2 ^ exponent := by
          gcongr
          linarith
      _ ≤ value := nearest.lower
  · calc value ≤ (mantissa + 1 / 2) * 2 ^ exponent := nearest.upper
      _ ≤ 2 ^ 53 * 2 ^ exponent := by
          gcongr
          linarith
      _ ≤ 2 ^ 53 * 2 ^ (971 : Int) := by gcongr
      _ < 10 ^ (309 : Int) := huge

theorem wholeDigits_range {digits rest : Text} {scale : Int} (low : (10 : ℚ) ^ (-330 : Int) <
      digitsValue digits * 10 ^ scale) (high : (digitsValue digits : ℚ) * 10 ^ scale <
      10 ^ (309 : Int)) (least : 10 ^ rest.length ≤ digitsValue digits)
    (most : digitsValue digits < 10 ^ (rest.length + 1)) :
    -330 ≤ (rest.length + 1 : Int) + scale ∧ (rest.length + 1 : Int) + scale ≤ 310 := by
  have scalePositive : (0 : ℚ) < 10 ^ scale := by positivity
  have leastCast : (10 : ℚ) ^ rest.length ≤ digitsValue digits := by exact_mod_cast least
  have mostCast : (digitsValue digits : ℚ) < 10 ^ (rest.length + 1) := by exact_mod_cast most
  have power (places : Nat) : (10 : ℚ) ^ ((places : Int) + scale) = 10 ^ places * 10 ^ scale := by
    rw [zpow_add₀ (by norm_num), zpow_natCast]
  have below : (10 : ℚ) ^ (-330 : Int) < 10 ^ (((rest.length + 1 : Nat) : Int) + scale) := by
    rw [power]
    exact low.trans (mul_lt_mul_of_pos_right mostCast scalePositive)
  have above : (10 : ℚ) ^ ((rest.length : Int) + scale) < 10 ^ (309 : Int) := by
    rw [power]
    exact lt_of_le_of_lt (mul_le_mul_of_nonneg_right leastCast scalePositive.le) high
  have first := (zpow_lt_zpow_iff_right₀ (by norm_num)).1 below
  have second := (zpow_lt_zpow_iff_right₀ (by norm_num)).1 above
  push_cast at first
  omega

theorem nearest_of_isNearest (negative : Bool) {numerator denominator : Nat}
    (canonical : IsCanonical mantissa exponent) (numeratorPositive : 0 < numerator)
    (denominatorPositive : 0 < denominator)
    (near : IsNearest mantissa exponent ((numerator : ℚ) / denominator)) :
    Binary64.nearest negative numerator denominator = Float.ofBits (UInt64.ofNat
      ((if negative then signWeight else 0) + magnitudeBits mantissa exponent)) := by
  unfold Binary64.nearest
  rw [if_neg numeratorPositive.ne',
    nearestBits_of_isNearest canonical numeratorPositive denominatorPositive near]
  cases negative <;> simp

theorem inUnits_positive (scale : Int) {numerator : Nat} (denominator : Nat)
    (positive : 0 < numerator) : 0 < (inUnits scale numerator denominator).1 := by
  cases scale with
  | ofNat power => exact positive
  | negSucc power => exact Nat.mul_pos positive (Nat.pow_pos (by decide))

theorem shorten_of_short {literal : Literal}
    (short : literal.digits.length ≤ Literal.decisiveDigits) : literal.shorten = literal := by
  have few : literal.digits.drop Literal.decisiveDigits = [] := List.drop_eq_nil_iff.2 short
  unfold Literal.shorten
  rw [few]

theorem toFloat_of_isNearest {literal : Literal} (allDigits : AllDigits literal.digits)
    (short : literal.digits.length ≤ 100) (canonical : IsCanonical mantissa exponent)
    (positive : 0 < mantissa)
    (near : IsNearest mantissa exponent (digitsValue literal.digits * 10 ^ literal.exponent)) :
    literal.toFloat = Float.ofBits (UInt64.ofNat
      ((if literal.negative then signWeight else 0) + magnitudeBits mantissa exponent)) := by
  obtain ⟨low, high⟩ := range_of_isNearest canonical positive near
  have same := digitsValue_dropWhile literal.digits
  have significant : AllDigits (literal.digits.dropWhile (· = zero)) :=
    fun part member => allDigits part ((List.dropWhile_suffix _).mem member)
  have most := digitsValue_lt significant
  have fewer := (List.dropWhile_suffix (· = zero) (l := literal.digits)).length_le
  unfold Literal.toFloat
  cases shape : literal.digits.dropWhile (· = zero) with
  | nil =>
      rw [← same, shape] at low
      have negligible : (0 : ℚ) < 10 ^ (-330 : Int) := by positivity
      have nothing : digitsValue [] = 0 := rfl
      rw [nothing, Nat.cast_zero, zero_mul] at low
      exact absurd low negligible.not_gt
  | cons first rest =>
      have least := le_digitsValue allDigits shape
      rw [same, shape, List.length_cons] at most
      obtain ⟨notTiny, notHuge⟩ := wholeDigits_range low high least most
      have kept : (Literal.shorten ⟨literal.negative, first :: rest, literal.exponent⟩) =
          ⟨literal.negative, first :: rest, literal.exponent⟩ := by
        refine shorten_of_short (show (first :: rest).length ≤ Literal.decisiveDigits from ?_)
        rw [← shape]
        exact (fewer.trans short).trans (by decide)
      have places : (((first :: rest).length : Nat) : Int) = rest.length + 1 := by simp
      have value : digitsValue (first :: rest) = digitsValue literal.digits := by rw [← shape, same]
      obtain ⟨unitPositive, quotient⟩ := inUnits_spec (-literal.exponent)
        (digitsValue (first :: rest)) Nat.one_pos
      dsimp only
      rw [places, if_neg, if_neg, kept]
      · dsimp only
        apply nearest_of_isNearest literal.negative canonical _ unitPositive
        · rw [quotient, value, zpow_neg]
          simpa using near
        · have present : 0 < digitsValue (first :: rest) := by
            rw [value]
            exact lt_of_lt_of_le (Nat.pow_pos (by decide)) least
          exact inUnits_positive _ _ present
      · unfold Literal.mostWholeDigits
        omega
      · unfold Literal.mostLeadingZeros
        simp
        omega

/-- Behind its sign, the text of a finite float is a literal that stands for its magnitude. -/
theorem floatText_denotes {number : Float} {negative : Bool}
    (stands : ofFloat number = .finite negative mantissa exponent) :
    ∃ text magnitude, floatText number = signText negative ++ text ∧ Denotes text magnitude ∧
      (mantissa = 0 ∧ magnitude = 0 ∨
        0 < mantissa ∧ IsNearest mantissa exponent magnitude) := by
  obtain ⟨canonical, -⟩ := toBits_of_finite stands
  cases mantissa with
  | zero =>
      have zeroDigits : AllDigits [zero] := by
        intro part member
        rw [List.mem_singleton.1 member]
        decide
      refine ⟨"0.0", 0, by simp [floatText, stands], ?_, .inl ⟨rfl, rfl⟩⟩
      have denotes := denotes_plain [zero] [zero] (by simp) zeroDigits zeroDigits (by simp)
      have nothing : digitsValue ([zero] ++ [zero]) = 0 := rfl
      rw [nothing, Nat.cast_zero, zero_mul] at denotes
      exact denotes
  | succ less =>
      have decimal := shortest_stands canonical (Nat.succ_pos less)
      exact ⟨(shortest (less + 1) exponent).render floatLayout, _, by simp [floatText, stands],
        denotes_render decimal.few, .inr ⟨Nat.succ_pos less, decimal.nearest⟩⟩

theorem toFloat_zero {literal : Literal} (zero_ : digitsValue literal.digits = 0)
    (allDigits : AllDigits literal.digits) :
    literal.toFloat =
      Float.ofBits (UInt64.ofNat (if literal.negative then signWeight else 0)) := by
  have empty : literal.digits.dropWhile (· = zero) = [] := by
    cases shape : literal.digits.dropWhile (· = zero) with
    | nil => rfl
    | cons first rest =>
        have least := le_digitsValue allDigits shape
        have positive : 0 < 10 ^ rest.length := Nat.pow_pos (by decide)
        omega
  unfold Literal.toFloat
  simp [empty, Binary64.nearest]

/-- No literal is read as a NaN. -/
theorem Literal.toFloat_beq_self (literal : Literal) :
    (literal.toFloat == literal.toFloat) = true := by
  unfold Literal.toFloat
  dsimp only
  split
  · exact nearest_beq_self _ _ _
  · split
    · split <;> decide
    · exact nearest_beq_self _ _ _

end Decimal

namespace NumberToken

open Decimal Binary64

variable {number : Float}

theorem toFloat_of_ofFloat {negative : Bool} {mantissa : Nat} {exponent scale : Int} {digits : Text}
    (stands : ofFloat number = .finite negative mantissa exponent) (allDigits : AllDigits digits)
    (short : digits.length ≤ 100)
    (near : mantissa = 0 ∧ (digitsValue digits : ℚ) * 10 ^ scale = 0 ∨
      0 < mantissa ∧ IsNearest mantissa exponent (digitsValue digits * 10 ^ scale)) :
    (Literal.mk negative digits scale).toFloat = number := by
  obtain ⟨canonical, bits⟩ := toBits_of_finite stands
  have scalePositive : (0 : ℚ) < 10 ^ scale := by positivity
  rw [← Float.ofBits_toBits number, bits]
  rcases near with ⟨rfl, nothing⟩ | ⟨positive, nearest⟩
  · have zero_ : digitsValue digits = 0 := by
      exact_mod_cast (mul_eq_zero.1 nothing).resolve_right scalePositive.ne'
    have least : exponent = leastExponent := by
      by_contra other
      exact absurd (canonical.normal other) (by decide)
    rw [toFloat_zero zero_ allDigits]
    simp [magnitudeBits, least]
  · exact toFloat_of_isNearest allDigits short canonical positive nearest

theorem read_floatText (finite : isFinite number = true) (ref : Option Ref) :
    looksNumeric (floatText number) = true ∧ (∀ part ∈ floatText number, IsPart part) ∧
      read (floatText number) ref = .ok ⟨.float number, floatText number, ref⟩ := by
  cases stands : ofFloat number with
  | nan => simp [isFinite, stands] at finite
  | infinite negative => simp [isFinite, stands] at finite
  | finite negative mantissa exponent =>
      obtain ⟨text, magnitude, shape, denotes, near⟩ := floatText_denotes stands
      obtain ⟨digits, scale, reads, allDigits, short, value⟩ := denotes.reads
      obtain ⟨first, rest, start, digit⟩ := denotes.startsWithDigit
      have back := toFloat_of_ofFloat stands allDigits short (by rw [value]; exact near)
      rw [shape]
      refine ⟨?_, ?_, ?_⟩
      · rw [start]
        cases negative with
        | true => exact (looksNumeric_of_digit digit rest).2
        | false => exact (looksNumeric_of_digit digit rest).1
      · intro part member
        rcases List.mem_append.1 member with sign | inside
        · have isMinus : part = minus := by
            cases negative with
            | true => simpa [signText, Text.ofString, minus] using sign
            | false => simp [signText, Text.ofString] at sign
          exact .inr (by rw [isMinus]; decide)
        · exact denotes.parts part inside
      · unfold read
        rw [denotes.notWhole]
        simp only [readFloat, reads, back]

theorem read_float_beq_self {text : Text} {ref : Option Ref} {token : Token}
    (done : read text ref = .ok token) (isFloat : token.lexeme = .float number) :
    (number == number) = true := by
  have ofFloat (found : readFloat text ref = .ok token) : (number == number) = true := by
    unfold readFloat at found
    split at found
    · cases found
      cases isFloat
      exact Literal.toFloat_beq_self _
    · cases found
  unfold read at done
  split at done
  · split at done
    · cases done
    · dsimp only at done
      split at done
      · cases done
        cases isFloat
      · exact ofFloat done
  · exact ofFloat done

end NumberToken

end Lisplet
