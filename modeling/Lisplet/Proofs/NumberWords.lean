import Lisplet.Proofs.FloatText
import Lisplet.Proofs.Lexing

/-!
What the lexer makes of a word. The texts of numbers are given by a grammar, apart from the readers.
The readers accept exactly these texts, so every word is an identifier, an integer of its exact
value, a float or a failure.
-/

namespace Lisplet

namespace Decimal

/-! ### Spellings -/

inductive Sign : Text → Bool → Prop
  | absent : Sign [] false
  | positive : Sign [plus] false
  | negative : Sign [minus] true

/-- A spelling of an integer, with the number that it stands for. -/
inductive Whole : Text → Int → Prop
  | intro {sign digits : Text} {negative : Bool} (signed : Sign sign negative) (present : digits ≠ [])
      (allDigits : AllDigits digits) :
      Whole (sign ++ digits)
        (applySign negative (Nat.ofDigits 10 (digits.map CodePoint.digitValue).reverse))

/-- Digits in front of a point and digits behind it. Without a point there are none behind it. -/
inductive Mantissa : Text → Text → Text → Prop
  | plain {whole : Text} (present : whole ≠ []) (wholeDigits : AllDigits whole) :
      Mantissa whole whole []
  | pointed {whole fraction : Text} (present : whole ++ fraction ≠ []) (wholeDigits : AllDigits whole)
      (fractionDigits : AllDigits fraction) :
      Mantissa (whole ++ point :: fraction) whole fraction

inductive Exponent : Text → Int → Prop
  | absent : Exponent [] 0
  | marked {mark : CodePoint} {text : Text} {power : Int}
      (marks : mark = CodePoint.ofChar 'e' ∨ mark = CodePoint.ofChar 'E') (whole : Whole text power) :
      Exponent (mark :: text) power

/-- A spelling of a decimal, with its sign, its digits and the power of ten that scales them. -/
inductive Spelled : Text → Literal → Prop
  | intro {sign mantissa exponent whole fraction : Text} {negative : Bool} {power : Int}
      (signed : Sign sign negative) (split : Mantissa mantissa whole fraction)
      (scaled : Exponent exponent power) :
      Spelled (sign ++ (mantissa ++ exponent))
        ⟨negative, whole ++ fraction, power - fraction.length⟩

theorem Whole.spelled {text : Text} {number : Int} (whole : Whole text number) :
    ∃ literal, Spelled text literal := by
  cases whole with
  | intro signed present allDigits =>
      have spelled := Spelled.intro signed (.plain present allDigits) .absent
      rw [List.append_nil] at spelled
      exact ⟨_, spelled⟩

/-! ### The readers accept the spellings and nothing else -/

theorem digitsValue_eq_ofDigits (digits : Text) :
    digitsValue digits = Nat.ofDigits 10 (digits.map CodePoint.digitValue).reverse := by
  rw [Nat.ofDigits_eq_foldr, List.foldr_reverse, List.foldl_map, digitsValue]
  refine congrArg (fun step => List.foldl step 0 digits) ?_
  funext value digit
  simp only [Nat.cast_id]
  omega

theorem splitSign_sound (text : Text) :
    ∃ sign, Sign sign (splitSign text).1 ∧ text = sign ++ (splitSign text).2 := by
  cases text with
  | nil => exact ⟨[], .absent, rfl⟩
  | cons first rest =>
      unfold splitSign
      by_cases isMinus : first = minus
      · simp only [isMinus, if_true]
        exact ⟨[minus], .negative, rfl⟩
      · by_cases isPlus : first = plus
        · simp only [isPlus, if_neg (show ¬plus = minus by decide), if_true]
          exact ⟨[plus], .positive, rfl⟩
        · simp only [isMinus, isPlus, if_false]
          exact ⟨[], .absent, rfl⟩

/-- No sign is in front of a digit or a point. -/
def Unsigned (text : Text) : Prop :=
  ∀ first ∈ text.head?, first.isDigit = true ∨ first = point

theorem splitSign_complete {sign rest : Text} {negative : Bool} (signed : Sign sign negative)
    (unsigned : Unsigned rest) : splitSign (sign ++ rest) = (negative, rest) := by
  cases signed with
  | positive => rfl
  | negative => rfl
  | absent =>
      cases rest with
      | nil => rfl
      | cons first rest =>
          have notMinus : first ≠ minus := by
            rintro rfl
            exact absurd (unsigned minus rfl) (by decide)
          have notPlus : first ≠ plus := by
            rintro rfl
            exact absurd (unsigned plus rfl) (by decide)
          simp [splitSign, notMinus, notPlus]

theorem AllDigits.unsigned {digits : Text} (allDigits : AllDigits digits) : Unsigned digits := by
  intro first isFirst
  exact .inl (allDigits first (List.mem_of_mem_head? isFirst))

theorem Mantissa.unsigned {mantissa whole fraction : Text} (split : Mantissa mantissa whole fraction)
    (exponent : Text) : Unsigned (mantissa ++ exponent) := by
  intro first isFirst
  cases split with
  | plain present wholeDigits =>
      obtain ⟨digit, rest, rfl⟩ := List.exists_cons_of_ne_nil present
      obtain rfl : digit = first := by simpa using isFirst
      exact .inl (wholeDigits digit (by simp))
  | pointed present wholeDigits =>
      cases whole with
      | nil =>
          obtain rfl : point = first := by simpa using isFirst
          exact .inr rfl
      | cons digit rest =>
          obtain rfl : digit = first := by simpa using isFirst
          exact .inl (wholeDigits digit (by simp))

theorem wholeLiteral?_eq_some_iff {text digits : Text} {negative : Bool} :
    wholeLiteral? text = some (negative, digits) ↔
      ∃ sign, Sign sign negative ∧ digits ≠ [] ∧ AllDigits digits ∧ text = sign ++ digits := by
  constructor
  · intro read
    obtain ⟨sign, signed, shape⟩ := splitSign_sound text
    unfold wholeLiteral? at read
    dsimp only at read
    split at read
    · cases read
    · rename_i notEmpty
      simp only [Option.some.injEq, Prod.mk.injEq] at read
      obtain ⟨rfl, rfl⟩ := read
      simp only [Bool.or_eq_true, List.isEmpty_iff, Bool.not_eq_true', not_or, Bool.not_eq_false,
        List.all_eq_true] at notEmpty
      exact ⟨sign, signed, notEmpty.1, notEmpty.2, shape⟩
  · rintro ⟨sign, signed, present, allDigits, rfl⟩
    have all : digits.all CodePoint.isDigit = true := List.all_eq_true.2 allDigits
    unfold wholeLiteral?
    rw [splitSign_complete signed allDigits.unsigned]
    simp [present, all]

theorem whole_iff {text : Text} {number : Int} :
    Whole text number ↔ ∃ negative digits, wholeLiteral? text = some (negative, digits) ∧
      applySign negative (digitsValue digits) = number := by
  constructor
  · rintro ⟨signed, present, allDigits⟩
    refine ⟨_, _, wholeLiteral?_eq_some_iff.mpr ⟨_, signed, present, allDigits, rfl⟩, ?_⟩
    rw [digitsValue_eq_ofDigits]
  · rintro ⟨negative, digits, read, rfl⟩
    obtain ⟨sign, signed, present, allDigits, rfl⟩ := wholeLiteral?_eq_some_iff.mp read
    rw [digitsValue_eq_ofDigits]
    exact .intro signed present allDigits

theorem Whole.unique {text : Text} {first second : Int} (once : Whole text first)
    (again : Whole text second) : first = second := by
  obtain ⟨negative, digits, read, rfl⟩ := whole_iff.mp once
  obtain ⟨_, _, readAgain, rfl⟩ := whole_iff.mp again
  rw [read] at readAgain
  cases readAgain
  rfl

theorem exponentPart?_eq_some_iff {text : Text} {power : Int} :
    exponentPart? text = some power ↔ Exponent text power := by
  constructor
  · intro read
    cases text with
    | nil =>
        cases read
        exact .absent
    | cons mark rest =>
        by_cases marks : mark = CodePoint.ofChar 'e' ∨ mark = CodePoint.ofChar 'E'
        · rw [exponentPart?, if_pos marks] at read
          obtain ⟨⟨negative, digits⟩, whole, value⟩ := Option.map_eq_some_iff.mp read
          exact .marked marks (whole_iff.mpr ⟨negative, digits, whole, value⟩)
        · rw [exponentPart?, if_neg marks] at read
          cases read
  · intro scaled
    cases scaled with
    | absent => rfl
    | marked marks whole =>
        obtain ⟨negative, digits, read, value⟩ := whole_iff.mp whole
        rw [exponentPart?, if_pos marks, read, ← value]
        rfl

theorem Exponent.ends {text : Text} {power : Int} (scaled : Exponent text power) :
    EndsDigits text ∧ ∀ first ∈ text.head?, first ≠ point := by
  cases scaled with
  | absent => simp [EndsDigits]
  | marked marks =>
      simp only [EndsDigits, List.head?_cons, Option.mem_some_iff, forall_eq']
      rcases marks with rfl | rfl <;> decide

theorem Spelled.read {text : Text} {literal : Literal} (spelled : Spelled text literal) :
    Literal.read? text = some literal := by
  cases spelled with
  | @intro sign mantissa exponent whole fraction negative power signed split scaled =>
      have read := exponentPart?_eq_some_iff.mpr scaled
      obtain ⟨ends, unpointed⟩ := scaled.ends
      unfold Literal.read?
      rw [splitSign_complete signed (split.unsigned exponent)]
      cases split with
      | plain present wholeDigits =>
          obtain ⟨take, drop⟩ := takeWhile_digits wholeDigits ends
          simp only [take, drop]
          cases exponent with
          | nil => simp [present, read]
          | cons mark rest => simp [unpointed mark rfl, present, read]
      | pointed present wholeDigits fractionDigits =>
          have stops : EndsDigits (point :: (fraction ++ exponent)) := by
            intro first isFirst
            obtain rfl : point = first := by simpa using isFirst
            decide
          obtain ⟨take, drop⟩ := takeWhile_digits wholeDigits stops
          obtain ⟨takeFraction, dropFraction⟩ := takeWhile_digits fractionDigits ends
          have notEmpty : (whole.isEmpty && fraction.isEmpty) = false := by
            simpa [Bool.eq_false_iff] using present
          simp only [List.append_assoc, List.cons_append, take, drop, if_true, takeFraction,
            dropFraction, notEmpty, read, Option.map_some]
          simp

theorem allDigits_takeWhile (text : Text) : AllDigits (text.takeWhile CodePoint.isDigit) := by
  intro point member
  exact List.mem_takeWhile_imp member

theorem spelled_of_parts {sign mantissa exponent whole fraction : Text} {negative : Bool}
    {literal : Literal} (signed : Sign sign negative)
    (split : whole ++ fraction ≠ [] → Mantissa mantissa whole fraction)
    (read : (if (whole.isEmpty && fraction.isEmpty) = true then none
      else (exponentPart? exponent).map fun power =>
        Literal.mk negative (whole ++ fraction) (power - fraction.length)) = some literal) :
    Spelled (sign ++ (mantissa ++ exponent)) literal := by
  by_cases missing : (whole.isEmpty && fraction.isEmpty) = true
  · rw [if_pos missing] at read
    cases read
  · rw [if_neg missing] at read
    obtain ⟨power, scaled, rfl⟩ := Option.map_eq_some_iff.mp read
    have present : whole ++ fraction ≠ [] := by simpa using missing
    exact .intro signed (split present) (exponentPart?_eq_some_iff.mp scaled)

theorem spelled_of_read {text : Text} {literal : Literal} (read : Literal.read? text = some literal) :
    Spelled text literal := by
  obtain ⟨sign, signed, shape⟩ := splitSign_sound text
  unfold Literal.read? at read
  dsimp only at read
  rw [shape]
  generalize (splitSign text).1 = negative at signed read
  generalize (splitSign text).2 = rest at read
  have wholeDigits := allDigits_takeWhile rest
  rw [← List.takeWhile_append_dropWhile (p := CodePoint.isDigit) (l := rest)]
  generalize rest.takeWhile CodePoint.isDigit = whole at wholeDigits read
  generalize rest.dropWhile CodePoint.isDigit = behind at read ⊢
  cases behind with
  | nil =>
      refine spelled_of_parts signed ?_ read
      intro present
      rw [List.append_nil] at present
      exact .plain present wholeDigits
  | cons first behind =>
      by_cases isPoint : first = point
      · simp only [isPoint, if_true] at read ⊢
        have parts := spelled_of_parts signed
          (fun present => .pointed present wholeDigits (allDigits_takeWhile behind)) read
        rwa [List.append_assoc, List.cons_append, List.takeWhile_append_dropWhile] at parts
      · simp only [isPoint, if_false] at read
        refine spelled_of_parts signed ?_ read
        intro present
        rw [List.append_nil] at present
        exact .plain present wholeDigits

theorem Literal.read?_eq_some_iff {text : Text} {literal : Literal} :
    read? text = some literal ↔ Spelled text literal :=
  ⟨spelled_of_read, Spelled.read⟩

theorem Literal.read?_eq_none_iff {text : Text} :
    read? text = none ↔ ¬∃ literal, Spelled text literal := by
  rw [Option.eq_none_iff_forall_ne_some, not_exists]
  simp only [ne_eq, read?_eq_some_iff]

end Decimal

namespace NumberToken

open Decimal

/-! ### Words -/

/-- A digit at the start, or behind one sign or point. -/
def StartsNumber (text : Text) : Prop :=
  ∃ mark ∈ [[], [plus], [minus], [point]], ∃ digit rest,
    digit.isDigit = true ∧ text = mark ++ digit :: rest

theorem StartsNumber.ne_nil {text : Text} (numeric : StartsNumber text) : text ≠ [] := by
  rintro rfl
  obtain ⟨mark, _, digit, rest, _, shape⟩ := numeric
  simp at shape

theorem looksNumeric_iff_startsNumber {text : Text} :
    looksNumeric text = true ↔ StartsNumber text := by
  constructor
  · intro numeric
    match text with
    | [] => cases numeric
    | [first] => exact ⟨[], by simp, first, [], numeric, rfl⟩
    | first :: second :: rest =>
        simp only [looksNumeric, Bool.or_eq_true, Bool.and_eq_true, decide_eq_true_eq] at numeric
        rcases numeric with digit | ⟨mark, digit⟩
        · exact ⟨[], by simp, first, second :: rest, digit, rfl⟩
        · exact ⟨[first], by simpa [or_assoc] using mark, second, rest, digit, rfl⟩
  · rintro ⟨mark, marks, digit, rest, isDigit, rfl⟩
    simp only [List.mem_cons, List.not_mem_nil, or_false] at marks
    rcases marks with rfl | rfl | rfl | rfl
    · exact (looksNumeric_of_digit isDigit rest).1
    · simp [looksNumeric, isDigit]
    · exact (looksNumeric_of_digit isDigit rest).2
    · simp [looksNumeric, isDigit]

theorem startsNumber_of_whole {text : Text} {number : Int} (whole : Whole text number) :
    StartsNumber text := by
  cases whole with
  | @intro sign digits negative signed present allDigits =>
      obtain ⟨digit, rest, rfl⟩ := List.exists_cons_of_ne_nil present
      refine ⟨sign, ?_, digit, rest, allDigits digit (by simp), rfl⟩
      cases signed <;> simp

/-- The number is one of the integers of the language. -/
def Fits (number : Int) : Prop :=
  -2 ^ 63 ≤ number ∧ number ≤ 2 ^ 63 - 1

instance (number : Int) : Decidable (Fits number) :=
  inferInstanceAs (Decidable (_ ∧ _))

def IsInteger (text : Text) : Prop :=
  ∃ number, Whole text number ∧ Fits number

theorem fits_iff {number : Int} :
    Fits number ↔ Integer64.least ≤ number ∧ number ≤ Integer64.greatest := by
  unfold Fits Integer64.least Integer64.greatest
  omega

theorem toInt_ofInt_of_fits {number : Int} (fits : Fits number) :
    (Int64.ofInt number).toInt = number := by
  obtain ⟨lower, upper⟩ := fits
  exact Int64.toInt_ofInt_of_le (by omega) (by omega)

variable {text : Text}

theorem length_le_countP {digits sign : Text} (allDigits : AllDigits digits) :
    digits.length ≤ (sign ++ digits).countP CodePoint.isDigit := by
  rw [List.countP_append, List.countP_eq_length.mpr allDigits]
  omega

theorem read_whole (few : text.countP CodePoint.isDigit ≤ mostDigits) {number : Int}
    (whole : Whole text number) (fits : Fits number) (ref : Option Ref) :
    read text ref = .ok ⟨.integer (Int64.ofInt number), text, ref⟩ := by
  obtain ⟨negative, digits, found, rfl⟩ := whole_iff.mp whole
  obtain ⟨sign, -, -, allDigits, rfl⟩ := wholeLiteral?_eq_some_iff.mp found
  have notOversized : ¬mostDigits < digits.length :=
    ((length_le_countP allDigits).trans few).not_gt
  unfold read
  rw [found]
  simp only [notOversized, if_false]
  rw [if_pos (fits_iff.mp fits)]

theorem read_eq_readFloat (few : text.countP CodePoint.isDigit ≤ mostDigits)
    (notInteger : ¬IsInteger text) (ref : Option Ref) : read text ref = readFloat text ref := by
  unfold read
  cases found : wholeLiteral? text with
  | none => rfl
  | some parts =>
      obtain ⟨negative, digits⟩ := parts
      have whole : Whole text (applySign negative (digitsValue digits)) :=
        whole_iff.mpr ⟨negative, digits, found, rfl⟩
      obtain ⟨sign, -, -, allDigits, rfl⟩ := wholeLiteral?_eq_some_iff.mp found
      have notOversized : ¬mostDigits < digits.length :=
        ((length_le_countP allDigits).trans few).not_gt
      have outside : ¬Fits (applySign negative (digitsValue digits)) := by
        intro fits
        exact notInteger ⟨_, whole, fits⟩
      rw [fits_iff] at outside
      simp only [notOversized, if_false]
      rw [if_neg outside]

theorem readFloat_spelled {literal : Literal} (spelled : Spelled text literal) (ref : Option Ref) :
    readFloat text ref = .ok ⟨.float literal.toFloat, text, ref⟩ := by
  rw [readFloat, Literal.read?_eq_some_iff.mpr spelled]

theorem readFloat_malformed (malformed : ¬∃ literal, Spelled text literal) (ref : Option Ref) :
    readFloat text ref = .error (.issue ⟨.malformedNumber text, ref⟩) := by
  rw [readFloat, Literal.read?_eq_none_iff.mpr malformed]

end NumberToken

namespace Lexer

open NumberToken Decimal

/-- What the lexer collects in its default mode. -/
def Cursor.word (cursor : Cursor) : Text :=
  cursor.rest.takeWhile isWordPoint

/-- The collected word becomes this lexeme, and the lexer goes on behind it. -/
def HandsOut (source : Source) (cursor : Cursor) (lexeme : Lexeme) : Prop :=
  transition source .word cursor =
    .ok ⟨some ⟨lexeme, cursor.word, some (cursor.position.toRef source)⟩,
      modeAfterWord (cursor.rest.dropWhile isWordPoint),
      cursor.behind cursor.word (cursor.rest.dropWhile isWordPoint)⟩

def Fails (source : Source) (cursor : Cursor) : Prop :=
  transition source .word cursor =
    .error (.issue ⟨.malformedNumber cursor.word, some (cursor.position.toRef source)⟩)

variable {source : Source} {cursor : Cursor}

theorem handsOut_identifier (present : cursor.word ≠ []) (plain : ¬StartsNumber cursor.word) :
    HandsOut source cursor (.identifier cursor.word) := by
  rw [← looksNumeric_iff_startsNumber] at plain
  unfold HandsOut transition wordTransition
  unfold Cursor.word at *
  simp [present, plain]

theorem transition_number (present : cursor.word ≠ []) (numeric : StartsNumber cursor.word) :
    transition source .word cursor =
      (read cursor.word (some (cursor.position.toRef source))).map fun token =>
        ⟨some token, modeAfterWord (cursor.rest.dropWhile isWordPoint),
          cursor.behind cursor.word (cursor.rest.dropWhile isWordPoint)⟩ := by
  rw [← looksNumeric_iff_startsNumber] at numeric
  unfold transition wordTransition
  unfold Cursor.word at *
  simp [present, numeric]

theorem handsOut_of_read (present : cursor.word ≠ []) (numeric : StartsNumber cursor.word)
    {lexeme : Lexeme} (done : read cursor.word (some (cursor.position.toRef source)) =
      .ok ⟨lexeme, cursor.word, some (cursor.position.toRef source)⟩) :
    HandsOut source cursor lexeme := by
  rw [HandsOut, transition_number present numeric, done]
  rfl

theorem handsOut_integer (few : cursor.word.countP CodePoint.isDigit ≤ NumberToken.mostDigits)
    {number : Int} (whole : Whole cursor.word number) (fits : Fits number) :
    HandsOut source cursor (.integer (Int64.ofInt number)) := by
  have numeric := startsNumber_of_whole whole
  exact handsOut_of_read numeric.ne_nil numeric (read_whole few whole fits _)

theorem handsOut_float (few : cursor.word.countP CodePoint.isDigit ≤ NumberToken.mostDigits)
    (numeric : StartsNumber cursor.word) (notInteger : ¬IsInteger cursor.word) {literal : Literal}
    (spelled : Spelled cursor.word literal) : HandsOut source cursor (.float literal.toFloat) := by
  apply handsOut_of_read numeric.ne_nil numeric
  rw [read_eq_readFloat few notInteger, readFloat_spelled spelled]

theorem fails_malformed (few : cursor.word.countP CodePoint.isDigit ≤ NumberToken.mostDigits)
    (numeric : StartsNumber cursor.word) (notInteger : ¬IsInteger cursor.word)
    (malformed : ¬∃ literal, Spelled cursor.word literal) : Fails source cursor := by
  rw [Fails, transition_number numeric.ne_nil numeric, read_eq_readFloat few notInteger,
    readFloat_malformed malformed]
  rfl

theorem handsOut_ofInt (number : Int64) {rest : Text} (ends : EndsWord rest) (position : Position) :
    HandsOut source ⟨Text.ofInt number.toInt ++ rest, position⟩ (.integer number) := by
  have isWord : ∀ part ∈ Text.ofInt number.toInt, isWordPoint part = true :=
    fun part member => (isWordPoint_of_number (isPart_of_mem_ofInt member)).1
  have word : Cursor.word ⟨Text.ofInt number.toInt ++ rest, position⟩ = Text.ofInt number.toInt :=
    takeWhile_word isWord ends
  have numeric := looksNumeric_iff_startsNumber.mp (looksNumeric_ofInt number.toInt)
  rw [← word] at numeric
  refine handsOut_of_read numeric.ne_nil numeric ?_
  rw [word]
  exact read_ofInt number _

/-- A word of at most 4300 digits is an identifier, an integer of its exact value, a float or a
failure where it starts. -/
theorem words_settled (source : Source) :
    (∀ cursor : Cursor, cursor.word ≠ [] → cursor.word.countP CodePoint.isDigit ≤ 4300 →
      (¬StartsNumber cursor.word → HandsOut source cursor (.identifier cursor.word)) ∧
      (StartsNumber cursor.word →
        (∀ number, Whole cursor.word number → Fits number →
          ∃ value : Int64, value.toInt = number ∧ HandsOut source cursor (.integer value)) ∧
        (¬IsInteger cursor.word →
          (∀ literal, Spelled cursor.word literal →
            HandsOut source cursor (.float literal.toFloat)) ∧
          ((¬∃ literal, Spelled cursor.word literal) → Fails source cursor))) ∧
      ∀ number, Whole cursor.word number → ¬Fits number →
        ∃ literal, Spelled cursor.word literal ∧
          HandsOut source cursor (.float literal.toFloat)) ∧
    ∀ (number : Int64) (rest : Text) (position : Position), EndsWord rest →
      HandsOut source ⟨Text.ofInt number.toInt ++ rest, position⟩ (.integer number) := by
  constructor
  · intro cursor present few
    refine ⟨handsOut_identifier present, ?_, ?_⟩
    · intro numeric
      constructor
      · intro number whole fits
        exact ⟨_, toInt_ofInt_of_fits fits, handsOut_integer few whole fits⟩
      · intro notInteger
        exact ⟨fun literal spelled => handsOut_float few numeric notInteger spelled,
          fails_malformed few numeric notInteger⟩
    · intro number whole outside
      obtain ⟨literal, spelled⟩ := whole.spelled
      refine ⟨literal, spelled, handsOut_float few (startsNumber_of_whole whole) ?_ spelled⟩
      rintro ⟨other, again, fits⟩
      rw [again.unique whole] at fits
      exact outside fits
  · intro number rest position ends
    exact handsOut_ofInt number ends position

theorem words_settled_mixed :
    HandsOut ⟨[], []⟩ ⟨"-007 x", Position.start⟩ (.integer (-7)) ∧
    (∃ literal : Literal,
      HandsOut ⟨[], []⟩ ⟨"9223372036854775808", Position.start⟩ (.float literal.toFloat)) ∧
    HandsOut ⟨[], []⟩ ⟨"-.5", Position.start⟩ (.identifier "-.5") ∧
    HandsOut ⟨[], []⟩ ⟨"1.e5", Position.start⟩ (.float (Literal.mk false ("1" : Text) 5).toFloat) ∧
    Fails ⟨[], []⟩ ⟨"1e", Position.start⟩ ∧
    HandsOut ⟨[], []⟩ ⟨Text.ofInt Int64.minValue.toInt, Position.start⟩
      (.integer Int64.minValue) := by
  obtain ⟨words, numbers⟩ := words_settled ⟨[], []⟩
  have whole {text : Text} {number : Int} (negative : Bool) (digits : Text)
      (read : wholeLiteral? text = some (negative, digits))
      (value : applySign negative (digitsValue digits) = number) : Whole text number :=
    whole_iff.mpr ⟨negative, digits, read, value⟩
  have notInteger {text : Text} (read : wholeLiteral? text = none) : ¬IsInteger text := by
    rintro ⟨number, isWhole, -⟩
    obtain ⟨negative, digits, found, -⟩ := whole_iff.mp isWhole
    rw [read] at found
    cases found
  refine ⟨?_, ?_, ?_, ?_, ?_, ?_⟩
  · obtain ⟨-, numeric, -⟩ := words ⟨"-007 x", Position.start⟩ (by decide) (by decide)
    obtain ⟨value, same, handed⟩ :=
      (numeric (looksNumeric_iff_startsNumber.mp (by decide))).1 (-7) (whole true "007" rfl rfl)
        (by decide)
    obtain rfl : value = -7 := Int64.toInt_inj.mp same
    exact handed
  · obtain ⟨-, -, outside⟩ := words ⟨"9223372036854775808", Position.start⟩ (by decide) (by decide)
    obtain ⟨literal, -, handed⟩ :=
      outside (2 ^ 63) (whole false "9223372036854775808" rfl rfl) (by decide)
    exact ⟨literal, handed⟩
  · obtain ⟨plain, -, -⟩ := words ⟨"-.5", Position.start⟩ (by decide) (by decide)
    exact plain (looksNumeric_iff_startsNumber.not.mp (by decide))
  · obtain ⟨-, numeric, -⟩ := words ⟨"1.e5", Position.start⟩ (by decide) (by decide)
    exact ((numeric (looksNumeric_iff_startsNumber.mp (by decide))).2 (notInteger rfl)).1 _
      (Literal.read?_eq_some_iff.mp rfl)
  · obtain ⟨-, numeric, -⟩ := words ⟨"1e", Position.start⟩ (by decide) (by decide)
    exact ((numeric (looksNumeric_iff_startsNumber.mp (by decide))).2 (notInteger rfl)).2
      (Literal.read?_eq_none_iff.mp rfl)
  · have handed := numbers Int64.minValue [] Position.start (by simp [EndsWord])
    rwa [List.append_nil] at handed

end Lexer

end Lisplet
