import Mathlib.Data.List.Chain
import Lisplet.Proofs.Lexing

/-!
How programs are written: what each token looks like, and what may stand between two of them. The
lexer passes separators without a trace and hands out each token where it is written.
-/

namespace Lisplet

namespace Lexer

/-! ### Separators -/

/-- Blanks, and comments that last up to the ends of their lines. -/
inductive Separator : Text → Prop
  | nil : Separator []
  | blank {point text} : point.isBlank = true → Separator text → Separator (point :: text)
  | comment {body text} : Source.newline ∉ body → Separator text →
      Separator (semicolon :: body ++ Source.newline :: text)

/-- What may stand behind the last token. A comment there needs no end of its line. -/
inductive Trailer : Text → Prop
  | separator {text} : Separator text → Trailer text
  | comment {text body} : Separator text → Source.newline ∉ body →
      Trailer (text ++ semicolon :: body)

theorem Separator.append {first second : Text} (before : Separator first)
    (behind : Separator second) : Separator (first ++ second) := by
  induction before with
  | nil => exact behind
  | blank isBlank _ ih => exact .blank isBlank ih
  | comment oneLine _ ih =>
      rw [List.append_assoc]
      exact .comment oneLine ih

theorem Separator.endsWord {text : Text} (separator : Separator text) (present : text ≠ [])
    (rest : Text) : EndsWord (text ++ rest) := by
  cases separator with
  | nil => exact absurd rfl present
  | blank isBlank _ => exact endsWord_cons (isWordPoint_of_blank isBlank) _
  | comment _ _ => exact endsWord_cons rfl _

theorem lexes_comment (source : Source) (position : Position) {body rest : Text}
    (oneLine : Source.newline ∉ body) (ends : rest = [] ∨ rest.head? = some Source.newline) :
    Lexes source ⟨semicolon :: body ++ rest, position⟩
      ⟨rest, position.advance (semicolon :: body)⟩ [] := by
  have inside : ∀ point ∈ body, decide (point ≠ Source.newline) = true := by
    intro point member
    exact decide_eq_true fun same => oneLine (same ▸ member)
  have stops : rest.dropWhile (· ≠ Source.newline) = rest ∧
      rest.takeWhile (· ≠ Source.newline) = [] := by
    rcases ends with rfl | first
    · exact ⟨rfl, rfl⟩
    · obtain ⟨others, rfl⟩ := List.head?_eq_some_iff.1 first
      simp
  have passed : Lexes source ⟨semicolon :: (body ++ rest), position⟩
      ⟨(body ++ rest).dropWhile (· ≠ Source.newline),
        position.advance (semicolon :: (body ++ rest).takeWhile (· ≠ Source.newline))⟩ [] :=
    lexes_of_transition .comment none rfl rfl rfl
  rwa [List.dropWhile_append_of_pos inside, List.takeWhile_append_of_pos inside, stops.1, stops.2,
    List.append_nil] at passed

theorem Separator.lexes {text : Text} (separator : Separator text) (source : Source)
    (position : Position) (rest : Text) :
    Lexes source ⟨text ++ rest, position⟩ ⟨rest, position.advance text⟩ [] := by
  induction separator generalizing position with
  | nil => exact .refl source _
  | blank isBlank _ ih => exact (lexes_blank source position isBlank _).trans (ih _)
  | @comment body text oneLine _ ih =>
      have newline : (Source.newline :: (text ++ rest)).head? = some Source.newline := rfl
      have passed := lexes_comment source position oneLine (.inr newline)
      have ended := lexes_blank source (position.advance (semicolon :: body))
        (show Source.newline.isBlank = true by rfl) (text ++ rest)
      have whole := (passed.trans ended).trans (ih _)
      simpa [Position.advance_append] using whole

theorem Separator.trailer {first second : Text} (separator : Separator first)
    (trailer : Trailer second) : Trailer (first ++ second) := by
  cases trailer with
  | separator behind => exact .separator (separator.append behind)
  | comment behind oneLine =>
      rw [← List.append_assoc]
      exact .comment (separator.append behind) oneLine

theorem Trailer.lexes {text : Text} (trailer : Trailer text) (source : Source)
    (position : Position) : Lexes source ⟨text, position⟩ ⟨[], position.advance text⟩ [] := by
  cases trailer with
  | separator separator => simpa using separator.lexes source position []
  | @comment text body separator oneLine =>
      have passed := lexes_comment source (position.advance text) oneLine (.inl rfl)
      rw [List.append_nil] at passed
      rw [Position.advance_append]
      exact (separator.lexes source position _).trans passed

/-! ### Strings -/

/-- What stands between the quotes of a string, and the text it stands for. A backslash is dropped,
and the code point behind it is kept whatever it is. -/
inductive Quotes : (body value : Text) → Prop
  | nil : Quotes [] []
  | plain {point body value} : point ≠ Text.doubleQuote → point ≠ Text.backslash →
      Quotes body value → Quotes (point :: body) (point :: value)
  | escaped {point body value} : Quotes body value →
      Quotes (Text.backslash :: point :: body) (point :: value)

theorem Quotes.stringBody {body value : Text} (quotes : Quotes body value) (rest : Text) :
    stringBody? (body ++ Text.doubleQuote :: rest) =
      some (body ++ [Text.doubleQuote], value, rest) := by
  induction quotes with
  | nil => exact stringBody_quote rest
  | plain notQuote notBackslash _ ih =>
      rw [List.cons_append, stringBody_plain (not_or.2 ⟨notBackslash, notQuote⟩), ih]
      rfl
  | escaped _ ih =>
      rw [List.cons_append, List.cons_append, stringBody_escape, ih]
      rfl

theorem quotes_of_stringBody {text raw value rest : Text}
    (read : stringBody? text = some (raw, value, rest)) :
    ∃ body, raw = body ++ [Text.doubleQuote] ∧ Quotes body value := by
  fun_induction stringBody? text generalizing raw value rest with
  | case1 => cases read
  | case2 =>
      cases read
      exact ⟨[], rfl, .nil⟩
  | case3 => cases read
  | case4 _ escaped others ih =>
      obtain ⟨⟨innerRaw, innerValue, innerRest⟩, innerRead, same⟩ := Option.map_eq_some_iff.1 read
      cases same
      obtain ⟨body, rfl, quotes⟩ := ih innerRead
      exact ⟨_, rfl, .escaped quotes⟩
  | case5 point others notQuote notBackslash ih =>
      obtain ⟨⟨innerRaw, innerValue, innerRest⟩, innerRead, same⟩ := Option.map_eq_some_iff.1 read
      cases same
      obtain ⟨body, rfl, quotes⟩ := ih innerRead
      exact ⟨_, rfl, .plain notQuote notBackslash quotes⟩

/-! ### Tokens -/

structure IsWord (text : Text) : Prop where
  present : text ≠ []
  points : ∀ point ∈ text, isWordPoint point = true

theorem IsWord.not_endsWord {text : Text} (isWord : IsWord text) (rest : Text) :
    ¬ EndsWord (text ++ rest) := by
  intro ends
  obtain ⟨point, others, rfl⟩ := List.exists_cons_of_ne_nil isWord.present
  have outside := ends point rfl
  rw [isWord.points point List.mem_cons_self] at outside
  cases outside

end Lexer

/-- Names and numbers. They end where something else begins. -/
def Lexeme.isWord : Lexeme → Bool
  | identifier _ | integer _ | float _ => true
  | endOfInput | opening | closing | string _ => false

theorem NumberToken.read_lexeme {text : Text} {ref : Option Ref} {token : Token}
    (done : read text ref = .ok token) :
    token.lexeme.isWord = true ∧ ∀ other, read text other = .ok ⟨token.lexeme, text, other⟩ := by
  have ofFloat (found : readFloat text ref = .ok token) : token.lexeme.isWord = true ∧
      ∀ other, readFloat text other = .ok ⟨token.lexeme, text, other⟩ := by
    unfold readFloat at found ⊢
    cases literal : Decimal.Literal.read? text with
    | none => simp [literal] at found
    | some literal =>
        simp only [literal, Except.ok.injEq] at found ⊢
        subst found
        exact ⟨rfl, fun _ => rfl⟩
  unfold read at done ⊢
  cases whole : Decimal.wholeLiteral? text with
  | none =>
      simp only [whole] at done ⊢
      exact ofFloat done
  | some signed =>
      obtain ⟨negative, digits⟩ := signed
      simp only [whole] at done ⊢
      split at done
      · cases done
      · rename_i short
        split at done
        · rename_i inRange
          cases done
          exact ⟨rfl, fun other => by rw [if_neg short, if_pos inRange]⟩
        · rename_i outOfRange
          simp only [if_neg short, if_neg outOfRange]
          exact ofFloat done

theorem NumberToken.read_fails {text : Text} {ref : Option Ref} {failure : Fatal}
    (failed : read text ref = .error failure) :
    (failure = .issue ⟨.malformedNumber text, ref⟩ ∧ Decimal.Literal.read? text = none) ∨
      ∃ negative digits, Decimal.wholeLiteral? text = some (negative, digits) ∧
        mostDigits < digits.length ∧ failure = .oversizedNumber digits.length := by
  have ofFloat (failed : readFloat text ref = .error failure) :
      failure = .issue ⟨.malformedNumber text, ref⟩ ∧ Decimal.Literal.read? text = none := by
    unfold readFloat at failed
    cases literal : Decimal.Literal.read? text with
    | some literal => simp [literal] at failed
    | none =>
        simp only [literal, Except.error.injEq] at failed
        exact ⟨failed.symm, rfl⟩
  unfold read at failed
  cases whole : Decimal.wholeLiteral? text with
  | none =>
      simp only [whole] at failed
      exact .inl (ofFloat failed)
  | some signed =>
      obtain ⟨negative, digits⟩ := signed
      simp only [whole] at failed
      split at failed
      · rename_i tooLong
        cases failed
        exact .inr ⟨negative, digits, rfl, tooLong, rfl⟩
      · split at failed
        · cases failed
        · exact .inl (ofFloat failed)

theorem NumberToken.read_oversized {text digits : Text} {negative : Bool}
    (whole : Decimal.wholeLiteral? text = some (negative, digits))
    (tooLong : mostDigits < digits.length) (ref : Option Ref) :
    read text ref = .error (.oversizedNumber digits.length) := by
  simp [read, whole, tooLong]

theorem NumberToken.ones_oversized :
    (∀ point ∈ List.replicate 4301 (CodePoint.ofChar '1'), point.isDigit = true) ∧
      mostDigits < (List.replicate 4301 (CodePoint.ofChar '1')).length := by
  constructor
  · intro point member
    rw [List.eq_of_mem_replicate member]
    decide
  · rw [List.length_replicate]
    decide

namespace Lexer

/-- How the lexemes are written. -/
inductive Written : Lexeme → Text → Prop
  | opening : Written .opening [openParenthesis]
  | closing : Written .closing [closeParenthesis]
  | identifier {name} : IsWord name → NumberToken.looksNumeric name = false →
      Written (.identifier name) name
  | number {lexeme text} : IsWord text → NumberToken.looksNumeric text = true →
      (∀ ref, NumberToken.read text ref = .ok ⟨lexeme, text, ref⟩) → Written lexeme text
  | string {body value} : Quotes body value →
      Written (.string value) (Text.doubleQuote :: body ++ [Text.doubleQuote])

namespace Written

variable {lexeme : Lexeme} {text : Text}

theorem present (written : Written lexeme text) : text ≠ [] := by
  cases written with
  | opening | closing | string _ => exact List.cons_ne_nil _ _
  | identifier isWord _ => exact isWord.present
  | number isWord _ _ => exact isWord.present

theorem isWord (written : Written lexeme text) (word : lexeme.isWord = true) : IsWord text := by
  cases written with
  | opening | closing | string _ => cases word
  | identifier isWord _ => exact isWord
  | number isWord _ _ => exact isWord

theorem endsWord (written : Written lexeme text) (noWord : lexeme.isWord = false) (rest : Text) :
    EndsWord (text ++ rest) := by
  cases written with
  | opening | closing | string _ => exact endsWord_cons rfl _
  | identifier _ _ => cases noWord
  | number _ _ reads =>
      rw [(NumberToken.read_lexeme (reads none)).1] at noWord
      cases noWord

/-- A token is handed out where it is written. A word has to end there. -/
theorem lexes (written : Written lexeme text) (source : Source) (position : Position) {rest : Text}
    (ends : lexeme.isWord = true → EndsWord rest) :
    Lexes source ⟨text ++ rest, position⟩ ⟨rest, position.advance text⟩
      [⟨lexeme, text, some (position.toRef source)⟩] := by
  cases written with
  | opening => exact lexes_opening source position rest
  | closing => exact lexes_closing source position rest
  | identifier isWord notNumeric =>
      exact lexes_word isWord.present isWord.points notNumeric (ends rfl)
  | number isWord numeric reads =>
      exact lexes_number isWord.points numeric (reads _)
        (ends (NumberToken.read_lexeme (reads none)).1)
  | string quotes => simpa using lexes_string source position (quotes.stringBody rest)

end Written

/-! ### Texts of tokens and separators -/

/-- A token with the separator in front of it. -/
structure SpacedToken where
  gap : Text
  token : Token

namespace SpacedToken

def text (piece : SpacedToken) : Text :=
  piece.gap ++ piece.token.text

/-- Two words must not touch. -/
def Apart (first second : SpacedToken) : Prop :=
  first.token.lexeme.isWord = true → second.token.lexeme.isWord = true → second.gap ≠ []

end SpacedToken

def spelled (pieces : List SpacedToken) : Text :=
  pieces.flatMap SpacedToken.text

@[simp] theorem spelled_nil : spelled [] = [] :=
  rfl

@[simp] theorem spelled_cons (piece : SpacedToken) (pieces : List SpacedToken) :
    spelled (piece :: pieces) = piece.gap ++ (piece.token.text ++ spelled pieces) := by
  simp [spelled, SpacedToken.text]

@[simp] theorem spelled_append (first second : List SpacedToken) :
    spelled (first ++ second) = spelled first ++ spelled second :=
  List.flatMap_append

/-- The pieces are tokens as they are written, with enough between them to tell them apart. -/
structure Laid (pieces : List SpacedToken) : Prop where
  separated : ∀ piece ∈ pieces, Separator piece.gap
  apart : pieces.IsChain SpacedToken.Apart
  written : ∀ piece ∈ pieces, Written piece.token.lexeme piece.token.text

namespace Laid

variable {piece : SpacedToken} {pieces : List SpacedToken}

theorem nil : Laid [] :=
  ⟨by simp, .nil, by simp⟩

theorem cons (separated : Separator piece.gap)
    (written : Written piece.token.lexeme piece.token.text)
    (apart : ∀ next ∈ pieces.head?, SpacedToken.Apart piece next) (laid : Laid pieces) :
    Laid (piece :: pieces) where
  separated := List.forall_mem_cons.2 ⟨separated, laid.separated⟩
  apart := List.isChain_cons.2 ⟨apart, laid.apart⟩
  written := List.forall_mem_cons.2 ⟨written, laid.written⟩

theorem tail (laid : Laid (piece :: pieces)) : Laid pieces where
  separated other member := laid.separated other (List.mem_cons_of_mem _ member)
  apart := laid.apart.tail
  written other member := laid.written other (List.mem_cons_of_mem _ member)

end Laid

end Lexer

end Lisplet
