import Lisplet.Proofs.Digits
import Lisplet.Token.Lexer

/-!
The lexer by equations: what it hands out from the start of each kind of lexeme, and where it goes
on. The places of its tokens increase.
-/

namespace Lisplet

namespace Position

instance : LT Position :=
  ⟨fun first second =>
    first.line < second.line ∨ first.line = second.line ∧ first.column < second.column⟩

theorem lt_def {first second : Position} : first < second ↔
    first.line < second.line ∨ first.line = second.line ∧ first.column < second.column :=
  Iff.rfl

theorem lt_trans {first second third : Position} (before : first < second)
    (behind : second < third) : first < third := by
  rw [lt_def] at *
  omega

theorem lt_next (position : Position) (point : CodePoint) : position < position.next point := by
  rw [lt_def, next]
  split
  · exact .inl (Nat.lt_succ_self _)
  · exact .inr ⟨rfl, Nat.lt_succ_self _⟩

@[simp] theorem advance_nil (position : Position) : position.advance [] = position :=
  rfl

@[simp] theorem advance_cons (position : Position) (point : CodePoint) (text : Text) :
    position.advance (point :: text) = (position.next point).advance text :=
  rfl

theorem advance_append (position : Position) (first second : Text) :
    position.advance (first ++ second) = (position.advance first).advance second := by
  simp [advance, List.foldl_append]

theorem lt_advance (position : Position) (point : CodePoint) (text : Text) :
    position < position.advance (point :: text) := by
  induction text generalizing position point with
  | nil => exact lt_next position point
  | cons other text ih => exact lt_trans (lt_next position point) (ih _ other)

theorem eq_or_lt_advance (position : Position) (text : Text) :
    position.advance text = position ∨ position < position.advance text := by
  cases text with
  | nil => exact .inl rfl
  | cons point text => exact .inr (lt_advance position point text)

end Position

namespace NumberToken

theorem read_token {text : Text} {ref : Option Ref} {token : Token}
    (done : read text ref = .ok token) :
    token.text = text ∧ token.ref = ref ∧ token.kind ≠ .endOfInput := by
  have ofFloat (found : readFloat text ref = .ok token) :
      token.text = text ∧ token.ref = ref ∧ token.kind ≠ .endOfInput := by
    unfold readFloat at found
    split at found
    · simp only [Except.ok.injEq] at found
      subst found
      exact ⟨rfl, rfl, by simp [Token.kind, Lexeme.kind]⟩
    · simp at found
  unfold read at done
  split at done
  · dsimp only at done
    split at done
    · simp at done
    · split at done
      · simp only [Except.ok.injEq] at done
        subst done
        exact ⟨rfl, rfl, by simp [Token.kind, Lexeme.kind]⟩
      · exact ofFloat done
  · exact ofFloat done

end NumberToken

namespace Lexer

def Walk.tokens (walk : Walk) : List Token :=
  walk.transitions.filterMap Transition.token

@[simp] theorem Walk.tokens_nil (ending : Except Fatal Cursor) : (Walk.mk [] ending).tokens = [] :=
  rfl

@[simp] theorem Walk.tokens_cons (result : Transition) (transitions : List Transition)
    (ending : Except Fatal Cursor) :
    (Walk.mk (result :: transitions) ending).tokens =
      result.token.toList ++ (Walk.mk transitions ending).tokens := by
  cases shape : result.token <;> simp [Walk.tokens, shape]

variable {source : Source} {mode next : Mode} {cursor later : Cursor} {result : Transition}

theorem walk_of_error {failure : Fatal} (failed : transition source mode cursor = .error failure) :
    walk source mode cursor = ⟨[], .error failure⟩ := by
  rw [walk]
  split
  · simp_all
  · simp_all

theorem walk_of_stop (done : transition source mode cursor = .ok result)
    (stopped : result.next = none) : walk source mode cursor = ⟨[result], .ok result.cursor⟩ := by
  rw [walk]
  split
  · simp_all
  · split <;> simp_all

theorem walk_of_next (done : transition source mode cursor = .ok result)
    (continued : result.next = some next) :
    walk source mode cursor = ⟨result :: (walk source next result.cursor).transitions,
      (walk source next result.cursor).ending⟩ := by
  rw [walk]
  split
  · simp_all
  · split <;> simp_all

/-- A transition reads the text `consumed`, and its token is made of that text. -/
structure Consumes (source : Source) (cursor : Cursor) (result : Transition) (consumed : Text) :
    Prop where
  rest : cursor.rest = consumed ++ result.cursor.rest
  position : result.cursor.position = cursor.position.advance consumed
  token : ∀ token ∈ result.token, token.text = consumed ∧ consumed ≠ [] ∧
    token.ref = some (cursor.position.toRef source) ∧ token.kind ≠ .endOfInput

theorem stringBody_append {text raw value rest : Text}
    (read : stringBody? text = some (raw, value, rest)) : text = raw ++ rest := by
  fun_induction stringBody? text generalizing raw value rest with
  | case1 => simp at read
  | case2 =>
      simp only [Option.some.injEq, Prod.mk.injEq] at read
      rw [← read.1, ← read.2.2]
      rfl
  | case3 => simp at read
  | case4 _ escaped others ih =>
      obtain ⟨⟨innerRaw, innerValue, innerRest⟩, innerRead, same⟩ := Option.map_eq_some_iff.1 read
      simp only [Prod.mk.injEq] at same
      rw [← same.1, ← same.2.2, ih innerRead]
      rfl
  | case5 point others _ _ ih =>
      obtain ⟨⟨innerRaw, innerValue, innerRest⟩, innerRead, same⟩ := Option.map_eq_some_iff.1 read
      simp only [Prod.mk.injEq] at same
      rw [← same.1, ← same.2.2, ih innerRead]
      rfl

theorem stringBody_quote (rest : Text) :
    stringBody? (Text.doubleQuote :: rest) = some ([Text.doubleQuote], [], rest) := by
  rw [stringBody?.eq_def]
  simp

theorem stringBody_escape (point : CodePoint) (rest : Text) :
    stringBody? (Text.backslash :: point :: rest) =
      (stringBody? rest).map fun (raw, value, behind) =>
        (Text.backslash :: point :: raw, point :: value, behind) := by
  have apart : Text.backslash ≠ Text.doubleQuote := by decide
  rw [stringBody?.eq_def]
  simp [apart]

theorem stringBody_plain {point : CodePoint}
    (plain : ¬ (point = Text.backslash ∨ point = Text.doubleQuote)) (rest : Text) :
    stringBody? (point :: rest) =
      (stringBody? rest).map fun (raw, value, behind) => (point :: raw, point :: value, behind) := by
  rw [not_or] at plain
  rw [stringBody?.eq_def]
  simp [plain]

theorem wordTransition_consumes (done : wordTransition source cursor = .ok result) :
    Consumes source cursor result (cursor.rest.takeWhile isWordPoint) := by
  have split_ := (List.takeWhile_append_dropWhile (p := isWordPoint) (l := cursor.rest)).symm
  unfold wordTransition at done
  dsimp only at done
  split at done
  · simp only [Except.ok.injEq] at done
    subst done
    exact ⟨split_, rfl, by simp⟩
  · rename_i notEmpty
    have present : cursor.rest.takeWhile isWordPoint ≠ [] := by simpa using notEmpty
    split at done
    · cases read : NumberToken.read (cursor.rest.takeWhile isWordPoint)
          (some (cursor.position.toRef source)) with
      | error failure => simp [read, Except.map] at done
      | ok token =>
          obtain ⟨text, ref, kind⟩ := NumberToken.read_token read
          simp only [read, Except.map, Except.ok.injEq] at done
          subst done
          exact ⟨split_, rfl, by simp [text, ref, kind, present]⟩
    · simp only [Except.ok.injEq] at done
      subst done
      exact ⟨split_, rfl, by simp [present, Token.kind, Lexeme.kind]⟩

/-- Behind a word the machine is where the word ends, and the code point there says how it goes on. -/
theorem wordTransition_reaches (done : wordTransition source cursor = .ok result) :
    result.cursor = cursor.behind (cursor.rest.takeWhile isWordPoint)
        (cursor.rest.dropWhile isWordPoint) ∧
      result.next = modeAfterWord (cursor.rest.dropWhile isWordPoint) := by
  unfold wordTransition at done
  dsimp only at done
  split at done
  · cases done
    exact ⟨rfl, rfl⟩
  · split at done
    · cases read : NumberToken.read (cursor.rest.takeWhile isWordPoint)
          (some (cursor.position.toRef source)) with
      | error failure => simp [read, Except.map] at done
      | ok token =>
          simp only [read, Except.map, Except.ok.injEq] at done
          subst done
          exact ⟨rfl, rfl⟩
    · cases done
      exact ⟨rfl, rfl⟩

theorem singleTransition_consumes (lexeme : Lexeme) (present : lexeme.kind ≠ .endOfInput) :
    ∃ consumed, Consumes source cursor (singleTransition source lexeme cursor) consumed := by
  unfold singleTransition
  split
  · exact ⟨[], rfl, rfl, by simp⟩
  · rename_i point rest shape
    exact ⟨[point], shape, rfl, by simp [Token.kind, present]⟩

theorem skipTransition_consumes (skipped : CodePoint → Bool) :
    ∃ consumed, Consumes source cursor (skipTransition skipped cursor) consumed := by
  unfold skipTransition
  split
  · exact ⟨[], rfl, rfl, by simp⟩
  · rename_i point rest shape
    refine ⟨point :: rest.takeWhile skipped, ?_, rfl, by simp⟩
    rw [shape, List.cons_append]
    exact congrArg _ List.takeWhile_append_dropWhile.symm

theorem stringTransition_consumes (done : stringTransition source cursor = .ok result) :
    ∃ consumed, Consumes source cursor result consumed := by
  unfold stringTransition at done
  dsimp only at done
  split at done
  · simp only [Except.ok.injEq] at done
    subst done
    exact ⟨[], rfl, rfl, by simp⟩
  · rename_i quote body shape
    split at done
    · simp at done
    · rename_i raw value rest read
      simp only [Except.ok.injEq] at done
      subst done
      refine ⟨quote :: raw, ?_, rfl, by simp [Token.kind, Lexeme.kind]⟩
      rw [shape, stringBody_append read]
      rfl

theorem transition_consumes (done : transition source mode cursor = .ok result) :
    ∃ consumed, Consumes source cursor result consumed := by
  cases mode with
  | word => exact ⟨_, wordTransition_consumes done⟩
  | string => exact stringTransition_consumes done
  | opening | closing =>
      simp only [transition, Except.ok.injEq] at done
      subst done
      exact singleTransition_consumes _ (by simp [Lexeme.kind])
  | comment | blank =>
      simp only [transition, Except.ok.injEq] at done
      subst done
      exact skipTransition_consumes _

/-- The references are to increasing places, none of them before `start`. -/
def Placed (source : Source) (start : Position) (refs : List (Option Ref)) : Prop :=
  ∃ places : List Position, refs = places.map (fun place => some (place.toRef source)) ∧
    places.Pairwise (· < ·) ∧ ∀ place ∈ places, place = start ∨ start < place

theorem Placed.earlier {start earlier : Position} {refs : List (Option Ref)}
    (placed : Placed source start refs) (before : start = earlier ∨ earlier < start) :
    Placed source earlier refs := by
  obtain ⟨places, same, increasing, behind⟩ := placed
  refine ⟨places, same, increasing, ?_⟩
  intro place member
  rcases before with rfl | before
  · exact behind place member
  · rcases behind place member with rfl | later
    · exact .inr before
    · exact .inr (Position.lt_trans before later)

theorem Placed.cons {start next : Position} {refs : List (Option Ref)}
    (placed : Placed source next refs) (before : start < next) :
    Placed source start (some (start.toRef source) :: refs) := by
  obtain ⟨places, same, increasing, behind⟩ := placed
  have allBehind (place : Position) (member : place ∈ places) : start < place := by
    rcases behind place member with rfl | later
    · exact before
    · exact Position.lt_trans before later
  refine ⟨start :: places, by simp [same], List.pairwise_cons.2 ⟨allBehind, increasing⟩, ?_⟩
  intro place member
  rcases List.mem_cons.1 member with rfl | member
  · exact .inl rfl
  · exact .inr (allBehind place member)

theorem Placed.sublist {start : Position} {refs fewer : List (Option Ref)}
    (placed : Placed source start refs) (sublist : fewer.Sublist refs) :
    Placed source start fewer := by
  obtain ⟨places, rfl, increasing, behind⟩ := placed
  obtain ⟨kept, keptPlaces, rfl⟩ := List.sublist_map_iff.1 sublist
  exact ⟨kept, rfl, increasing.sublist keptPlaces,
    fun place member => behind place (keptPlaces.subset member)⟩

theorem Consumes.placed {consumed : Text} {refs : List (Option Ref)}
    (consumes : Consumes source cursor result consumed)
    (placed : Placed source result.cursor.position refs) :
    Placed source cursor.position (result.token.toList.map Token.ref ++ refs) := by
  have position := consumes.position
  cases shape : result.token with
  | none =>
      apply placed.earlier
      rw [position]
      exact Position.eq_or_lt_advance _ _
  | some token =>
      obtain ⟨-, present, ref, -⟩ := consumes.token token shape
      obtain ⟨point, text, rfl⟩ := List.exists_cons_of_ne_nil present
      simp only [Option.toList_some, List.map_cons, List.map_nil, ref, List.singleton_append]
      apply placed.cons
      rw [position]
      exact Position.lt_advance _ point text

theorem walk_tokens_placed (source : Source) (mode : Mode) (cursor : Cursor) :
    Placed source cursor.position ((walk source mode cursor).tokens.map Token.ref) := by
  have none_ (start : Position) : Placed source start [] := ⟨[], rfl, .nil, by simp⟩
  fun_induction walk source mode cursor with
  | case1 => exact none_ _
  | case2 mode cursor result done _ =>
      obtain ⟨consumed, consumes⟩ := transition_consumes done
      simpa using consumes.placed (none_ _)
  | case3 mode cursor result done next _ remaining ih =>
      obtain ⟨consumed, consumes⟩ := transition_consumes done
      simpa using consumes.placed ih

theorem walk_transitions_consume (source : Source) (mode : Mode) (cursor : Cursor) :
    ∀ result ∈ (walk source mode cursor).transitions,
      ∃ cursor consumed, Consumes source cursor result consumed := by
  fun_induction walk source mode cursor with
  | case1 => simp
  | case2 mode cursor result done _ =>
      intro other member
      obtain rfl := List.mem_singleton.1 member
      exact ⟨cursor, transition_consumes done⟩
  | case3 mode cursor result done next _ remaining ih =>
      intro other member
      rcases List.mem_cons.1 member with rfl | member
      · exact ⟨cursor, transition_consumes done⟩
      · exact ih other member

theorem walk_tokens_kind (source : Source) (mode : Mode) (cursor : Cursor) :
    ∀ token ∈ (walk source mode cursor).tokens, token.kind ≠ .endOfInput := by
  intro token member
  obtain ⟨result, belongs, handed⟩ := List.mem_filterMap.1 member
  obtain ⟨cursor, consumed, consumes⟩ := walk_transitions_consume source mode cursor result belongs
  exact (consumes.token token handed).2.2.2

/-- A walk stops at the end of its source only. -/
theorem transition_stops (done : transition source mode cursor = .ok result)
    (stopped : result.next = none) : result.cursor.rest = [] := by
  have single (lexeme : Lexeme) (stopped : (singleTransition source lexeme cursor).next = none) :
      (singleTransition source lexeme cursor).cursor.rest = [] := by
    unfold singleTransition at stopped ⊢
    split at stopped <;> simp_all
  have skip (skipped : CodePoint → Bool) (stopped : (skipTransition skipped cursor).next = none) :
      (skipTransition skipped cursor).cursor.rest = [] := by
    unfold skipTransition at stopped ⊢
    split at stopped <;> simp_all
  cases mode with
  | word =>
      obtain ⟨reached, entered⟩ := wordTransition_reaches done
      rw [reached]
      rw [entered] at stopped
      change cursor.rest.dropWhile isWordPoint = []
      cases behind : cursor.rest.dropWhile isWordPoint with
      | nil => rfl
      | cons point rest =>
          rw [behind, modeAfterWord] at stopped
          repeat' split at stopped
          all_goals cases stopped
  | string =>
      unfold transition stringTransition at done
      dsimp only at done
      split at done
      · next empty =>
          cases done
          exact empty
      · split at done
        · cases done
        · cases done
          cases stopped
  | opening | closing =>
      cases done
      exact single _ stopped
  | comment | blank =>
      cases done
      exact skip _ stopped

/-- The machine fails in numbers and in strings that are not closed. -/
theorem transition_error {failure : Fatal} (failed : transition source mode cursor = .error failure) :
    let word := cursor.rest.takeWhile isWordPoint
    let ref := some (cursor.position.toRef source)
    mode = .word ∧ NumberToken.looksNumeric word = true ∧
        NumberToken.read word ref = .error failure ∨
      failure = .issue ⟨.unterminatedString, ref⟩ := by
  dsimp only
  cases mode with
  | opening | closing | comment | blank => cases failed
  | string =>
      unfold transition stringTransition at failed
      dsimp only at failed
      split at failed
      · cases failed
      · split at failed <;> cases failed
        exact .inr rfl
  | word =>
      unfold transition wordTransition at failed
      dsimp only at failed
      split at failed
      · cases failed
      · split at failed
        · next numeric =>
            cases read : NumberToken.read (cursor.rest.takeWhile isWordPoint)
                (some (cursor.position.toRef source)) with
            | ok token => simp [read, Except.map] at failed
            | error other =>
                simp only [read, Except.map, Except.error.injEq] at failed
                subst failed
                exact .inl ⟨rfl, numeric, rfl⟩
        · cases failed

theorem walk_ending {last : Cursor} (ended : (walk source mode cursor).ending = .ok last) :
    last.rest = [] ∧ last.position = cursor.position.advance cursor.rest := by
  fun_induction walk source mode cursor with
  | case1 => cases ended
  | case2 mode cursor result done stopped =>
      cases ended
      obtain ⟨consumed, consumes⟩ := transition_consumes done
      have rest := transition_stops done stopped
      refine ⟨rest, ?_⟩
      rw [consumes.position, consumes.rest, rest, List.append_nil]
  | case3 mode cursor result done next _ remaining ih =>
      obtain ⟨consumed, consumes⟩ := transition_consumes done
      obtain ⟨rest, position⟩ := ih ended
      refine ⟨rest, ?_⟩
      rw [position, consumes.position, consumes.rest, Position.advance_append]

/-! ### One lexeme after the other -/

/-- From the cursor the lexer hands out the tokens, and goes on as from the later cursor. -/
def Lexes (source : Source) (cursor later : Cursor) (tokens : List Token) : Prop :=
  (walk source .word cursor).tokens = tokens ++ (walk source .word later).tokens ∧
    (walk source .word cursor).ending = (walk source .word later).ending

theorem Lexes.refl (source : Source) (cursor : Cursor) : Lexes source cursor cursor [] :=
  ⟨rfl, rfl⟩

theorem Lexes.trans {middle : Cursor} {first second : List Token}
    (before : Lexes source cursor middle first) (behind : Lexes source middle later second) :
    Lexes source cursor later (first ++ second) := by
  refine ⟨?_, before.2.trans behind.2⟩
  rw [before.1, behind.1, List.append_assoc]

def EndsWord (text : Text) : Prop :=
  ∀ point ∈ text.head?, isWordPoint point = false

theorem endsWord_cons {point : CodePoint} (special : isWordPoint point = false) (text : Text) :
    EndsWord (point :: text) := by
  intro first isFirst
  obtain rfl : point = first := by simpa using isFirst
  exact special

theorem EndsWord.takeWhile {text : Text} (ends : EndsWord text) : text.takeWhile isWordPoint = [] := by
  cases text with
  | nil => rfl
  | cons point rest => simp [ends point (by simp)]

theorem EndsWord.dropWhile {text : Text} (ends : EndsWord text) :
    text.dropWhile isWordPoint = text := by
  cases text with
  | nil => rfl
  | cons point rest => simp [ends point (by simp)]

theorem takeWhile_word {word rest : Text} (isWord : ∀ point ∈ word, isWordPoint point = true)
    (ends : EndsWord rest) : (word ++ rest).takeWhile isWordPoint = word := by
  rw [List.takeWhile_append_of_pos isWord, ends.takeWhile, List.append_nil]

theorem dropWhile_word {word rest : Text} (isWord : ∀ point ∈ word, isWordPoint point = true)
    (ends : EndsWord rest) : (word ++ rest).dropWhile isWordPoint = rest := by
  rw [List.dropWhile_append_of_pos isWord, ends.dropWhile]

theorem walk_endsWord {position : Position} {rest : Text} (ends : EndsWord rest) :
    walk source .word ⟨rest, position⟩ =
      match modeAfterWord rest with
      | none => ⟨[⟨none, none, ⟨rest, position⟩⟩], .ok ⟨rest, position⟩⟩
      | some mode =>
        ⟨⟨none, some mode, ⟨rest, position⟩⟩ :: (walk source mode ⟨rest, position⟩).transitions,
          (walk source mode ⟨rest, position⟩).ending⟩ := by
  have done : transition source .word ⟨rest, position⟩ =
      .ok ⟨none, modeAfterWord rest, ⟨rest, position⟩⟩ := by
    simp [transition, wordTransition, ends.takeWhile, ends.dropWhile, Cursor.behind]
  cases shape : modeAfterWord rest with
  | none => rw [walk_of_stop done shape, shape]
  | some mode => rw [walk_of_next done shape, shape]

theorem lexes_of_wordTransition {position : Position} {word rest : Text} {token : Token}
    (ends : EndsWord rest)
    (done : wordTransition source ⟨word ++ rest, position⟩ =
      .ok ⟨some token, modeAfterWord rest, ⟨rest, position.advance word⟩⟩) :
    Lexes source ⟨word ++ rest, position⟩ ⟨rest, position.advance word⟩ [token] := by
  have first : transition source .word ⟨word ++ rest, position⟩ = _ := done
  unfold Lexes
  rw [walk_endsWord ends]
  cases shape : modeAfterWord rest with
  | none =>
      rw [walk_of_stop first shape]
      simp
  | some mode =>
      rw [walk_of_next first shape]
      simp [Walk.tokens]

theorem lexes_word {position : Position} {word rest : Text} (present : word ≠ [])
    (isWord : ∀ point ∈ word, isWordPoint point = true)
    (notNumeric : NumberToken.looksNumeric word = false) (ends : EndsWord rest) :
    Lexes source ⟨word ++ rest, position⟩ ⟨rest, position.advance word⟩
      [⟨.identifier word, word, some (position.toRef source)⟩] := by
  apply lexes_of_wordTransition ends
  simp [wordTransition, takeWhile_word isWord ends, dropWhile_word isWord ends, present, notNumeric,
    Cursor.behind]

theorem lexes_number {position : Position} {word rest : Text} {token : Token}
    (isWord : ∀ point ∈ word, isWordPoint point = true)
    (numeric : NumberToken.looksNumeric word = true)
    (read : NumberToken.read word (some (position.toRef source)) = .ok token)
    (ends : EndsWord rest) :
    Lexes source ⟨word ++ rest, position⟩ ⟨rest, position.advance word⟩ [token] := by
  have present : word ≠ [] := by
    rintro rfl
    simp [NumberToken.looksNumeric] at numeric
  apply lexes_of_wordTransition ends
  simp [wordTransition, takeWhile_word isWord ends, dropWhile_word isWord ends, present, numeric,
    read, Except.map, Cursor.behind]

theorem isWordPoint_of_number {point : CodePoint} (part : Decimal.IsPart point) :
    isWordPoint point = true ∧ Source.isKept point = true := by
  rcases part with digit | mark
  · simp only [CodePoint.isDigit, Bool.and_eq_true, decide_eq_true_eq] at digit
    have apart (other : CodePoint) (outside : other.val < 0x30 ∨ 0x39 < other.val) :
        point ≠ other := by
      rintro rfl
      omega
    have notBlank : point.isBlank = false := by
      simp [CodePoint.isBlank, CodePoint.isWithin, CodePoint.blankRanges]
      omega
    have notSurrogate : point.isSurrogate = false := by
      simp [CodePoint.isSurrogate]
      omega
    constructor
    · simp [isWordPoint, apart openParenthesis (by decide), apart closeParenthesis (by decide),
        apart semicolon (by decide), apart Text.doubleQuote (by decide), notBlank]
    · simp [Source.isKept, apart CodePoint.replacement (by decide), notSurrogate]
  · simp only [Decimal.marks, List.mem_cons, List.not_mem_nil, or_false] at mark
    rcases mark with rfl | rfl | rfl | rfl <;> decide

theorem lexes_of_transition (mode : Mode) (token : Option Token) {position next : Position}
    {point : CodePoint} {text rest : Text} (special : isWordPoint point = false)
    (entered : modeAfterWord (point :: text) = some mode)
    (done : transition source mode ⟨point :: text, position⟩ =
      .ok ⟨token, some .word, ⟨rest, next⟩⟩) :
    Lexes source ⟨point :: text, position⟩ ⟨rest, next⟩ token.toList := by
  unfold Lexes
  rw [walk_endsWord (endsWord_cons special text), entered]
  dsimp only
  rw [walk_of_next done rfl]
  cases token <;> simp [Walk.tokens]

theorem lexes_opening (source : Source) (position : Position) (rest : Text) :
    Lexes source ⟨openParenthesis :: rest, position⟩ ⟨rest, position.next openParenthesis⟩
      [⟨.opening, [openParenthesis], some (position.toRef source)⟩] :=
  lexes_of_transition .opening (some _) rfl rfl rfl

theorem lexes_closing (source : Source) (position : Position) (rest : Text) :
    Lexes source ⟨closeParenthesis :: rest, position⟩ ⟨rest, position.next closeParenthesis⟩
      [⟨.closing, [closeParenthesis], some (position.toRef source)⟩] :=
  lexes_of_transition .closing (some _) rfl rfl rfl

theorem lexes_string (source : Source) (position : Position) {body raw value rest : Text}
    (read : stringBody? body = some (raw, value, rest)) :
    Lexes source ⟨Text.doubleQuote :: body, position⟩
      ⟨rest, position.advance (Text.doubleQuote :: raw)⟩
      [⟨.string value, Text.doubleQuote :: raw, some (position.toRef source)⟩] := by
  apply lexes_of_transition .string (some _) rfl rfl
  simp [transition, stringTransition, read, Cursor.behind]

theorem isWordPoint_of_blank {point : CodePoint} (blank : point.isBlank = true) :
    isWordPoint point = false := by
  simp [isWordPoint, blank]

theorem modeAfterWord_blank {point : CodePoint} (blank : point.isBlank = true) (text : Text) :
    modeAfterWord (point :: text) = some .blank := by
  have apart (other : CodePoint) (notBlank : other.isBlank = false) : point ≠ other := by
    rintro rfl
    simp [blank] at notBlank
  simp [modeAfterWord, apart openParenthesis rfl, apart closeParenthesis rfl, apart semicolon rfl,
    apart Text.doubleQuote rfl]

theorem lexes_blanks (source : Source) (position : Position) {point : CodePoint}
    (blank : point.isBlank = true) (text : Text) :
    Lexes source ⟨point :: text, position⟩
      ⟨text.dropWhile CodePoint.isBlank,
        position.advance (point :: text.takeWhile CodePoint.isBlank)⟩ [] :=
  lexes_of_transition .blank none (isWordPoint_of_blank blank)
    (modeAfterWord_blank blank text) rfl

theorem lexes_blank (source : Source) (position : Position) {point : CodePoint}
    (blank : point.isBlank = true) (text : Text) :
    Lexes source ⟨point :: text, position⟩ ⟨text, position.next point⟩ [] := by
  have all := lexes_blanks source position blank text
  cases text with
  | nil => exact all
  | cons other rest =>
      cases again : other.isBlank with
      | false => simpa [again] using all
      | true =>
          have behind := lexes_blanks source (position.next point) again rest
          simp only [List.dropWhile_cons, again, if_true, List.takeWhile_cons] at all
          exact ⟨all.1.trans behind.1.symm, all.2.trans behind.2.symm⟩

theorem walk_nil (position : Position) :
    walk source .word ⟨[], position⟩ = ⟨[⟨none, none, ⟨[], position⟩⟩], .ok ⟨[], position⟩⟩ :=
  walk_endsWord (by simp [EndsWord])

end Lexer

namespace Source

theorem ofText_of_kept (name : Text) {text : Text}
    (kept : ∀ point ∈ text, isKept point = true) : ofText name text = ⟨name, text⟩ := by
  rw [ofText, List.filter_eq_self.2 kept]

theorem tokens_kind (source : Source) : ∀ token ∈ source.tokens, token.kind ≠ .endOfInput :=
  Lexer.walk_tokens_kind source .word _

theorem tokens_placed (source : Source) :
    Lexer.Placed source Position.start (source.tokens.map Token.ref) :=
  Lexer.walk_tokens_placed source .word _

/-- The end of input stands behind the whole text. -/
theorem ending_eq {source : Source} {last : Token} (ended : source.ending = .ok last) :
    last = ⟨.endOfInput, [], some ((Position.start.advance source.text).toRef source)⟩ := by
  unfold ending at ended
  cases reached : source.walk.ending with
  | error failure => simp [reached, Except.map] at ended
  | ok cursor =>
      simp only [reached, Except.map, Except.ok.injEq] at ended
      rw [← ended, (Lexer.walk_ending reached).2]

theorem ending_kind {source : Source} {last : Token} (ended : source.ending = .ok last) :
    last.kind = .endOfInput := by
  rw [ending_eq ended]
  rfl

theorem ending_ref {source : Source} {last : Token} (ended : source.ending = .ok last) :
    last.ref = some ((Position.start.advance source.text).toRef source) := by
  rw [ending_eq ended]

theorem tokens_of_lexes {source : Source} {last : Position} {tokens : List Token}
    (lexes : Lexer.Lexes source ⟨source.text, Position.start⟩ ⟨[], last⟩ tokens) :
    source.tokens = tokens ∧
      source.ending = .ok ⟨.endOfInput, [], some (last.toRef source)⟩ := by
  obtain ⟨handed, ended⟩ := lexes
  rw [Lexer.walk_nil] at handed ended
  constructor
  · simpa [Lexer.Walk.tokens, Source.tokens, Source.walk] using handed
  · simp [ending, walk, ended, Except.map]

end Source

end Lisplet
