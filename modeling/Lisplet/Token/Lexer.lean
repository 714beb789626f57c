import Lisplet.Token

/-!
The lexer: a machine that walks over a source and hands out its tokens. Each mode consumes one
stretch of the source, and every mode but the one for words consumes something, so a source of `n`
code points is read in at most `2 * n + 1` transitions.
-/

namespace Lisplet

namespace Lexer

def openParenthesis : CodePoint := CodePoint.ofChar '('

def closeParenthesis : CodePoint := CodePoint.ofChar ')'

def semicolon : CodePoint := CodePoint.ofChar ';'

inductive Mode
  | word
  | opening
  | closing
  | comment
  | string
  | blank
deriving DecidableEq

structure Cursor where
  rest : Text
  position : Position

/-- Words are made of everything that has no other meaning. -/
def isWordPoint (point : CodePoint) : Bool :=
  point ≠ openParenthesis && point ≠ closeParenthesis && point ≠ semicolon
    && point ≠ Text.doubleQuote && !point.isBlank

def modeAfterWord : Text → Option Mode
  | [] => none
  | point :: _ =>
    if point = openParenthesis then some .opening
    else if point = closeParenthesis then some .closing
    else if point = semicolon then some .comment
    else if point = Text.doubleQuote then some .string
    else some .blank

/-- The text of a string literal up to its closing quote, its value, and what is left behind the
quote. A backslash stands for the code point after it. -/
def stringBody? : Text → Option (Text × Text × Text)
  | [] => none
  | point :: rest =>
    if point = Text.doubleQuote then some ([point], [], rest)
    else if point = Text.backslash then
      match rest with
      | [] => none
      | escaped :: others =>
        (stringBody? others).map fun (raw, value, behind) =>
          (point :: escaped :: raw, escaped :: value, behind)
    else
      (stringBody? rest).map fun (raw, value, behind) => (point :: raw, point :: value, behind)

def Cursor.behind (cursor : Cursor) (consumed rest : Text) : Cursor :=
  ⟨rest, cursor.position.advance consumed⟩

/-- What one transition does: it may hand out a token, and it goes on in a mode or stops. -/
structure Transition where
  token : Option Token
  next : Option Mode
  cursor : Cursor

def wordTransition (source : Source) (cursor : Cursor) : Except Fatal Transition :=
  let word := cursor.rest.takeWhile isWordPoint
  let rest := cursor.rest.dropWhile isWordPoint
  let next := modeAfterWord rest
  let behind := cursor.behind word rest
  let ref := some (cursor.position.toRef source)
  if word.isEmpty then .ok ⟨none, next, behind⟩
  else if NumberToken.looksNumeric word then
    (NumberToken.read word ref).map fun token => ⟨some token, next, behind⟩
  else .ok ⟨some ⟨.identifier word, word, ref⟩, next, behind⟩

def singleTransition (source : Source) (lexeme : Lexeme) (cursor : Cursor) : Transition :=
  match cursor.rest with
  | [] => ⟨none, none, cursor⟩
  | point :: rest =>
    ⟨some ⟨lexeme, [point], some (cursor.position.toRef source)⟩, some .word,
      cursor.behind [point] rest⟩

def skipTransition (skipped : CodePoint → Bool) (cursor : Cursor) : Transition :=
  match cursor.rest with
  | [] => ⟨none, none, cursor⟩
  | point :: rest =>
    ⟨none, some .word,
      cursor.behind (point :: rest.takeWhile skipped) (rest.dropWhile skipped)⟩

def stringTransition (source : Source) (cursor : Cursor) : Except Fatal Transition :=
  let ref := some (cursor.position.toRef source)
  match cursor.rest with
  | [] => .ok ⟨none, none, cursor⟩
  | quote :: body =>
    match stringBody? body with
    | none => .error (.issue ⟨.unterminatedString, ref⟩)
    | some (raw, value, rest) =>
      let text := quote :: raw
      .ok ⟨some ⟨.string value, text, ref⟩, some .word, cursor.behind text rest⟩

def transition (source : Source) (mode : Mode) (cursor : Cursor) : Except Fatal Transition :=
  match mode with
  | .word => wordTransition source cursor
  | .opening => .ok (singleTransition source .opening cursor)
  | .closing => .ok (singleTransition source .closing cursor)
  | .comment => .ok (skipTransition (· ≠ Source.newline) cursor)
  | .string => stringTransition source cursor
  | .blank => .ok (skipTransition CodePoint.isBlank cursor)

/-- Falls with every transition. -/
def measure (mode : Mode) (cursor : Cursor) : Nat :=
  2 * cursor.rest.length + if mode = .word then 1 else 0

theorem stringBody_shorter (text raw value rest : Text)
    (read : stringBody? text = some (raw, value, rest)) : rest.length < text.length := by
  fun_induction stringBody? text generalizing raw value rest with
  | case1 => simp at read
  | case2 => simp_all
  | case3 => simp at read
  | case4 _ escaped others ih =>
    obtain ⟨⟨innerRaw, innerValue, innerRest⟩, innerRead, same⟩ := Option.map_eq_some_iff.1 read
    have shorter := ih _ _ _ innerRead
    simp only [Prod.mk.injEq] at same
    simp only [List.length_cons, ← same.2.2]
    omega
  | case5 point others _ _ ih =>
    obtain ⟨⟨innerRaw, innerValue, innerRest⟩, innerRead, same⟩ := Option.map_eq_some_iff.1 read
    have shorter := ih _ _ _ innerRead
    simp only [Prod.mk.injEq] at same
    simp only [List.length_cons, ← same.2.2]
    omega

theorem length_dropWhile_le (predicate : CodePoint → Bool) (text : Text) :
    (text.dropWhile predicate).length ≤ text.length :=
  (List.dropWhile_suffix predicate).length_le

theorem modeAfterWord_ne_word (text : Text) : modeAfterWord text ≠ some .word := by
  unfold modeAfterWord
  split
  · simp
  · repeat' split
    all_goals simp

theorem wordTransition_measure (source : Source) (cursor : Cursor) (result : Transition)
    (mode : Mode) (done : wordTransition source cursor = .ok result)
    (continued : result.next = some mode) :
    measure mode result.cursor < measure .word cursor := by
  have shorter := length_dropWhile_le isWordPoint cursor.rest
  have reached : result.cursor = cursor.behind (cursor.rest.takeWhile isWordPoint)
      (cursor.rest.dropWhile isWordPoint) ∧
      result.next = modeAfterWord (cursor.rest.dropWhile isWordPoint) := by
    unfold wordTransition at done
    simp only at done
    split at done
    · simp only [Except.ok.injEq] at done
      subst done
      exact ⟨rfl, rfl⟩
    · split at done
      · cases token : NumberToken.read (cursor.rest.takeWhile isWordPoint)
            (some (cursor.position.toRef source)) with
        | error failure => simp [token, Except.map] at done
        | ok token' =>
          simp only [token, Except.map, Except.ok.injEq] at done
          subst done
          exact ⟨rfl, rfl⟩
      · simp only [Except.ok.injEq] at done
        subst done
        exact ⟨rfl, rfl⟩
  have other : mode ≠ .word := by
    intro same
    subst same
    exact modeAfterWord_ne_word _ (reached.2 ▸ continued)
  rw [reached.1]
  simp only [measure, Cursor.behind, other, if_true, if_false]
  omega

theorem singleTransition_measure (source : Source) (lexeme : Lexeme) (cursor : Cursor)
    (mode next : Mode) (continued : (singleTransition source lexeme cursor).next = some next)
    (apart : mode ≠ .word) :
    measure next (singleTransition source lexeme cursor).cursor < measure mode cursor := by
  unfold singleTransition at continued ⊢
  split at continued
  · simp at continued
  · rename_i point rest shape
    simp only [Option.some.injEq] at continued
    subst continued
    simp only [measure, Cursor.behind, shape, List.length_cons, if_true, apart, if_false]
    omega

theorem skipTransition_measure (skipped : CodePoint → Bool) (cursor : Cursor)
    (mode next : Mode) (continued : (skipTransition skipped cursor).next = some next)
    (apart : mode ≠ .word) :
    measure next (skipTransition skipped cursor).cursor < measure mode cursor := by
  unfold skipTransition at continued ⊢
  split at continued
  · simp at continued
  · rename_i point rest shape
    have shorter := length_dropWhile_le skipped rest
    simp only [Option.some.injEq] at continued
    subst continued
    simp only [measure, Cursor.behind, shape, List.length_cons, if_true, apart, if_false]
    omega

theorem stringTransition_measure (source : Source) (cursor : Cursor) (result : Transition)
    (next : Mode) (done : stringTransition source cursor = .ok result)
    (continued : result.next = some next) :
    measure next result.cursor < measure .string cursor := by
  unfold stringTransition at done
  simp only at done
  split at done
  · simp only [Except.ok.injEq] at done
    subst done
    simp at continued
  · rename_i quote body shape
    split at done
    · simp at done
    · rename_i raw value rest read
      have shorter := stringBody_shorter body raw value rest read
      simp only [Except.ok.injEq] at done
      subst done
      simp only [Option.some.injEq] at continued
      subst continued
      simp only [measure, Cursor.behind, shape, List.length_cons, if_true, reduceCtorEq, if_false]
      omega

theorem transition_measure (source : Source) (mode : Mode) (cursor : Cursor)
    (result : Transition) (next : Mode) (done : transition source mode cursor = .ok result)
    (continued : result.next = some next) :
    measure next result.cursor < measure mode cursor := by
  cases mode with
  | word => exact wordTransition_measure source cursor result next done continued
  | string => exact stringTransition_measure source cursor result next done continued
  | opening | closing =>
    simp only [transition, Except.ok.injEq] at done
    subst done
    exact singleTransition_measure source _ cursor _ next continued (by decide)
  | comment | blank =>
    simp only [transition, Except.ok.injEq] at done
    subst done
    exact skipTransition_measure _ cursor _ next continued (by decide)

/-- The transitions that were made, in order, and how the walk ended: with the cursor at the end of
the source, or by a failure. -/
structure Walk where
  transitions : List Transition
  ending : Except Fatal Cursor

def walk (source : Source) (mode : Mode) (cursor : Cursor) : Walk :=
  match _done : transition source mode cursor with
  | .error failure => ⟨[], .error failure⟩
  | .ok result =>
    match _continued : result.next with
    | none => ⟨[result], .ok result.cursor⟩
    | some next =>
      let remaining := walk source next result.cursor
      ⟨result :: remaining.transitions, remaining.ending⟩
termination_by measure mode cursor
decreasing_by exact transition_measure source mode cursor result next _done _continued

end Lexer

namespace Source

def walk (source : Source) : Lexer.Walk :=
  Lexer.walk source .word ⟨source.text, Position.start⟩

def tokens (source : Source) : List Token :=
  source.walk.transitions.filterMap Lexer.Transition.token

def ending (source : Source) : Except Fatal Token :=
  source.walk.ending.map fun cursor =>
    ⟨.endOfInput, [], some (cursor.position.toRef source)⟩

end Source

end Lisplet
