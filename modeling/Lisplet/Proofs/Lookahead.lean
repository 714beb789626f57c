import Lisplet.Proofs.Places
import Lisplet.Proofs.LexerRuns

/-!
Sources that start alike. The lexer looks at what it consumes and at one code point behind that, so
in both sources it makes the same transitions until it has passed the text that they share.
-/

namespace Lisplet

/-! ### The same in another source -/

def Fatal.mapRef (change : Option Ref → Option Ref) : Fatal → Fatal
  | .issue ⟨problem, ref⟩ => .issue ⟨problem, change ref⟩
  | .oversizedNumber digits => .oversizedNumber digits

/-- The same token at the same place of another source. -/
def Token.within (source : Source) (token : Token) : Token :=
  token.mapRef (Option.map (Ref.moved source 0))

def Fatal.within (source : Source) (failure : Fatal) : Fatal :=
  failure.mapRef (Option.map (Ref.moved source 0))

theorem Position.toRef_within (first second : Source) (position : Position) :
    some (position.toRef second) = Option.map (Ref.moved second 0) (some (position.toRef first)) :=
  congrArg some (toRef_down first second 0 position)

theorem NumberToken.read_mapRef (change : Option Ref → Option Ref) (text : Text)
    (ref : Option Ref) : read text (change ref) =
      match read text ref with
      | .ok token => .ok (token.mapRef change)
      | .error failure => .error (failure.mapRef change) := by
  have ofFloat : readFloat text (change ref) =
      match readFloat text ref with
      | .ok token => .ok (token.mapRef change)
      | .error failure => .error (failure.mapRef change) := by
    unfold readFloat
    cases Decimal.Literal.read? text <;> rfl
  unfold read
  cases Decimal.wholeLiteral? text with
  | none => exact ofFloat
  | some literal =>
      dsimp only
      split
      · rfl
      · split
        · rfl
        · exact ofFloat

namespace Lexer

variable {first : Source} {mode later : Mode} {position : Position} {result : Transition}
  {seen rest left : Text}

/-! ### One transition -/

/-- Where a run of code points ends in the front of a text, it ends whatever stands behind. -/
theorem takeWhile_local {passes : CodePoint → Bool}
    (dropped : (seen ++ rest).dropWhile passes = left ++ rest) (present : left ≠ [])
    (other : Text) : (seen ++ other).takeWhile passes = (seen ++ rest).takeWhile passes ∧
      (seen ++ other).dropWhile passes = left ++ other := by
  induction seen with
  | nil =>
      have shorter := length_dropWhile_le passes rest
      have longer := List.length_pos_of_ne_nil present
      rw [List.nil_append] at dropped
      rw [dropped, List.length_append] at shorter
      omega
  | cons point seen ih =>
      cases passed : passes point with
      | true =>
          simp only [List.cons_append, List.dropWhile_cons, List.takeWhile_cons, passed,
            if_true] at dropped ⊢
          obtain ⟨taken, behind⟩ := ih dropped
          exact ⟨by rw [taken], behind⟩
      | false =>
          have whole : (point :: seen) ++ rest = left ++ rest := by simpa [passed] using dropped
          obtain rfl := List.append_cancel_right whole
          simp [passed]

theorem modeAfterWord_local (present : left ≠ []) (rest other : Text) :
    modeAfterWord (left ++ other) = modeAfterWord (left ++ rest) := by
  obtain ⟨point, left, rfl⟩ := List.exists_cons_of_ne_nil present
  rfl

theorem wordTransition_local (done : wordTransition first ⟨seen ++ rest, position⟩ = .ok result)
    (reached : result.cursor.rest = left ++ rest) (present : left ≠ []) (second : Source)
    (other : Text) : wordTransition second ⟨seen ++ other, position⟩ =
      .ok ⟨result.token.map (Token.within second), result.next,
        ⟨left ++ other, result.cursor.position⟩⟩ := by
  have dropped : (seen ++ rest).dropWhile isWordPoint = left ++ rest := by
    rw [← reached, (wordTransition_reaches done).1]
    rfl
  obtain ⟨taken, behind⟩ := takeWhile_local dropped present other
  have position_ := Position.toRef_within first second position
  unfold wordTransition at done ⊢
  simp only [taken, behind, modeAfterWord_local present rest other]
  simp only [dropped] at done
  split at done
  · next noWord =>
      cases done
      rw [if_pos noWord]
      rfl
  · next inWord =>
      rw [if_neg inWord]
      split at done
      · next numeric =>
          rw [if_pos numeric, position_, NumberToken.read_mapRef]
          cases read : NumberToken.read ((seen ++ rest).takeWhile isWordPoint)
              (some (position.toRef first)) with
          | error failure => simp [read, Except.map] at done
          | ok token =>
              simp only [read, Except.map, Except.ok.injEq] at done
              subst done
              rfl
      · next notNumeric =>
          cases done
          rw [if_neg notNumeric, position_]
          rfl

theorem skipTransition_local {skipped : CodePoint → Bool} {point : CodePoint}
    (reached : (skipTransition skipped ⟨point :: seen ++ rest, position⟩).cursor.rest = left ++ rest)
    (present : left ≠ []) (other : Text) :
    skipTransition skipped ⟨point :: seen ++ other, position⟩ =
      ⟨none, some .word, ⟨left ++ other,
        (skipTransition skipped ⟨point :: seen ++ rest, position⟩).cursor.position⟩⟩ := by
  obtain ⟨taken, behind⟩ := takeWhile_local reached present other
  simp only [skipTransition, List.cons_append, taken, behind]
  rfl

theorem stringTransition_local {point : CodePoint}
    (done : stringTransition first ⟨point :: seen ++ rest, position⟩ = .ok result)
    (reached : result.cursor.rest = left ++ rest) (second : Source) (other : Text) :
    stringTransition second ⟨point :: seen ++ other, position⟩ =
      .ok ⟨result.token.map (Token.within second), result.next,
        ⟨left ++ other, result.cursor.position⟩⟩ := by
  simp only [stringTransition, List.cons_append] at done ⊢
  cases read : stringBody? (seen ++ rest) with
  | none => simp [read] at done
  | some found =>
      obtain ⟨raw, value, behind⟩ := found
      simp only [read, Except.ok.injEq] at done
      subst done
      obtain rfl : behind = left ++ rest := reached
      obtain ⟨inside, rfl, quotes⟩ := quotes_of_stringBody read
      -- The closing quote stands in front of what is left.
      obtain rfl : seen = inside ++ [Text.doubleQuote] ++ left :=
        List.append_cancel_right ((stringBody_append read).trans (List.append_assoc _ _ _).symm)
      have again : stringBody? (inside ++ [Text.doubleQuote] ++ left ++ other) =
          some (inside ++ [Text.doubleQuote], value, left ++ other) := by
        simpa using quotes.stringBody (left ++ other)
      rw [again, Position.toRef_within first second position]
      rfl

/-- What is consumed in front of the rest does not depend on the rest. -/
theorem transition_local (done : transition first mode ⟨seen ++ rest, position⟩ = .ok result)
    (reached : result.cursor.rest = left ++ rest) (present : left ≠ []) (second : Source)
    (other : Text) : transition second mode ⟨seen ++ other, position⟩ =
      .ok ⟨result.token.map (Token.within second), result.next,
        ⟨left ++ other, result.cursor.position⟩⟩ := by
  obtain ⟨consumed, consumes⟩ := transition_consumes done
  have shared : seen = consumed ++ left := by
    have whole : seen ++ rest = consumed ++ left ++ rest := by
      rw [List.append_assoc, ← reached]
      exact consumes.rest
    exact List.append_cancel_right whole
  obtain ⟨point, seen, rfl⟩ : ∃ point behind, seen = point :: behind :=
    List.exists_cons_of_ne_nil (by simp [shared, present])
  cases mode with
  | word => exact wordTransition_local done reached present second other
  | string => exact stringTransition_local done reached second other
  | opening | closing =>
      cases done
      obtain rfl : seen = left := List.append_cancel_right reached
      simp only [transition, singleTransition, List.cons_append,
        Position.toRef_within first second position]
      rfl
  | comment | blank =>
      cases done
      exact congrArg Except.ok (skipTransition_local reached present other)

/-! ### Runs -/

theorem Leads.local {made : List Transition} {cursor last : Cursor}
    (leads : Leads first made mode cursor later last) (starts : cursor.rest = seen ++ rest)
    (reached : last.rest = left ++ rest) (present : left ≠ []) (second : Source) (other : Text) :
    ∃ again, Leads second again mode ⟨seen ++ other, cursor.position⟩ later
        ⟨left ++ other, last.position⟩ ∧
      again.filterMap Transition.token =
        (made.filterMap Transition.token).map (Token.within second) := by
  induction leads generalizing seen with
  | here =>
      obtain rfl : seen = left := List.append_cancel_right (starts.symm.trans reached)
      exact ⟨[], .here, rfl⟩
  | @step made mode cursor result next later last done continued leads ih =>
      obtain ⟨text, position⟩ := cursor
      obtain rfl : text = seen ++ rest := starts
      obtain ⟨consumed, behind, -⟩ := leads.consumes
      have between : result.cursor.rest = (consumed ++ left) ++ rest := by
        rw [behind, reached, List.append_assoc]
      obtain ⟨again, leadsAgain, tokens⟩ := ih between reached
      have doneAgain := transition_local done between (by simp [present]) second other
      refine ⟨_ :: again, .step doneAgain continued leadsAgain, ?_⟩
      cases handed : result.token <;> simp [handed, tokens]

/-- A token is handed out by a transition that the machine comes to. -/
theorem exists_leads_of_token (source : Source) (mode : Mode) (cursor : Cursor)
    (token : Token) : ∀ index, (walk source mode cursor).tokens[index]? = some token →
      ∃ made later last result, Leads source made mode cursor later last ∧
        transition source later last = .ok result ∧ result.token = some token ∧
          (made.filterMap Transition.token).length = index := by
  have here {mode : Mode} {cursor : Cursor} {result : Transition} {index : Nat}
      (done : transition source mode cursor = .ok result)
      (handed : result.token.toList[index]? = some token) :
      ∃ made later last final, Leads source made mode cursor later last ∧
        transition source later last = .ok final ∧ final.token = some token ∧
          (made.filterMap Transition.token).length = index := by
    cases shape : result.token with
    | none => simp [shape] at handed
    | some other =>
        obtain ⟨rfl, rfl⟩ : index = 0 ∧ other = token := by
          simpa [shape, List.getElem?_singleton] using handed
        exact ⟨[], mode, cursor, result, .here, done, shape, rfl⟩
  fun_induction Lexer.walk source mode cursor with
  | case1 => simp
  | case2 mode cursor result done _ =>
      intro index handed
      exact here done (by simpa using handed)
  | case3 mode cursor result done next continued remaining ih =>
      intro index handed
      rw [Walk.tokens_cons, List.getElem?_append] at handed
      split at handed
      · exact here done handed
      · next behind =>
          obtain ⟨made, later, last, final, leads, finished, token_, count⟩ := ih _ handed
          refine ⟨_, later, last, final, .step done continued leads, finished, token_, ?_⟩
          cases shape : result.token <;> simp [shape] at behind count ⊢ <;> omega

end Lexer

namespace Source

open Lexer

variable {first second : Source} {seen rest other : Text}

/-- A cut behind a place inside the front of the text. -/
theorem exists_left {front taken behind : Text} (whole : seen ++ rest = front ++ (taken ++ behind))
    (inside : front.length + taken.length < seen.length) :
    ∃ left, behind = left ++ rest ∧ left ≠ [] := by
  have cut : seen ++ rest = (front ++ taken) ++ behind := by rw [whole, List.append_assoc]
  obtain ⟨left, short, -⟩ | ⟨left, same, behind_⟩ := List.append_eq_append_iff.1 cut
  · have length := congrArg List.length short
    simp only [List.length_append] at length
    omega
  · refine ⟨left, behind_, ?_⟩
    rintro rfl
    have length := congrArg List.length same
    simp only [List.length_append, List.length_nil] at length
    omega

theorem tokens_local (firstText : first.text = seen ++ rest)
    (secondText : second.text = seen ++ other) {index offset : Nat} {token : Token}
    (handed : first.tokens[index]? = some token) (located : first.Locates token.ref offset)
    (inside : offset + token.text.length < seen.length) :
    second.tokens[index]? = some (token.within second) := by
  obtain ⟨made, mode, cursor, result, leads, done, shape, count⟩ :=
    exists_leads_of_token first .word _ token index handed
  obtain ⟨consumed, consumes⟩ := transition_consumes done
  obtain ⟨text, -, ref, -⟩ := consumes.token token shape
  obtain ⟨front, whole, position⟩ : ∃ front, first.text = front ++ cursor.rest ∧
      cursor.position = Position.start.advance front := leads.consumes
  -- The token is located where the transition starts.
  have start : first.Locates token.ref front.length := by
    rw [ref, position]
    exact locates_advance whole
  rw [located.unique start, text] at inside
  have cut : seen ++ rest = front ++ (consumed ++ result.cursor.rest) := by
    rw [← firstText, whole, consumes.rest]
  obtain ⟨left, reached, present⟩ := exists_left cut inside
  cases continued : result.next with
  | none =>
      have nothing := transition_stops done continued
      rw [reached] at nothing
      exact absurd (List.append_eq_nil_iff.1 nothing).1 present
  | some next =>
      obtain ⟨again, leadsAgain, tokens⟩ :=
        (leads.snoc done continued).local firstText reached present second other
      rw [← secondText] at leadsAgain
      have walked : second.walk = _ := leadsAgain.walk
      rw [Source.tokens, walked, List.filterMap_append, tokens]
      subst count
      simp [shape]

/-- The lexer fails in the number that stands at the offset: it comes to the number as a word, and
the number cannot be read. -/
def FailsInNumber (source : Source) (failure : Fatal) (offset : Nat) (word : Text) : Prop :=
  ∃ made front behind, front.length = offset ∧ source.text = front ++ (word ++ behind) ∧
    Leads source made .word ⟨source.text, Position.start⟩ .word
      ⟨word ++ behind, Position.start.advance front⟩ ∧
    IsWord word ∧ EndsWord behind ∧ NumberToken.looksNumeric word = true ∧
    NumberToken.read word (some (source.placeBehind front)) = .error failure

theorem FailsInNumber.ending {source : Source} {failure : Fatal} {offset : Nat} {word : Text}
    (fails : source.FailsInNumber failure offset word) : source.ending = .error failure := by
  obtain ⟨made, front, behind, -, whole, leads, isWord, ends, numeric, failed⟩ := fails
  have stopped := (fails_word isWord ends numeric whole failed).1.2
  have walked : source.walk = _ := leads.walk
  rw [Source.ending, walked, stopped]
  rfl

/-- Every failure of the lexer is one in a number, but for strings that are not closed. -/
theorem failsInNumber_of_ending {source : Source} {failure : Fatal}
    (ended : source.ending = .error failure) :
    (∃ ref, failure = .issue ⟨.unterminatedString, ref⟩) ∨
      ∃ offset word, source.FailsInNumber failure offset word := by
  obtain ⟨made, mode, cursor, leads, stops⟩ :=
    exists_leads source .word ⟨source.text, Position.start⟩
  have failed : transition source mode cursor = .error failure := by
    unfold ending Source.walk at ended
    rcases stops with ⟨other, failed, same⟩ | ⟨result, -, -, same⟩
    · rw [failed]
      simpa [same, Except.map] using ended
    · simp [same, Except.map] at ended
  rcases transition_error failed with ⟨rfl, numeric, read⟩ | same
  · obtain ⟨front, whole, position⟩ : ∃ front, source.text = front ++ cursor.rest ∧
        cursor.position = Position.start.advance front := leads.consumes
    have cut := (List.takeWhile_append_dropWhile (p := isWordPoint) (l := cursor.rest)).symm
    have isWord : IsWord (cursor.rest.takeWhile isWordPoint) := by
      refine ⟨?_, fun point => List.mem_takeWhile_imp⟩
      intro nothing
      simp [nothing, NumberToken.looksNumeric] at numeric
    refine .inr ⟨_, _, made, front, _, rfl, cut ▸ whole, ?_, isWord, endsWord_dropWhile _, numeric, ?_⟩
    · rw [← cut, ← position]
      exact leads
    · rw [placeBehind, ← position]
      exact read
  · exact .inl ⟨_, same⟩

theorem failsInNumber_local (firstText : first.text = seen ++ rest)
    (secondText : second.text = seen ++ other) {failure : Fatal} {offset : Nat} {word : Text}
    (fails : first.FailsInNumber failure offset word)
    (inside : offset + word.length < seen.length) :
    second.FailsInNumber (failure.within second) offset word := by
  obtain ⟨made, front, behind, rfl, whole, leads, isWord, ends, numeric, failed⟩ := fails
  obtain ⟨left, rfl, present⟩ := exists_left (firstText.symm.trans whole) inside
  have reached : word ++ (left ++ rest) = (word ++ left) ++ rest := (List.append_assoc _ _ _).symm
  obtain ⟨again, leadsAgain, -⟩ :=
    leads.local firstText reached (by simp [present]) second other
  have shared : seen = front ++ (word ++ left) := by
    have same : seen ++ rest = front ++ (word ++ left) ++ rest := by simp [← firstText, whole]
    exact List.append_cancel_right same
  obtain ⟨point, left, rfl⟩ := List.exists_cons_of_ne_nil present
  have endsAgain : EndsWord (point :: left ++ other) :=
    endsWord_cons (ends point (by simp)) (left ++ other)
  refine ⟨again, front, point :: left ++ other, rfl, ?_, ?_, isWord, endsAgain, numeric, ?_⟩
  · rw [secondText, shared]
    simp
  · rw [secondText, ← List.append_assoc]
    exact leadsAgain
  · have moved := NumberToken.read_mapRef (Option.map (Ref.moved second 0)) word
      (some (first.placeBehind front))
    rw [failed] at moved
    rw [placeBehind, Position.toRef_within first second]
    exact moved

/-- What the lexer makes of the front of a text does not depend on what stands behind it. The tokens
that end inside the front are handed out all the same, and so is a failure in a number there. Other
failures are about strings that are not closed. -/
theorem ofText_local {seen rest other : Text} (seenKept : ∀ point ∈ seen, isKept point = true)
    (restKept : ∀ point ∈ rest, isKept point = true)
    (otherKept : ∀ point ∈ other, isKept point = true) (name : Text) :
    let first := ofText name (seen ++ rest)
    let second := ofText name (seen ++ other)
    (∀ (index offset : Nat) (token : Token), first.tokens[index]? = some token →
      first.Locates token.ref offset → offset + token.text.length < seen.length →
        second.tokens[index]? = some (token.within second)) ∧
    (∀ failure offset word, first.FailsInNumber failure offset word →
      offset + word.length < seen.length →
        second.FailsInNumber (failure.within second) offset word ∧
          second.ending = .error (failure.within second)) ∧
    ∀ failure, first.ending = .error failure →
      (∃ ref, failure = .issue ⟨.unterminatedString, ref⟩) ∨
        ∃ offset word, first.FailsInNumber failure offset word := by
  intro first second
  have firstText : first.text = seen ++ rest :=
    congrArg Source.text (ofText_of_kept name (List.forall_mem_append.2 ⟨seenKept, restKept⟩))
  have secondText : second.text = seen ++ other :=
    congrArg Source.text (ofText_of_kept name (List.forall_mem_append.2 ⟨seenKept, otherKept⟩))
  refine ⟨fun index offset token => tokens_local firstText secondText, ?_,
    fun failure => failsInNumber_of_ending⟩
  intro failure offset word fails inside
  have again := failsInNumber_local firstText secondText fails inside
  exact ⟨again, again.ending⟩

/-- Behind the front that both texts share, the second one opens a string. -/
theorem ofText_local_failing :
    let second := ofText "shared" ("(a 1x b" ++ " \"")
    second.tokens[1]? = some ⟨.identifier "a", "a", some ⟨second, 0, 1⟩⟩ ∧
      second.ending = .error (.issue ⟨.malformedNumber "1x", some ⟨second, 0, 3⟩⟩) := by
  intro second
  let first := ofText "shared" ("(a 1x b" ++ "")
  have whole : first.text = "(a " ++ (("1x" : Text) ++ " b") := rfl
  obtain ⟨made, leads, passed⟩ : ∃ made, Leads first made .word ⟨first.text, Position.start⟩ .word
      ⟨("1x" : Text) ++ " b", Position.start.advance "(a "⟩ ∧
        made.filterMap Transition.token =
          [⟨.opening, "(", some ⟨first, 0, 0⟩⟩, ⟨.identifier "a", "a", some ⟨first, 0, 1⟩⟩] :=
    ⟨_, .step rfl rfl (.step rfl rfl (.step rfl rfl (.step rfl rfl .here))), rfl⟩
  have fails : first.FailsInNumber (.issue ⟨.malformedNumber "1x", some ⟨first, 0, 3⟩⟩) 3 "1x" :=
    ⟨made, "(a ", " b", rfl, whole, leads, ⟨by decide, by decide⟩, endsWord_cons rfl _, rfl, rfl⟩
  have handed : first.tokens[1]? = some ⟨.identifier "a", "a", some ⟨first, 0, 1⟩⟩ := by
    have walked : first.walk = _ := leads.walk
    rw [Source.tokens, walked, List.filterMap_append, passed]
    rfl
  have located : first.Locates (some ⟨first, 0, 1⟩) 1 :=
    locates_advance (show first.text = "(" ++ "a 1x b" from rfl)
  obtain ⟨tokens, failures, -⟩ :=
    @ofText_local "(a 1x b" "" " \"" (by decide) (by decide) (by decide) "shared"
  exact ⟨tokens 1 1 _ handed located (by decide), (failures _ 3 "1x" fails (by decide)).2⟩

end Source

end Lisplet
