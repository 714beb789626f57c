import Lisplet.Proofs.LexerRuns
import Lisplet.Proofs.Passages

/-!
How reading comes to its end. The lexer stops after a number of transitions that the length of the
text bounds, and the parser passes each token once and asks for two ends of input at most.
-/

namespace Lisplet

namespace Precedence

theorem gives_advance_before {Tok Failure Issue : Type} (tokens : List Tok) (last : Tok)
    (issues : Array Issue) :
    Gives (advance : Parser Tok Failure Issue Tok) (State.before tokens last issues)
      (tokens.headD last) (State.before tokens.tail last issues) := by
  cases tokens with
  | nil => exact gives_advance_last last issues
  | cons token tokens => exact gives_advance token tokens last issues

end Precedence

namespace Reader

open Precedence

/-! ### Two ends of input -/

/-- The tokens of the source that are left, and the current token and those behind it on a stream
with two ends of input. -/
inductive TwoEnds (last : Token) : (rest : List Token) → (current : Token) →
    (behind : List Token) → Prop
  | token {token rest} : NoEnd (token :: rest) →
      TwoEnds last (token :: rest) token (rest ++ [last, last])
  | first : TwoEnds last [] last [last]
  | second : TwoEnds last [] last []

namespace TwoEnds

variable {last current : Token} {rest behind : List Token}

theorem headD (ends : TwoEnds last rest current behind) : rest.headD last = current := by
  cases ends <;> rfl

theorem two_le_length (ends : TwoEnds last rest current behind) (isEnd : last.kind = .endOfInput)
    (noEnd : current.kind ≠ .endOfInput) : 2 ≤ behind.length := by
  cases ends with
  | token _ => simp
  | first | second => exact absurd isEnd noEnd

theorem next {next : Token} (ends : TwoEnds last rest current (next :: behind)) :
    TwoEnds last rest.tail next behind := by
  generalize shape : next :: behind = upcoming at ends
  cases ends with
  | @token token rest noEnd =>
      cases rest with
      | nil =>
          cases shape
          exact .first
      | cons other rest =>
          cases shape
          exact .token (noEnd.of_suffix (List.suffix_cons _ _))
  | first =>
      cases shape
      exact .second
  | second => cases shape

end TwoEnds

/-- Without notes the parser is on a stream that fails behind two ends of input, with notes on one
that ends for ever. What was noted, what is pending and what is ahead are the whole stream. -/
inductive Spares (whole : List Token) (last : Token) (failure : Fatal) :
    (pending : List Token) → State Token Fatal Issue → State Token Fatal (Issue ⊕ Passage) → Prop
  | intro {pending rest current behind issues notes} : TwoEnds last rest current behind →
      issues = notes.filterMap Sum.getLeft? →
      (Noting.passages notes).map Passage.token ++ pending ++ current :: behind = whole →
      Spares whole last failure pending ⟨current, ⟨behind, .error failure⟩, issues⟩
        (State.before rest last notes)

theorem tracking_spares (whole : List Token) {last : Token} (failure : Fatal)
    (isEnd : last.kind = .endOfInput) :
    Tracking (fun _ _ => True) (Spares whole last failure) fun stream => stream.tokens ≠ [] where
  current_eq := by
    rintro _ _ _ ⟨ends, -, -⟩
    exact ends.headD
  breaks _ := trivial
  ready_of_token := by
    rintro _ _ _ ⟨ends, -, -⟩ noEnd
    exact List.ne_nil_of_length_pos (Nat.zero_lt_of_lt (ends.two_le_length isEnd noEnd))
  advances := by
    rintro _ _ ⟨@⟨rest, current, behind, issues, notes, ends, erases, passed⟩, ready⟩
    cases behind with
    | nil => exact absurd rfl ready
    | cons next behind =>
        have passing : Gives advance (State.before rest last notes : State Token Fatal _) current
            (State.before rest.tail last notes) :=
          ends.headD ▸ gives_advance_before rest last notes
        refine ⟨.ok current, _, _, rfl, passing, .intro ends.next erases ?_, fun noEnd => ?_⟩
        · simpa using passed
        · have two := ends.two_le_length isEnd noEnd
          have positive : 0 < behind.length := Nat.le_of_succ_le_succ two
          exact List.ne_nil_of_length_pos positive
  report issue related := by
    obtain ⟨ends, erases, passed⟩ := related
    refine .intro ends ?_ ?_
    · simp [erases, State.before]
    · rwa [Noting.passages_report]
  note passage related := by
    obtain ⟨ends, erases, passed⟩ := related
    refine .intro ends ?_ ?_
    · simp [erases, State.before, Array.filterMap_push]
    · rw [Noting.passages_note, List.map_append]
      simpa [State.before] using passed

theorem exists_twoEnds (last : Token) {tokens : List Token} (noEnd : NoEnd tokens) :
    ∃ current next behind, tokens ++ [last, last] = current :: next :: behind ∧
      TwoEnds last tokens current (next :: behind) := by
  cases tokens with
  | nil => exact ⟨last, last, [], rfl, .first⟩
  | cons token tokens =>
      have ends : TwoEnds last (token :: tokens) token (tokens ++ [last, last]) := .token noEnd
      cases tokens with
      | nil => exact ⟨token, last, [last], rfl, ends⟩
      | cons next tokens => exact ⟨token, next, _, rfl, ends⟩

/-- From the tokens of a source the parser comes to the same on both streams. With notes it has
passed the tokens, and maybe one end of input. -/
theorem expression_spares {tokens : List Token} {last current next : Token} {behind : List Token}
    (failure : Fatal) (isEnd : last.kind = .endOfInput) (fuel : Nat)
    (whole : tokens ++ [last, last] = current :: next :: behind)
    (ends : TwoEnds last tokens current (next :: behind)) {roots : Array Value}
    {issues : Array Issue}
    (gives : Gives (expression grammar fuel 0) (State.before tokens last #[]) roots
      (State.before [] last issues)) :
    ∃ later notes ended,
      Gives (expression grammar fuel 0) ⟨current, ⟨next :: behind, .error failure⟩, #[]⟩ roots later ∧
      Gives (expression Noting.grammar fuel 0) (State.before tokens last #[]) roots
        (State.before [] last notes) ∧
      later.issues = issues ∧ notes.filterMap Sum.getLeft? = issues ∧
      (Noting.passages notes).map Passage.token = tokens ++ ended ∧
        (ended = [] ∨ ended = [last]) := by
  obtain ⟨result, plain, noting, ran, notingRan, related⟩ :=
    (tracking_erases.all fuel).1 0 (Int.le_refl 0) (State.before tokens last #[])
      (State.before tokens last #[]) ⟨rfl, trivial⟩
  obtain ⟨rfl, rfl⟩ := Prod.mk.inj (ran.symm.trans gives)
  obtain ⟨again, later, notingLater, sparing, notingAgain, tracked⟩ :=
    ((tracking_spares (tokens ++ [last, last]) failure isEnd).all fuel).1 0 (Int.le_refl 0)
      ⟨current, ⟨next :: behind, .error failure⟩, #[]⟩ (State.before tokens last #[])
      ⟨.intro ends rfl whole.symm, List.cons_ne_nil _ _⟩
  obtain ⟨rfl, rfl⟩ := Prod.mk.inj (notingAgain.symm.trans notingRan)
  obtain @⟨rest, here, left, _, notes, remaining, erases, passed⟩ := tracked
  rw [List.append_nil] at passed
  obtain ⟨isLast, -, same⟩ := State.mk.inj (show State.before [] last issues = _ from related)
  -- The parser with notes is at the end of the source, so the one without notes is at one of two.
  cases remaining with
  | token noEnd =>
      have sameToken : last = here := isLast
      exact absurd (sameToken ▸ isEnd) (noEnd here List.mem_cons_self)
  | first =>
      have tokens_ : (Noting.passages notes).map Passage.token = tokens :=
        List.append_cancel_right passed
      exact ⟨_, notes, [], sparing, notingAgain, erases.trans same.symm, same.symm, by simpa, .inl rfl⟩
  | second =>
      have tokens_ : (Noting.passages notes).map Passage.token = tokens ++ [last] :=
        List.append_cancel_right (passed.trans (List.append_assoc tokens [last] [last]).symm)
      exact ⟨_, notes, [last], sparing, notingAgain, erases.trans same.symm, same.symm, tokens_,
        .inr rfl⟩

/-! ### What is read -/

/-- With two ends of input the parser has enough, whatever the stream does behind them. -/
theorem readTokens_spares {tokens : List Token} {last : Token} (isEnd : last.kind = .endOfInput)
    (noEnd : NoEnd tokens) (failure : Fatal) :
    readTokens (tokens ++ [last, last]) (.error failure) = readTokens tokens (.ok last) := by
  obtain ⟨current, next, behind, whole, ends⟩ := exists_twoEnds last noEnd
  have started : State.start ⟨tokens ++ [last, last], .error failure⟩ =
      .ok (⟨current, ⟨next :: behind, .error failure⟩, #[]⟩ : State Token Fatal Issue) := by
    rw [whole]
    rfl
  obtain ⟨items, strays, unclosed, level, reading⟩ := readTokens_gives isEnd noEnd
  have enough : tokens.length + 2 ≤
      State.fuel (⟨current, ⟨next :: behind, .error failure⟩, #[]⟩ : State Token Fatal Issue) := by
    have length := congrArg List.length whole
    simp only [List.length_append, List.length_cons, List.length_nil] at length
    simp only [State.fuel, List.length_cons]
    omega
  obtain ⟨same, otherStrays, otherUnclosed, otherLevel, gives⟩ :=
    expression_gives_source isEnd _ tokens noEnd enough
  obtain ⟨rfl, -, rfl, rfl⟩ := level.unique otherLevel
  obtain ⟨later, notes, ended, sparing, -, issues, -⟩ :=
    expression_spares failure isEnd _ whole ends gives
  unfold Gives at sparing
  rw [reading]
  simp [readTokens, started, parse, sparing, issues, Except.map]

/-- With notes the parser has passed the tokens, and maybe one end of input. -/
theorem readNoting_passes {tokens : List Token} {last : Token} (isEnd : last.kind = .endOfInput)
    (noEnd : NoEnd tokens) : ∃ passages ended,
      readNoting tokens (.ok last) = (readTokens tokens (.ok last), passages) ∧
        passages.map Passage.token = tokens ++ ended ∧ (ended = [] ∨ ended = [last]) := by
  obtain ⟨current, next, behind, whole, ends⟩ := exists_twoEnds last noEnd
  have enough : tokens.length + 2 ≤
      (State.before tokens last #[] : State Token Fatal (Issue ⊕ Passage)).fuel := by
    simp only [State.before, State.fuel, List.length_tail]
    omega
  obtain ⟨items, strays, unclosed, -, gives⟩ := expression_gives_source isEnd _ tokens noEnd enough
  obtain ⟨-, notes, ended, -, noting, -, -, passed, few⟩ :=
    expression_spares (.oversizedNumber 0) isEnd _ whole ends gives
  refine ⟨_, ended, Prod.ext (readNoting_reading tokens (.ok last)) ?_, passed, few⟩
  unfold Gives at noting
  simp only [readNoting, start_before, parse, noting]
  rfl

/-- The list that is cut off starts with the end of input. -/
example :
    let opening : Token := ⟨.opening, "(", none⟩
    let last : Token := ⟨.endOfInput, [], none⟩
    (readNoting [opening, opening] (.ok last)).2 = [.starts opening, .starts opening, .starts last] :=
  rfl

end Reader

namespace Source

open Lexer Reader

/-- Reading comes to an end. The lexer makes at most one transition more than twice as many as there
are code points. The parser fails if the lexer does. If not, it passes each token once, at the start
of an expression, inside one or as the end of a list, and asks for two ends of input at most. -/
theorem reading_ends (source : Source) :
    (∃ made mode cursor, Leads source made .word ⟨source.text, Position.start⟩ mode cursor ∧
      StopsAt source mode cursor made source.walk ∧
      made.length + 1 ≤ 2 * source.text.length + 1) ∧
    match source.ending with
    | .error failure => (read source).roots = .error (.stream failure)
    | .ok last =>
      last.kind = .endOfInput ∧ (∀ token ∈ source.tokens, token.kind ≠ .endOfInput) ∧
      (∃ roots, (read source).roots = .ok roots) ∧
      (∃ passages ended, readNoting source.tokens source.ending = (read source, passages) ∧
        passages.map Passage.token = source.tokens ++ ended ∧ (ended = [] ∨ ended = [last])) ∧
      ∀ failure, readTokens (source.tokens ++ [last, last]) (.error failure) = read source := by
  refine ⟨source.walk_stops, ?_⟩
  cases ended : source.ending with
  | error failure =>
      rw [read_breaks ended]
  | ok last =>
      have isEnd := ending_kind ended
      have noEnd := source.tokens_kind
      have reading : read source = readTokens source.tokens (.ok last) := by
        rw [read_eq_readTokens, ended]
      obtain ⟨roots, strays, unclosed, -, same⟩ := read_gives ended isEnd noEnd
      refine ⟨isEnd, noEnd, ⟨roots, by rw [same]⟩, ?_, ?_⟩
      · rw [reading]
        exact readNoting_passes isEnd noEnd
      · intro failure
        rw [reading]
        exact readTokens_spares isEnd noEnd failure

end Source

end Lisplet
