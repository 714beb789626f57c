import Lisplet.Proofs.Parentheses

/-!
What is made of sources whose parentheses do not match. Every closing parenthesis that closes
nothing is reported and left out, every opening one that nothing closes is reported and closed at
the end of the source, and there are no other issues.
-/

namespace Lisplet

namespace Token

/-! ### Parentheses without a partner -/

/-- How many parentheses are open behind the token if `depth` are open in front of it. One that
closes nothing leaves none open. -/
def openBehind (depth : Nat) (token : Token) : Nat :=
  match token.kind with
  | .opening => depth + 1
  | .closing => depth - 1
  | _ => depth

/-- The tokens, each with the number of parentheses that are open in front of it. -/
def withDepths (depth : Nat) : List Token → List (Token × Nat)
  | [] => []
  | token :: tokens => (token, depth) :: withDepths (openBehind depth token) tokens

/-- A closing parenthesis where none is open. -/
def isStray (entry : Token × Nat) : Bool :=
  entry.1.isClosing && entry.2 = 0

def strays (depth : Nat) (tokens : List Token) : List Token :=
  ((withDepths depth tokens).filter isStray).map Prod.fst

def withoutStrays (depth : Nat) (tokens : List Token) : List Token :=
  ((withDepths depth tokens).filter fun entry => !isStray entry).map Prod.fst

/-- The tokens close a parenthesis that is open in front of them: up to the one that does so they
match among themselves. -/
def Closes (tokens : List Token) : Prop :=
  ∃ between closing behind, tokens = between ++ closing :: behind ∧ closing.kind = .closing ∧
    Balanced between

/-- Do the tokens close one more than `depth` parentheses? -/
def closesBelow (depth : Nat) : List Token → Bool
  | [] => false
  | token :: tokens =>
    if token.kind = .closing ∧ depth = 0 then true
    else closesBelow (openBehind depth token) tokens

theorem closesBelow_iff (depth : Nat) (tokens : List Token) :
    closesBelow depth tokens = true ↔ ∃ between closing behind,
      tokens = between ++ closing :: behind ∧ closing.kind = .closing ∧
        depthBehind? depth between = some 0 := by
  induction tokens generalizing depth with
  | nil => simp [closesBelow]
  | cons token tokens ih =>
      rw [closesBelow]
      by_cases here : token.kind = .closing ∧ depth = 0
      · simp only [here, and_self, if_true, true_iff]
        exact ⟨[], token, tokens, rfl, here.1, rfl⟩
      · have onwards (between : List Token) : depthBehind? depth (token :: between) =
            depthBehind? (openBehind depth token) between := by
          cases depth with
          | zero => cases shape : token.kind <;> simp_all [depthBehind?, openBehind]
          | succ depth => cases shape : token.kind <;> simp [depthBehind?, openBehind, shape]
        rw [if_neg here, ih]
        constructor
        · rintro ⟨between, closing, behind, rfl, isClosing, balanced⟩
          exact ⟨token :: between, closing, behind, rfl, isClosing, (onwards between).trans balanced⟩
        · rintro ⟨between, closing, behind, same, isClosing, balanced⟩
          cases between with
          | nil =>
              obtain ⟨rfl, rfl⟩ := List.cons.inj same
              exact absurd ⟨isClosing, Option.some.inj balanced⟩ here
          | cons first between =>
              obtain ⟨rfl, rfl⟩ := List.cons.inj same
              exact ⟨between, closing, behind, rfl, isClosing, (onwards between).symm.trans balanced⟩

theorem closesBelow_zero_iff (tokens : List Token) :
    closesBelow 0 tokens = true ↔ Closes tokens := by
  simp only [closesBelow_iff, Closes, balanced_iff_depthBehind]

instance (tokens : List Token) : Decidable (Closes tokens) :=
  decidable_of_iff _ (closesBelow_zero_iff tokens)

/-- The opening parentheses that nothing behind them closes. -/
def unclosed : List Token → List Token
  | [] => []
  | token :: tokens =>
    if token.kind = .opening ∧ ¬ Closes tokens then token :: unclosed tokens else unclosed tokens

/-- The tokens with their parentheses put right: strays are left out, and what is open in the end is
closed there. -/
def repaired (closing : Token) (tokens : List Token) : List Token :=
  withoutStrays 0 tokens ++ (unclosed tokens).map fun _ => closing

/-- The issues about strays. One that is the first token of its source stands at the start of an
expression, the others stand inside one. -/
def strayIssues : List Token → List Issue
  | [] => []
  | first :: tokens =>
    (if first.isClosing then [Reader.firstStrayIssue first] else [])
      ++ (strays (openBehind 0 first) tokens).map Reader.strayIssue

theorem strays_cons (depth : Nat) (token : Token) (tokens : List Token) :
    strays depth (token :: tokens) =
      if isStray (token, depth) then token :: strays (openBehind depth token) tokens
      else strays (openBehind depth token) tokens := by
  cases shape : isStray (token, depth) <;> simp [strays, withDepths, shape]

theorem withoutStrays_cons (depth : Nat) (token : Token) (tokens : List Token) :
    withoutStrays depth (token :: tokens) =
      if isStray (token, depth) then withoutStrays (openBehind depth token) tokens
      else token :: withoutStrays (openBehind depth token) tokens := by
  cases shape : isStray (token, depth) <;> simp [withoutStrays, withDepths, shape]

end Token

/-! ### Tokens that close nothing from outside -/

namespace Token

theorem openBehind_of_some {depth final : Nat} {token : Token} {tokens : List Token}
    (passes : depthBehind? depth (token :: tokens) = some final) :
    isStray (token, depth) = false ∧ ¬ (token.kind = .closing ∧ depth = 0) ∧
      depthBehind? (openBehind depth token) tokens = some final := by
  cases depth with
  | zero => cases shape : token.kind <;> simp_all [depthBehind?, openBehind, isStray, isClosing]
  | succ depth => cases shape : token.kind <;> simp_all [depthBehind?, openBehind, isStray]

theorem strays_append {depth final : Nat} {front : List Token}
    (passes : depthBehind? depth front = some final) (tokens : List Token) :
    strays depth (front ++ tokens) = strays final tokens := by
  induction front generalizing depth with
  | nil =>
      cases passes
      rfl
  | cons token front ih =>
      obtain ⟨partnered, -, onwards⟩ := openBehind_of_some passes
      rw [List.cons_append, strays_cons, partnered]
      exact ih onwards

theorem withoutStrays_append {depth final : Nat} {front : List Token}
    (passes : depthBehind? depth front = some final) (tokens : List Token) :
    withoutStrays depth (front ++ tokens) = front ++ withoutStrays final tokens := by
  induction front generalizing depth with
  | nil =>
      cases passes
      rfl
  | cons token front ih =>
      obtain ⟨partnered, -, onwards⟩ := openBehind_of_some passes
      rw [List.cons_append, withoutStrays_cons, partnered]
      exact congrArg (token :: ·) (ih onwards)

theorem withoutStrays_sublist (depth : Nat) (tokens : List Token) :
    (withoutStrays depth tokens).Sublist tokens := by
  induction tokens generalizing depth with
  | nil => exact .slnil
  | cons token tokens ih =>
      rw [withoutStrays_cons]
      split
      · exact (ih _).cons token
      · exact (ih _).cons_cons token

theorem closesBelow_append {depth final : Nat} {front : List Token}
    (passes : depthBehind? depth front = some final) (tokens : List Token) :
    closesBelow depth (front ++ tokens) = closesBelow final tokens := by
  induction front generalizing depth with
  | nil =>
      cases passes
      rfl
  | cons token front ih =>
      obtain ⟨-, partnered, onwards⟩ := openBehind_of_some passes
      rw [List.cons_append, closesBelow, if_neg partnered]
      exact ih onwards

theorem depthBehind_append {depth middle : Nat} {first : List Token}
    (passes : depthBehind? depth first = some middle) (second : List Token) :
    depthBehind? depth (first ++ second) = depthBehind? middle second := by
  induction first generalizing depth with
  | nil =>
      cases passes
      rfl
  | cons token first ih =>
      cases depth with
      | zero => cases shape : token.kind <;> simp_all [depthBehind?]
      | succ depth => cases shape : token.kind <;> simp_all [depthBehind?]

theorem depthBehind_list {depth : Nat} {opening closing : Token} {inner : List Token}
    (isOpening : opening.kind = .opening) (isClosing : closing.kind = .closing)
    (passes : depthBehind? (depth + 1) inner = some (depth + 1)) :
    depthBehind? depth (opening :: inner ++ [closing]) = some depth := by
  rw [List.cons_append, depthBehind_opening isOpening, depthBehind_append passes,
    depthBehind_closing isClosing]
  rfl

end Token

namespace Reader

open Token

/-- The tokens that a level passes without strays close nothing from outside. Inside parentheses
they are read the same when what they leave open is closed behind them. -/
theorem Level.front {inside tokens items rest strays unclosed}
    (level : Level inside tokens items rest strays unclosed) (noStrays : strays = []) :
    ∃ front, tokens = front ++ rest ∧
      (∀ depth, depthBehind? depth front = some (depth + unclosed)) ∧
      ∀ closing behind, closing.kind = .closing → inside = true →
        Level true (front ++ List.replicate unclosed closing ++ closing :: behind) items
          (closing :: behind) [] 0 := by
  induction level with
  | finish => exact ⟨[], rfl, fun _ => rfl, fun _ _ isClosing _ => .close isClosing⟩
  | close _ => exact ⟨[], rfl, fun _ => rfl, fun _ _ isClosing _ => .close isClosing⟩
  | stray _ _ _ => cases noStrays
  | @atom _ token _ _ _ _ _ _ atom _ ih =>
      obtain ⟨front, rfl, passes, closed⟩ := ih noStrays
      obtain ⟨-, notClosing, notOpening⟩ := kind_of_atom atom
      refine ⟨token :: front, rfl, fun depth => ?_, fun closing behind isClosing isInside => ?_⟩
      · rw [depthBehind_other notOpening notClosing, passes]
      · exact .atom atom (closed closing behind isClosing isInside)
  | @list _ opening closing _ _ _ _ _ _ unclosed isOpening isClosing _ _ ihInner ihBehind =>
      obtain ⟨first, rfl, passesFirst, closedFirst⟩ := ihInner rfl
      obtain ⟨second, rfl, passesSecond, closedSecond⟩ := ihBehind noStrays
      refine ⟨opening :: first ++ [closing] ++ second, by simp, fun depth => ?_,
        fun last behind isLast isInside => ?_⟩
      · rw [depthBehind_append (depthBehind_list isOpening isClosing (passesFirst _)),
          passesSecond]
      · have inner := closedFirst closing
          (second ++ List.replicate unclosed last ++ last :: behind) isClosing rfl
        simpa using Level.list isOpening isClosing inner (closedSecond last behind isLast isInside)
  | @cutOff _ opening _ _ unclosed isOpening _ ih =>
      obtain ⟨front, rfl, passes, closed⟩ := ih rfl
      refine ⟨opening :: front, by simp, fun depth => ?_, fun closing behind isClosing isInside => ?_⟩
      · rw [depthBehind_opening isOpening, passes, Nat.add_assoc, Nat.add_comm 1]
      · have inner := closed closing (closing :: behind) isClosing rfl
        have whole := Level.list isOpening isClosing inner (.close isClosing)
        simpa [List.replicate_succ', isInside] using whole

theorem Level.strays_eq {tokens items rest strays unclosed}
    (level : Level false tokens items rest strays unclosed) : Token.strays 0 tokens = strays := by
  generalize outside : false = inside at level
  induction level with
  | finish => rfl
  | close _ => cases outside
  | stray isClosing _ ih =>
      rw [strays_cons, openBehind, isClosing]
      simp [isStray, Token.isClosing, isClosing, ih outside]
  | atom atom _ ih =>
      obtain ⟨-, notClosing, notOpening⟩ := kind_of_atom atom
      exact (strays_append (depthBehind_other notOpening notClosing 0 []) _).trans (ih outside)
  | @list _ opening closing _ behind _ _ _ _ _ isOpening isClosing inner _ _ ih =>
      obtain ⟨front, rfl, passes, -⟩ := inner.front rfl
      have whole := strays_append (depthBehind_list isOpening isClosing (passes 1)) behind
      simpa [ih outside] using whole
  | cutOff isOpening inner _ =>
      obtain ⟨front, rfl, passes, -⟩ := inner.front rfl
      have opened := (depthBehind_opening isOpening 0 front).trans (passes 1)
      exact strays_append opened []

theorem Level.unclosed_eq {inside tokens items rest strays unclosed}
    (level : Level inside tokens items rest strays unclosed) :
    (Token.unclosed tokens).length = unclosed + (Token.unclosed rest).length := by
  induction level with
  | finish => rfl
  | close _ => rw [Nat.zero_add]
  | stray isClosing _ ih => simpa [Token.unclosed, isClosing] using ih
  | atom atom _ ih => simpa [Token.unclosed, (kind_of_atom atom).2.2] using ih
  | @list _ opening closing _ behind _ _ _ _ _ isOpening isClosing inner _ ihInner ihBehind =>
      obtain ⟨front, rfl, passes, -⟩ := inner.front rfl
      have closes : Closes (front ++ closing :: behind) :=
        ⟨front, closing, behind, rfl, isClosing, (balanced_iff_depthBehind front).2 (passes 0)⟩
      rw [Token.unclosed, if_neg fun opens => opens.2 closes, ihInner, Token.unclosed,
        if_neg fun opens => by simp [isClosing] at opens, Nat.zero_add, ihBehind]
  | @cutOff _ opening _ _ unclosed isOpening inner ih =>
      obtain ⟨front, rfl, passes, -⟩ := inner.front rfl
      have open_ : ¬ Closes (front ++ []) := by
        rw [← closesBelow_zero_iff, closesBelow_append (passes 0)]
        exact Bool.false_ne_true
      have counted : Token.unclosed (opening :: (front ++ [])) =
          opening :: Token.unclosed (front ++ []) := if_pos ⟨isOpening, open_⟩
      rw [counted, List.length_cons, ih]
      exact Nat.add_right_comm _ _ _

/-- The values of a source are those of its tokens with their parentheses put right. -/
theorem Level.repaired {tokens items strays unclosed}
    (level : Level false tokens items [] strays unclosed) {closing : Token}
    (isClosing : closing.kind = .closing) :
    Level false (Token.repaired closing tokens) items [] [] 0 := by
  have closed : Token.repaired closing tokens =
      withoutStrays 0 tokens ++ List.replicate unclosed closing := by
    rw [Token.repaired, List.map_const', level.unclosed_eq]
    simp [Token.unclosed]
  rw [closed]
  clear closed
  generalize outside : false = inside at level
  generalize whole : ([] : List Token) = rest at level
  induction level with
  | finish => exact .finish
  | close _ => cases outside
  | stray isStray _ ih =>
      have same := ih outside whole
      rw [withoutStrays_cons, openBehind, isStray]
      simpa [Token.isStray, Token.isClosing, isStray] using same
  | atom atom _ ih =>
      obtain ⟨-, notClosing, notOpening⟩ := kind_of_atom atom
      have kept := withoutStrays_append (depthBehind_other notOpening notClosing 0 [])
      rw [← List.singleton_append, kept]
      exact .atom atom (ih outside whole)
  | @list _ opening closer _ _ _ _ _ _ unclosed isOpening isCloser inner _ _ ih =>
      obtain ⟨front, rfl, passes, closedBehind⟩ := inner.front rfl
      have kept := withoutStrays_append (depthBehind_list isOpening isCloser (passes 1))
      have level := Level.list isOpening isCloser (closedBehind closer _ isCloser rfl)
        (ih outside whole)
      have spelled (behind : List Token) : opening :: (front ++ closer :: behind) =
          (opening :: front ++ [closer]) ++ behind := by simp
      rw [spelled, kept]
      simpa using level
  | @cutOff _ opening _ _ unclosed isOpening inner _ =>
      obtain ⟨front, rfl, passes, closedBehind⟩ := inner.front rfl
      have opened := (depthBehind_opening isOpening 0 front).trans (passes 1)
      have kept := withoutStrays_append opened []
      cases outside
      have level : Level false _ [.list _ opening.ref] [] [] 0 :=
        .list isOpening isClosing (closedBehind closing [] isClosing rfl) .finish
      rw [List.append_nil] at kept
      rw [List.append_nil, kept]
      simpa [List.replicate_succ', withoutStrays, withDepths] using level

theorem Level.issues_eq {tokens items strays unclosed}
    (level : Level false tokens items [] strays unclosed) (last : Token) :
    sourceIssues tokens last unclosed strays =
      Token.strayIssues tokens ++ (Token.unclosed tokens).map fun _ => cutOffIssue last := by
  have counted : unclosed = (Token.unclosed tokens).length := level.unclosed_eq.symm
  rw [List.map_const', ← counted, ← level.strays_eq]
  cases tokens with
  | nil => rfl
  | cons first tokens =>
      rw [strays_cons]
      cases shape : first.isClosing with
      | true =>
          have starts : startsWithClosing (first :: tokens) = true := shape
          simp [isStray, sourceIssues, strayIssues, levelIssues, shape, starts]
      | false =>
          have starts : startsWithClosing (first :: tokens) = false := shape
          simp [isStray, sourceIssues_of_not_closing starts, strayIssues, levelIssues, shape]

theorem noEnd_repaired {tokens : List Token} (noEnd : NoEnd tokens) {closing : Token}
    (isClosing : closing.kind = .closing) : NoEnd (Token.repaired closing tokens) := by
  intro token member
  rcases List.mem_append.1 member with kept | added
  · exact noEnd token ((withoutStrays_sublist 0 tokens).mem kept)
  · obtain ⟨_, -, rfl⟩ := List.mem_map.1 added
    simp [isClosing]

theorem Level.readTokens_repaired {tokens items strays unclosed}
    (level : Level false tokens items [] strays unclosed) (noEnd : NoEnd tokens) {last : Token}
    (isEnd : last.kind = .endOfInput) {closing : Token} (isClosing : closing.kind = .closing) :
    readTokens (Token.repaired closing tokens) (.ok last) = ⟨.ok items, []⟩ := by
  obtain ⟨roots, strays, unclosed, other, reading⟩ :=
    readTokens_gives isEnd (noEnd_repaired noEnd isClosing)
  obtain ⟨rfl, -, rfl, rfl⟩ := (level.repaired isClosing).unique other
  exact reading

end Reader

namespace Source

open Reader

/-- What is wrong with the parentheses of the source: closing ones that close nothing, and opening
ones that nothing closes up to the end. -/
def parenthesisIssues (source : Source) (last : Token) : List Issue :=
  Token.strayIssues source.tokens ++ (Token.unclosed source.tokens).map fun _ => cutOffIssue last

theorem readAll_of_reading {source : Source} {roots : List Value} {issues : List Issue}
    (reading : read source = ⟨.ok roots, issues⟩) :
    source.readAll = if issues = [] then .ok roots else .error (.issues issues) := by
  simp [readAll, reading]

theorem readOne_of_root {source : Source} {root : Value} {issues : List Issue}
    (reading : read source = ⟨.ok [root], issues⟩) :
    source.readOne = if issues = [] then .ok root else .error (.issues issues) := by
  cases issues <;> simp [readOne, reading, rootIssue?]

theorem readOne_of_roots {source : Source} {roots : List Value} {issues : List Issue}
    (reading : read source = ⟨.ok roots, issues⟩) (notOne : roots.length ≠ 1) :
    ∃ issue, issue.kind = .invalidRoot ∧
      source.readOne = .error (.issues (issues ++ [issue])) := by
  have problem : ∃ issue, issue.kind = .invalidRoot ∧ source.rootIssue? roots = some issue := by
    rcases roots with _ | ⟨first, _ | ⟨second, rest⟩⟩
    · exact ⟨_, rfl, rfl⟩
    · exact absurd rfl notOne
    · exact ⟨_, rfl, rfl⟩
  obtain ⟨issue, isRoot, found⟩ := problem
  refine ⟨issue, isRoot, ?_⟩
  cases issues <;> simp [readOne, reading, found]

/-- Of a source that the lexer gets through, each problem with its parentheses is reported once, in
order, and nothing else is. What is read are the values of the tokens with these problems put
right. -/
theorem read_recovers (source : Source) (last : Token) (ended : source.ending = .ok last) :
    let issues := source.parenthesisIssues last
    last.ref = some ((Position.start.advance source.text).toRef source) ∧
      ∃ roots, read source = ⟨.ok roots, issues⟩ ∧
        (∀ closing : Token, closing.kind = .closing →
          let repaired := Token.repaired closing source.tokens
          Token.Balanced repaired ∧ Value.allTraces roots = repaired.map Token.trace ∧
            readTokens repaired (.ok last) = ⟨.ok roots, []⟩) ∧
        source.readAll = (if issues = [] then .ok roots else .error (.issues issues)) ∧
        (∀ root, roots = [root] →
          source.readOne = if issues = [] then .ok root else .error (.issues issues)) ∧
        (roots.length ≠ 1 → ∃ issue, issue.kind = .invalidRoot ∧
          source.readOne = .error (.issues (issues ++ [issue]))) := by
  intro issues
  have isEnd := ending_kind ended
  have noEnd := tokens_kind source
  obtain ⟨roots, strays, unclosed, level, reading⟩ := read_gives ended isEnd noEnd
  rw [level.issues_eq] at reading
  refine ⟨ending_ref ended, roots, reading, ?_, readAll_of_reading reading, ?_,
    readOne_of_roots reading⟩
  · intro closing isClosing repaired
    have whole := level.repaired isClosing
    have traces : repaired.map Token.trace = Value.allTraces roots := by
      simpa using whole.traces rfl rfl
    exact ⟨whole.balanced_iff.2 ⟨rfl, rfl⟩, traces.symm,
      level.readTokens_repaired noEnd isEnd isClosing⟩
  · rintro root rfl
    exact readOne_of_root reading

theorem read_recovers_swapped :
    let source := Source.ofText "swapped" ")("
    ∃ last issues, source.ending = .ok last ∧
      issues.map (fun issue => (issue.kind, issue.ref)) =
        [(.invalidNudToken, some ⟨source, 0, 0⟩),
          (.missingClosingParenthesis, some ⟨source, 0, 2⟩)] ∧
      source.readAll = .error (.issues issues) := by
  intro source
  have lexes := (Lexer.lexes_closing source Position.start "(").trans
    (Lexer.lexes_opening source ⟨0, 1⟩ [])
  obtain ⟨tokens, ended⟩ := tokens_of_lexes lexes
  obtain ⟨-, roots, -, -, all, -⟩ := read_recovers source _ ended
  rw [parenthesisIssues, tokens] at all
  exact ⟨_, _, ended, rfl, all⟩

end Source

end Lisplet
