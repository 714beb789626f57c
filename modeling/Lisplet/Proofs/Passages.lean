import Lisplet.Proofs.BrokenOff

/-!
A parser that keeps notes of the tokens that start expressions, continue them or close lists. It
reads the same as the one without notes, and what holds of the states of both while they pass a
token holds of whole runs.
-/

namespace Lisplet

namespace Precedence

variable {Tok Failure Issue Other Result Next : Type}

/-- In related states both parsers come to the same result, and to related states. What relates
the states does not depend on the result unless there is one. -/
def Agrees (broken before : State Tok Failure Issue → State Tok Failure Other → Prop)
    (first : Parser Tok Failure Issue Result) (second : Parser Tok Failure Other Result)
    (behind : Result → State Tok Failure Issue → State Tok Failure Other → Prop) : Prop :=
  ∀ state other, before state other → ∃ result later otherLater,
    first.run.run state = (result, later) ∧ second.run.run other = (result, otherLater) ∧
      match result with
      | .ok value => behind value later otherLater
      | .error _ => broken later otherLater

namespace Agrees

variable {broken before : State Tok Failure Issue → State Tok Failure Other → Prop}
  {first : Parser Tok Failure Issue Result} {second : Parser Tok Failure Other Result}
  {behind : Result → State Tok Failure Issue → State Tok Failure Other → Prop}
  {last : Next → State Tok Failure Issue → State Tok Failure Other → Prop}

theorem pure {value : Result} (holds : ∀ state other, before state other → behind value state other) :
    Agrees broken before (pure value) (pure value) behind :=
  fun state other related => ⟨.ok value, state, other, rfl, rfl, holds state other related⟩

theorem throw {stop : Stop Failure} (holds : ∀ state other, before state other → broken state other) :
    Agrees broken before (throw stop) (throw stop) behind :=
  fun state other related => ⟨.error stop, state, other, rfl, rfl, holds state other related⟩

theorem bind {next : Result → Parser Tok Failure Issue Next}
    {nextSecond : Result → Parser Tok Failure Other Next}
    (agrees : Agrees broken before first second behind)
    (onwards : ∀ value, Agrees broken (behind value) (next value) (nextSecond value) last) :
    Agrees broken before (first >>= next) (second >>= nextSecond) last := by
  intro state other related
  obtain ⟨result, later, otherLater, ran, otherRan, holds⟩ := agrees state other related
  simp only [ExceptT.run_bind, StateT.run_bind, ran, otherRan]
  cases result with
  | ok value => exact onwards value later otherLater holds
  | error stop => exact ⟨.error stop, later, otherLater, rfl, rfl, holds⟩

theorem peek {next : Tok → Parser Tok Failure Issue Next}
    {nextSecond : Tok → Parser Tok Failure Other Next}
    (current : ∀ state other, before state other → other.current = state.current)
    (onwards : ∀ token, Agrees broken (fun state other => before state other ∧ state.current = token)
      (next token) (nextSecond token) last) :
    Agrees broken before (Precedence.peek >>= next) (Precedence.peek >>= nextSecond) last := by
  intro state other related
  have same := current state other related
  obtain ⟨result, later, otherLater, ran, otherRan, holds⟩ :=
    onwards state.current state other ⟨related, rfl⟩
  refine ⟨result, later, otherLater, ran, ?_, holds⟩
  rw [← same] at otherRan
  exact otherRan

theorem weaken {weaker : State Tok Failure Issue → State Tok Failure Other → Prop}
    (agrees : Agrees broken weaker first second behind)
    (holds : ∀ state other, before state other → weaker state other) :
    Agrees broken before first second behind :=
  fun state other related => agrees state other (holds state other related)

theorem andReturn {after : State Tok Failure Issue → State Tok Failure Other → Prop}
    (agrees : Agrees broken before first second fun _ => after) (change : Result → Next) :
    Agrees broken before (do return change (← first)) (do return change (← second))
      fun _ => after :=
  agrees.bind fun _ => .pure fun _ _ related => related

end Agrees

/-- Without the notes that were made on the way. -/
def State.withoutNotes {Note : Type} (state : State Tok Failure (Issue ⊕ Note)) :
    State Tok Failure Issue :=
  ⟨state.current, state.upcoming, state.issues.filterMap Sum.getLeft?⟩

end Precedence

namespace Reader

open Precedence

/-! ### Notes -/

/-- What the parser does with a token that it passes. -/
inductive Passage
  | starts (token : Token)
  | continues (token : Token)
  | closes (token : Token)

def Passage.token : Passage → Token
  | starts token | continues token | closes token => token

namespace Noting

/-- Notes stand among the issues. -/
abbrev NotingParser := Parser Token Fatal (Issue ⊕ Passage)

def note (passage : Passage) : NotingParser Unit :=
  Precedence.report (.inr passage)

def report (issue : Issue) : NotingParser Unit :=
  Precedence.report (.inl issue)

def sublistItems (expression : Int → NotingParser (Array Value)) : NotingParser (Array Value) := do
  let first ← peek
  if first.kind = .closing then return #[] else expression closingPower

def passClosing : NotingParser Unit := do
  let closing ← peek
  if closing.kind = .closing then note (.closes (← advance))
  else report ⟨.missingClosing closing.text, closing.ref⟩

def sublist (expression : Int → NotingParser (Array Value)) (opening : Token) :
    NotingParser Value := do
  let items ← sublistItems expression
  passClosing
  return .list items.toList opening.ref

def startWith (expression : Int → NotingParser (Array Value)) (token : Token) :
    NotingParser (Array Value) := do
  note (.starts token)
  match token.kind with
  | .opening => return #[← sublist expression token]
  | .endOfInput => return #[]
  | .closing =>
    report ⟨.unexpectedAtStart token.text token.kind, token.ref⟩
    return #[]
  | .identifier | .integer | .float | .string => return (atom? token).toArray

def continueWith (expression : Int → NotingParser (Array Value)) (token : Token)
    (left : Array Value) : NotingParser (Array Value) := do
  note (.continues token)
  match token.kind with
  | .opening => return left.push (← sublist expression token)
  | .closing | .endOfInput =>
    report ⟨.unexpectedInside token.text token.kind, token.ref⟩
    return left
  | .identifier | .integer | .float | .string => return left ++ (atom? token).toArray

def grammar : Grammar Token Fatal (Issue ⊕ Passage) (Array Value) :=
  { power := Token.power, startWith, continueWith }

def passages (notes : Array (Issue ⊕ Passage)) : List Passage :=
  notes.toList.filterMap Sum.getRight?

theorem passages_report (notes : Array (Issue ⊕ Passage)) (issue : Issue) :
    passages (notes.push (.inl issue)) = passages notes := by
  simp [passages]

theorem passages_note (notes : Array (Issue ⊕ Passage)) (passage : Passage) :
    passages (notes.push (.inr passage)) = passages notes ++ [passage] := by
  simp [passages]

end Noting

/-- What is read from tokens, and how they were passed. -/
def readNoting (tokens : List Token) (ending : Except Fatal Token) : Reading × List Passage :=
  match State.start ⟨tokens, ending⟩ with
  | .error failure => (⟨.error (.stream failure), []⟩, [])
  | .ok state =>
    let (roots, last) := parse Noting.grammar 0 state
    (⟨roots.map Array.toList, last.withoutNotes.issues.toList⟩, Noting.passages last.issues)

/-! ### The same with and without notes -/

section

variable (broken : State Token Fatal Issue → State Token Fatal (Issue ⊕ Passage) → Prop)
  (tracks : List Token → State Token Fatal Issue → State Token Fatal (Issue ⊕ Passage) → Prop)
  (ready : TokenStream Token Fatal → Prop)

/-- Related states where another token can be asked for. -/
def Awaits (state : State Token Fatal Issue) (noting : State Token Fatal (Issue ⊕ Passage)) : Prop :=
  tracks [] state noting ∧ ready state.upcoming

/-- Related states where the token is passed and not noted yet. Another token can be asked for,
unless it is the end of input. -/
def Holds (token : Token) (state : State Token Fatal Issue)
    (noting : State Token Fatal (Issue ⊕ Passage)) : Prop :=
  tracks [token] state noting ∧ (token.kind ≠ .endOfInput → ready state.upcoming)

/-- States of the two parsers that stay related while tokens are passed. Those that are passed but
not noted are pending. -/
structure Tracking : Prop where
  current_eq {pending state noting} : tracks pending state noting → noting.current = state.current
  breaks {pending state noting} : tracks pending state noting → broken state noting
  ready_of_token {pending state noting} : tracks pending state noting →
    state.current.kind ≠ .endOfInput → ready state.upcoming
  advances : Agrees broken (Awaits tracks ready) advance advance (Holds tracks ready)
  report {pending state noting} (issue : Issue) : tracks pending state noting →
    tracks pending { state with issues := state.issues.push issue }
      { noting with issues := noting.issues.push (.inl issue) }
  note {state noting} (passage : Passage) : tracks [passage.token] state noting →
    tracks [] state { noting with issues := noting.issues.push (.inr passage) }

def TracksExpressions (plain : Int → ListParser (Array Value))
    (noting : Int → Noting.NotingParser (Array Value)) : Prop :=
  ∀ bound, 0 ≤ bound →
    Agrees broken (Awaits tracks ready) (plain bound) (noting bound) fun _ => tracks []

end

namespace Tracking

variable {broken : State Token Fatal Issue → State Token Fatal (Issue ⊕ Passage) → Prop}
  {tracks : List Token → State Token Fatal Issue → State Token Fatal (Issue ⊕ Passage) → Prop}
  {ready : TokenStream Token Fatal → Prop} {inner : Int → ListParser (Array Value)}
  {noting : Int → Noting.NotingParser (Array Value)}

theorem reports (tracking : Tracking broken tracks ready) (issue : Issue) {Result : Type}
    (result : Result) : Agrees broken (tracks [])
      (do Precedence.report issue; return result) (do Noting.report issue; return result)
      fun _ => tracks [] :=
  fun _ _ related => ⟨.ok result, _, _, rfl, rfl, tracking.report issue related⟩

theorem notes (tracking : Tracking broken tracks ready) (passage : Passage) {Result : Type}
    {plain : ListParser Result} {noting : Noting.NotingParser Result}
    {behind : Result → State Token Fatal Issue → State Token Fatal (Issue ⊕ Passage) → Prop}
    (agrees : Agrees broken (fun state noting => tracks [] state noting ∧
      (passage.token.kind ≠ .endOfInput → ready state.upcoming)) plain noting behind) :
    Agrees broken (Holds tracks ready passage.token) plain (do Noting.note passage; noting) behind :=
  fun state _ related => agrees state _ ⟨tracking.note passage related.1, related.2⟩

theorem sublistItems (tracking : Tracking broken tracks ready)
    (expressions : TracksExpressions broken tracks ready inner noting) :
    Agrees broken (Awaits tracks ready) (Reader.sublistItems inner) (Noting.sublistItems noting)
      fun _ => tracks [] := by
  unfold Reader.sublistItems Noting.sublistItems
  refine .peek (fun _ _ related => tracking.current_eq related.1) fun first => ?_
  split
  · exact .pure fun _ _ related => related.1.1
  · exact (expressions closingPower (by decide)).weaken fun _ _ related => related.1

theorem passClosing (tracking : Tracking broken tracks ready) :
    Agrees broken (tracks []) Reader.passClosing Noting.passClosing fun _ => tracks [] := by
  unfold Reader.passClosing Noting.passClosing
  refine .peek (fun _ _ related => tracking.current_eq related) fun closing => ?_
  split
  · next isClosing =>
      have passing : Agrees broken (Awaits tracks ready) (advance >>= fun _ => pure ())
          (advance >>= fun token => do Noting.note (.closes token); pure ()) fun _ => tracks [] :=
        tracking.advances.bind fun token =>
          tracking.notes (.closes token) (.pure fun _ _ related => related.1)
      refine passing.weaken fun state _ related => ⟨related.1, ?_⟩
      exact tracking.ready_of_token related.1 (by simp [related.2, isClosing])
  · exact (tracking.reports _ ()).weaken fun _ _ related => related.1

theorem sublist (tracking : Tracking broken tracks ready)
    (expressions : TracksExpressions broken tracks ready inner noting) (opening : Token) :
    Agrees broken (Awaits tracks ready) (Reader.sublist inner opening) (Noting.sublist noting opening)
      fun _ => tracks [] :=
  (tracking.sublistItems expressions).bind fun _ =>
    tracking.passClosing.bind fun _ => .pure fun _ _ related => related

theorem startWith (tracking : Tracking broken tracks ready)
    (expressions : TracksExpressions broken tracks ready inner noting) (token : Token) :
    Agrees broken (Holds tracks ready token) (Reader.startWith inner token)
      (Noting.startWith noting token) fun _ => tracks [] := by
  unfold Reader.startWith Noting.startWith
  refine tracking.notes (.starts token) ?_
  cases kind : token.kind with
  | opening =>
      have reading := (tracking.sublist expressions token).andReturn fun list => #[list]
      exact reading.weaken fun _ _ related => ⟨related.1, related.2 (by simp [Passage.token, kind])⟩
  | closing => exact (tracking.reports _ #[]).weaken fun _ _ related => related.1
  | endOfInput | identifier | integer | float | string => exact .pure fun _ _ related => related.1

theorem continueWith (tracking : Tracking broken tracks ready)
    (expressions : TracksExpressions broken tracks ready inner noting) (token : Token)
    (left : Array Value) :
    Agrees broken (Holds tracks ready token) (Reader.continueWith inner token left)
      (Noting.continueWith noting token left) fun _ => tracks [] := by
  unfold Reader.continueWith Noting.continueWith
  refine tracking.notes (.continues token) ?_
  cases kind : token.kind with
  | opening =>
      have reading := (tracking.sublist expressions token).andReturn left.push
      exact reading.weaken fun _ _ related => ⟨related.1, related.2 (by simp [Passage.token, kind])⟩
  | closing | endOfInput => exact (tracking.reports _ left).weaken fun _ _ related => related.1
  | identifier | integer | float | string => exact .pure fun _ _ related => related.1

/-- The end of input binds nothing. -/
theorem ready_of_strong (tracking : Tracking broken tracks ready) {state noting} {bound : Int}
    (related : tracks [] state noting) (positive : 0 ≤ bound)
    (strong : bound < grammar.power state.current) : Awaits tracks ready state noting := by
  refine ⟨related, tracking.ready_of_token related fun isEnd => ?_⟩
  have weak : ¬ (0 : Int) < grammar.power state.current := power_last_le_levelBound isEnd false
  omega

/-- Runs of both parsers track each other if the passing of a token does. -/
theorem all (tracking : Tracking broken tracks ready) (fuel : Nat) :
    TracksExpressions broken tracks ready (expression grammar fuel) (expression Noting.grammar fuel) ∧
    ∀ bound left, 0 ≤ bound → Agrees broken (tracks []) (continued grammar fuel bound left)
      (continued Noting.grammar fuel bound left) fun _ => tracks [] := by
  induction fuel with
  | zero =>
      refine ⟨fun bound _ => ?_, fun bound left _ => ?_⟩
      · rw [expression, expression]
        exact .throw fun _ _ related => tracking.breaks related.1
      · rw [continued, continued]
        exact .throw fun _ _ related => tracking.breaks related
  | succ fuel ih =>
      obtain ⟨expressions, continuations⟩ := ih
      refine ⟨fun bound positive => ?_, fun bound left positive => ?_⟩
      · rw [expression, expression]
        exact tracking.advances.bind fun token =>
          (tracking.startWith expressions token).bind fun left => continuations bound left positive
      · rw [continued, continued]
        refine .peek (fun _ _ related => tracking.current_eq related) fun current => ?_
        change Agrees _ _ (if bound < grammar.power current then _ else _)
          (if bound < grammar.power current then _ else _) _
        split
        · next strong =>
            -- A token that binds is not the end of input, so another one can be asked for.
            have passing := tracking.advances.bind fun token =>
              (tracking.continueWith expressions token left).bind fun extended =>
                continuations bound extended positive
            refine passing.weaken fun state noting related => ?_
            exact tracking.ready_of_strong related.1 positive (related.2 ▸ strong)
        · exact .pure fun _ _ related => related.1

end Tracking

/-! ### On the same stream -/

/-- The states are the same but for the notes. -/
def Erases (state : State Token Fatal Issue) (noting : State Token Fatal (Issue ⊕ Passage)) : Prop :=
  state = noting.withoutNotes

theorem tracking_erases : Tracking Erases (fun _ => Erases) fun _ => True where
  current_eq related := by rw [related]; rfl
  breaks related := related
  ready_of_token _ _ := trivial
  advances := by
    rintro state noting ⟨related, -⟩
    obtain ⟨current, ⟨tokens, ending⟩, notes⟩ := noting
    cases related
    cases tokens with
    | cons next behind => exact ⟨.ok current, _, _, rfl, rfl, rfl, fun _ => trivial⟩
    | nil =>
        cases ending with
        | ok last => exact ⟨.ok current, _, _, rfl, rfl, rfl, fun _ => trivial⟩
        | error failure => exact ⟨.error (.stream failure), _, _, rfl, rfl, rfl⟩
  report issue related := by
    cases related
    simp [Erases, State.withoutNotes]
  note passage related := by
    cases related
    simp [Erases, State.withoutNotes, Array.filterMap_push]

theorem parse_erases (noting : State Token Fatal (Issue ⊕ Passage)) :
    parse grammar 0 noting.withoutNotes =
      ((parse Noting.grammar 0 noting).1, (parse Noting.grammar 0 noting).2.withoutNotes) := by
  obtain ⟨result, later, notingLater, ran, notingRan, related⟩ :=
    (tracking_erases.all noting.fuel).1 0 (Int.le_refl 0) noting.withoutNotes noting ⟨rfl, trivial⟩
  have same : later = notingLater.withoutNotes := by
    cases result <;> exact related
  unfold parse
  rw [notingRan, ← same]
  exact ran

/-- The notes change nothing else. -/
theorem readNoting_reading (tokens : List Token) (ending : Except Fatal Token) :
    (readNoting tokens ending).1 = readTokens tokens ending := by
  have started (state : State Token Fatal (Issue ⊕ Passage)) (noIssues : state.issues = #[]) :
      (⟨state.current, state.upcoming, #[]⟩ : State Token Fatal Issue) = state.withoutNotes := by
    simp [State.withoutNotes, noIssues]
  unfold readNoting readTokens
  cases tokens with
  | cons token tokens =>
      simp only [State.start, TokenStream.pull, Except.map]
      rw [started ⟨token, ⟨tokens, ending⟩, #[]⟩ rfl, parse_erases]
  | nil =>
      cases ending with
      | error failure => rfl
      | ok last =>
          simp only [State.start, TokenStream.pull, Except.map]
          rw [started ⟨last, ⟨[], .ok last⟩, #[]⟩ rfl, parse_erases]

end Reader

end Lisplet
