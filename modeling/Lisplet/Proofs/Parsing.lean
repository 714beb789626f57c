import Lisplet.Reader

/-!
What the parser makes of any tokens that end with the end of input. Parentheses that do not match
are reported and reading goes on, so every such source has expressions, and the issues tell which
parentheses were strays and how many lists the end of the source cut off.
-/

namespace Lisplet

namespace Precedence

variable {Tok Failure Issue Tree Result Other : Type}

def Gives (parser : Parser Tok Failure Issue Result) (state : State Tok Failure Issue)
    (result : Result) (later : State Tok Failure Issue) : Prop :=
  parser.run.run state = (.ok result, later)

theorem Gives.pure (result : Result) (state : State Tok Failure Issue) :
    Gives (pure result) state result state :=
  rfl

theorem Gives.bind {parser : Parser Tok Failure Issue Result}
    {next : Result → Parser Tok Failure Issue Other} {state middle later : State Tok Failure Issue}
    {result : Result} {other : Other} (first : Gives parser state result middle)
    (second : Gives (next result) middle other later) :
    Gives (parser >>= next) state other later := by
  unfold Gives at *
  simp only [ExceptT.run_bind, StateT.run_bind, first]
  exact second

theorem Gives.of_bind {parser : Parser Tok Failure Issue Result}
    {next : Result → Parser Tok Failure Issue Other} {state middle later : State Tok Failure Issue}
    {result : Result} {other : Other} (first : Gives parser state result middle)
    (whole : Gives (parser >>= next) state other later) : Gives (next result) middle other later := by
  unfold Gives at *
  simp only [ExceptT.run_bind, StateT.run_bind, first] at whole
  exact whole

theorem Gives.discard {parser : Parser Tok Failure Issue Result}
    {state later : State Tok Failure Issue} {result : Result}
    (gives : Gives parser state result later) : Gives (discard parser) state () later :=
  gives.bind (Gives.pure () later)

theorem gives_peek (state : State Tok Failure Issue) : Gives peek state state.current state :=
  rfl

theorem gives_report (issue : Issue) (state : State Tok Failure Issue) :
    Gives (report issue) state () { state with issues := state.issues.push issue } :=
  rfl

/-- The state in front of tokens that the token `last` follows for ever. -/
def State.before (tokens : List Tok) (last : Tok) (issues : Array Issue) :
    State Tok Failure Issue :=
  ⟨tokens.headD last, ⟨tokens.tail, .ok last⟩, issues⟩

theorem gives_advance (token : Tok) (tokens : List Tok) (last : Tok) (issues : Array Issue) :
    Gives (advance : Parser Tok Failure Issue Tok) (State.before (token :: tokens) last issues) token
      (State.before tokens last issues) := by
  cases tokens <;> rfl

theorem gives_advance_last (last : Tok) (issues : Array Issue) :
    Gives (advance : Parser Tok Failure Issue Tok) (State.before [] last issues) last
      (State.before [] last issues) :=
  rfl

theorem start_before (tokens : List Tok) (last : Tok) :
    State.start ⟨tokens, .ok last⟩ =
      .ok (State.before tokens last #[] : State Tok Failure Issue) := by
  cases tokens <;> rfl

theorem expression_gives {grammar : Grammar Tok Failure Issue Tree} {fuel : Nat} {bound : Int}
    {state passed middle later : State Tok Failure Issue} {token : Tok} {left result : Tree}
    (passing : Gives advance state token passed)
    (starting : Gives (grammar.startWith (expression grammar fuel) token) passed left middle)
    (continuing : Gives (continued grammar fuel bound left) middle result later) :
    Gives (expression grammar (fuel + 1) bound) state result later := by
  rw [expression]
  exact passing.bind (starting.bind continuing)

theorem continued_stops (grammar : Grammar Tok Failure Issue Tree) (fuel : Nat) {bound : Int}
    (left : Tree) (state : State Tok Failure Issue)
    (weak : ¬ bound < grammar.power state.current) :
    Gives (continued grammar (fuel + 1) bound left) state left state := by
  rw [continued]
  apply (gives_peek state).bind
  rw [if_neg weak]
  exact Gives.pure left state

theorem continued_passes {grammar : Grammar Tok Failure Issue Tree} {fuel : Nat} {bound : Int}
    {state passed middle later : State Tok Failure Issue} {token : Tok} {left extended result : Tree}
    (strong : bound < grammar.power state.current)
    (passing : Gives advance state token passed)
    (extending : Gives (grammar.continueWith (expression grammar fuel) token left) passed extended
      middle)
    (continuing : Gives (continued grammar fuel bound extended) middle result later) :
    Gives (continued grammar (fuel + 1) bound left) state result later := by
  rw [continued]
  apply (gives_peek state).bind
  rw [if_pos strong]
  exact passing.bind (extending.bind continuing)

/-- An expression is the continuation of an empty tree, if its first token starts a tree as it
would continue the empty one. -/
theorem expression_eq_continued {grammar : Grammar Tok Failure Issue Tree} (fuel : Nat) {bound : Int}
    {state : State Tok Failure Issue} {empty : Tree} (strong : bound < grammar.power state.current)
    (same : ∀ inner, grammar.startWith inner state.current =
      grammar.continueWith inner state.current empty) :
    (expression grammar (fuel + 1) bound).run.run state =
      (continued grammar (fuel + 1) bound empty).run.run state := by
  have peeked : (continued grammar (fuel + 1) bound empty).run.run state =
      (do
        let token ← advance
        let extended ← grammar.continueWith (expression grammar fuel) token empty
        continued grammar fuel bound extended : Parser Tok Failure Issue Tree).run.run state := by
    rw [continued]
    change StateT.run (ExceptT.run (if bound < grammar.power state.current then _ else _)) state = _
    rw [if_pos strong]
  rw [peeked, expression]
  have started := congrArg (fun parser : Parser Tok Failure Issue Tree =>
    parser >>= continued grammar fuel bound) (same (expression grammar fuel))
  obtain ⟨current, ⟨tokens, ending⟩, issues⟩ := state
  cases tokens with
  | cons next behind => exact congrArg (·.run.run ⟨next, ⟨behind, ending⟩, issues⟩) started
  | nil =>
      cases ending with
      | error failure => rfl
      | ok last => exact congrArg (·.run.run ⟨last, ⟨[], .ok last⟩, issues⟩) started

end Precedence

namespace Reader

open Precedence

theorem kind_of_atom {token : Token} {value : Value} (atom : atom? token = some value) :
    token.kind ≠ .endOfInput ∧ token.kind ≠ .closing ∧ token.kind ≠ .opening := by
  obtain ⟨lexeme, text, ref⟩ := token
  cases lexeme <;> simp_all [Token.kind, Lexeme.kind, atom?]

/-- How the tokens of one level are read into items. The level ends with the source or, inside
parentheses, in front of a closing one. Elsewhere a closing parenthesis is a stray. The end of the
source cuts off the lists that are open there, and they count as `unclosed`. -/
inductive Level : (inside : Bool) → (tokens : List Token) → (items : List Value) →
    (rest strays : List Token) → (unclosed : Nat) → Prop
  | finish {inside} : Level inside [] [] [] [] 0
  | close {token rest} : token.kind = .closing → Level true (token :: rest) [] (token :: rest) [] 0
  | stray {token tokens items rest strays unclosed} : token.kind = .closing →
      Level false tokens items rest strays unclosed →
      Level false (token :: tokens) items rest (token :: strays) unclosed
  | atom {inside token tokens value items rest strays unclosed} : atom? token = some value →
      Level inside tokens items rest strays unclosed →
      Level inside (token :: tokens) (value :: items) rest strays unclosed
  | list {inside opening closing tokens behind inner items rest strays unclosed} :
      opening.kind = .opening → closing.kind = .closing →
      Level true tokens inner (closing :: behind) [] 0 →
      Level inside behind items rest strays unclosed →
      Level inside (opening :: tokens) (.list inner opening.ref :: items) rest strays unclosed
  | cutOff {inside opening tokens inner unclosed} : opening.kind = .opening →
      Level true tokens inner [] [] unclosed →
      Level inside (opening :: tokens) [.list inner opening.ref] [] [] (unclosed + 1)

theorem Level.suffix {inside tokens items rest strays unclosed}
    (level : Level inside tokens items rest strays unclosed) : rest <:+ tokens := by
  induction level with
  | finish => exact List.suffix_refl _
  | close _ => exact List.suffix_refl _
  | stray _ _ ih => exact ih.trans (List.suffix_cons _ _)
  | atom _ _ ih => exact ih.trans (List.suffix_cons _ _)
  | list _ _ _ _ ihInner ihBehind =>
      have behind := (List.suffix_cons _ _).trans ihInner
      exact (ihBehind.trans behind).trans (List.suffix_cons _ _)
  | cutOff _ _ _ => exact List.nil_suffix

theorem Level.ends_inside {tokens items rest strays unclosed}
    (level : Level true tokens items rest strays unclosed) :
    strays = [] ∧ (rest = [] ∨ unclosed = 0 ∧ ∃ closing behind, closing.kind = .closing ∧
      rest = closing :: behind) := by
  generalize same : true = inside at level
  induction level with
  | finish => exact ⟨rfl, .inl rfl⟩
  | close isClosing => exact ⟨rfl, .inr ⟨rfl, _, _, isClosing, rfl⟩⟩
  | stray _ _ _ => simp at same
  | atom _ _ ih => exact ih same
  | list _ _ _ _ _ ihBehind => exact ihBehind same
  | cutOff _ _ _ => exact ⟨rfl, .inl rfl⟩

theorem Level.ends_outside {tokens items rest strays unclosed}
    (level : Level false tokens items rest strays unclosed) : rest = [] := by
  generalize same : false = inside at level
  induction level with
  | finish => rfl
  | close _ => simp at same
  | stray _ _ ih => exact ih same
  | atom _ _ ih => exact ih same
  | list _ _ _ _ _ ihBehind => exact ihBehind same
  | cutOff _ _ _ => rfl

/-- The tokens leave the parser no choice. -/
theorem Level.unique {inside tokens items rest strays unclosed items' rest' strays' unclosed'}
    (level : Level inside tokens items rest strays unclosed)
    (other : Level inside tokens items' rest' strays' unclosed') :
    items' = items ∧ rest' = rest ∧ strays' = strays ∧ unclosed' = unclosed := by
  induction level generalizing items' rest' strays' unclosed' with
  | finish =>
      cases other
      exact ⟨rfl, rfl, rfl, rfl⟩
  | close isClosing =>
      cases other with
      | close _ => exact ⟨rfl, rfl, rfl, rfl⟩
      | atom atom _ => exact absurd isClosing (kind_of_atom atom).2.1
      | list isOpening _ _ _ => simp [isOpening] at isClosing
      | cutOff isOpening _ => simp [isOpening] at isClosing
  | stray isClosing _ ih =>
      cases other with
      | stray _ behind =>
          obtain ⟨rfl, rfl, rfl, rfl⟩ := ih behind
          exact ⟨rfl, rfl, rfl, rfl⟩
      | atom atom _ => exact absurd isClosing (kind_of_atom atom).2.1
      | list isOpening _ _ _ => simp [isOpening] at isClosing
      | cutOff isOpening _ => simp [isOpening] at isClosing
  | atom atom _ ih =>
      have kind := kind_of_atom atom
      cases other with
      | close isClosing => exact absurd isClosing kind.2.1
      | stray isClosing _ => exact absurd isClosing kind.2.1
      | atom same behind =>
          obtain ⟨rfl, rfl, rfl, rfl⟩ := ih behind
          obtain rfl := Option.some.inj (same.symm.trans atom)
          exact ⟨rfl, rfl, rfl, rfl⟩
      | list isOpening _ _ _ => exact absurd isOpening kind.2.2
      | cutOff isOpening _ => exact absurd isOpening kind.2.2
  | list isOpening _ _ _ ihInner ihBehind =>
      cases other with
      | close isClosing => simp [isOpening] at isClosing
      | stray isClosing _ => simp [isOpening] at isClosing
      | atom atom _ => exact absurd isOpening (kind_of_atom atom).2.2
      | list _ _ inner behind =>
          obtain ⟨rfl, same, -, -⟩ := ihInner inner
          obtain ⟨rfl, rfl⟩ := List.cons.inj same
          obtain ⟨rfl, rfl, rfl, rfl⟩ := ihBehind behind
          exact ⟨rfl, rfl, rfl, rfl⟩
      | cutOff _ inner => exact absurd (ihInner inner).2.1 (by simp)
  | cutOff isOpening _ ih =>
      cases other with
      | close isClosing => simp [isOpening] at isClosing
      | stray isClosing _ => simp [isOpening] at isClosing
      | atom atom _ => exact absurd isOpening (kind_of_atom atom).2.2
      | list _ _ inner _ => exact absurd (ih inner).2.1 (by simp)
      | cutOff _ inner =>
          obtain ⟨rfl, -, -, rfl⟩ := ih inner
          exact ⟨rfl, rfl, rfl, rfl⟩

def strayIssue (token : Token) : Issue :=
  ⟨.unexpectedInside token.text token.kind, token.ref⟩

/-- A stray that is the first token of its source stands at the start of an expression. -/
def firstStrayIssue (token : Token) : Issue :=
  ⟨.unexpectedAtStart token.text token.kind, token.ref⟩

def cutOffIssue (last : Token) : Issue :=
  ⟨.missingClosing last.text, last.ref⟩

def levelIssues (last : Token) (strays : List Token) (unclosed : Nat) : List Issue :=
  strays.map strayIssue ++ List.replicate unclosed (cutOffIssue last)

theorem push_cutOffIssue (issues : Array Issue) (last : Token) (unclosed : Nat) :
    (issues ++ (levelIssues last [] unclosed).toArray).push (cutOffIssue last) =
      issues ++ (levelIssues last [] (unclosed + 1)).toArray := by
  apply Array.toList_inj.1
  simp [levelIssues, List.replicate_succ']

theorem push_strayIssue (issues : Array Issue) (stray last : Token) (strays : List Token)
    (unclosed : Nat) :
    issues.push (strayIssue stray) ++ (levelIssues last strays unclosed).toArray =
      issues ++ (levelIssues last (stray :: strays) unclosed).toArray := by
  apply Array.toList_inj.1
  simp [levelIssues]

def levelBound (inside : Bool) : Int :=
  if inside then closingPower else 0

def NoEnd (tokens : List Token) : Prop :=
  ∀ token ∈ tokens, token.kind ≠ .endOfInput

theorem NoEnd.of_suffix {tokens rest : List Token} (noEnd : NoEnd tokens) (suffix : rest <:+ tokens) :
    NoEnd rest :=
  fun token member => noEnd token (suffix.mem member)

theorem token_cases (token : Token) (noEnd : token.kind ≠ .endOfInput) :
    token.kind = .opening ∨ token.kind = .closing ∨ ∃ value, atom? token = some value := by
  obtain ⟨lexeme, text, ref⟩ := token
  cases lexeme <;> simp_all [Token.kind, Lexeme.kind, atom?]

theorem continueWith_atom {token : Token} {value : Value} (atom : atom? token = some value)
    (inner : Int → ListParser (Array Value)) (left : Array Value) :
    continueWith inner token left = pure (left.push value) := by
  obtain ⟨lexeme, text, ref⟩ := token
  cases lexeme <;> simp_all [Token.kind, Lexeme.kind, atom?, continueWith]

theorem startWith_eq_continueWith {token : Token} (noEnd : token.kind ≠ .endOfInput)
    (notClosing : token.kind ≠ .closing) (inner : Int → ListParser (Array Value)) :
    startWith inner token = continueWith inner token #[] := by
  obtain ⟨lexeme, text, ref⟩ := token
  cases lexeme <;> simp_all [Token.kind, Lexeme.kind, atom?, continueWith, startWith]

theorem levelBound_lt_power {token : Token} (noEnd : token.kind ≠ .endOfInput)
    (notClosing : token.kind ≠ .closing) (inside : Bool) :
    levelBound inside < grammar.power token := by
  obtain ⟨lexeme, text, ref⟩ := token
  cases lexeme <;> cases inside <;>
    simp_all [Token.kind, Lexeme.kind, levelBound, closingPower, grammar, Token.power]

theorem power_last_le_levelBound {last : Token} (isEnd : last.kind = .endOfInput) (inside : Bool) :
    ¬ levelBound inside < grammar.power last := by
  cases inside <;> simp [grammar, Token.power, isEnd, levelBound, closingPower]

theorem power_closing {token : Token} (isClosing : token.kind = .closing) :
    grammar.power token = 5 := by
  simp [grammar, Token.power, isClosing]

theorem startWith_gives_stray {closing : Token} (isClosing : closing.kind = .closing)
    (inner : Int → ListParser (Array Value)) (state : State Token Fatal Issue) :
    Gives (grammar.startWith inner closing) state #[]
      { state with issues := state.issues.push (firstStrayIssue closing) } := by
  have reporting : grammar.startWith inner closing = do
      report (firstStrayIssue closing)
      return #[] := by
    simp [grammar, startWith, isClosing, firstStrayIssue]
  rw [reporting]
  exact (gives_report _ _).bind (Gives.pure _ _)

theorem continueWith_gives_stray {closing : Token} (isClosing : closing.kind = .closing)
    (inner : Int → ListParser (Array Value)) (left : Array Value)
    (state : State Token Fatal Issue) :
    Gives (grammar.continueWith inner closing left) state left
      { state with issues := state.issues.push (strayIssue closing) } := by
  have reporting : grammar.continueWith inner closing left = do
      report (strayIssue closing)
      return left := by
    simp [grammar, continueWith, isClosing, strayIssue]
  rw [reporting]
  exact (gives_report _ _).bind (Gives.pure _ _)

theorem continueWith_gives_atom {token : Token} {value : Value} (atom : atom? token = some value)
    (inner : Int → ListParser (Array Value)) (left : Array Value)
    (state : State Token Fatal Issue) :
    Gives (grammar.continueWith inner token left) state (left.push value) state := by
  change Gives (continueWith inner token left) _ _ _
  rw [continueWith_atom atom]
  exact Gives.pure _ _

theorem continueWith_opening {opening : Token} (isOpening : opening.kind = .opening)
    (inner : Int → ListParser (Array Value)) (left : Array Value) :
    grammar.continueWith inner opening left = do return left.push (← sublist inner opening) := by
  simp [grammar, continueWith, isOpening]

theorem continueWith_gives_list {opening : Token} (isOpening : opening.kind = .opening)
    {inner : Int → ListParser (Array Value)} {state later : State Token Fatal Issue}
    {result : Value} (gives : Gives (sublist inner opening) state result later)
    (left : Array Value) :
    Gives (grammar.continueWith inner opening left) state (left.push result) later := by
  rw [continueWith_opening isOpening]
  exact gives.bind (Gives.pure _ _)

def ReadsLevel (last : Token) (parser : ListParser (Array Value)) (inside : Bool)
    (tokens : List Token) (left : Array Value) (issues : Array Issue) : Prop :=
  ∃ items rest strays unclosed, Level inside tokens items rest strays unclosed ∧
    Gives parser (State.before tokens last issues) (left ++ items.toArray)
      (State.before rest last (issues ++ (levelIssues last strays unclosed).toArray))

/-- With this fuel, levels are read from any state that the fuel is enough for. -/
def ReadsLevels (last : Token) (fuel : Nat) : Prop :=
  ∀ inside tokens left issues, NoEnd tokens → tokens.length + 2 ≤ fuel →
    ReadsLevel last (continued grammar fuel (levelBound inside) left) inside tokens left issues

theorem expression_gives_level {last : Token} {fuel : Nat} (isEnd : last.kind = .endOfInput)
    (reads : ReadsLevels last fuel) (inside : Bool) (tokens : List Token) (issues : Array Issue)
    (noEnd : NoEnd tokens) (enough : tokens.length + 2 ≤ fuel)
    (noStray : ∀ token ∈ tokens.head?, token.kind ≠ .closing) :
    ReadsLevel last (expression grammar fuel (levelBound inside)) inside tokens #[] issues := by
  obtain ⟨fuel, rfl⟩ : ∃ less, fuel = less + 1 := ⟨fuel - 1, by omega⟩
  cases tokens with
  | nil =>
      obtain ⟨fuel, rfl⟩ : ∃ less, fuel = less + 1 := ⟨fuel - 1, by simp at enough; omega⟩
      have starting : startWith (expression grammar (fuel + 1)) last = pure #[] := by
        simp only [startWith, isEnd]
      refine ⟨[], [], [], 0, .finish, ?_⟩
      refine expression_gives (gives_advance_last last issues)
        (?_ : Gives _ _ #[] (State.before [] last issues)) ?_
      · change Gives (startWith _ last) _ _ _
        rw [starting]
        exact Gives.pure _ _
      · simpa [levelIssues] using
          continued_stops grammar fuel #[] (State.before [] last issues) (power_last_le_levelBound isEnd inside)
  | cons token tokens =>
      have noEndHere := noEnd token (by simp)
      have notClosing := noStray token (by simp)
      obtain ⟨items, rest, strays, unclosed, level, continuing⟩ :=
        reads inside (token :: tokens) #[] issues noEnd enough
      refine ⟨items, rest, strays, unclosed, level, ?_⟩
      exact (expression_eq_continued fuel (levelBound_lt_power noEndHere notClosing inside)
        (startWith_eq_continueWith noEndHere notClosing)).trans continuing

theorem passClosing_gives {state later : State Token Fatal Issue} {closing : Token}
    (isClosing : state.current.kind = .closing) (passing : Gives advance state closing later) :
    Gives passClosing state () later := by
  rw [passClosing]
  apply (gives_peek state).bind
  rw [if_pos isClosing]
  exact passing.discard

theorem passClosing_gives_missing {last : Token} (isEnd : last.kind = .endOfInput)
    (issues : Array Issue) :
    Gives passClosing (State.before [] last issues) ()
      (State.before [] last (issues.push (cutOffIssue last))) := by
  have notClosing :
      (State.before [] last issues : State Token Fatal Issue).current.kind ≠ .closing := by
    simp [State.before, isEnd]
  rw [passClosing]
  apply (gives_peek _).bind
  rw [if_neg notClosing]
  exact gives_report _ _

theorem sublistItems_gives {last : Token} {fuel : Nat} (isEnd : last.kind = .endOfInput)
    (reads : ReadsLevels last fuel) (tokens : List Token) (issues : Array Issue)
    (noEnd : NoEnd tokens) (enough : tokens.length + 2 ≤ fuel) :
    ReadsLevel last (sublistItems (expression grammar fuel)) true tokens #[] issues := by
  by_cases isClosing :
      (State.before tokens last issues : State Token Fatal Issue).current.kind = .closing
  · cases tokens with
    | nil => simp [State.before, isEnd] at isClosing
    | cons token tokens =>
        refine ⟨[], token :: tokens, [], 0, .close isClosing, ?_⟩
        rw [sublistItems]
        apply (gives_peek _).bind
        rw [if_pos isClosing]
        simpa [levelIssues] using Gives.pure #[] _
  · have noStray : ∀ token ∈ tokens.head?, token.kind ≠ .closing := by
      intro token first
      simpa [State.before, List.headD_eq_head?_getD, Option.mem_def.1 first] using isClosing
    obtain ⟨items, rest, strays, unclosed, level, reading⟩ :=
      expression_gives_level isEnd reads true tokens issues noEnd enough noStray
    refine ⟨items, rest, strays, unclosed, level, ?_⟩
    rw [sublistItems]
    apply (gives_peek _).bind
    rw [if_neg isClosing]
    exact reading

theorem sublist_gives {last : Token} {fuel : Nat} (isEnd : last.kind = .endOfInput)
    (reads : ReadsLevels last fuel) (opening : Token) (tokens : List Token) (issues : Array Issue)
    (noEnd : NoEnd tokens) (enough : tokens.length + 2 ≤ fuel) :
    (∃ inner closing behind, closing.kind = .closing ∧ Level true tokens inner (closing :: behind) [] 0 ∧
      Gives (sublist (expression grammar fuel) opening) (State.before tokens last issues)
        (.list inner opening.ref) (State.before behind last issues)) ∨
    (∃ inner unclosed, Level true tokens inner [] [] unclosed ∧
      Gives (sublist (expression grammar fuel) opening) (State.before tokens last issues)
        (.list inner opening.ref)
        (State.before [] last (issues ++ (levelIssues last [] (unclosed + 1)).toArray))) := by
  obtain ⟨inner, rest, strays, unclosed, level, reading⟩ :=
    sublistItems_gives isEnd reads tokens issues noEnd enough
  obtain ⟨rfl, rfl | ⟨rfl, closing, behind, isClosing, rfl⟩⟩ := level.ends_inside
  · right
    refine ⟨inner, unclosed, level, ?_⟩
    rw [sublist]
    apply reading.bind
    have missing := passClosing_gives_missing isEnd
      (issues ++ (levelIssues last [] unclosed).toArray)
    apply missing.bind
    rw [push_cutOffIssue]
    simpa using Gives.pure (Value.list inner opening.ref) _
  · left
    refine ⟨inner, closing, behind, isClosing, level, ?_⟩
    rw [sublist]
    apply reading.bind
    apply (passClosing_gives isClosing (gives_advance closing behind last _)).bind
    simpa [levelIssues] using Gives.pure _ _

theorem readsLevel_opening {last opening : Token} {fuel : Nat} (isEnd : last.kind = .endOfInput)
    (reads : ReadsLevels last fuel) (isOpening : opening.kind = .opening) (inside : Bool)
    (tokens : List Token) (left : Array Value) (issues : Array Issue) (noEnd : NoEnd tokens)
    (enough : tokens.length + 2 ≤ fuel) :
    ReadsLevel last (continued grammar (fuel + 1) (levelBound inside) left) inside
      (opening :: tokens) left issues := by
  have strong : levelBound inside < grammar.power opening :=
    levelBound_lt_power (by simp [isOpening]) (by simp [isOpening]) inside
  have passing : Gives (advance : ListParser Token) (State.before (opening :: tokens) last issues)
      opening (State.before tokens last issues) :=
    gives_advance opening tokens last issues
  rcases sublist_gives isEnd reads opening tokens issues noEnd enough with
    ⟨inner, closing, behind, isClosing, innerLevel, gives⟩ | ⟨inner, unclosed, innerLevel, gives⟩
  · have suffix : behind <:+ tokens := (List.suffix_cons _ _).trans innerLevel.suffix
    have shorter := suffix.length_le
    obtain ⟨items, rest, strays, unclosed, level, continuing⟩ :=
      reads inside behind (left.push (.list inner opening.ref)) issues (noEnd.of_suffix suffix)
        (by omega)
    refine ⟨_, rest, strays, unclosed, .list isOpening isClosing innerLevel level, ?_⟩
    apply continued_passes strong passing (continueWith_gives_list isOpening gives left)
    simpa using continuing
  · obtain ⟨fuel, rfl⟩ : ∃ less, fuel = less + 1 := ⟨fuel - 1, by omega⟩
    refine ⟨_, [], [], unclosed + 1, .cutOff isOpening innerLevel, ?_⟩
    apply continued_passes strong passing (continueWith_gives_list isOpening gives left)
    simpa using continued_stops grammar fuel (left.push (.list inner opening.ref))
      (State.before [] last _) (power_last_le_levelBound isEnd inside)

theorem readsLevel_closing {last closing : Token} {fuel : Nat} (reads : ReadsLevels last fuel)
    (isClosing : closing.kind = .closing) (inside : Bool) (tokens : List Token)
    (left : Array Value) (issues : Array Issue) (noEnd : NoEnd tokens)
    (enough : tokens.length + 2 ≤ fuel) :
    ReadsLevel last (continued grammar (fuel + 1) (levelBound inside) left) inside
      (closing :: tokens) left issues := by
  cases inside with
  | true =>
      refine ⟨[], closing :: tokens, [], 0, .close isClosing, ?_⟩
      have weak : ¬ levelBound true < grammar.power closing := by
        simp [power_closing isClosing, levelBound, closingPower]
      simpa [levelIssues] using continued_stops grammar fuel left
        (State.before (closing :: tokens) last issues) weak
  | false =>
      obtain ⟨items, rest, strays, unclosed, level, continuing⟩ :=
        reads false tokens left (issues.push (strayIssue closing)) noEnd enough
      refine ⟨items, rest, closing :: strays, unclosed, .stray isClosing level, ?_⟩
      have strong : levelBound false < grammar.power closing := by
        simp [power_closing isClosing, levelBound]
      apply continued_passes strong (gives_advance closing tokens last issues)
        (continueWith_gives_stray isClosing _ left _)
      rw [push_strayIssue] at continuing
      exact continuing

theorem readsLevel_atom {last token : Token} {value : Value} {fuel : Nat}
    (reads : ReadsLevels last fuel) (atom : atom? token = some value) (inside : Bool)
    (tokens : List Token) (left : Array Value) (issues : Array Issue) (noEnd : NoEnd tokens)
    (enough : tokens.length + 2 ≤ fuel) :
    ReadsLevel last (continued grammar (fuel + 1) (levelBound inside) left) inside
      (token :: tokens) left issues := by
  have kind := kind_of_atom atom
  obtain ⟨items, rest, strays, unclosed, level, continuing⟩ :=
    reads inside tokens (left.push value) issues noEnd enough
  refine ⟨value :: items, rest, strays, unclosed, .atom atom level, ?_⟩
  apply continued_passes (levelBound_lt_power kind.1 kind.2.1 inside)
    (gives_advance token tokens last issues) (continueWith_gives_atom atom _ left _)
  simpa using continuing

theorem readsLevels {last : Token} (isEnd : last.kind = .endOfInput) (fuel : Nat) :
    ReadsLevels last fuel := by
  induction fuel with
  | zero => intro _ _ _ _ _ enough; omega
  | succ fuel ih =>
      intro inside tokens left issues noEnd enough
      cases tokens with
      | nil =>
          refine ⟨[], [], [], 0, .finish, ?_⟩
          simpa [levelIssues] using
            continued_stops grammar fuel left (State.before [] last issues) (power_last_le_levelBound isEnd inside)
      | cons token tokens =>
          have noEndBehind : NoEnd tokens := noEnd.of_suffix (List.suffix_cons _ _)
          have enoughBehind : tokens.length + 2 ≤ fuel := by
            simp only [List.length_cons] at enough
            omega
          rcases token_cases token (noEnd token (by simp)) with isOpening | isClosing | ⟨value, atom⟩
          · exact readsLevel_opening isEnd ih isOpening inside tokens left issues noEndBehind
              enoughBehind
          · exact readsLevel_closing ih isClosing inside tokens left issues noEndBehind enoughBehind
          · exact readsLevel_atom ih atom inside tokens left issues noEndBehind enoughBehind

def startsWithClosing : List Token → Bool
  | [] => false
  | token :: _ => token.kind = .closing

def sourceIssues (tokens : List Token) (last : Token) (unclosed : Nat) : List Token → List Issue
  | [] => levelIssues last [] unclosed
  | first :: others =>
    if startsWithClosing tokens then firstStrayIssue first :: levelIssues last others unclosed
    else levelIssues last (first :: others) unclosed

theorem sourceIssues_of_not_closing {tokens : List Token} (open_ : startsWithClosing tokens = false)
    (last : Token) (unclosed : Nat) (strays : List Token) :
    sourceIssues tokens last unclosed strays = levelIssues last strays unclosed := by
  cases strays <;> simp [sourceIssues, open_]

theorem expression_gives_source {last : Token} (isEnd : last.kind = .endOfInput) (fuel : Nat)
    (tokens : List Token) (noEnd : NoEnd tokens) (enough : tokens.length + 2 ≤ fuel) :
    ∃ items strays unclosed, Level false tokens items [] strays unclosed ∧
      Gives (expression grammar fuel 0) (State.before tokens last #[]) items.toArray
        (State.before [] last (sourceIssues tokens last unclosed strays).toArray) := by
  obtain ⟨fuel, rfl⟩ : ∃ less, fuel = less + 1 := ⟨fuel - 1, by omega⟩
  cases first : startsWithClosing tokens with
  | false =>
      have noStray : ∀ token ∈ tokens.head?, token.kind ≠ .closing := by
        cases tokens <;> simp_all [startsWithClosing]
      obtain ⟨items, rest, strays, unclosed, level, gives⟩ :=
        expression_gives_level isEnd (readsLevels isEnd (fuel + 1)) false tokens #[] noEnd enough
          noStray
      obtain rfl := level.ends_outside
      refine ⟨items, strays, unclosed, level, ?_⟩
      rw [sourceIssues_of_not_closing first]
      simpa [levelBound] using gives
  | true =>
      cases tokens with
      | nil => simp [startsWithClosing] at first
      | cons closing tokens =>
          have isClosing : closing.kind = .closing := by simpa [startsWithClosing] using first
          have enoughBehind : tokens.length + 2 ≤ fuel := by
            simp only [List.length_cons] at enough
            omega
          obtain ⟨items, rest, strays, unclosed, level, continuing⟩ :=
            readsLevels isEnd fuel false tokens #[] #[firstStrayIssue closing]
              (noEnd.of_suffix (List.suffix_cons _ _)) enoughBehind
          obtain rfl := level.ends_outside
          refine ⟨items, closing :: strays, unclosed, .stray isClosing level, ?_⟩
          have behind : Gives (continued grammar fuel 0 #[])
              (State.before tokens last #[firstStrayIssue closing]) items.toArray
              (State.before [] last
                (sourceIssues (closing :: tokens) last unclosed (closing :: strays)).toArray) := by
            simpa [levelBound, sourceIssues, first] using continuing
          exact expression_gives (gives_advance closing tokens last #[])
            (startWith_gives_stray isClosing _ _) behind

/-- What is read from tokens, whatever source they come from. -/
def readTokens (tokens : List Token) (ending : Except Fatal Token) : Reading :=
  match State.start ⟨tokens, ending⟩ with
  | .error failure => ⟨.error (.stream failure), []⟩
  | .ok state =>
    let (roots, last) := parse grammar 0 state
    ⟨roots.map Array.toList, last.issues.toList⟩

theorem read_eq_readTokens (source : Source) :
    read source = readTokens source.tokens source.ending :=
  rfl

theorem readTokens_gives {last : Token} (isEnd : last.kind = .endOfInput) {tokens : List Token}
    (noEnd : NoEnd tokens) :
    ∃ items strays unclosed, Level false tokens items [] strays unclosed ∧
      readTokens tokens (.ok last) = ⟨.ok items, sourceIssues tokens last unclosed strays⟩ := by
  have enough : tokens.length + 2 ≤
      (State.before tokens last #[] : State Token Fatal Issue).fuel := by
    simp only [State.before, State.fuel, List.length_tail]
    omega
  obtain ⟨items, strays, unclosed, level, gives⟩ :=
    expression_gives_source isEnd _ tokens noEnd enough
  refine ⟨items, strays, unclosed, level, ?_⟩
  unfold Gives at gives
  simp only [readTokens, start_before, parse, gives]
  simp [Except.map, State.before]

theorem read_gives {source : Source} {last : Token} (ended : source.ending = .ok last)
    (isEnd : last.kind = .endOfInput) (noEnd : NoEnd source.tokens) :
    ∃ items strays unclosed, Level false source.tokens items [] strays unclosed ∧
      read source = ⟨.ok items, sourceIssues source.tokens last unclosed strays⟩ := by
  rw [read_eq_readTokens, ended]
  exact readTokens_gives isEnd noEnd

end Reader

end Lisplet
