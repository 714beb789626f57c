import Lisplet.Proofs.Recovery
import Lisplet.Proofs.Tiling

/-!
What is made of sources that the lexer fails in. The failure breaks reading off, and the strays that
the parser got to are reported before it.
-/

namespace Lisplet

namespace Precedence

variable {Tok Failure Issue Tree Result Other : Type}

/-- The stream fails before the parser is done. -/
def Breaks (parser : Parser Tok Failure Issue Result) (state : State Tok Failure Issue)
    (failure : Failure) (issues : Array Issue) : Prop :=
  ∃ later, parser.run.run state = (.error (.stream failure), later) ∧ later.issues = issues

theorem Breaks.bind {parser : Parser Tok Failure Issue Result} {state : State Tok Failure Issue}
    {failure : Failure} {issues : Array Issue} (breaks : Breaks parser state failure issues)
    (next : Result → Parser Tok Failure Issue Other) :
    Breaks (parser >>= next) state failure issues := by
  obtain ⟨later, first, same⟩ := breaks
  refine ⟨later, ?_, same⟩
  simp only [ExceptT.run_bind, StateT.run_bind, first]
  rfl

theorem Gives.breaks {parser : Parser Tok Failure Issue Result}
    {next : Result → Parser Tok Failure Issue Other} {state middle : State Tok Failure Issue}
    {result : Result} {failure : Failure} {issues : Array Issue}
    (first : Gives parser state result middle)
    (second : Breaks (next result) middle failure issues) :
    Breaks (parser >>= next) state failure issues := by
  obtain ⟨later, second, same⟩ := second
  refine ⟨later, ?_, same⟩
  unfold Gives at first
  simp only [ExceptT.run_bind, StateT.run_bind, first]
  exact second

/-- The state in front of tokens that the stream fails behind. -/
def State.failing (current : Tok) (behind : List Tok) (failure : Failure) (issues : Array Issue) :
    State Tok Failure Issue :=
  ⟨current, ⟨behind, .error failure⟩, issues⟩

theorem gives_peek_failing (token : Tok) (behind : List Tok) (failure : Failure)
    (issues : Array Issue) :
    Gives peek (State.failing token behind failure issues) token
      (State.failing token behind failure issues) :=
  rfl

theorem gives_advance_failing (token next : Tok) (behind : List Tok) (failure : Failure)
    (issues : Array Issue) :
    Gives advance (State.failing token (next :: behind) failure issues) token
      (State.failing next behind failure issues) :=
  rfl

theorem breaks_advance (token : Tok) (failure : Failure) (issues : Array Issue) :
    Breaks advance (State.failing token [] failure issues) failure issues :=
  ⟨_, rfl, rfl⟩

theorem continued_breaks_last {grammar : Grammar Tok Failure Issue Tree} (fuel : Nat) {bound : Int}
    (left : Tree) {token : Tok} (strong : bound < grammar.power token) (failure : Failure)
    (issues : Array Issue) :
    Breaks (continued grammar (fuel + 1) bound left) (State.failing token [] failure issues) failure
      issues := by
  have atToken : bound < grammar.power
      (State.failing token [] failure issues : State Tok Failure Issue).current := strong
  rw [continued]
  apply (gives_peek _).breaks
  rw [if_pos atToken]
  exact (breaks_advance token failure issues).bind _

theorem continued_breaks {grammar : Grammar Tok Failure Issue Tree} {fuel : Nat} {bound : Int}
    {left : Tree} {state passed : State Tok Failure Issue} {token : Tok} {failure : Failure}
    {issues : Array Issue} (strong : bound < grammar.power state.current)
    (passing : Gives advance state token passed)
    (extending : Breaks (grammar.continueWith (expression grammar fuel) token left >>=
      continued grammar fuel bound) passed failure issues) :
    Breaks (continued grammar (fuel + 1) bound left) state failure issues := by
  rw [continued]
  apply (gives_peek state).breaks
  rw [if_pos strong]
  exact passing.breaks extending

end Precedence

namespace Reader

open Precedence

/-- How the tokens of one level are read if the lexer fails behind them. The parser waits for what
follows the last one, and so meets no rule for it. -/
inductive Broken : (inside : Bool) → (tokens strays : List Token) → Prop
  | last {inside token} : Broken inside [token] []
  | stray {token tokens strays} : token.kind = .closing → Broken false tokens strays →
      Broken false (token :: tokens) (token :: strays)
  | atom {inside token tokens value strays} : atom? token = some value →
      Broken inside tokens strays → Broken inside (token :: tokens) strays
  | list {inside opening closing tokens behind inner strays} :
      opening.kind = .opening → closing.kind = .closing →
      Level true tokens inner (closing :: behind) [] 0 → Broken inside behind strays →
      Broken inside (opening :: tokens) strays
  | lastOfList {inside opening closing tokens inner} :
      opening.kind = .opening → closing.kind = .closing → Level true tokens inner [closing] [] 0 →
      Broken inside (opening :: tokens) []
  | within {inside opening tokens} : opening.kind = .opening → Broken true tokens [] →
      Broken inside (opening :: tokens) []

theorem Broken.ne_nil {inside tokens strays} (broken : Broken inside tokens strays) :
    tokens ≠ [] := by
  cases broken <;> exact List.cons_ne_nil _ _

theorem Broken.inside {tokens strays} (broken : Broken true tokens strays) : strays = [] := by
  generalize same : true = inside at broken
  induction broken with
  | last => rfl
  | stray _ _ _ => cases same
  | atom _ _ ih => exact ih same
  | list _ _ _ _ ih => exact ih same
  | lastOfList _ _ _ => rfl
  | within _ _ _ => rfl

/-- All strays in front of the last token are met. -/
theorem Broken.strays_eq {inside tokens strays} (broken : Broken inside tokens strays) {depth : Nat}
    (fits : inside = true ↔ 0 < depth) : Token.strays depth tokens.dropLast = strays := by
  induction broken generalizing depth with
  | last => rfl
  | stray isClosing behind ih =>
      obtain rfl : depth = 0 := by simpa using fits
      have others := @ih 0 (by simp)
      rw [List.dropLast_cons_of_ne_nil behind.ne_nil, Token.strays_cons, Token.openBehind, isClosing]
      simp [Token.isStray, Token.isClosing, isClosing, others]
  | atom atom behind ih =>
      obtain ⟨-, notClosing, notOpening⟩ := kind_of_atom atom
      rw [List.dropLast_cons_of_ne_nil behind.ne_nil]
      have passed := Token.depthBehind_other notOpening notClosing depth []
      exact (Token.strays_append passed _).trans (ih fits)
  | @list _ opening closing _ behind _ _ isOpening isClosing inner broken ih =>
      obtain ⟨front, rfl, passes, -⟩ := inner.front rfl
      have passed := Token.depthBehind_list isOpening isClosing (passes (depth + 1))
      have spelled : opening :: (front ++ closing :: behind) =
          opening :: front ++ [closing] ++ behind := by simp
      rw [spelled, List.dropLast_append_of_ne_nil broken.ne_nil, Token.strays_append passed]
      exact ih fits
  | @lastOfList _ opening closing _ _ isOpening isClosing inner =>
      obtain ⟨front, rfl, passes, -⟩ := inner.front rfl
      have opened := (Token.depthBehind_opening isOpening depth front).trans (passes _)
      rw [← List.cons_append, List.dropLast_concat]
      have whole := Token.strays_append opened []
      rwa [List.append_nil] at whole
  | within isOpening inner ih =>
      rw [List.dropLast_cons_of_ne_nil inner.ne_nil]
      have opened := Token.depthBehind_opening isOpening depth []
      exact (Token.strays_append opened _).trans (ih (by simp))

/-- A level comes to its end or is broken off by the failure of the lexer. -/
def EndsLevel (failure : Fatal) (parser : ListParser (Array Value)) (inside : Bool) (token : Token)
    (tokens : List Token) (left : Array Value) (issues : Array Issue) : Prop :=
  (∃ items closing behind, closing.kind = .closing ∧
    Level inside (token :: tokens) items (closing :: behind) [] 0 ∧
    Gives parser (State.failing token tokens failure issues) (left ++ items.toArray)
      (State.failing closing behind failure issues)) ∨
  ∃ strays, Broken inside (token :: tokens) strays ∧
    Breaks parser (State.failing token tokens failure issues) failure
      (issues ++ (strays.map strayIssue).toArray)

def EndsLevels (failure : Fatal) (fuel : Nat) : Prop :=
  ∀ inside token tokens left issues, NoEnd (token :: tokens) → tokens.length + 3 ≤ fuel →
    EndsLevel failure (continued grammar fuel (levelBound inside) left) inside token tokens left
      issues

theorem expression_ends_level {failure : Fatal} {fuel : Nat} (ends : EndsLevels failure fuel)
    (inside : Bool) {token : Token} (tokens : List Token) (issues : Array Issue)
    (noEnd : NoEnd (token :: tokens)) (enough : tokens.length + 3 ≤ fuel)
    (notClosing : token.kind ≠ .closing) :
    EndsLevel failure (expression grammar fuel (levelBound inside)) inside token tokens #[]
      issues := by
  obtain ⟨fuel, rfl⟩ : ∃ less, fuel = less + 1 := ⟨fuel - 1, by omega⟩
  have noEndHere := noEnd token (by simp)
  have same : (expression grammar (fuel + 1) (levelBound inside)).run.run
      (State.failing token tokens failure issues) = _ :=
    expression_eq_continued fuel (levelBound_lt_power noEndHere notClosing inside)
      (startWith_eq_continueWith noEndHere notClosing)
  have continuing := ends inside token tokens #[] issues noEnd enough
  unfold EndsLevel Gives Breaks at *
  rwa [same]

theorem sublistItems_ends {failure : Fatal} {fuel : Nat} (ends : EndsLevels failure fuel)
    (token : Token) (tokens : List Token) (issues : Array Issue) (noEnd : NoEnd (token :: tokens))
    (enough : tokens.length + 3 ≤ fuel) :
    EndsLevel failure (sublistItems (expression grammar fuel)) true token tokens #[] issues := by
  by_cases isClosing : token.kind = .closing
  · left
    refine ⟨[], token, tokens, isClosing, .close isClosing, ?_⟩
    rw [sublistItems]
    apply (gives_peek_failing token tokens failure issues).bind
    rw [if_pos isClosing]
    exact Gives.pure #[] _
  · rcases expression_ends_level ends true tokens issues noEnd enough isClosing with
      ⟨items, closing, behind, closes, level, reading⟩ | ⟨strays, broken, breaking⟩
    · refine .inl ⟨items, closing, behind, closes, level, ?_⟩
      rw [sublistItems]
      apply (gives_peek_failing token tokens failure issues).bind
      rwa [if_neg isClosing]
    · refine .inr ⟨strays, broken, ?_⟩
      rw [sublistItems]
      apply (gives_peek_failing token tokens failure issues).breaks
      rwa [if_neg isClosing]

theorem passClosing_breaks {closing : Token} (isClosing : closing.kind = .closing)
    (failure : Fatal) (issues : Array Issue) :
    Breaks passClosing (State.failing closing [] failure issues) failure issues := by
  rw [passClosing]
  apply (gives_peek_failing closing [] failure issues).breaks
  rw [if_pos isClosing]
  exact (breaks_advance closing failure issues).bind _

theorem sublist_ends {failure : Fatal} {fuel : Nat} (ends : EndsLevels failure fuel)
    {opening : Token} (isOpening : opening.kind = .opening) (token : Token) (tokens : List Token)
    (issues : Array Issue) (noEnd : NoEnd (token :: tokens)) (enough : tokens.length + 3 ≤ fuel) :
    (∃ inner closing next behind, closing.kind = .closing ∧
      Level true (token :: tokens) inner (closing :: next :: behind) [] 0 ∧
      Gives (sublist (expression grammar fuel) opening) (State.failing token tokens failure issues)
        (.list inner opening.ref) (State.failing next behind failure issues)) ∨
    (∀ inside, Broken inside (opening :: token :: tokens) []) ∧
      Breaks (sublist (expression grammar fuel) opening) (State.failing token tokens failure issues)
        failure issues := by
  rcases sublistItems_ends ends token tokens issues noEnd enough with
    ⟨items, closing, behind, isClosing, level, reading⟩ | ⟨strays, broken, breaking⟩
  · cases behind with
    | nil =>
        right
        refine ⟨fun inside => .lastOfList isOpening isClosing level, ?_⟩
        rw [sublist]
        exact reading.breaks ((passClosing_breaks isClosing failure issues).bind _)
    | cons next behind =>
        left
        refine ⟨items, closing, next, behind, isClosing, level, ?_⟩
        rw [sublist]
        apply reading.bind
        have passing := gives_advance_failing closing next behind failure issues
        apply (passClosing_gives isClosing passing).bind
        simpa using Gives.pure _ _
  · right
    obtain rfl := broken.inside
    refine ⟨fun inside => .within isOpening broken, ?_⟩
    rw [sublist]
    simpa using breaking.bind _

theorem continued_ends_opening {failure : Fatal} {fuel : Nat} (ends : EndsLevels failure fuel)
    {opening : Token} (isOpening : opening.kind = .opening) (inside : Bool) (token : Token)
    (tokens : List Token) (left : Array Value) (issues : Array Issue)
    (noEnd : NoEnd (token :: tokens)) (enough : tokens.length + 3 ≤ fuel) :
    EndsLevel failure (continued grammar (fuel + 1) (levelBound inside) left) inside opening
      (token :: tokens) left issues := by
  have strong : levelBound inside < grammar.power opening :=
    levelBound_lt_power (by simp [isOpening]) (by simp [isOpening]) inside
  have passing := gives_advance_failing opening token tokens failure issues
  rcases sublist_ends ends isOpening token tokens issues noEnd enough with
    ⟨inner, closing, next, behind, isClosing, innerLevel, gives⟩ | ⟨broken, breaking⟩
  · have extending := continueWith_gives_list isOpening gives left
    have suffix : next :: behind <:+ token :: tokens :=
      (List.suffix_cons _ _).trans innerLevel.suffix
    have shorter := suffix.length_le
    simp only [List.length_cons] at shorter
    rcases ends inside next behind (left.push (.list inner opening.ref)) issues
        (noEnd.of_suffix suffix) (by omega) with
      ⟨items, last, rest, isLast, level, continuing⟩ | ⟨strays, broken, breaking⟩
    · refine .inl ⟨_, last, rest, isLast, .list isOpening isClosing innerLevel level, ?_⟩
      apply continued_passes strong passing extending
      simpa using continuing
    · refine .inr ⟨strays, .list isOpening isClosing innerLevel broken, ?_⟩
      exact continued_breaks strong passing (extending.breaks breaking)
  · refine .inr ⟨[], broken inside, ?_⟩
    apply continued_breaks strong passing
    rw [continueWith_opening isOpening, List.map_nil, Array.append_empty]
    exact (breaking.bind _).bind _

theorem continued_ends_stray {failure : Fatal} {fuel : Nat} (ends : EndsLevels failure fuel)
    {closing : Token} (isClosing : closing.kind = .closing) (token : Token) (tokens : List Token)
    (left : Array Value) (issues : Array Issue) (noEnd : NoEnd (token :: tokens))
    (enough : tokens.length + 3 ≤ fuel) :
    EndsLevel failure (continued grammar (fuel + 1) (levelBound false) left) false closing
      (token :: tokens) left issues := by
  have strong : levelBound false < grammar.power closing := by
    simp [power_closing isClosing, levelBound]
  have passing := gives_advance_failing closing token tokens failure issues
  have extending := continueWith_gives_stray isClosing (expression grammar fuel) left
    (State.failing token tokens failure issues)
  rcases ends false token tokens left (issues.push (strayIssue closing)) noEnd enough with
    ⟨items, last, rest, isLast, level, continuing⟩ | ⟨strays, broken, breaking⟩
  · exact absurd level.ends_outside (List.cons_ne_nil _ _)
  · refine .inr ⟨closing :: strays, .stray isClosing broken, ?_⟩
    apply continued_breaks strong passing
    apply extending.breaks
    simpa [State.failing] using breaking

theorem continued_ends_atom {failure : Fatal} {fuel : Nat} (ends : EndsLevels failure fuel)
    {atom : Token} {value : Value} (isAtom : atom? atom = some value) (inside : Bool)
    (token : Token) (tokens : List Token) (left : Array Value) (issues : Array Issue)
    (noEnd : NoEnd (token :: tokens)) (enough : tokens.length + 3 ≤ fuel) :
    EndsLevel failure (continued grammar (fuel + 1) (levelBound inside) left) inside atom
      (token :: tokens) left issues := by
  have kind := kind_of_atom isAtom
  have strong := levelBound_lt_power kind.1 kind.2.1 inside
  have passing := gives_advance_failing atom token tokens failure issues
  have extending := continueWith_gives_atom isAtom (expression grammar fuel) left
    (State.failing token tokens failure issues)
  rcases ends inside token tokens (left.push value) issues noEnd enough with
    ⟨items, last, rest, isLast, level, continuing⟩ | ⟨strays, broken, breaking⟩
  · refine .inl ⟨value :: items, last, rest, isLast, .atom isAtom level, ?_⟩
    apply continued_passes strong passing extending
    simpa using continuing
  · exact .inr ⟨strays, .atom isAtom broken,
      continued_breaks strong passing (extending.breaks breaking)⟩

theorem levelBound_lt_power_of_goes {token : Token} (noEnd : token.kind ≠ .endOfInput)
    {inside : Bool} (goes : ¬ (inside = true ∧ token.kind = .closing)) :
    levelBound inside < grammar.power token := by
  by_cases isClosing : token.kind = .closing
  · obtain rfl : inside = false := by simpa [isClosing] using goes
    simp [power_closing isClosing, levelBound]
  · exact levelBound_lt_power noEnd isClosing inside

theorem endsLevels (failure : Fatal) (fuel : Nat) : EndsLevels failure fuel := by
  induction fuel with
  | zero => intro _ _ _ _ _ _ enough; omega
  | succ fuel ih =>
      intro inside token tokens left issues noEnd enough
      have noEndHere := noEnd token (by simp)
      by_cases ended : inside = true ∧ token.kind = .closing
      · obtain ⟨rfl, isClosing⟩ := ended
        refine .inl ⟨[], token, tokens, isClosing, .close isClosing, ?_⟩
        have weak : ¬ levelBound true < grammar.power token := by
          simp [power_closing isClosing, levelBound, closingPower]
        simpa using continued_stops grammar fuel left
          (State.failing token tokens failure issues) weak
      · cases tokens with
        | nil =>
            refine .inr ⟨[], .last, ?_⟩
            rw [List.map_nil, Array.append_empty]
            exact continued_breaks_last fuel left (levelBound_lt_power_of_goes noEndHere ended)
              failure issues
        | cons next behind =>
            have noEndBehind := noEnd.of_suffix (List.suffix_cons _ _)
            have enoughBehind : behind.length + 3 ≤ fuel := by
              simp only [List.length_cons] at enough
              omega
            rcases token_cases token noEndHere with isOpening | isClosing | ⟨value, atom⟩
            · exact continued_ends_opening ih isOpening inside next behind left issues noEndBehind
                enoughBehind
            · obtain rfl : inside = false := by
                simpa [isClosing] using ended
              exact continued_ends_stray ih isClosing next behind left issues noEndBehind
                enoughBehind
            · exact continued_ends_atom ih atom inside next behind left issues noEndBehind
                enoughBehind

theorem strayIssues_of_not_closing {tokens : List Token} (open_ : startsWithClosing tokens = false) :
    Token.strayIssues tokens = (Token.strays 0 tokens).map strayIssue := by
  cases tokens with
  | nil => rfl
  | cons first tokens =>
      have shape : first.isClosing = false := open_
      simp [Token.strayIssues, Token.strays_cons, Token.isStray, shape]

theorem expression_breaks_stray (failure : Fatal) {fuel : Nat} {closing : Token}
    (isClosing : closing.kind = .closing) {tokens : List Token} (noEnd : NoEnd tokens)
    (enough : tokens.length + 3 ≤ fuel) :
    Breaks (expression grammar fuel 0) (State.failing closing tokens failure #[]) failure
      (Token.strayIssues (closing :: tokens).dropLast).toArray := by
  obtain ⟨fuel, rfl⟩ : ∃ less, fuel = less + 1 := ⟨fuel - 1, by omega⟩
  rw [expression]
  cases tokens with
  | nil => exact (breaks_advance closing failure #[]).bind _
  | cons next behind =>
      have enoughBehind : behind.length + 3 ≤ fuel := by
        simp only [List.length_cons] at enough
        omega
      apply (gives_advance_failing closing next behind failure #[]).breaks
      apply (startWith_gives_stray isClosing _ _).breaks
      rcases endsLevels failure fuel false next behind #[] #[firstStrayIssue closing] noEnd
          enoughBehind with
        ⟨items, last, rest, isLast, level, reading⟩ | ⟨strays, broken, breaking⟩
      · exact absurd level.ends_outside (List.cons_ne_nil _ _)
      · have met : Token.strays 0 (next :: behind).dropLast = strays := broken.strays_eq (by simp)
        have same : Token.strayIssues (closing :: next :: behind).dropLast =
            firstStrayIssue closing :: strays.map strayIssue := by
          simp [Token.strayIssues, Token.isClosing, Token.openBehind, isClosing, ← met]
        rw [same]
        simpa [levelBound, State.failing] using breaking

theorem expression_breaks_source (failure : Fatal) {fuel : Nat} {token : Token}
    {tokens : List Token} (noEnd : NoEnd (token :: tokens)) (enough : tokens.length + 3 ≤ fuel) :
    Breaks (expression grammar fuel 0) (State.failing token tokens failure #[]) failure
      (Token.strayIssues (token :: tokens).dropLast).toArray := by
  by_cases isClosing : token.kind = .closing
  · exact expression_breaks_stray failure isClosing (noEnd.of_suffix (List.suffix_cons _ _)) enough
  · rcases expression_ends_level (endsLevels failure fuel) false tokens #[] noEnd enough isClosing with
      ⟨items, last, rest, isLast, level, reading⟩ | ⟨strays, broken, breaking⟩
    · exact absurd level.ends_outside (List.cons_ne_nil _ _)
    · have notStray : startsWithClosing (token :: tokens).dropLast = false := by
        cases tokens <;> simp [startsWithClosing, isClosing]
      rw [strayIssues_of_not_closing notStray, broken.strays_eq (by simp)]
      simpa [levelBound] using breaking

/-- The failure hides the last token before it, and nothing else. -/
theorem read_breaks {source : Source} {failure : Fatal} (ended : source.ending = .error failure) :
    read source = ⟨.error (.stream failure), Token.strayIssues source.tokens.dropLast⟩ := by
  have noEnd := source.tokens_kind
  rw [read_eq_readTokens, ended]
  generalize source.tokens = tokens at noEnd
  cases tokens with
  | nil => rfl
  | cons token tokens =>
      have enough : tokens.length + 3 ≤
          (State.failing token tokens failure #[] : State Token Fatal Issue).fuel := by
        simp only [State.fuel, State.failing]
        omega
      obtain ⟨later, breaking, same⟩ := expression_breaks_source failure noEnd enough
      have started : State.start ⟨token :: tokens, .error failure⟩ =
          .ok (State.failing token tokens failure #[] : State Token Fatal Issue) := rfl
      simp [readTokens, started, parse, breaking, same, Except.map]

end Reader

/-! ### Numbers with too many digits -/

/-- The text has a whole number of that many digits, more than are converted. -/
def HasOversized (text : Text) (count : Nat) : Prop :=
  ∃ word negative digits, word <:+: text ∧ Decimal.wholeLiteral? word = some (negative, digits) ∧
    digits.length = count ∧ NumberToken.mostDigits < count

namespace Source

open Reader

theorem ending_of_readAll {source : Source} {roots : List Value}
    (done : source.readAll = .ok roots) : ∃ last, source.ending = .ok last := by
  cases ended : source.ending with
  | ok last => exact ⟨last, rfl⟩
  | error failure =>
      rw [readAll, read_breaks ended] at done
      cases done

/-- A reading comes to a result or reports issues, unless the source has a number with more digits
than are converted. -/
def Settles {Result : Type} (source : Source) : Except ReadFailure Result → Prop
  | .ok _ => True
  | .error (.issues issues) => issues ≠ []
  | .error (.oversizedNumber count) => HasOversized source.text count

theorem oversized_of_ending {source : Source} {count : Nat}
    (failed : source.ending = .error (.oversizedNumber count)) :
    HasOversized source.text count := by
  obtain ⟨front, rest, whole, fails⟩ := ending_fails failed
  obtain ⟨word, behind, negative, digits, rfl, -, -, literal, length, tooLong⟩ := fails
  exact ⟨word, negative, digits, ⟨front, behind, by simp [whole]⟩, literal, length, tooLong⟩

theorem settles_brokenOff {Result : Type} {source : Source} {failure : Fatal}
    (ended : source.ending = .error failure) (issues : List Issue) :
    source.Settles (.error (brokenOff issues (.stream failure)) : Except ReadFailure Result) := by
  cases failure with
  | issue fatal => simp [brokenOff, Settles]
  | oversizedNumber count => exact oversized_of_ending ended

theorem settles_if {Result : Type} (source : Source) (issues : List Issue) (result : Result) :
    source.Settles (if issues = [] then .ok result else .error (.issues issues)) := by
  split
  · trivial
  · assumption

/-- Reading fails with issues only, or at a number with too many digits. -/
theorem reading_settles (source : Source) :
    source.Settles source.readAll ∧ source.Settles source.readOne := by
  cases ended : source.ending with
  | error failure =>
      have reading := read_breaks ended
      rw [readAll, readOne, reading]
      exact ⟨settles_brokenOff ended _, settles_brokenOff ended _⟩
  | ok last =>
      obtain ⟨roots, strays, unclosed, level, reading⟩ :=
        read_gives ended (ending_kind ended) (tokens_kind source)
      rw [readAll_of_reading reading]
      refine ⟨settles_if _ _ _, ?_⟩
      rcases roots with _ | ⟨root, _ | ⟨second, rest⟩⟩
      · obtain ⟨issue, -, failed⟩ := readOne_of_roots reading (by simp)
        rw [failed]
        simp [Settles]
      · rw [readOne_of_root reading]
        exact settles_if _ _ _
      · obtain ⟨issue, -, failed⟩ := readOne_of_roots reading (by simp)
        rw [failed]
        simp [Settles]

/-- A source that is one number with too many digits is refused without an issue. -/
theorem readAll_oversized (name : Text) {digits : Text}
    (allDigits : ∀ point ∈ digits, point.isDigit = true)
    (tooLong : NumberToken.mostDigits < digits.length) :
    (ofText name digits).readAll = .error (.oversizedNumber digits.length) := by
  rw [readAll, read_breaks (ending_oversized name allDigits tooLong)]
  rfl

theorem readAll_without_issue : ¬ ∀ (source : Source) (failure : ReadFailure),
    source.readAll = .error failure → ∃ issues, failure = .issues issues ∧ issues ≠ [] := by
  intro reported
  obtain ⟨allDigits, tooLong⟩ := NumberToken.ones_oversized
  obtain ⟨issues, same, -⟩ := reported _ _ (readAll_oversized "digits" allDigits tooLong)
  cases same

/-! ### Sources with an open string or a malformed number -/

/-- Behind all strays that stand in front of the last token, the failure of the lexer is reported,
and nothing else is. -/
theorem readings_breakOff {source : Source} {fatal : Issue}
    (ended : source.ending = .error (.issue fatal)) :
    let issues := Token.strayIssues source.tokens.dropLast ++ [fatal]
    (fatal.kind = .invalidNumber ∨ fatal.kind = .unterminatedString) ∧
      source.readAll = .error (.issues issues) ∧ source.readOne = .error (.issues issues) := by
  intro issues
  obtain ⟨front, rest, -, fails⟩ := ending_fails ended
  have reading := read_breaks ended
  refine ⟨fails.kind, ?_, ?_⟩
  · rw [readAll, reading]
    rfl
  · rw [readOne, reading]
    rfl

theorem ending_of_openString {source : Source} {body : Text} {tokens : List Token} (front : Text)
    (whole : source.text = front ++ Text.doubleQuote :: body)
    (open_ : Lexer.stringBody? body = none)
    (lexes : Lexer.Lexes source ⟨source.text, Position.start⟩
      ⟨Text.doubleQuote :: body, Position.start.advance front⟩ tokens) :
    source.tokens = tokens ∧ source.ending = .error
      (.issue ⟨.unterminatedString, some ((Position.start.advance front).toRef source)⟩) := by
  obtain ⟨handed, ended⟩ := lexes
  obtain ⟨⟨none_, stopped⟩, -⟩ := Lexer.fails_string whole open_
  rw [none_, List.append_nil] at handed
  rw [stopped] at ended
  exact ⟨handed, by simp [ending, walk, ended, Except.map]⟩

theorem readings_breakOff_twice :
    let source := Source.ofText "twice" "))\""
    ∃ fatal, source.ending = .error (.issue fatal) ∧
      let issues := Token.strayIssues source.tokens.dropLast ++ [fatal]
      issues.map (fun issue => (issue.kind, issue.ref)) =
          [(.invalidNudToken, some ⟨source, 0, 0⟩), (.unterminatedString, some ⟨source, 0, 2⟩)] ∧
        (fatal.kind = .invalidNumber ∨ fatal.kind = .unterminatedString) ∧
        source.readAll = .error (.issues issues) ∧ source.readOne = .error (.issues issues) := by
  intro source
  have lexes := (Lexer.lexes_closing source Position.start ")\"").trans
    (Lexer.lexes_closing source ⟨0, 1⟩ "\"")
  obtain ⟨tokens, ended⟩ := ending_of_openString "))" rfl rfl lexes
  refine ⟨_, ended, ?_, readings_breakOff ended⟩
  rw [tokens]
  rfl

/-- The parser rules on a token when it has the next one, so it says nothing about a stray that is
the last token. -/
theorem readings_hideLast : ¬ ∀ (source : Source) (fatal : Issue),
    source.ending = .error (.issue fatal) →
      source.readAll = .error (.issues (Token.strayIssues source.tokens ++ [fatal])) := by
  intro reported
  have lexes := Lexer.lexes_closing (ofText "hidden" ")\"") Position.start "\""
  obtain ⟨tokens, ended⟩ := ending_of_openString ")" rfl rfl lexes
  have all := reported _ _ ended
  rw [readAll, read_breaks ended, tokens] at all
  simp [brokenOff, Token.strayIssues, Token.isClosing, Token.kind, Lexeme.kind] at all

end Source

end Lisplet
