import Lisplet.Proofs.Lexing
import Lisplet.Proofs.Parsing

/-!
The sources that can be read are those whose parentheses match, and the values that are read
spell the tokens of their source.
-/

namespace Lisplet

/-! ### Tokens that match -/

namespace Token

def isOpening (token : Token) : Bool :=
  token.kind = .opening

def isClosing (token : Token) : Bool :=
  token.kind = .closing

/-- No prefix closes more parentheses than it opens, and in total as many close as open. -/
def Balanced (tokens : List Token) : Prop :=
  (∀ front, front <+: tokens → front.countP isClosing ≤ front.countP isOpening) ∧
    tokens.countP isOpening = tokens.countP isClosing

/-- How many parentheses are open behind the tokens if `depth` are open in front of them. Nothing
if one closes that is not open. -/
def depthBehind? (depth : Nat) : List Token → Option Nat
  | [] => some depth
  | token :: tokens =>
    match token.kind, depth with
    | .opening, depth => depthBehind? (depth + 1) tokens
    | .closing, 0 => none
    | .closing, depth + 1 => depthBehind? depth tokens
    | _, depth => depthBehind? depth tokens

theorem depthBehind_opening {token : Token} (isOpening : token.kind = .opening) (depth : Nat)
    (tokens : List Token) :
    depthBehind? depth (token :: tokens) = depthBehind? (depth + 1) tokens := by
  simp [depthBehind?, isOpening]

theorem depthBehind_closing {token : Token} (isClosing : token.kind = .closing) (depth : Nat)
    (tokens : List Token) :
    depthBehind? (depth + 1) (token :: tokens) = depthBehind? depth tokens := by
  simp [depthBehind?, isClosing]

theorem depthBehind_stray {token : Token} (isClosing : token.kind = .closing)
    (tokens : List Token) : depthBehind? 0 (token :: tokens) = none := by
  simp [depthBehind?, isClosing]

theorem depthBehind_other {token : Token} (notOpening : token.kind ≠ .opening)
    (notClosing : token.kind ≠ .closing) (depth : Nat) (tokens : List Token) :
    depthBehind? depth (token :: tokens) = depthBehind? depth tokens := by
  cases shape : token.kind <;> simp_all [depthBehind?]

def NeverBelow (depth : Nat) (tokens : List Token) : Prop :=
  ∀ front, front <+: tokens → front.countP isClosing ≤ depth + front.countP isOpening

theorem neverBelow_nil (depth : Nat) : NeverBelow depth [] := by
  intro front isFront
  rw [List.prefix_nil.1 isFront]
  exact Nat.zero_le _

theorem neverBelow_cons (depth : Nat) (token : Token) (tokens : List Token) :
    NeverBelow depth (token :: tokens) ↔ ∀ front, front <+: tokens →
      (token :: front).countP isClosing ≤ depth + (token :: front).countP isOpening := by
  constructor
  · intro never front isFront
    exact never (token :: front) (List.cons_prefix_cons.2 ⟨rfl, isFront⟩)
  · intro never front isFront
    rcases List.prefix_cons_iff.1 isFront with rfl | ⟨rest, rfl, isRest⟩
    · exact Nat.zero_le _
    · exact never rest isRest

theorem depthBehind_eq_some (depth final : Nat) (tokens : List Token) :
    depthBehind? depth tokens = some final ↔ NeverBelow depth tokens ∧
      depth + tokens.countP isOpening = final + tokens.countP isClosing := by
  induction tokens generalizing depth with
  | nil => simp [depthBehind?, neverBelow_nil]
  | cons token tokens ih =>
      rw [neverBelow_cons]
      by_cases opens : token.kind = .opening
      · have counts : isOpening token = true ∧ isClosing token = false := by
          simp [isOpening, isClosing, opens]
        rw [depthBehind_opening opens, ih, NeverBelow]
        simp only [List.countP_cons, counts, if_true, Nat.add_assoc, Nat.add_comm 1]
        simp
      · by_cases closes : token.kind = .closing
        · have counts : isOpening token = false ∧ isClosing token = true := by
            simp [isOpening, isClosing, closes]
          cases depth with
          | zero =>
              rw [depthBehind_stray closes]
              simp only [reduceCtorEq, false_iff, not_and]
              intro never
              have first := never [] List.nil_prefix
              simp [counts] at first
          | succ depth =>
              rw [depthBehind_closing closes, ih, NeverBelow]
              simp only [List.countP_cons, counts, if_true]
              refine and_congr (forall_congr' fun front => imp_congr_right fun _ => ?_) ?_
              · simp only [Bool.false_eq_true, if_false]
                omega
              · simp only [Bool.false_eq_true, if_false]
                omega
        · have counts : isOpening token = false ∧ isClosing token = false := by
            simp [isOpening, isClosing, opens, closes]
          rw [depthBehind_other opens closes, ih, NeverBelow]
          simp [counts]

theorem balanced_iff_depthBehind (tokens : List Token) :
    Balanced tokens ↔ depthBehind? 0 tokens = some 0 := by
  rw [depthBehind_eq_some]
  simp [Balanced, NeverBelow]

end Token

/-! ### What values spell -/

/-- What a token shows in the value that is read from it: what it stands for, and its place. The
place of a closing parenthesis is in no value. -/
structure Trace where
  lexeme : Lexeme
  ref : Option Ref

def Token.trace (token : Token) : Trace :=
  if token.isClosing then ⟨.closing, none⟩ else ⟨token.lexeme, token.ref⟩

mutual

/-- The traces that a value is read from. A value that nothing is read to shows as the end of input,
which is no token of a source. -/
def Value.traces : Value → List Trace
  | .list items ref => ⟨.opening, ref⟩ :: (Value.allTraces items ++ [⟨.closing, none⟩])
  | .identifier name => [⟨.identifier name.name, name.ref⟩]
  | .integer number ref => [⟨.integer number, ref⟩]
  | .float number ref => [⟨.float number, ref⟩]
  | .string text ref => [⟨.string text, ref⟩]
  | value => [⟨.endOfInput, value.ref⟩]

def Value.allTraces : List Value → List Trace
  | [] => []
  | value :: rest => value.traces ++ Value.allTraces rest

end

mutual

/-- The places of a value and all values in it, a list in front of its items. -/
def Value.places : Value → List (Option Ref)
  | .list items ref => ref :: Value.allPlaces items
  | value => [value.ref]

def Value.allPlaces : List Value → List (Option Ref)
  | [] => []
  | value :: rest => value.places ++ Value.allPlaces rest

end

def Trace.isClosing (trace : Trace) : Bool :=
  trace.lexeme.kind = .closing

mutual

theorem Value.places_eq_traces (value : Value) :
    value.places = (value.traces.filter fun trace => !trace.isClosing).map Trace.ref := by
  cases value with
  | list items ref =>
      simp [Value.places, Value.traces, Trace.isClosing, Lexeme.kind, Value.allPlaces_eq_traces items]
  | _ => simp [Value.places, Value.traces, Trace.isClosing, Lexeme.kind, Value.ref]

theorem Value.allPlaces_eq_traces (values : List Value) :
    Value.allPlaces values =
      ((Value.allTraces values).filter fun trace => !trace.isClosing).map Trace.ref := by
  cases values with
  | nil => rfl
  | cons value rest =>
      simp [Value.allPlaces, Value.allTraces, Value.places_eq_traces value,
        Value.allPlaces_eq_traces rest]

end

namespace Reader

theorem trace_opening {token : Token} (isOpening : token.kind = .opening) :
    token.trace = ⟨.opening, token.ref⟩ := by
  obtain ⟨lexeme, text, ref⟩ := token
  cases lexeme <;> simp_all [Token.kind, Lexeme.kind, Token.trace, Token.isClosing]

theorem trace_closing {token : Token} (isClosing : token.kind = .closing) :
    token.trace = ⟨.closing, none⟩ := by
  simp [Token.trace, Token.isClosing, isClosing]

theorem traces_atom {token : Token} {value : Value} (atom : atom? token = some value) :
    value.traces = [token.trace] := by
  obtain ⟨lexeme, text, ref⟩ := token
  cases lexeme <;> simp only [atom?, Option.some.injEq, reduceCtorEq] at atom <;> subst atom <;> rfl

theorem Level.traces {inside tokens items rest strays unclosed}
    (level : Level inside tokens items rest strays unclosed) (noStrays : strays = [])
    (closed : unclosed = 0) :
    tokens.map Token.trace = Value.allTraces items ++ rest.map Token.trace := by
  induction level with
  | finish => rfl
  | close _ => rfl
  | stray _ _ _ => simp at noStrays
  | atom atom _ ih =>
      simp [Value.allTraces, traces_atom atom, ih noStrays closed]
  | list isOpening isClosing _ _ ihInner ihBehind =>
      simp [Value.allTraces, Value.traces, trace_opening isOpening, trace_closing isClosing,
        ihInner rfl rfl, ihBehind noStrays closed]
  | cutOff _ _ _ => simp at closed

theorem Level.depthBehind {inside tokens items rest strays unclosed}
    (level : Level inside tokens items rest strays unclosed) (noStrays : strays = [])
    (depth : Nat) :
    Token.depthBehind? depth tokens = Token.depthBehind? (depth + unclosed) rest := by
  induction level generalizing depth with
  | finish => rfl
  | close _ => rfl
  | stray _ _ _ => simp at noStrays
  | atom atom _ ih =>
      obtain ⟨-, notClosing, notOpening⟩ := kind_of_atom atom
      rw [Token.depthBehind_other notOpening notClosing, ih noStrays]
  | list isOpening isClosing _ _ ihInner ihBehind =>
      rw [Token.depthBehind_opening isOpening, ihInner rfl, Token.depthBehind_closing isClosing,
        ihBehind noStrays]
  | @cutOff _ _ _ _ unclosed isOpening _ ih =>
      rw [Token.depthBehind_opening isOpening, ih rfl, Nat.add_assoc, Nat.add_comm 1]

theorem Level.depthBehind_stray {inside tokens items rest strays unclosed}
    (level : Level inside tokens items rest strays unclosed) (someStray : strays ≠ []) :
    Token.depthBehind? 0 tokens = none := by
  induction level with
  | finish => exact absurd rfl someStray
  | close _ => exact absurd rfl someStray
  | stray isClosing _ _ => exact Token.depthBehind_stray isClosing _
  | atom atom _ ih =>
      obtain ⟨-, notClosing, notOpening⟩ := kind_of_atom atom
      rw [Token.depthBehind_other notOpening notClosing, ih someStray]
  | list isOpening isClosing inner _ _ ih =>
      rw [Token.depthBehind_opening isOpening, inner.depthBehind rfl,
        Token.depthBehind_closing isClosing, ih someStray]
  | cutOff _ _ _ => exact absurd rfl someStray

theorem Level.balanced_iff {tokens items strays unclosed}
    (level : Level false tokens items [] strays unclosed) :
    Token.Balanced tokens ↔ strays = [] ∧ unclosed = 0 := by
  rw [Token.balanced_iff_depthBehind]
  by_cases noStrays : strays = []
  · rw [level.depthBehind noStrays]
    simp [Token.depthBehind?, noStrays]
  · rw [level.depthBehind_stray noStrays]
    simp [noStrays]

theorem sourceIssues_eq_nil (tokens : List Token) (last : Token) (unclosed : Nat)
    (strays : List Token) :
    sourceIssues tokens last unclosed strays = [] ↔ strays = [] ∧ unclosed = 0 := by
  cases strays with
  | nil => simp [sourceIssues, levelIssues]
  | cons first others =>
      cases shape : startsWithClosing tokens <;> simp [sourceIssues, levelIssues, shape]

end Reader

namespace Source

open Reader

theorem readAll_of_ending {source : Source} {last : Token} (ended : source.ending = .ok last) :
    ∃ items strays unclosed, Level false source.tokens items [] strays unclosed ∧
      source.readAll = if strays = [] ∧ unclosed = 0 then .ok items
        else .error (.issues (sourceIssues source.tokens last unclosed strays)) := by
  obtain ⟨items, strays, unclosed, level, reading⟩ :=
    read_gives ended (ending_kind ended) (tokens_kind source)
  refine ⟨items, strays, unclosed, level, ?_⟩
  simp [readAll, reading, ← sourceIssues_eq_nil source.tokens last]

theorem readAll_of_balanced {source : Source} {last : Token} (ended : source.ending = .ok last)
    (balanced : Token.Balanced source.tokens) : ∃ roots, source.readAll = .ok roots := by
  obtain ⟨items, strays, unclosed, level, reading⟩ := readAll_of_ending ended
  refine ⟨items, ?_⟩
  rw [reading, if_pos (level.balanced_iff.1 balanced)]

theorem level_of_readAll {source : Source} {last : Token} (ended : source.ending = .ok last)
    {roots : List Value} (done : source.readAll = .ok roots) :
    Level false source.tokens roots [] [] 0 := by
  obtain ⟨items, strays, unclosed, level, reading⟩ := readAll_of_ending ended
  rw [reading] at done
  split at done
  · rename_i noIssue
    obtain ⟨rfl, rfl⟩ := noIssue
    obtain rfl := Except.ok.inj done
    exact level
  · simp at done

theorem readAll_of_level {source : Source} {last : Token} (ended : source.ending = .ok last)
    {roots : List Value} (level : Level false source.tokens roots [] [] 0) :
    source.readAll = .ok roots := by
  obtain ⟨items, strays, unclosed, other, reading⟩ := readAll_of_ending ended
  obtain ⟨rfl, -, rfl, rfl⟩ := level.unique other
  simpa using reading

theorem traces_of_readAll {source : Source} {last : Token} (ended : source.ending = .ok last)
    {roots : List Value} (done : source.readAll = .ok roots) :
    Value.allTraces roots = source.tokens.map Token.trace := by
  simpa using ((level_of_readAll ended done).traces rfl rfl).symm

theorem balanced_of_readAll {source : Source} {last : Token} (ended : source.ending = .ok last)
    {roots : List Value} (done : source.readAll = .ok roots) : Token.Balanced source.tokens :=
  (level_of_readAll ended done).balanced_iff.2 ⟨rfl, rfl⟩

theorem refs_of_traces (tokens : List Token) :
    ((tokens.map Token.trace).filter fun trace => !trace.isClosing).map Trace.ref =
      (tokens.filter fun token => !token.isClosing).map Token.ref := by
  induction tokens with
  | nil => rfl
  | cons token tokens ih =>
      cases shape : token.isClosing with
      | true =>
          have sameKind : token.trace.isClosing = true := by simp [Token.trace, shape, Trace.isClosing,
            Lexeme.kind]
          simpa [sameKind, shape] using ih
      | false =>
          have same : token.trace = ⟨token.lexeme, token.ref⟩ := by simp [Token.trace, shape]
          have sameKind : token.trace.isClosing = false := by
            rw [same]
            exact shape
          have sameRef : token.trace.ref = token.ref := by rw [same]
          simpa [sameKind, shape, sameRef] using ih

theorem places_of_readAll {source : Source} {last : Token} (ended : source.ending = .ok last)
    {roots : List Value} (done : source.readAll = .ok roots) :
    Lexer.Placed source Position.start (Value.allPlaces roots) := by
  apply source.tokens_placed.sublist
  rw [Value.allPlaces_eq_traces, traces_of_readAll ended done, refs_of_traces]
  exact List.filter_sublist.map _

/-- Of the sources that the lexer gets through, those with matching parentheses are read, and no
token is lost, doubled or moved. -/
theorem readAll_exact (source : Source) (last : Token) (ended : source.ending = .ok last) :
    ((∃ roots, source.readAll = .ok roots) ↔ Token.Balanced source.tokens) ∧
      ∀ roots, source.readAll = .ok roots →
        Value.allTraces roots = source.tokens.map Token.trace ∧
          ∃ places : List Position,
            Value.allPlaces roots = places.map (fun place => some (place.toRef source)) ∧
              places.Pairwise (· < ·) := by
  refine ⟨⟨?_, readAll_of_balanced ended⟩, ?_⟩
  · rintro ⟨roots, done⟩
    exact balanced_of_readAll ended done
  · intro roots done
    obtain ⟨places, same, increasing, -⟩ := places_of_readAll ended done
    exact ⟨traces_of_readAll ended done, places, same, increasing⟩

theorem readAll_exact_word :
    let source := Source.ofText "word" "(a)"
    ∃ last, source.ending = .ok last ∧
      ((∃ roots, source.readAll = .ok roots) ↔ Token.Balanced source.tokens) ∧
        ∀ roots, source.readAll = .ok roots →
          Value.allTraces roots = source.tokens.map Token.trace ∧
            ∃ places : List Position,
              Value.allPlaces roots = places.map (fun place => some (place.toRef source)) ∧
                places.Pairwise (· < ·) := by
  intro source
  have ends : Lexer.EndsWord ")" := by
    unfold Lexer.EndsWord
    decide
  have word : Lexer.Lexes source ⟨("a" : Text) ++ ")", ⟨0, 1⟩⟩ ⟨")", ⟨0, 2⟩⟩
      [⟨.identifier "a", "a", some ⟨source, 0, 1⟩⟩] :=
    Lexer.lexes_word (by decide) (by decide) (by decide) ends
  have lexes := ((Lexer.lexes_opening source Position.start "a)").trans word).trans
    (Lexer.lexes_closing source ⟨0, 2⟩ [])
  have ended := (tokens_of_lexes lexes).2
  exact ⟨_, ended, readAll_exact source _ ended⟩

end Source

end Lisplet
