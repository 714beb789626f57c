import Lisplet.Proofs.Parsing

/-!
What reading makes of a source: trees of literals, without anything that only a run can make.
-/

namespace Lisplet

inductive Value.Plain : Value → Prop
  | identifier (name : Identifier) : Plain (.identifier name)
  | integer (number : Int64) (ref : Option Ref) : Plain (.integer number ref)
  | float (number : Float) (ref : Option Ref) : Plain (.float number ref)
  | string (text : Text) (ref : Option Ref) : Plain (.string text ref)
  | list {items : List Value} (ref : Option Ref) (plain : ∀ item ∈ items, item.Plain) :
      Plain (.list items ref)

namespace Precedence

variable {Tok Failure Issue Tree Result Other : Type}

def Yields (parser : Parser Tok Failure Issue Result) (property : Result → Prop) : Prop :=
  ∀ state result later, Gives parser state result later → property result

theorem Yields.pure {property : Result → Prop} {result : Result} (holds : property result) :
    Yields (pure result : Parser Tok Failure Issue Result) property := by
  rintro state _ later ⟨⟩
  exact holds

theorem Yields.bind {parser : Parser Tok Failure Issue Result}
    {next : Result → Parser Tok Failure Issue Other} {property : Result → Prop}
    {final : Other → Prop} (first : Yields parser property)
    (second : ∀ result, property result → Yields (next result) final) :
    Yields (parser >>= next) final := by
  intro state result later gives
  rcases happens : parser.run.run state with ⟨stop | given, middle⟩
  · unfold Gives at gives
    simp only [ExceptT.run_bind, StateT.run_bind, happens] at gives
    cases gives
  · exact second given (first state given middle happens) middle result later (Gives.of_bind happens gives)

theorem Yields.bindAny {parser : Parser Tok Failure Issue Result}
    {next : Result → Parser Tok Failure Issue Other} {property : Other → Prop}
    (all : ∀ result, Yields (next result) property) : Yields (parser >>= next) property := by
  have anything : Yields parser fun _ => True := fun _ _ _ _ => trivial
  exact anything.bind fun result _ => all result

theorem Yields.throw {property : Result → Prop} (stop : Stop Failure) :
    Yields (throw stop : Parser Tok Failure Issue Result) property := by
  rintro state result later ⟨⟩

/-- A property of trees that starting and continuing keep is a property of all expressions. -/
theorem expression_yields {grammar : Grammar Tok Failure Issue Tree} {property : Tree → Prop}
    (starts : ∀ inner token, (∀ bound, Yields (inner bound) property) →
      Yields (grammar.startWith inner token) property)
    (continues : ∀ inner token left, (∀ bound, Yields (inner bound) property) → property left →
      Yields (grammar.continueWith inner token left) property) (fuel : Nat) :
    (∀ bound, Yields (expression grammar fuel bound) property) ∧
      ∀ bound left, property left → Yields (continued grammar fuel bound left) property := by
  induction fuel with
  | zero =>
      constructor
      · intro bound
        rw [expression]
        exact Yields.throw _
      · intro bound left holds
        rw [continued]
        exact Yields.throw _
  | succ fuel ih =>
      obtain ⟨inner, behind⟩ := ih
      constructor
      · intro bound
        rw [expression]
        exact Yields.bindAny fun token =>
          (starts _ token inner).bind fun left holds => behind bound left holds
      · intro bound left holds
        rw [continued]
        refine Yields.bindAny fun token => ?_
        split
        · exact Yields.bindAny fun token =>
            (continues _ token left inner holds).bind fun extended kept => behind bound extended kept
        · exact Yields.pure holds

end Precedence

namespace Reader

open Precedence

def PlainItems (items : Array Value) : Prop :=
  ∀ item ∈ items, item.Plain

theorem plain_of_atom {token : Token} {value : Value} (atom : atom? token = some value) :
    value.Plain := by
  unfold atom? at atom
  split at atom <;> cases atom <;> constructor

theorem plainItems_atom (token : Token) : PlainItems (atom? token).toArray := by
  intro item member
  exact plain_of_atom (by simpa using member)

theorem plainItems_append {left right : Array Value} (first : PlainItems left)
    (second : PlainItems right) : PlainItems (left ++ right) := by
  intro item member
  rcases Array.mem_append.mp member with member | member
  · exact first item member
  · exact second item member

theorem sublist_yields {inner : Int → ListParser (Array Value)} (opening : Token)
    (plain : ∀ bound, Yields (inner bound) PlainItems) :
    Yields (sublist inner opening) Value.Plain := by
  have reads : Yields (sublistItems inner) PlainItems := by
    refine Yields.bindAny fun first => ?_
    split
    · exact Yields.pure fun item member => absurd member (Array.not_mem_empty item)
    · exact plain closingPower
  refine reads.bind fun items holds => ?_
  refine Yields.bindAny fun _ => Yields.pure ?_
  exact .list opening.ref fun item member => holds item (Array.mem_toList_iff.mp member)

theorem continueWith_yields {inner : Int → ListParser (Array Value)} (token : Token)
    {left : Array Value} (plain : ∀ bound, Yields (inner bound) PlainItems)
    (holds : PlainItems left) : Yields (continueWith inner token left) PlainItems := by
  unfold continueWith
  split
  · refine (sublist_yields token plain).bind fun item fine => Yields.pure ?_
    rw [Array.push_eq_append]
    exact plainItems_append holds (by simpa [PlainItems] using fine)
  · exact Yields.bindAny fun _ => Yields.pure holds
  · exact Yields.bindAny fun _ => Yields.pure holds
  all_goals exact Yields.pure (plainItems_append holds (plainItems_atom token))

theorem startWith_yields {inner : Int → ListParser (Array Value)} (token : Token)
    (plain : ∀ bound, Yields (inner bound) PlainItems) :
    Yields (startWith inner token) PlainItems := by
  have none : PlainItems #[] := fun item member => absurd member (Array.not_mem_empty item)
  unfold startWith
  split
  · exact (sublist_yields token plain).bind fun item fine =>
      Yields.pure (by simpa [PlainItems] using fine)
  · exact Yields.pure none
  · exact Yields.bindAny fun _ => Yields.pure none
  all_goals exact Yields.pure (plainItems_atom token)

theorem read_plain {source : Source} {roots : List Value}
    (reads : (read source).roots = .ok roots) : ∀ root ∈ roots, root.Plain := by
  unfold read at reads
  split at reads
  · cases reads
  · next state started =>
      rcases parsed : parse grammar 0 state with ⟨_ | items, last⟩
      · simp only [parsed] at reads
        cases reads
      · simp only [parsed] at reads
        cases reads
        have yields : ∀ bound, Yields (expression grammar state.fuel bound) PlainItems :=
          (expression_yields (fun _ token => startWith_yields token)
            (fun _ token _ => continueWith_yields token) state.fuel).1
        have plain := yields 0 state items last parsed
        exact fun root member => plain root (Array.mem_toList_iff.mp member)

end Reader

namespace Source

theorem roots_of_readAll {source : Source} {roots : List Value}
    (reads : source.readAll = .ok roots) : (Reader.read source).roots = .ok roots := by
  simp only [readAll] at reads
  split at reads
  · cases reads
  · next items found =>
      split at reads
      · cases reads
        exact found
      · cases reads

theorem roots_of_readOne {source : Source} {root : Value} (reads : source.readOne = .ok root) :
    ∃ others, (Reader.read source).roots = .ok (root :: others) := by
  simp only [readOne] at reads
  split at reads
  · cases reads
  · next roots found =>
      split at reads
      · cases reads
        exact ⟨_, found⟩
      · cases reads

theorem plain_of_readAll {source : Source} {roots : List Value}
    (reads : source.readAll = .ok roots) : ∀ root ∈ roots, root.Plain :=
  Reader.read_plain (roots_of_readAll reads)

theorem plain_of_readOne {source : Source} {root : Value} (reads : source.readOne = .ok root) :
    root.Plain := by
  obtain ⟨others, found⟩ := roots_of_readOne reads
  exact Reader.read_plain found root List.mem_cons_self

end Source

end Lisplet
