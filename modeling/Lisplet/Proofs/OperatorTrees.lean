import Lisplet.Precedence.Formula
import Lisplet.Proofs.Parsing

/-!
How operands with operators between them are grouped. Tighter operators stand below looser ones,
and of equally tight ones the first stands lowest: there is one such tree for each sequence, and the
parser builds it.
-/

namespace Lisplet

namespace Precedence

variable {Tok Failure Issue Tree : Type}

/-! ### Groupings -/

/-- Operands, and operators with an operand on each side. -/
inductive Grouping (Tok : Type)
  | operand (token : Tok)
  | operation (operator : Tok) (left right : Grouping Tok)

def operations (others : List (Tok × Tok)) : List Tok :=
  others.flatMap fun (operator, operand) => [operator, operand]

/-- An operand, and operators with the operands behind them. -/
def formula (first : Tok) (others : List (Tok × Tok)) : List Tok :=
  first :: operations others

theorem length_operations (others : List (Tok × Tok)) :
    (operations others).length = 2 * others.length := by
  induction others with
  | nil => rfl
  | cons pair others ih =>
      have two : (operations (pair :: others)).length = (operations others).length + 2 := rfl
      rw [two, ih, List.length_cons, Nat.mul_add_one]

theorem operations_inj {others behind : List (Tok × Tok)}
    (same : operations others = operations behind) : others = behind := by
  induction others generalizing behind with
  | nil =>
      cases behind with
      | nil => rfl
      | cons pair behind => cases same
  | cons pair others ih =>
      cases behind with
      | nil => cases same
      | cons next behind =>
          obtain ⟨operator, tails⟩ := List.cons.inj same
          obtain ⟨operand, rest⟩ := List.cons.inj tails
          rw [Prod.ext operator operand, ih rest]

namespace Grouping

def root? : Grouping Tok → Option Tok
  | operand _ => none
  | operation operator _ _ => some operator

def inOrder : Grouping Tok → List Tok
  | operand token => [token]
  | operation operator left right => left.inOrder ++ operator :: right.inOrder

def fold (value : Tok → Tree) (combine : Tok → Tree → Tree → Tree) : Grouping Tok → Tree
  | operand token => value token
  | operation operator left right =>
    combine operator (left.fold value combine) (right.fold value combine)

/-- No operator is tighter than the root of its left operand, and each is looser than the root of
its right operand. -/
def Respects (power : Tok → Nat) : Grouping Tok → Prop
  | operand _ => True
  | operation operator left right =>
    (∀ root ∈ left.root?, power operator ≤ power root) ∧
      (∀ root ∈ right.root?, power operator < power root) ∧
        left.Respects power ∧ right.Respects power

def first : Grouping Tok → Tok
  | operand token => token
  | operation _ left _ => left.first

/-- The operators from left to right, each with the operand behind it. -/
def others : Grouping Tok → List (Tok × Tok)
  | operand _ => []
  | operation operator left right => left.others ++ (operator, right.first) :: right.others

theorem inOrder_eq_formula (tree : Grouping Tok) :
    tree.inOrder = formula tree.first tree.others := by
  induction tree with
  | operand token => rfl
  | operation operator left right ihLeft ihRight =>
      simp [inOrder, first, others, ihLeft, ihRight, formula, operations]

variable {power : Tok → Nat} {tree : Grouping Tok}

namespace Respects

/-- The root is the loosest operator. -/
theorem root_le (respects : tree.Respects power) :
    ∀ root ∈ tree.root?, ∀ pair ∈ tree.others, power root ≤ power pair.1 := by
  induction tree with
  | operand token => exact nofun
  | operation operator left right ihLeft ihRight =>
      obtain ⟨leftTighter, rightTighter, leftRespects, rightRespects⟩ := respects
      rintro root ⟨⟩ pair member
      rcases List.mem_append.1 member with inLeft | atRoot
      · cases left with
        | operand token => cases inLeft
        | operation inner _ _ =>
            exact Nat.le_trans (leftTighter inner rfl) (ihLeft leftRespects inner rfl pair inLeft)
      · rcases List.mem_cons.1 atRoot with rfl | inRight
        · exact Nat.le_refl _
        · cases right with
          | operand token => cases inRight
          | operation inner _ _ =>
              have looser := ihRight rightRespects inner rfl pair inRight
              exact Nat.le_trans (Nat.le_of_lt (rightTighter inner rfl)) looser

variable {operator later : Tok} {left right other behind : Grouping Tok}

theorem le_left (respects : (operation operator left right).Respects power) :
    ∀ pair ∈ left.others, power operator ≤ power pair.1 :=
  fun pair member => respects.root_le operator rfl pair (List.mem_append_left _ member)

theorem lt_right (respects : (operation operator left right).Respects power) :
    ∀ pair ∈ right.others, power operator < power pair.1 := by
  obtain ⟨-, tighter, -, rightRespects⟩ := respects
  intro pair member
  cases right with
  | operand token => cases member
  | operation inner _ _ =>
      exact Nat.lt_of_lt_of_le (tighter inner rfl) (rightRespects.root_le inner rfl pair member)

/-- Of two groupings of the same tokens, neither has its root in front of the other's. -/
theorem length_left_le (respects : (operation operator left right).Respects power)
    (otherRespects : (operation later other behind).Respects power)
    (same : (operation operator left right).others = (operation later other behind).others) :
    other.others.length ≤ left.others.length := by
  rcases List.append_eq_append_iff.1 same with
    ⟨_ | ⟨pair, between⟩, inLeft, inRight⟩ | ⟨between, inLeft, -⟩
  · simp [inLeft]
  · obtain ⟨rfl, inTail⟩ := List.cons.inj inRight
    have atMost := otherRespects.le_left (operator, right.first) (by simp [inLeft])
    have member : (later, behind.first) ∈ right.others :=
      inTail ▸ List.mem_append_right between List.mem_cons_self
    exact absurd (respects.lt_right _ member) (Nat.not_lt.2 atMost)
  · rw [inLeft, List.length_append]
    exact Nat.le_add_right _ _

theorem unique_of_others {other : Grouping Tok} (respects : tree.Respects power)
    (otherRespects : other.Respects power) (sameFirst : tree.first = other.first)
    (same : tree.others = other.others) : tree = other := by
  induction tree generalizing other with
  | operand token =>
      cases other with
      | operand token' => exact congrArg operand sameFirst
      | operation later left' right' => simp [others] at same
  | operation operator left right ihLeft ihRight =>
      cases other with
      | operand token' => simp [others] at same
      | operation later left' right' =>
          have sameLength : left.others.length = left'.others.length :=
            Nat.le_antisymm (otherRespects.length_left_le respects same.symm)
              (respects.length_left_le otherRespects same)
          obtain ⟨sameLeft, atRoot⟩ := List.append_inj same sameLength
          obtain ⟨pair, sameRight⟩ := List.cons.inj atRoot
          obtain ⟨rfl, rightFirst⟩ := Prod.mk.inj pair
          obtain ⟨-, -, leftRespects, rightRespects⟩ := respects
          obtain ⟨-, -, leftRespects', rightRespects'⟩ := otherRespects
          rw [ihLeft leftRespects leftRespects' sameFirst sameLeft,
            ihRight rightRespects rightRespects' rightFirst sameRight]

/-- A sequence of operands and operators has one grouping at most. -/
theorem unique {other : Grouping Tok} (respects : tree.Respects power)
    (otherRespects : other.Respects power) (same : tree.inOrder = other.inOrder) : tree = other := by
  rw [inOrder_eq_formula, inOrder_eq_formula] at same
  obtain ⟨sameFirst, sameOthers⟩ := List.cons.inj same
  exact respects.unique_of_others otherRespects sameFirst (operations_inj sameOthers)

end Respects

end Grouping

/-! ### The parser -/

/-- The token is an operand, which stands for a value by itself. -/
def Grammar.IsOperand (grammar : Grammar Tok Failure Issue Tree) (value : Tok → Tree)
    (token : Tok) : Prop :=
  ∀ expression, grammar.startWith expression token = pure (value token)

/-- The token is an operator, which combines what stands in front of it with the expression behind
it that binds more tightly than the operator does. -/
structure Grammar.IsOperator (grammar : Grammar Tok Failure Issue Tree)
    (combine : Tok → Tree → Tree → Tree) (token : Tok) : Prop where
  positive : 0 < grammar.power token
  continues : ∀ expression left, grammar.continueWith expression token left = do
    return combine token left (← expression (grammar.power token))

/-- The tree groups an operand with the operators that were passed, all of them tighter than the
bound. What remains starts with an operator that is not, and that may take the tree as its left
operand. -/
structure Groups (power : Tok → Nat) (bound : Int) (first : Tok) (passed rest : List (Tok × Tok))
    (tree : Grouping Tok) : Prop where
  first_eq : tree.first = first
  others_eq : tree.others = passed
  respects : tree.Respects power
  tighter : ∀ root ∈ tree.root?, bound < power root
  stops : ∀ pair ∈ rest.head?, power pair.1 ≤ bound
  looser : ∀ pair ∈ rest.head?, ∀ root ∈ tree.root?, power pair.1 ≤ power root

section Parser

variable {grammar : Grammar Tok Failure Issue Tree} {value : Tok → Tree}
  {combine : Tok → Tree → Tree → Tree} {last : Tok} {fuel : Nat} {bound : Int}
  {issues : Array Issue}

def Grammar.AreOperations (grammar : Grammar Tok Failure Issue Tree) (value : Tok → Tree)
    (combine : Tok → Tree → Tree → Tree) (others : List (Tok × Tok)) : Prop :=
  ∀ pair ∈ others, grammar.IsOperator combine pair.1 ∧ grammar.IsOperand value pair.2

/-- With this fuel, a tree is continued by the operators behind it as far as the bound allows. -/
def Continues (grammar : Grammar Tok Failure Issue Tree) (value : Tok → Tree)
    (combine : Tok → Tree → Tree → Tree) (last : Tok) (issues : Array Issue) (fuel : Nat) : Prop :=
  ∀ (bound : Int) (left : Grouping Tok) (others : List (Tok × Tok)), 0 ≤ bound →
    grammar.AreOperations value combine others → 2 * others.length + 1 ≤ fuel →
    left.Respects grammar.power → (∀ root ∈ left.root?, bound < grammar.power root) →
    (∀ pair ∈ others.head?, ∀ root ∈ left.root?, grammar.power pair.1 ≤ grammar.power root) →
    ∃ tree passed rest, others = passed ++ rest ∧
      Groups grammar.power bound left.first (left.others ++ passed) rest tree ∧
      Gives (continued grammar fuel bound (left.fold value combine))
        (State.before (operations others) last issues) (tree.fold value combine)
        (State.before (operations rest) last issues)

/-- With this fuel, the longest expression in front of the bound is read. -/
def Reads (grammar : Grammar Tok Failure Issue Tree) (value : Tok → Tree)
    (combine : Tok → Tree → Tree → Tree) (last : Tok) (issues : Array Issue) (fuel : Nat) : Prop :=
  ∀ (bound : Int) (first : Tok) (others : List (Tok × Tok)), 0 ≤ bound →
    grammar.IsOperand value first → grammar.AreOperations value combine others →
    2 * others.length + 2 ≤ fuel →
    ∃ tree passed rest, others = passed ++ rest ∧
      Groups grammar.power bound first passed rest tree ∧
      Gives (expression grammar fuel bound) (State.before (formula first others) last issues)
        (tree.fold value combine) (State.before (operations rest) last issues)

theorem Continues.reads (continues : Continues grammar value combine last issues fuel) :
    Reads grammar value combine last issues (fuel + 1) := by
  intro bound first others least isOperand areOperations enough
  obtain ⟨tree, passed, rest, split_, groups, gives⟩ :=
    continues bound (.operand first) others least areOperations (by omega) trivial nofun
      (fun _ _ => nofun)
  refine ⟨tree, passed, rest, split_, groups, ?_⟩
  refine expression_gives (gives_advance first (operations others) last issues) ?_ gives
  rw [isOperand]
  exact Gives.pure _ _

theorem continueWith_gives_operation {operator : Tok} {left right : Tree}
    {state later : State Tok Failure Issue} (isOperator : grammar.IsOperator combine operator)
    (reading : Gives (expression grammar fuel (grammar.power operator)) state right later) :
    Gives (grammar.continueWith (expression grammar fuel) operator left) state
      (combine operator left right) later := by
  rw [isOperator.continues]
  exact reading.bind (Gives.pure _ _)

/-- An operator takes the expression behind it as its right operand, and the tree as its left
one. -/
theorem Continues.step (continues : Continues grammar value combine last issues fuel)
    (reads : Reads grammar value combine last issues fuel) {left : Grouping Tok}
    {operator operand : Tok} {others : List (Tok × Tok)} (least : 0 ≤ bound)
    (isOperator : grammar.IsOperator combine operator) (isOperand : grammar.IsOperand value operand)
    (areOperations : grammar.AreOperations value combine others)
    (enough : 2 * others.length + 2 ≤ fuel) (respects : left.Respects grammar.power)
    (looser : ∀ root ∈ left.root?, grammar.power operator ≤ grammar.power root)
    (strong : bound < grammar.power operator) :
    ∃ tree passed rest, (operator, operand) :: others = passed ++ rest ∧
      Groups grammar.power bound left.first (left.others ++ passed) rest tree ∧
      Gives (continued grammar (fuel + 1) bound (left.fold value combine))
        (State.before (operations ((operator, operand) :: others)) last issues)
        (tree.fold value combine) (State.before (operations rest) last issues) := by
  obtain ⟨right, inRight, behind, rfl, groups, reading⟩ :=
    reads (grammar.power operator) operand others (by omega) isOperand areOperations enough
  have whole : (Grouping.operation operator left right).Respects grammar.power := by
    refine ⟨looser, fun root isRoot => ?_, respects, groups.respects⟩
    exact Int.ofNat_lt.1 (groups.tighter root isRoot)
  have remaining : grammar.AreOperations value combine behind :=
    fun pair member => areOperations pair (List.mem_append_right _ member)
  rw [List.length_append] at enough
  obtain ⟨tree, passed, rest, rfl, result, continuing⟩ :=
    continues bound (.operation operator left right) behind least remaining (by omega) whole
      (by rintro root ⟨⟩; exact strong)
      (by rintro pair first root ⟨⟩; exact Int.ofNat_le.1 (groups.stops pair first))
  refine ⟨tree, (operator, operand) :: inRight ++ passed, rest, by simp, ?_, ?_⟩
  · have passes : left.others ++ ((operator, operand) :: inRight ++ passed) =
        (Grouping.operation operator left right).others ++ passed := by
      simp [Grouping.others, groups.first_eq, groups.others_eq]
    rw [passes]
    exact result
  · exact continued_passes strong (gives_advance operator _ last issues)
      (continueWith_gives_operation isOperator reading) continuing

theorem continues_all (weak : grammar.power last = 0) (issues : Array Issue) (fuel : Nat) :
    Continues grammar value combine last issues fuel ∧
      Reads grammar value combine last issues fuel := by
  induction fuel with
  | zero => exact ⟨fun _ _ _ _ _ enough => absurd enough (by omega), fun _ _ _ _ _ _ enough =>
      absurd enough (by omega)⟩
  | succ fuel ih =>
      obtain ⟨continues, reads⟩ := ih
      refine ⟨?_, continues.reads⟩
      intro bound left others least areOperations enough respects tighter looser
      have stop (weak : ¬ bound < grammar.power (State.before (operations others) last issues :
            State Tok Failure Issue).current)
          (stops : ∀ pair ∈ others.head?, grammar.power pair.1 ≤ bound) :
          ∃ tree passed rest, others = passed ++ rest ∧
            Groups grammar.power bound left.first (left.others ++ passed) rest tree ∧
            Gives (continued grammar (fuel + 1) bound (left.fold value combine))
              (State.before (operations others) last issues) (tree.fold value combine)
              (State.before (operations rest) last issues) := by
        refine ⟨left, [], others, rfl, ?_, continued_stops grammar fuel _ _ weak⟩
        exact ⟨rfl, (List.append_nil _).symm, respects, tighter, stops, looser⟩
      cases others with
      | nil => exact stop (by change ¬ bound < grammar.power last; omega) nofun
      | cons pair others =>
          by_cases strong : bound < grammar.power pair.1
          · obtain ⟨isOperator, isOperand⟩ := areOperations pair List.mem_cons_self
            exact continues.step reads least isOperator isOperand
              (fun other member => areOperations other (List.mem_cons_of_mem _ member))
              (by simp only [List.length_cons] at enough; omega) respects (looser pair rfl) strong
          · refine stop strong ?_
            rintro first ⟨⟩
            omega

/-- Operands with operators between them are read up to the end, without an issue, and grouped in
the only way that respects the powers of the operators. -/
theorem parse_groups {first : Tok} {others : List (Tok × Tok)}
    (isOperand : grammar.IsOperand value first)
    (areOperations : ∀ pair ∈ others,
      grammar.IsOperator combine pair.1 ∧ grammar.IsOperand value pair.2)
    (weak : grammar.power last = 0) :
    let tokens := formula first others
    ∃ (start : State Tok Failure Issue) (tree : Grouping Tok),
      State.start ⟨tokens, .ok last⟩ = .ok start ∧
        parse grammar 0 start = (.ok (tree.fold value combine), ⟨last, ⟨[], .ok last⟩, #[]⟩) ∧
        tree.inOrder = tokens ∧ tree.Respects grammar.power ∧
        ∀ other : Grouping Tok, other.inOrder = tokens → other.Respects grammar.power →
          other = tree := by
  intro tokens
  have enough : 2 * others.length + 2 ≤
      (State.before tokens last #[] : State Tok Failure Issue).fuel := by
    simp only [State.fuel, State.before, tokens, formula, List.tail_cons, length_operations]
    omega
  obtain ⟨tree, passed, rest, rfl, groups, gives⟩ :=
    (continues_all weak #[] _).2 0 first others (Int.le_refl 0) isOperand areOperations enough
  -- All operators are tighter than the bound, so none remains.
  have done : rest = [] := by
    cases rest with
    | nil => rfl
    | cons pair rest =>
        have positive := (areOperations pair (by simp)).1.positive
        have stops := groups.stops pair rfl
        omega
  subst done
  have inOrder : tree.inOrder = tokens := by
    rw [tree.inOrder_eq_formula, groups.first_eq, groups.others_eq, ← List.append_nil passed]
  refine ⟨_, tree, start_before tokens last, gives, inOrder, groups.respects, ?_⟩
  intro other sameTokens respects
  exact respects.unique groups.respects (sameTokens.trans inOrder.symm)

end Parser

end Precedence

namespace Formula

open Precedence

def bracketed (operator left right : Text) : Text :=
  "(" ++ operator ++ " " ++ left ++ " " ++ right ++ ")"

theorem isOperand_of_alphanumeric {token : Text} (alphanumeric : isOperand token = true) :
    grammar.IsOperand id token := by
  intro expression
  simp [grammar, startWith, alphanumeric]

theorem isOperator_of_leftGrouping {token : Text} (member : token ∈ [("+" : Text), "-", "*"]) :
    grammar.IsOperator bracketed token := by
  simp only [List.mem_cons, List.not_mem_nil, or_false] at member
  rcases member with rfl | rfl | rfl
  · exact ⟨by decide, fun expression left => rfl⟩
  · exact ⟨by decide, fun expression left => rfl⟩
  · exact ⟨by decide, fun expression left => rfl⟩

theorem parse_groups_mixed :
    ∃ start, State.start (stream false ["1", "-", "2", "*", "3", "*", "4", "-", "5"]) = .ok start ∧
      parse grammar 0 start =
        (.ok "(- (- 1 (* (* 2 3) 4)) 5)", ⟨endToken, stream false [], #[]⟩) := by
  let others : List (Text × Text) := [("-", "2"), ("*", "3"), ("*", "4"), ("-", "5")]
  let tree : Grouping Text :=
    .operation "-" (.operation "-" (.operand "1")
      (.operation "*" (.operation "*" (.operand "2") (.operand "3")) (.operand "4")))
      (.operand "5")
  have listed : ∀ pair ∈ others,
      pair.1 ∈ [("+" : Text), "-", "*"] ∧ isOperand pair.2 = true := by decide
  have firstOperand : grammar.IsOperand id "1" := isOperand_of_alphanumeric (by decide)
  have areOperations : ∀ pair ∈ others,
      grammar.IsOperator bracketed pair.1 ∧ grammar.IsOperand id pair.2 := fun pair member =>
    ⟨isOperator_of_leftGrouping (listed pair member).1,
      isOperand_of_alphanumeric (listed pair member).2⟩
  have weak : grammar.power endToken = 0 := by decide
  obtain ⟨start, found, started, parsed, -, -, only⟩ := parse_groups firstOperand areOperations weak
  have respects : tree.Respects power := by
    simp only [tree, Grouping.Respects, Grouping.root?]
    decide
  obtain rfl : tree = found := only tree rfl respects
  exact ⟨start, started, parsed⟩

end Formula

end Lisplet
