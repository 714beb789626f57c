import Lisplet.Proofs.Operators

/-!
What comparisons decide. They look at neighbours, or at every operand beside the first one, and that
settles all pairs: integers are ordered by value and texts by the numbers of their code points.
-/

namespace Lisplet

/-! ### Orders -/

theorem Text.lt_iff_map_val (left right : Text) :
    left < right ↔ left.map CodePoint.val < right.map CodePoint.val := by
  induction left generalizing right with
  | nil =>
      cases right with
      | nil => exact iff_of_false (List.not_lt_nil _) (lt_irrefl _)
      | cons point right => exact iff_of_true .nil .nil
  | cons point left ih =>
      cases right with
      | nil => exact iff_of_false (List.not_lt_nil _) (List.not_lt_nil _)
      | cons other right =>
          have same : point = other ↔ point.val = other.val := by
            cases point
            cases other
            simp
          rw [List.map_cons, List.map_cons, List.cons_lt_cons_iff, List.cons_lt_cons_iff, ih, same]
          exact Iff.rfl

namespace Comparable

/-- The comparisons of a type are those of an order of keys. -/
structure Follows {α β : Type} [Comparable α] [LinearOrder β] (key : α → β) : Prop where
  equal : ∀ left right : α, Comparable.equal left right = true ↔ key left = key right
  less : ∀ left right : α, Comparable.less left right = true ↔ key left < key right
  lessEqual : ∀ left right : α, Comparable.lessEqual left right = true ↔ key left ≤ key right

theorem follows_integers : Follows fun number : Int => number where
  equal _ _ := beq_iff_eq
  less _ _ := decide_eq_true_iff
  lessEqual _ _ := decide_eq_true_iff

theorem follows_texts : Follows fun text : Text => text.map CodePoint.val where
  equal _ _ := by
    have injective : Function.Injective CodePoint.val := by
      rintro ⟨left, _⟩ ⟨right, _⟩ same
      simpa using same
    exact beq_iff_eq.trans (List.map_injective_iff.mpr injective).eq_iff.symm
  less left right := decide_eq_true_iff.trans (Text.lt_iff_map_val left right)
  lessEqual left right := by
    refine decide_eq_true_iff.trans ?_
    rw [← not_lt, ← Text.lt_iff_map_val]
    exact Iff.rfl

end Comparable

/-! ### Decisions -/

namespace Comparison

/-- What a comparison asks of its operands: the same of any two of them, in the order in which they
stand. -/
def Holds {β : Type} [LinearOrder β] (items : List β) : Comparison → Prop
  | equal => items.Pairwise (· = ·)
  | notEqual => ¬items.Pairwise (· = ·)
  | less => items.Pairwise (· < ·)
  | lessEqual => items.Pairwise (· ≤ ·)
  | greater => items.Pairwise (· > ·)
  | greaterEqual => items.Pairwise (· ≥ ·)

variable {α β : Type}

theorem chained_iff_isChain (related : α → α → Bool) (first : α) (rest : List α) :
    chained related first rest = true ↔
      (first :: rest).IsChain fun left right => related left right = true := by
  induction rest generalizing first with
  | nil => simp [chained]
  | cons next rest ih => rw [chained, Bool.and_eq_true, ih, List.isChain_cons_cons]

/-- What holds between neighbours holds between all items, if it is transitive. -/
theorem chained_iff_pairwise {related : α → α → Bool} {key : α → β} {relation : β → β → Prop}
    [Trans relation relation relation]
    (same : ∀ left right, related left right = true ↔ relation (key left) (key right))
    (first : α) (rest : List α) :
    chained related first rest = true ↔ ((first :: rest).map key).Pairwise relation := by
  rw [chained_iff_isChain, ← List.isChain_iff_pairwise, List.isChain_map]
  simp only [same]

theorem all_iff_pairwise {equal : α → α → Bool} {key : α → β}
    (same : ∀ left right, equal left right = true ↔ key left = key right)
    (first : α) (rest : List α) :
    rest.all (equal · first) = true ↔ ((first :: rest).map key).Pairwise (· = ·) := by
  simp only [List.all_eq_true, same, List.map_cons, List.pairwise_cons, List.forall_mem_map]
  constructor
  · intro equalFirst
    refine ⟨fun item member => (equalFirst item member).symm, ?_⟩
    refine List.pairwise_map.mpr (List.Pairwise.imp_of_mem ?_ (List.pairwise_of_forall fun _ _ => trivial))
    intro left right memberLeft memberRight _
    rw [equalFirst left memberLeft, equalFirst right memberRight]
  · intro pairs item member
    exact (pairs.1 item member).symm

theorem decides_iff_holds [Comparable α] [LinearOrder β] {key : α → β}
    (follows : Comparable.Follows key) (comparison : Comparison) (first : α) (rest : List α) :
    comparison.decides first rest = true ↔ comparison.Holds ((first :: rest).map key) := by
  have equal := all_iff_pairwise follows.equal first rest
  cases comparison with
  | equal => exact equal
  | notEqual => rw [decides, Bool.not_eq_true', ← Bool.not_eq_true, equal, Holds]
  | less => exact chained_iff_pairwise follows.less first rest
  | lessEqual => exact chained_iff_pairwise follows.lessEqual first rest
  | greater => exact chained_iff_pairwise (fun left right => follows.less right left) first rest
  | greaterEqual =>
      exact chained_iff_pairwise (fun left right => follows.lessEqual right left) first rest

/-! ### Calls -/

/-- However it is called, the comparison of the operands has this answer and does nothing else. -/
def Answers (comparison : Comparison) (operands : List Value) (truth : Bool) : Prop :=
  ∀ name world, (comparison.function name).call operands world = (.ok (.boolean truth none), world)

theorem answers_of_read {comparison : Comparison} {operands : List Value} {comparands : Comparands}
    (read : Comparands.read comparison.name (operands.map Value.toHost) = .ok comparands) :
    comparison.Answers operands (comparands.decides comparison) := by
  intro name world
  rw [call_eq, run, read]
  rfl

end Comparison

/-- The number that an integer stands for. -/
def Value.whole : Value → Int
  | .integer number _ => number.toInt
  | _ => 0

/-- The numbers of the code points that a string is made of. -/
def Value.characters : Value → List Nat
  | .string text _ => text.map CodePoint.val
  | _ => []

namespace Comparison

variable {operands : List Value}

theorem integers_decided (enough : 2 ≤ operands.length)
    (integers : ∀ operand ∈ operands, operand.isInteger = true) (comparison : Comparison) :
    ∃ truth, comparison.Answers operands truth ∧
      (truth = true ↔ comparison.Holds (operands.map Value.whole)) := by
  obtain ⟨numbers, rfl⟩ := Numeral.exists_integers integers
  cases numbers with
  | nil => cases enough
  | cons first rest =>
      let wholes := (rest.map Prod.fst).map Int64.toInt
      have read : Comparands.read comparison.name
          (((first :: rest).map Arithmetic.operand).map Value.toHost) =
            .ok (.numbers (.integers first.1.toInt wholes)) := by
        have noText : Comparands.text? (Arithmetic.operand first).toHost = none := rfl
        rw [Comparands.read_eq comparison.name (by simpa using enough)
          (List.mem_map_of_mem (List.mem_map_of_mem List.mem_cons_self)) noText,
          Arithmetic.read_operands comparison.name (Nat.le_add_left _ _)]
        rfl
      refine ⟨_, answers_of_read read, ?_⟩
      rw [Comparands.decides, decides_iff_holds Comparable.follows_integers]
      simp [wholes, Arithmetic.operand, Value.whole, Function.comp_def]

theorem strings_decided (enough : 2 ≤ operands.length)
    (strings : ∀ operand ∈ operands, operand.isString = true) (comparison : Comparison) :
    ∃ truth, comparison.Answers operands truth ∧
      (truth = true ↔ comparison.Holds (operands.map Value.characters)) := by
  obtain ⟨texts, rfl⟩ := Comparands.exists_texts strings
  match texts with
  | [] | [_] => simp at enough
  | first :: second :: rest =>
      refine ⟨_, answers_of_read (Comparands.read_strings comparison.name
        (List.cons_ne_nil second rest)), ?_⟩
      rw [Comparands.decides, decides_iff_holds Comparable.follows_texts]
      simp [Value.characters, Function.comp_def]

/-! ### All pairs -/

section Pairs

variable {β : Type} [LinearOrder β] {items others : List β}

theorem holds_equal_iff : equal.Holds items ↔ lessEqual.Holds items ∧ greaterEqual.Holds items := by
  unfold Holds
  rw [← List.pairwise_and_iff]
  simp only [le_antisymm_iff, ge_iff_le]

theorem holds_equal_perm (same : others.Perm items) : equal.Holds others ↔ equal.Holds items :=
  same.pairwise_iff Eq.symm

theorem holds_less_iff : less.Holds items ↔ greater.Holds items.reverse :=
  List.pairwise_reverse.symm

end Pairs

/-- What the comparisons make of operands that are ordered by keys. -/
structure Settled {β : Type} [LinearOrder β] (key : Value → β) (operands : List Value)
    (answer : Comparison → Bool) : Prop where
  answers : ∀ comparison : Comparison, comparison.Answers operands (answer comparison)
  holds : ∀ comparison, answer comparison = true ↔ comparison.Holds (operands.map key)
  negated : answer notEqual = !answer equal
  bothWays : answer equal = true ↔ answer lessEqual = true ∧ answer greaterEqual = true
  reordered : ∀ others, others.Perm operands → equal.Answers others (answer equal)
  reversed : greater.Answers operands.reverse (answer less)

theorem exists_settled {β : Type} [LinearOrder β] {key : Value → β} {alike : Value → Bool}
    (decided : ∀ {operands : List Value}, 2 ≤ operands.length →
      (∀ operand ∈ operands, alike operand = true) → ∀ comparison : Comparison,
        ∃ truth, comparison.Answers operands truth ∧
          (truth = true ↔ comparison.Holds (operands.map key)))
    (enough : 2 ≤ operands.length) (all : ∀ operand ∈ operands, alike operand = true) :
    ∃ answer, Settled key operands answer := by
  choose answer answers holds using decided enough all
  -- Other operands of the same type have the same answer where the same holds of them.
  have transfer {comparison other : Comparison} {others : List Value} (same : others.Perm operands)
      (iff : other.Holds (others.map key) ↔ comparison.Holds (operands.map key)) :
      other.Answers others (answer comparison) := by
    have several : 2 ≤ others.length := same.length_eq ▸ enough
    obtain ⟨truth, answered, decides⟩ :=
      decided several (fun operand member => all operand (same.subset member)) other
    have equal : truth = answer comparison :=
      Bool.eq_iff_iff.mpr (decides.trans (iff.trans (holds comparison).symm))
    exact equal ▸ answered
  refine ⟨answer, answers, holds, ?_, ?_, fun others same => ?_, ?_⟩
  · rw [Bool.eq_iff_iff, Bool.not_eq_true', ← Bool.not_eq_true, holds, holds]
    exact Iff.rfl
  · rw [holds, holds, holds]
    exact holds_equal_iff
  · exact transfer same (holds_equal_perm (same.map key))
  · refine transfer (List.reverse_perm operands) ?_
    rw [List.map_reverse]
    exact holds_less_iff.symm

/-- Comparisons of neighbours decide about all pairs of operands, and so do those with the first
operand. -/
theorem all_pairs_settled (operands : List Value) (enough : 2 ≤ operands.length) :
    ((∀ operand ∈ operands, operand.isInteger = true) →
      ∃ answer, Settled Value.whole operands answer) ∧
    ((∀ operand ∈ operands, operand.isString = true) →
      ∃ answer, Settled Value.characters operands answer) :=
  ⟨exists_settled integers_decided enough, exists_settled strings_decided enough⟩

/-- The last of three integers is greater than the first one, but less than its neighbour. A text
comes behind those that it starts with. -/
theorem all_pairs_settled_mixed :
    less.Answers [.integer 1 none, .integer 3 none, .integer 2 none] false ∧
      less.Answers [.string "B" none, .string "a" none, .string "ab" none] true := by
  obtain ⟨answer, numbers⟩ := (all_pairs_settled
    [.integer 1 none, .integer 3 none, .integer 2 none] (by decide)).1 (by decide)
  obtain ⟨other, texts⟩ := (all_pairs_settled
    [.string "B" none, .string "a" none, .string "ab" none] (by decide)).2 (by decide)
  have unordered : answer less = false := by
    rw [Bool.eq_false_iff, ne_eq, numbers.holds, Holds]
    decide
  have ordered : other less = true := by
    rw [texts.holds, Holds]
    decide
  exact ⟨unordered ▸ numbers.answers less, ordered ▸ texts.answers less⟩

end Comparison

end Lisplet
