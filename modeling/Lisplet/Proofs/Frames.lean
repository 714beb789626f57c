import Lisplet.Proofs.Expressions
import Lisplet.Proofs.Sessions

/-!
Where evaluation writes. Of the scopes that were there before, only the one that an expression is
evaluated in can change, and the root if there is an import.
-/

namespace Lisplet

variable {α : Type}

/-- Runs a procedure, with evaluation down to some depth for what it asks. -/
def Catalogue.perform (catalogue : Catalogue) (depth : Nat) (procedure : Procedure Request α) :
    Run α :=
  procedure.run (catalogue.answer (catalogue.valueOf depth))

theorem Catalogue.valueOf_eq_perform (catalogue : Catalogue) (depth : Nat) (call : Call) :
    catalogue.valueOf (depth + 1) call =
      Run.within call.expression (catalogue.perform depth (dispatch call.scope call.expression)) :=
  catalogue.valueOf_eq depth call

/-! ### Imports that are executed -/

/-- Does the answer to the question take an import? `inner` tells it of calls. -/
def Request.imports (inner : Call → World → Bool) (world : World) : Request → Bool
  | .call asked => inner asked world
  | .load _ _ _ => true

/-- Does the run of the procedure execute an import? -/
def Procedure.imports (answer : Request → Run Value) (inner : Call → World → Bool) :
    Procedure Request α → World → Bool
  | done _, _ => false
  | act run next, world =>
    match run world with
    | (.ok result, later) => (next result).imports answer inner later
    | (.error _, _) => false
  | ask asked next, world =>
    asked.imports inner world ||
      match answer asked world with
      | (.ok result, later) => (next result).imports answer inner later
      | (.error _, _) => false

/-- Does the evaluation of the call execute an import, however deep inside? -/
def Call.imports (catalogue : Catalogue) : Nat → Call → World → Bool
  | 0, _, _ => false
  | depth + 1, call, world =>
    (dispatch call.scope call.expression).imports (catalogue.answer (catalogue.valueOf depth))
      (Call.imports catalogue depth) world

def Catalogue.imports (catalogue : Catalogue) (depth : Nat) (procedure : Procedure Request α)
    (world : World) : Bool :=
  procedure.imports (catalogue.answer (catalogue.valueOf depth)) (Call.imports catalogue depth) world

theorem Procedure.imports_of_reaches {answer : Request → Run Value} {inner : Call → World → Bool}
    {procedure : Procedure Request α} {world reached : World} {asked : Request}
    (reaches : procedure.Reaches answer world asked reached)
    (imports : asked.imports inner reached = true) :
    procedure.imports answer inner world = true := by
  obtain ⟨left, advances⟩ := reaches
  generalize target : ask asked left = last at advances
  induction advances with
  | refl =>
      subst target
      rw [Procedure.imports, imports, Bool.true_or]
  | acted succeeds rest ih =>
      rw [Procedure.imports, succeeds]
      exact ih imports target
  | answered succeeds rest ih =>
      rw [Procedure.imports, succeeds, Bool.or_eq_true]
      exact .inr (ih imports target)

/-! ### Sparing scopes -/

/-- The spared scopes of a forest stay as they are, and nothing is evaluated in them. -/
def Policy.sparing (before : Forest) (spared : ScopeId → Prop) : Policy where
  world world := before.Grows world.forest ∧
    ∀ index, spared index → index < before.scopes.size →
      world.forest.scopes[index]? = before.scopes[index]?
  later _ _ := True
  scope _ scope := spared scope → before.scopes.size ≤ scope
  contents _ := Contents.any

theorem Policy.sparing_lawful (before : Forest) (spared : ScopeId → Prop) :
    (Policy.sparing before spared).Lawful where
  refl _ := trivial
  trans _ _ := trivial
  scope_later _ outside := outside
  value_later _ _ := trivial
  source_later _ _ := trivial
  failure_later _ fresh := fresh
  contents _ := Contents.any_lawful
  bound _ _ _ := trivial
  closure _ _ _ _ _ := trivial
  define := by
    rintro world scope value name ⟨grows, same⟩ outside -
    refine ⟨⟨grows.trans (Forest.grows_define _ _ _ _), ?_⟩, trivial⟩
    intro index isSpared there
    have other : scope ≠ index := by
      rintro rfl
      exact absurd (outside isSpared) (Nat.not_le_of_lt there)
    rw [Forest.scope_define, if_neg other]
    exact same index isSpared there
  openScope := by
    rintro world name parameters body captured ref ⟨grows, same⟩ -
    have fresh := grows.size_le
    refine ⟨⟨⟨grows.trans (Forest.grows_openScope _ _), ?_⟩, trivial⟩, fun _ => fresh⟩
    intro index isSpared there
    have other : index ≠ world.forest.scopes.size := Nat.ne_of_lt (Nat.lt_of_lt_of_le there fresh)
    rw [Forest.scope_openScope, if_neg other]
    exact same index isSpared there
  print _ allowed := ⟨allowed, trivial⟩

theorem Policy.Ensures.earlier {before : Forest} {spared : ScopeId → Prop} {reached : World}
    {run : Run α} {post : World → α → Prop} (allowed : (sparing before spared).world reached)
    (ensures : (sparing reached.forest fun index => spared index ∧ index < before.scopes.size).Ensures
      run post reached) : (sparing before spared).Ensures run post reached := by
  intro outcome last runs
  obtain ⟨⟨⟨grows, same⟩, -⟩, kept⟩ := ensures outcome last runs
  refine ⟨⟨⟨allowed.1.trans grows, ?_⟩, trivial⟩, kept⟩
  intro index isSpared there
  rw [same index ⟨isSpared, there⟩ (Nat.lt_of_lt_of_le there allowed.1.size_le)]
  exact allowed.2 index isSpared there

def Forest.Inner (forest : Forest) (spared : ScopeId → Prop) : Prop :=
  ∀ index, spared index → index < forest.scopes.size → (forest.parent? index).isSome

/-- The calls of a depth write to no scopes but their own, new ones, and roots by imports. -/
def SparesAt (catalogue : Catalogue) (depth : Nat) : Prop :=
  ∀ (call : Call) (world : World) (spared : ScopeId → Prop),
    (spared call.scope → world.forest.scopes.size ≤ call.scope) →
    (call.imports catalogue depth world = true → world.forest.Inner spared) →
    (Policy.sparing world.forest spared).Ensures (catalogue.valueOf depth call) (fun _ _ => True) world

theorem Policy.sparing_start (world : World) (spared : ScopeId → Prop) :
    (Policy.sparing world.forest spared).world world :=
  ⟨Forest.Grows.refl world.forest, fun _ _ _ => rfl⟩

theorem Procedure.Respects.spares {catalogue : Catalogue} {depth : Nat}
    (calls : SparesAt catalogue depth) {procedure : Procedure Request α} {world : World}
    {spared : ScopeId → Prop} {post : World → α → Prop}
    (respects : procedure.Respects (Policy.sparing world.forest spared)
      (Policy.sparing world.forest spared).request post world)
    (inner : catalogue.imports depth procedure world = true → world.forest.Inner spared) :
    (Policy.sparing world.forest spared).Ensures (catalogue.perform depth procedure) post world := by
  have lawful := Policy.sparing_lawful world.forest spared
  -- Calls are evaluated from where the run has got to.
  have answers (call : Call) (reached : World)
      (allowed : (Policy.sparing world.forest spared).world reached)
      (outside : spared call.scope → world.forest.scopes.size ≤ call.scope)
      (roots : call.imports catalogue depth reached = true → world.forest.Inner spared) :
      (Policy.sparing world.forest spared).Ensures (catalogue.valueOf depth call)
        (fun _ _ => True) reached := by
    refine (calls call reached _ ?_ ?_).earlier allowed
    · rintro ⟨isSpared, there⟩
      exact absurd (outside isSpared) (Nat.not_le_of_lt there)
    · rintro imports index ⟨isSpared, there⟩ -
      rw [allowed.1.parent there]
      exact roots imports index isSpared there
  refine respects.ensures lawful (Policy.sparing_start world spared) ?_
  intro asked reached reaches follows permitted
  cases asked with
  | call call =>
      refine answers call reached follows.1 permitted.1 fun imports => ?_
      exact inner (imports_of_reaches reaches (show Request.imports _ _ _ = true from imports))
  | load scope name start =>
      have taken : (Request.load scope name start).imports (Call.imports catalogue depth) reached =
          true := rfl
      have roots := inner (imports_of_reaches reaches taken)
      have admits : (Policy.sparing world.forest spared).Admits catalogue :=
        fun _ entry _ => Policy.any_admits catalogue reached entry trivial
      refine (Respects.load lawful admits start follows.1 ?_ fun _ _ => trivial).ensures lawful
        follows.1 fun call later _ after permitted => answers call later after.1 permitted.1 fun _ => roots
      intro isSpared
      refine Nat.le_of_not_lt fun there => ?_
      have inside := roots _ isSpared there
      rw [← follows.1.1.parent there, (Forest.root_spec reached.forest scope).1] at inside
      cases inside

theorem sparesAt (catalogue : Catalogue) (depth : Nat) : SparesAt catalogue depth := by
  induction depth with
  | zero =>
      rintro call world spared - - _ _ ⟨⟩
      exact ⟨⟨Policy.sparing_start world spared, trivial⟩, nofun⟩
  | succ depth ih =>
      intro call world spared outside inner
      rw [Catalogue.valueOf_eq_perform]
      have respects : (dispatch call.scope call.expression).Respects
          (Policy.sparing world.forest spared) (Policy.sparing world.forest spared).request
          (Policy.sparing world.forest spared).value world :=
        .dispatch (Policy.sparing_lawful world.forest spared) (Policy.sparing_start world spared)
          outside trivial
      have spares := (respects.spares ih inner).failing (Failure.through call.expression)
      exact fun outcome last runs => ⟨(spares outcome last runs).1, fun _ _ => trivial⟩

/-- Evaluation in a scope of a session changes no other scope that was there before, however it
ends; the root can change only if the scope is the root or an import is executed. The call of a
closure without imports changes no scope at all that was there before. -/
theorem Interpreter.evaluation_spares {interpreter : Interpreter} (reachable : interpreter.Reachable)
    (depth : Nat) :
    (∀ (expression : Value) (scope other : ScopeId),
      other < interpreter.world.forest.scopes.size → other ≠ scope →
      (other = root → Call.imports interpreter.catalogue depth ⟨expression, scope⟩
        interpreter.world = false) →
      (Lisplet.evaluate interpreter.catalogue depth expression scope
        interpreter.world).2.forest.scopes[other]? = interpreter.world.forest.scopes[other]?) ∧
    ∀ (world : World) (name : Text) (parameters : List Identifier) (body : List Value)
      (captured : ScopeId) (ref : Option Ref) (arguments : List Value) (other : ScopeId),
      other < world.forest.scopes.size →
      interpreter.catalogue.imports depth
        (apply (.closure name parameters body captured ref) arguments) world = false →
      (interpreter.catalogue.perform depth
        (apply (.closure name parameters body captured ref) arguments)
        world).2.forest.scopes[other]? = world.forest.scopes[other]? := by
  constructor
  · intro expression scope other there different quiet
    have spares := sparesAt interpreter.catalogue depth ⟨expression, scope⟩ interpreter.world
      (fun index => index = other) (fun same => absurd same.symm different) ?_
    · exact spares.follows.1.2 other rfl there
    · rintro imports index rfl -
      have wellFormed := reachable.sound.wellFormed
      refine wellFormed.parent (fun isRoot => ?_) there
      rw [quiet isRoot] at imports
      cases imports
  · intro world name parameters body captured ref arguments other there quiet
    have lawful := Policy.sparing_lawful world.forest fun _ => True
    have respects : (apply (.closure name parameters body captured ref) arguments).Respects
        (Policy.sparing world.forest fun _ => True)
        (Policy.sparing world.forest fun _ => True).request
        (Policy.sparing world.forest fun _ => True).value world :=
      .apply lawful (Policy.sparing_start world _) trivial fun _ _ => trivial
    have spares := respects.spares (sparesAt interpreter.catalogue depth) fun imports => by
      rw [quiet] at imports
      cases imports
    exact spares.follows.1.2 other trivial there

namespace Interpreter

def sampleDefinition : Value :=
  .list [.identifier ⟨"define", none⟩, .identifier ⟨"x", none⟩, .integer 1 none] none

def calledOnce : Interpreter :=
  let interpreter := start [.forms] ⟨[], [], ⟨[]⟩⟩
  let closure := Value.list [.identifier ⟨"lambda", none⟩, .list [] none] none
  (interpreter.perform (interpreter.evaluateRaw (.list [closure] none))).2.2

theorem calledOnce_reachable : calledOnce.Reachable := by
  have harmless : Catalogue.Harmless ⟨[], [], ⟨[]⟩⟩ := by
    rintro value ⟨library, member, -⟩
    cases member
  exact .evaluateRaw (.start [.forms] harmless) ⟨⟨trivial, trivial, trivial⟩, trivial⟩

theorem evaluation_spares_calledOnce :
    calledOnce.world.forest.scopes.size = 2 ∧
      Call.imports calledOnce.catalogue 5 ⟨sampleDefinition, 1⟩ calledOnce.world = false ∧
      (Lisplet.evaluate calledOnce.catalogue 5 sampleDefinition 1
        calledOnce.world).2.forest.scopes[0]? = calledOnce.world.forest.scopes[0]? ∧
      (calledOnce.catalogue.perform 5 (apply (.closure "f" [] [sampleDefinition] 0 none) [])
        calledOnce.world).2.forest.scopes[1]? = calledOnce.world.forest.scopes[1]? := by
  have spares := evaluation_spares calledOnce_reachable 5
  have two : calledOnce.world.forest.scopes.size = 2 := by decide +kernel
  have quiet : Call.imports calledOnce.catalogue 5 ⟨sampleDefinition, 1⟩ calledOnce.world = false := by
    decide +kernel
  refine ⟨two, quiet, ?_, ?_⟩
  · exact spares.1 sampleDefinition 1 0 (by rw [two]; decide) (by decide) fun _ => quiet
  · exact spares.2 calledOnce.world "f" [] [sampleDefinition] 0 none [] 1 (by rw [two]; decide)
      (by decide +kernel)

end Interpreter

end Lisplet
