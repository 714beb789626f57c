import Mathlib.Data.List.Chain
import Lisplet.Proofs.Imports
import Lisplet.Proofs.Questions

/-!
The expressions that a failure notes on its way out are those of the calls that were active when it
was raised. An evaluator that keeps account of its calls has the same path at hand at that moment.
-/

namespace Lisplet

variable {α : Type}

/-! ### Failures and paths -/

namespace Failure

/-- The frames of a failure, the innermost first. Issues have none. -/
def frames? : Failure → Option (List Value)
  | .error inner => some inner.stack
  | .fault _ passed => some passed.reverse
  | .panic _ stack => some stack
  | .unreadable _ | .issue _ => none

/-- The failure with the path as its frames, the innermost first. Issues stay as they are. -/
def on (path : List Value) : Failure → Failure
  | .error inner => .error { inner with passed := path.reverse }
  | .fault cause _ => .fault cause path.reverse
  | failure => failure

def below (path : List Value) : Failure → Failure
  | .error inner => .error { inner with passed := path.reverse ++ inner.passed }
  | .fault cause passed => .fault cause (path.reverse ++ passed)
  | failure => failure

theorem below_nil (failure : Failure) : failure.below [] = failure := by
  cases failure <;> rfl

theorem through_below (failure : Failure) (frame : Value) (path : List Value) :
    (failure.through frame).below path = failure.below (frame :: path) := by
  cases failure <;> simp [below, through]

theorem IsFresh.on_eq_below {failure : Failure} (fresh : failure.IsFresh) (path : List Value) :
    failure.on path = failure.below path := by
  cases failure with
  | error inner =>
      have none : inner.passed = [] := fresh
      simp [on, below, none]
  | fault cause passed =>
      have none : passed = [] := fresh
      simp [on, below, none]
  | panic cause stack => rfl
  | unreadable issues => rfl
  | issue issue => rfl

theorem on_through (failure : Failure) (path : List Value) (frame : Value) :
    (failure.on path).through frame = failure.on (path ++ [frame]) := by
  cases failure <;> simp [on, through]

theorem IsFresh.frames_on {failure : Failure} (fresh : failure.IsFresh) (path : List Value) :
    (failure.on path).frames? = some path ∨
      (failure.on path = failure ∧ failure.frames? = none) := by
  cases failure with
  | error inner => simp [on, frames?, RuntimeError.stack]
  | fault cause passed => simp [on, frames?]
  | panic cause stack => exact fresh.elim
  | unreadable issues => exact .inr ⟨rfl, rfl⟩
  | issue issue => exact .inr ⟨rfl, rfl⟩

theorem frames_atBoundary (failure : Failure) : failure.atBoundary.frames? = failure.frames? := by
  cases failure <;> rfl

end Failure

/-! ### Evaluation that keeps account of its calls -/

/-- Runs a procedure whose call has a path. Its actions fail on the path, and what fails further
inside passes as it is. -/
def Procedure.runOn {request : Type} (path : List Value) (answer : request → Run Value) :
    Procedure request α → Run α
  | done result => pure result
  | act run next => do (next (← run.failing (Failure.on path))).runOn path answer
  | ask asked next => do (next (← answer asked)).runOn path answer

/-- Evaluates an expression and keeps the path of all active calls, the innermost first. Failures
get the path when they are raised, and nothing afterwards. -/
def tracked (catalogue : Catalogue) : Nat → List Value → Evaluator
  | 0, path => fun _ _ => Run.fail ((Failure.ofFault .depthExceeded).on path)
  | depth + 1, path => fun expression scope =>
    (catalogue.procedure ⟨expression, scope⟩).runOn (expression :: path) fun call =>
      tracked catalogue depth (expression :: path) call.expression call.scope

def Policy.any : Policy where
  world _ := True
  later _ _ := True
  scope _ _ := True
  contents _ := Contents.any

theorem Policy.any_lawful : Policy.any.Lawful where
  refl _ := trivial
  trans _ _ := trivial
  scope_later _ _ := trivial
  value_later _ _ := trivial
  source_later _ _ := trivial
  failure_later _ fresh := fresh
  contents _ := Contents.any_lawful
  bound _ _ _ := trivial
  closure _ _ _ _ _ := trivial
  define _ _ _ _ := ⟨trivial, trivial⟩
  openScope _ _ := ⟨⟨trivial, trivial⟩, trivial⟩
  print _ _ := ⟨trivial, trivial⟩

theorem Policy.any_admits (catalogue : Catalogue) : Policy.any.Admits catalogue := by
  intro world entry _ _
  cases entry with
  | constant value => trivial
  | function registrant adapters unwrap => cases registrant <;> trivial

theorem Policy.any_ensures (run : Run Value) (world : World) :
    Policy.any.Ensures run Policy.any.value world :=
  fun _ _ _ => ⟨⟨trivial, trivial⟩, fun _ _ => trivial⟩

theorem Catalogue.procedure_any (catalogue : Catalogue) (call : Call) (world : World) :
    (catalogue.procedure call).Respects Policy.any Policy.any.call Policy.any.value world :=
  Catalogue.procedure_respects Policy.any_lawful (fun _ _ _ _ => trivial) (Policy.any_admits catalogue)
    (fun _ _ => trivial) trivial ⟨trivial, trivial⟩

theorem Procedure.runOn_eq {request : Type} {permitted : World → request → Prop} {path : List Value}
    {answer track : request → Run Value}
    (tracks : ∀ asked world, track asked world = (answer asked).failing (Failure.below path) world)
    {procedure : Procedure request α} {post : World → α → Prop} {world : World}
    (respects : procedure.Respects Policy.any permitted post world) :
    procedure.runOn path track world =
      (procedure.run answer).failing (Failure.below path) world := by
  induction procedure generalizing world with
  | done result => rfl
  | act run next ih =>
      rw [Procedure.runOn]
      rcases happens : run world with ⟨failure | result, middle⟩
      · have whole : (act run next).run answer world = (.error failure, middle) := by
          rw [Procedure.run, Run.bind_of_error happens]
        have fresh : failure.IsFresh := respects.2 _ _ happens
        rw [Run.bind_of_error (Run.failing_of_error happens), Run.failing_of_error whole,
          fresh.on_eq_below]
      · have rest := (respects.1 _ _ happens).2 result rfl
        rw [Run.bind_of_ok (Run.failing_of_ok happens), ih result rest, Run.failing, Run.failing,
          Procedure.run, Run.bind_of_ok happens]
  | ask asked next ih =>
      rw [Procedure.runOn]
      rcases happens : answer asked world with ⟨failure | result, middle⟩
      · have whole : (ask asked next).run answer world = (.error failure, middle) := by
          rw [Procedure.run, Run.bind_of_error happens]
        rw [Run.bind_of_error ((tracks asked world).trans (Run.failing_of_error happens)),
          Run.failing_of_error whole]
      · have rest := respects.2 result middle ⟨trivial, trivial⟩ trivial
        rw [Run.bind_of_ok ((tracks asked world).trans (Run.failing_of_ok happens)),
          ih result rest, Run.failing, Run.failing, Procedure.run, Run.bind_of_ok happens]

theorem tracked_eq (catalogue : Catalogue) (depth : Nat) (path : List Value) (expression : Value)
    (scope : ScopeId) (world : World) :
    tracked catalogue depth path expression scope world =
      (evaluate catalogue depth expression scope).failing (Failure.below path) world := by
  induction depth generalizing path expression scope world with
  | zero =>
      have fresh : (Failure.ofFault .depthExceeded).IsFresh := rfl
      change (Except.error _, world) = (Except.error _, world)
      rw [fresh.on_eq_below]
  | succ depth ih =>
      have tracks (call : Call) (later : World) :
          tracked catalogue depth (expression :: path) call.expression call.scope later =
            (catalogue.valueOf depth call).failing (Failure.below (expression :: path)) later :=
        ih (expression :: path) call.expression call.scope later
      refine (Procedure.runOn_eq tracks
        (catalogue.procedure_any ⟨expression, scope⟩ world)).trans ?_
      have whole : evaluate catalogue (depth + 1) expression scope =
          ((catalogue.procedure ⟨expression, scope⟩).run (catalogue.valueOf depth)).failing
            (Failure.through expression) :=
        rfl
      rw [whole]
      rcases happens : (catalogue.procedure ⟨expression, scope⟩).run (catalogue.valueOf depth) world
        with ⟨failure | result, last⟩
      · rw [Run.failing_of_error happens, Run.failing_of_error (Run.failing_of_error happens),
          Failure.through_below]
      · rw [Run.failing_of_ok happens, Run.failing_of_ok (Run.failing_of_ok happens)]

/-! ### Calls that are active when a failure is raised -/

namespace Catalogue

/-- While the call is evaluated, the failure is raised with the world left like this, and the calls
are those that are active then, the innermost first. -/
inductive Active (catalogue : Catalogue) (raised : Failure) (last : World) :
    Nat → Call → World → List Call → Prop
  | here {depth : Nat} {call : Call} {world : World}
      (raises : (catalogue.procedure call).Raises (catalogue.valueOf depth) world raised last) :
      Active catalogue raised last (depth + 1) call world [call]
  | inside {depth : Nat} {outer inner : Call} {world reached : World} {calls : List Call}
      (reaches : (catalogue.procedure outer).Reaches (catalogue.valueOf depth) world inner reached)
      (active : Active catalogue raised last depth inner reached calls) :
      Active catalogue raised last (depth + 1) outer world (calls ++ [outer])

/-- One call hands another one to evaluation, at some depth. -/
def HandedBy (catalogue : Catalogue) (inner outer : Call) : Prop :=
  ∃ depth, catalogue.Hands (catalogue.valueOf depth) outer inner

namespace Active

variable {catalogue : Catalogue} {raised : Failure} {last : World} {depth : Nat} {call : Call}
  {world : World} {calls : List Call}

theorem getLast? (active : catalogue.Active raised last depth call world calls) :
    calls.getLast? = some call := by
  cases active with
  | here raises => rfl
  | inside reaches active => exact List.getLast?_concat

theorem isChain (active : catalogue.Active raised last depth call world calls) :
    calls.IsChain catalogue.HandedBy := by
  induction active with
  | here raises => exact .singleton _
  | inside reaches active ih =>
      refine ih.append (.singleton _) ?_
      intro inner member outer given
      rw [active.getLast?] at member
      cases member
      cases given
      exact ⟨_, hands_of_reaches reaches⟩

theorem fresh (active : catalogue.Active raised last depth call world calls) : raised.IsFresh := by
  induction active with
  | here raises =>
      exact (catalogue.procedure_any _ _).raised Policy.any_lawful trivial
        (fun _ _ _ _ _ => Policy.any_ensures _ _) raises
  | inside reaches active ih => exact ih

theorem fails (active : catalogue.Active raised last depth call world calls) :
    catalogue.valueOf depth call world = (.error (raised.on (calls.map Call.expression)), last) := by
  induction active with
  | @here depth call world raises =>
      have first : raised.through call.expression = raised.on [call.expression] := by
        rw [(Active.here raises).fresh.on_eq_below, ← Failure.through_below, Failure.below_nil]
      rw [valueOf_succ, Run.within_eq_failing,
        Run.failing_of_error (Procedure.run_of_raises raises), first]
      rfl
  | inside reaches active ih =>
      rw [valueOf_succ, Run.within_eq_failing,
        Run.failing_of_error (Procedure.run_of_reaches reaches ih), Failure.on_through,
        List.map_append]
      rfl

end Active

theorem active_of_fails {catalogue : Catalogue} {depth : Nat} {call : Call} {world last : World}
    {failure : Failure} (fails : catalogue.valueOf depth call world = (.error failure, last))
    (shallow : ∀ passed, failure ≠ .fault .depthExceeded passed) :
    ∃ raised calls, catalogue.Active raised last depth call world calls := by
  induction depth generalizing call world failure with
  | zero =>
      cases fails
      exact absurd rfl (shallow [])
  | succ depth ih =>
      rw [valueOf_succ, Run.within_eq_failing] at fails
      rcases happens : (catalogue.procedure call).run (catalogue.valueOf depth) world
        with ⟨inner | result, middle⟩
      · rw [Run.failing_of_error happens] at fails
        cases fails
        rcases Procedure.run_error happens with raises | ⟨asked, reached, reaches, answered⟩
        · exact ⟨inner, [call], .here raises⟩
        · have within : ∀ passed, inner ≠ .fault .depthExceeded passed := by
            rintro passed rfl
            exact shallow (call.expression :: passed) rfl
          obtain ⟨raised, calls, active⟩ := ih answered within
          exact ⟨raised, calls ++ [call], .inside reaches active⟩
      · rw [Run.failing_of_ok happens] at fails
        cases fails

end Catalogue

/-- The frames of a failure are the expressions of the calls that were active when it was raised, the
innermost first. An evaluator that keeps account of its calls gives the same, the panic at the
boundary shows the same, and issues pass as they were raised. -/
theorem evaluate_frames {catalogue : Catalogue} {depth : Nat} {expression : Value} {scope : ScopeId}
    {world last : World} {failure : Failure}
    (fails : evaluate catalogue depth expression scope world = (.error failure, last))
    (shallow : ∀ passed, failure ≠ .fault .depthExceeded passed) :
    (∃ raised calls, catalogue.Active raised last depth ⟨expression, scope⟩ world calls) ∧
    (∀ raised calls, catalogue.Active raised last depth ⟨expression, scope⟩ world calls →
      (failure.frames? = some (calls.map Call.expression) ∨
        (failure.frames? = none ∧ failure = raised)) ∧
      failure = raised.on (calls.map Call.expression) ∧ raised.IsFresh ∧
      calls.getLast? = some ⟨expression, scope⟩ ∧ calls.IsChain catalogue.HandedBy) ∧
    tracked catalogue depth [] expression scope world = (.error failure, last) ∧
    (evaluate catalogue depth expression scope).bounded world = (.error failure.atBoundary, last) ∧
    failure.atBoundary.frames? = failure.frames? := by
  refine ⟨Catalogue.active_of_fails fails shallow, ?_, ?_, Run.failing_of_error fails,
    failure.frames_atBoundary⟩
  · intro raised calls active
    have same : failure = raised.on (calls.map Call.expression) := by
      have arrives := fails.symm.trans active.fails
      cases arrives
      rfl
    refine ⟨?_, same, active.fresh, active.getLast?, active.isChain⟩
    rw [same]
    rcases active.fresh.frames_on (calls.map Call.expression) with frames | ⟨unchanged, none⟩
    · exact .inl frames
    · exact .inr ⟨unchanged.symm ▸ none, unchanged⟩
  · rw [tracked_eq, Run.failing_of_error fails, Failure.below_nil]

def numberApplied : Value :=
  .list [.integer 1 none] none

theorem evaluate_frames_numberApplied :
    ∃ raised calls,
      Catalogue.Active ⟨[], [], ⟨[]⟩⟩ raised ⟨Forest.empty, #[]⟩ 3 ⟨.list [numberApplied] none, 0⟩
        ⟨Forest.empty, #[]⟩ calls ∧
      calls.map Call.expression = [numberApplied, .list [numberApplied] none] := by
  have fails : evaluate ⟨[], [], ⟨[]⟩⟩ 3 (.list [numberApplied] none) 0 ⟨Forest.empty, #[]⟩ =
      (.error (.error ⟨.notCallable (.integer 1 none), none,
        [.list [numberApplied] none, numberApplied]⟩), ⟨Forest.empty, #[]⟩) :=
    rfl
  obtain ⟨⟨raised, calls, active⟩, all, -⟩ := evaluate_frames fails nofun
  refine ⟨raised, calls, active, ?_⟩
  rcases (all raised calls active).1 with frames | ⟨none, -⟩
  · exact (Option.some.inj frames).symm
  · cases none

end Lisplet
