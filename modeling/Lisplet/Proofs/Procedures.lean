import Lisplet.Evaluation

/-!
Procedures as programs over a world: how they run, what a run asks for on its way, where its failure
comes from, and the invariants that it keeps.
-/

namespace Lisplet

namespace Run

variable {α β : Type}

theorem pure_apply (result : α) (world : World) : (pure result : Run α) world = (.ok result, world) :=
  rfl

theorem bind_of_ok {first : Run α} {next : α → Run β} {world later : World} {result : α}
    (succeeds : first world = (.ok result, later)) : (first >>= next) world = next result later := by
  simp only [Bind.bind, succeeds]

theorem bind_of_error {first : Run α} {next : α → Run β} {world later : World} {failure : Failure}
    (fails : first world = (.error failure, later)) :
    (first >>= next) world = (.error failure, later) := by
  simp only [Bind.bind, fails]

theorem bind_assoc {γ : Type} (first : Run α) (second : α → Run β) (third : β → Run γ) :
    (first >>= second) >>= third = first >>= fun result => second result >>= third := by
  funext world
  rcases happens : first world with ⟨_ | _, later⟩
  · rw [bind_of_error happens, bind_of_error (bind_of_error happens)]
  · rw [bind_of_ok happens]
    rcases follows : second _ later with ⟨_ | _, last⟩
    · rw [bind_of_error follows, bind_of_error ((bind_of_ok happens).trans follows)]
    · rw [bind_of_ok follows, bind_of_ok ((bind_of_ok happens).trans follows)]

theorem bind_congr {first : Run α} {left right : α → Run β}
    (same : ∀ result, left result = right result) : first >>= left = first >>= right :=
  congrArg (first >>= ·) (funext same)

theorem bind_pure (run : Run α) : run >>= pure = run := by
  funext world
  rcases happens : run world with ⟨_ | _, later⟩
  · rw [bind_of_error happens]
  · rw [bind_of_ok happens, pure_apply]

instance : LawfulMonad Run :=
  LawfulMonad.mk' Run (fun run => bind_pure run) (fun _ _ => rfl)
    (fun first second third => bind_assoc first second third)

def failing (change : Failure → Failure) (run : Run α) : Run α := fun world =>
  match run world with
  | (.ok result, later) => (.ok result, later)
  | (.error failure, later) => (.error (change failure), later)

theorem within_eq_failing (frame : Value) (run : Run α) :
    run.within frame = run.failing (Failure.through frame) :=
  rfl

theorem failing_of_ok {change : Failure → Failure} {run : Run α} {world later : World} {result : α}
    (succeeds : run world = (.ok result, later)) :
    run.failing change world = (.ok result, later) := by
  rw [failing, succeeds]

theorem failing_of_error {change : Failure → Failure} {run : Run α} {world later : World}
    {failure : Failure} (fails : run world = (.error failure, later)) :
    run.failing change world = (.error (change failure), later) := by
  rw [failing, fails]

end Run

namespace Procedure

variable {request α β γ : Type} {answer : request → Run Value}

theorem bind_assoc (procedure : Procedure request α) (first : α → Procedure request β)
    (second : β → Procedure request γ) :
    (procedure.bind first).bind second = procedure.bind fun result => (first result).bind second := by
  induction procedure with
  | done result => rfl
  | act run next ih => exact congrArg (act run) (funext ih)
  | ask asked next ih => exact congrArg (ask asked) (funext ih)

theorem bind_done (procedure : Procedure request α) : procedure.bind done = procedure := by
  induction procedure with
  | done result => rfl
  | act run next ih => exact congrArg (act run) (funext ih)
  | ask asked next ih => exact congrArg (ask asked) (funext ih)

instance : LawfulMonad (Procedure request) :=
  LawfulMonad.mk' (Procedure request) (fun procedure => bind_done procedure) (fun _ _ => rfl)
    (fun procedure first second => bind_assoc procedure first second)

theorem run_bind (procedure : Procedure request α) (continuation : α → Procedure request β) :
    (procedure.bind continuation).run answer =
      procedure.run answer >>= fun result => (continuation result).run answer := by
  induction procedure with
  | done result => rfl
  | act run next ih => exact (Run.bind_congr ih).trans (Run.bind_assoc run _ _).symm
  | ask asked next ih => exact (Run.bind_congr ih).trans (Run.bind_assoc (answer asked) _ _).symm

end Procedure

def Catalogue.answer (catalogue : Catalogue) (answer : Call → Run Value) : Request → Run Value
  | .call call => answer call
  | .load scope name start => (catalogue.load scope name start).run answer

/-- The value of a call, as evaluation down to some depth gives it. -/
def Catalogue.valueOf (catalogue : Catalogue) (depth : Nat) (call : Call) : Run Value :=
  evaluate catalogue depth call.expression call.scope

theorem Catalogue.valueOf_succ (catalogue : Catalogue) (depth : Nat) (call : Call) :
    catalogue.valueOf (depth + 1) call =
      Run.within call.expression ((catalogue.procedure call).run (catalogue.valueOf depth)) :=
  rfl

namespace Procedure

variable {request α : Type} {answer : request → Run Value}

theorem run_inline (catalogue : Catalogue) (answer : Call → Run Value)
    (procedure : Procedure Request α) :
    (procedure.inline catalogue).run answer = procedure.run (catalogue.answer answer) := by
  induction procedure with
  | done result => rfl
  | act run next ih => exact Run.bind_congr ih
  | ask asked next ih =>
      cases asked with
      | call call => exact Run.bind_congr ih
      | load scope name start => exact (run_bind _ _).trans (Run.bind_congr ih)

/-! ### The course of a run -/

/-- The run of the first procedure gets to where the second one is left to be run. -/
inductive Advances (answer : request → Run Value) :
    Procedure request α → World → Procedure request α → World → Prop
  | refl {procedure : Procedure request α} {world : World} :
      Advances answer procedure world procedure world
  | acted {γ : Type} {run : Run γ} {next : γ → Procedure request α} {left : Procedure request α}
      {world middle last : World} {result : γ} (succeeds : run world = (.ok result, middle))
      (rest : Advances answer (next result) middle left last) :
      Advances answer (act run next) world left last
  | answered {asked : request} {next : Value → Procedure request α} {left : Procedure request α}
      {world middle last : World} {result : Value}
      (succeeds : answer asked world = (.ok result, middle))
      (rest : Advances answer (next result) middle left last) :
      Advances answer (ask asked next) world left last

/-- The run of the procedure gets to a question, in some world. -/
def Reaches (answer : request → Run Value) (procedure : Procedure request α) (world : World)
    (asked : request) (reached : World) : Prop :=
  ∃ next, procedure.Advances answer world (ask asked next) reached

/-- The run of the procedure gets to an action that fails. -/
def Raises (answer : request → Run Value) (procedure : Procedure request α) (world : World)
    (failure : Failure) (last : World) : Prop :=
  ∃ (γ : Type) (run : Run γ) (next : γ → Procedure request α) (reached : World),
    procedure.Advances answer world (act run next) reached ∧ run reached = (.error failure, last)

theorem Reaches.acted {γ : Type} {run : Run γ} {next : γ → Procedure request α}
    {world middle reached : World} {result : γ} {asked : request}
    (succeeds : run world = (.ok result, middle))
    (reaches : (next result).Reaches answer middle asked reached) :
    (act run next).Reaches answer world asked reached := by
  obtain ⟨left, advances⟩ := reaches
  exact ⟨left, .acted succeeds advances⟩

theorem Reaches.answered {first asked : request} {next : Value → Procedure request α}
    {world middle reached : World} {result : Value}
    (succeeds : answer first world = (.ok result, middle))
    (reaches : (next result).Reaches answer middle asked reached) :
    (ask first next).Reaches answer world asked reached := by
  obtain ⟨left, advances⟩ := reaches
  exact ⟨left, .answered succeeds advances⟩

theorem Raises.acted {γ : Type} {run : Run γ} {next : γ → Procedure request α}
    {world middle last : World} {result : γ} {failure : Failure}
    (succeeds : run world = (.ok result, middle))
    (raises : (next result).Raises answer middle failure last) :
    (act run next).Raises answer world failure last := by
  obtain ⟨γ, action, left, reached, advances, fails⟩ := raises
  exact ⟨γ, action, left, reached, .acted succeeds advances, fails⟩

theorem Raises.answered {first : request} {next : Value → Procedure request α}
    {world middle last : World} {result : Value} {failure : Failure}
    (succeeds : answer first world = (.ok result, middle))
    (raises : (next result).Raises answer middle failure last) :
    (ask first next).Raises answer world failure last := by
  obtain ⟨γ, action, left, reached, advances, fails⟩ := raises
  exact ⟨γ, action, left, reached, .answered succeeds advances, fails⟩

theorem run_ok {procedure : Procedure request α} {world last : World} {result : α}
    (succeeds : procedure.run answer world = (.ok result, last)) :
    procedure.Advances answer world (done result) last := by
  induction procedure generalizing world with
  | done given =>
      cases succeeds
      exact .refl
  | act run next ih =>
      rcases happens : run world with ⟨failure | given, middle⟩
      · rw [Procedure.run, Run.bind_of_error happens] at succeeds
        cases succeeds
      · rw [Procedure.run, Run.bind_of_ok happens] at succeeds
        exact .acted happens (ih given succeeds)
  | ask asked next ih =>
      rcases happens : answer asked world with ⟨failure | given, middle⟩
      · rw [Procedure.run, Run.bind_of_error happens] at succeeds
        cases succeeds
      · rw [Procedure.run, Run.bind_of_ok happens] at succeeds
        exact .answered happens (ih given succeeds)

/-- A failure is raised by an action, or it is the answer to a question. -/
theorem run_error {procedure : Procedure request α} {world last : World} {failure : Failure}
    (fails : procedure.run answer world = (.error failure, last)) :
    procedure.Raises answer world failure last ∨
      ∃ asked reached, procedure.Reaches answer world asked reached ∧
        answer asked reached = (.error failure, last) := by
  induction procedure generalizing world with
  | done result => cases fails
  | act run next ih =>
      rcases happens : run world with ⟨other | result, middle⟩
      · rw [Procedure.run, Run.bind_of_error happens] at fails
        cases fails
        exact .inl ⟨_, run, next, world, .refl, happens⟩
      · rw [Procedure.run, Run.bind_of_ok happens] at fails
        rcases ih result fails with raises | ⟨asked, reached, reaches, answered⟩
        · exact .inl (raises.acted happens)
        · exact .inr ⟨asked, reached, reaches.acted happens, answered⟩
  | ask first next ih =>
      rcases happens : answer first world with ⟨other | result, middle⟩
      · rw [Procedure.run, Run.bind_of_error happens] at fails
        cases fails
        exact .inr ⟨first, world, ⟨next, .refl⟩, happens⟩
      · rw [Procedure.run, Run.bind_of_ok happens] at fails
        rcases ih result fails with raises | ⟨asked, reached, reaches, answered⟩
        · exact .inl (raises.answered happens)
        · exact .inr ⟨asked, reached, reaches.answered happens, answered⟩

theorem run_of_advances {procedure left : Procedure request α} {world reached : World}
    (advances : procedure.Advances answer world left reached) :
    procedure.run answer world = left.run answer reached := by
  induction advances with
  | refl => rfl
  | acted succeeds rest ih => rw [Procedure.run, Run.bind_of_ok succeeds, ih]
  | answered succeeds rest ih => rw [Procedure.run, Run.bind_of_ok succeeds, ih]

theorem run_of_raises {procedure : Procedure request α} {world last : World} {failure : Failure}
    (raises : procedure.Raises answer world failure last) :
    procedure.run answer world = (.error failure, last) := by
  obtain ⟨γ, run, next, reached, advances, fails⟩ := raises
  rw [run_of_advances advances, Procedure.run, Run.bind_of_error fails]

theorem run_of_reaches {procedure : Procedure request α} {world reached last : World}
    {asked : request} {failure : Failure} (reaches : procedure.Reaches answer world asked reached)
    (fails : answer asked reached = (.error failure, last)) :
    procedure.run answer world = (.error failure, last) := by
  obtain ⟨next, advances⟩ := reaches
  rw [run_of_advances advances, Procedure.run, Run.bind_of_error fails]

end Procedure

end Lisplet
