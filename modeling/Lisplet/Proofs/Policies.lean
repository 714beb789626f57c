import Lisplet.Proofs.Contents
import Lisplet.Proofs.Procedures

/-!
Policies: invariants of worlds, of the scopes that are used in them and of the values that go
around. A procedure respects a policy if its actions do, as long as the answers that it gets do;
then so does its run.
-/

namespace Lisplet

structure Policy where
  world : World → Prop
  later : World → World → Prop
  scope : World → ScopeId → Prop
  contents : World → Contents

namespace Policy

def value (policy : Policy) (world : World) : Value → Prop :=
  (policy.contents world).value

def Follows (policy : Policy) (world later : World) : Prop :=
  policy.world later ∧ policy.later world later

def call (policy : Policy) (world : World) (call : Call) : Prop :=
  policy.scope world call.scope ∧ policy.value world call.expression

def request (policy : Policy) (world : World) : Request → Prop
  | .call call => policy.call world call
  | .load scope _ _ => policy.scope world scope

/-- Everything that evaluation does to a world is allowed. -/
structure Lawful (policy : Policy) : Prop where
  refl : ∀ world, policy.later world world
  trans : ∀ {first second third}, policy.later first second → policy.later second third →
    policy.later first third
  scope_later : ∀ {world later scope}, policy.later world later → policy.scope world scope →
    policy.scope later scope
  value_later : ∀ {world later value}, policy.later world later → policy.value world value →
    policy.value later value
  source_later : ∀ {world later source}, policy.later world later →
    (policy.contents world).source source → (policy.contents later).source source
  failure_later : ∀ {world later failure}, policy.later world later →
    (policy.contents world).failure failure → (policy.contents later).failure failure
  contents : ∀ world, (policy.contents world).Lawful
  bound : ∀ {world scope name value}, policy.world world → policy.scope world scope →
    world.forest.get? scope name = some value → policy.value world value
  closure : ∀ {world scope items ref parameters body} (name), policy.scope world scope →
    policy.value world (.list items ref) →
    (∀ parameter ∈ parameters, policy.value world (.identifier parameter)) →
    (∀ form ∈ body, policy.value world form) →
    policy.value world (.closure name parameters body scope ref)
  define : ∀ {world scope value} (name), policy.world world → policy.scope world scope →
    policy.value world value →
    policy.Follows world { world with forest := world.forest.define scope name value }
  openScope : ∀ {world name parameters body captured ref}, policy.world world →
    policy.value world (.closure name parameters body captured ref) →
    policy.Follows world { world with forest := (world.forest.openScope (some captured)).2 } ∧
      policy.scope { world with forest := (world.forest.openScope (some captured)).2 }
        (world.forest.openScope (some captured)).1
  print : ∀ {world} (text : Text), policy.world world →
    policy.Follows world { world with output := world.output ++ text }

variable {policy : Policy} {α β : Type}

theorem Follows.trans (lawful : policy.Lawful) {first second third : World}
    (before : policy.Follows first second) (after : policy.Follows second third) :
    policy.Follows first third :=
  ⟨after.1, lawful.trans before.2 after.2⟩

/-- The run leads to an allowed world, and to a result with a property if it succeeds. -/
def Ensures (policy : Policy) (run : Run α) (post : World → α → Prop) (world : World) : Prop :=
  ∀ outcome last, run world = (outcome, last) →
    policy.Follows world last ∧ ∀ result, outcome = .ok result → post last result

theorem Ensures.follows {run : Run α} {post : World → α → Prop} {world : World}
    (ensures : policy.Ensures run post world) : policy.Follows world (run world).2 :=
  (ensures _ _ rfl).1

theorem Ensures.pure (lawful : policy.Lawful) {world : World} {result : α} {post : World → α → Prop}
    (allowed : policy.world world) (holds : post world result) :
    policy.Ensures (pure result) post world := by
  rintro _ _ ⟨⟩
  refine ⟨⟨allowed, lawful.refl world⟩, ?_⟩
  rintro _ ⟨⟩
  exact holds

theorem Ensures.bind (lawful : policy.Lawful) {world : World} {run : Run α} {next : α → Run β}
    {post : World → α → Prop} {final : World → β → Prop} (first : policy.Ensures run post world)
    (continues : ∀ later result, policy.Follows world later → post later result →
      policy.Ensures (next result) final later) : policy.Ensures (run >>= next) final world := by
  intro outcome last runs
  rcases happens : run world with ⟨failure | result, middle⟩
  · rw [Run.bind_of_error happens] at runs
    cases runs
    exact ⟨(first _ _ happens).1, nofun⟩
  · rw [Run.bind_of_ok happens] at runs
    obtain ⟨follows, holds⟩ := first _ _ happens
    obtain ⟨after, kept⟩ := continues middle result follows (holds result rfl) outcome last runs
    exact ⟨follows.trans lawful after, kept⟩

def Keeps (policy : Policy) (run : Run α) (post : World → α → Prop) (world : World) : Prop :=
  policy.Ensures run post world ∧ ∀ failure last, run world = (.error failure, last) →
    (policy.contents last).failure failure

end Policy

namespace Procedure

variable {policy : Policy} {request α β : Type} {permitted : World → request → Prop}

/-- All actions keep the policy and all questions are permitted, as long as all answers keep it. -/
def Respects (policy : Policy) (permitted : World → request → Prop) :
    Procedure request α → (World → α → Prop) → World → Prop
  | done result, post, world => post world result
  | act run next, post, world =>
    policy.Keeps run (fun later result => (next result).Respects policy permitted post later) world
  | ask asked next, post, world =>
    permitted world asked ∧ ∀ answer later, policy.Follows world later →
      policy.value later answer → (next answer).Respects policy permitted post later

theorem Respects.bind (lawful : policy.Lawful) {procedure : Procedure request α}
    {continuation : α → Procedure request β} {post : World → α → Prop} {final : World → β → Prop}
    {world : World} (allowed : policy.world world)
    (respects : procedure.Respects policy permitted post world)
    (continues : ∀ later result, policy.Follows world later → post later result →
      (continuation result).Respects policy permitted final later) :
    (procedure >>= continuation).Respects policy permitted final world := by
  change (procedure.bind continuation).Respects policy permitted final world
  induction procedure generalizing world with
  | done result => exact continues world result ⟨allowed, lawful.refl world⟩ respects
  | act run next ih =>
      refine ⟨fun outcome last happens => ?_, respects.2⟩
      obtain ⟨follows, kept⟩ := respects.1 outcome last happens
      refine ⟨follows, fun result succeeds => ih result follows.1 (kept result succeeds) ?_⟩
      intro later given after
      exact continues later given (follows.trans lawful after)
  | ask asked next ih =>
      refine ⟨respects.1, fun answer middle follows fine => ?_⟩
      refine ih answer follows.1 (respects.2 answer middle follows fine) ?_
      intro later given after
      exact continues later given (follows.trans lawful after)

theorem Respects.lift {run : Run α} {post : World → α → Prop} {world : World}
    (keeps : policy.Keeps run post world) :
    (liftM run : Procedure request α).Respects policy permitted post world :=
  keeps

/-! ### Loops -/

def Lasts {ι : Type} (policy : Policy) (property : World → ι → Prop) : Prop :=
  ∀ world later thing, policy.Follows world later → property world thing → property later thing

theorem Respects.mapM (lawful : policy.Lawful) {ι : Type} {step : ι → Procedure request α}
    {fine : World → ι → Prop} {post : World → α → Prop} (lasts : Lasts policy fine)
    (stays : Lasts policy post)
    (steps : ∀ world item, policy.world world → fine world item →
      (step item).Respects policy permitted post world)
    {items : List ι} {world : World} (allowed : policy.world world)
    (all : ∀ item ∈ items, fine world item) :
    (items.mapM step).Respects policy permitted
      (fun later results => ∀ result ∈ results, post later result) world := by
  induction items generalizing world with
  | nil =>
      rw [List.mapM_nil]
      intro result member
      cases member
  | cons item items ih =>
      rw [List.mapM_cons]
      refine (steps world item allowed (all item List.mem_cons_self)).bind lawful allowed ?_
      intro middle result follows first
      have rest : ∀ other ∈ items, fine middle other := fun other member =>
        lasts _ _ _ follows (all other (List.mem_cons_of_mem item member))
      refine (ih follows.1 rest).bind lawful follows.1 ?_
      intro later results after others other member
      rcases List.mem_cons.mp member with rfl | member
      · exact stays _ _ _ after first
      · exact others other member

theorem Respects.foldlM (lawful : policy.Lawful) {ι : Type} {step : β → ι → Procedure request β}
    {fine : World → ι → Prop} {post : World → β → Prop} (lasts : Lasts policy fine)
    (steps : ∀ world item state, policy.world world → fine world item →
      (step state item).Respects policy permitted post world)
    {items : List ι} {world : World} {state : β} (allowed : policy.world world)
    (all : ∀ item ∈ items, fine world item) (start : post world state) :
    (items.foldlM step state).Respects policy permitted post world := by
  induction items generalizing world state with
  | nil => exact start
  | cons item items ih =>
      rw [List.foldlM_cons]
      refine (steps world item state allowed (all item List.mem_cons_self)).bind lawful allowed ?_
      intro later result follows kept
      exact ih follows.1
        (fun other member => lasts _ _ _ follows (all other (List.mem_cons_of_mem item member))) kept

theorem Respects.forM (lawful : policy.Lawful) {ι : Type} {step : ι → Procedure request PUnit}
    {fine : World → ι → Prop} (lasts : Lasts policy fine)
    (steps : ∀ world item, policy.world world → fine world item →
      (step item).Respects policy permitted (fun _ _ => True) world)
    {items : List ι} {world : World} (allowed : policy.world world)
    (all : ∀ item ∈ items, fine world item) :
    (items.forM step).Respects policy permitted (fun _ _ => True) world := by
  induction items generalizing world with
  | nil => exact trivial
  | cons item items ih =>
      change (step item >>= fun _ => items.forM step).Respects policy permitted _ world
      refine (steps world item allowed (all item List.mem_cons_self)).bind lawful allowed ?_
      intro later result follows kept
      exact ih follows.1 fun other member => lasts _ _ _ follows (all other (List.mem_cons_of_mem item member))

/-! ### Runs -/

variable {answer : request → Run Value}

theorem Respects.advances (lawful : policy.Lawful) {procedure left : Procedure request α}
    {post : World → α → Prop} {world reached : World} (allowed : policy.world world)
    (respects : procedure.Respects policy permitted post world)
    (answers : ∀ asked middle, procedure.Reaches answer world asked middle →
      policy.Follows world middle → permitted middle asked →
      policy.Ensures (answer asked) policy.value middle)
    (advances : procedure.Advances answer world left reached) :
    policy.Follows world reached ∧ left.Respects policy permitted post reached := by
  induction advances with
  | refl => exact ⟨⟨allowed, lawful.refl _⟩, respects⟩
  | acted succeeds rest ih =>
      obtain ⟨follows, kept⟩ := respects.1 _ _ succeeds
      obtain ⟨after, inTheEnd⟩ := ih follows.1 (kept _ rfl) fun asked middle reaches later fine =>
        answers asked middle (reaches.acted succeeds) (follows.trans lawful later) fine
      exact ⟨follows.trans lawful after, inTheEnd⟩
  | answered succeeds rest ih =>
      obtain ⟨follows, kept⟩ :=
        answers _ _ ⟨_, .refl⟩ ⟨allowed, lawful.refl _⟩ respects.1 _ _ succeeds
      obtain ⟨after, inTheEnd⟩ := ih follows.1 (respects.2 _ _ follows (kept _ rfl))
        fun asked middle reaches later fine =>
          answers asked middle (reaches.answered succeeds) (follows.trans lawful later) fine
      exact ⟨follows.trans lawful after, inTheEnd⟩

/-- The run of a procedure ensures what the procedure respects. -/
theorem Respects.ensures (lawful : policy.Lawful) {procedure : Procedure request α}
    {post : World → α → Prop} {world : World} (allowed : policy.world world)
    (respects : procedure.Respects policy permitted post world)
    (answers : ∀ asked middle, procedure.Reaches answer world asked middle →
      policy.Follows world middle → permitted middle asked →
      policy.Ensures (answer asked) policy.value middle) :
    policy.Ensures (procedure.run answer) post world := by
  intro outcome last runs
  cases outcome with
  | ok result =>
      obtain ⟨follows, kept⟩ := respects.advances lawful allowed answers (run_ok runs)
      refine ⟨follows, ?_⟩
      rintro _ ⟨⟩
      exact kept
  | error failure =>
      refine ⟨?_, nofun⟩
      rcases run_error runs with ⟨γ, run, next, reached, advances, fails⟩ |
        ⟨asked, reached, reaches, fails⟩
      · obtain ⟨follows, kept⟩ := respects.advances lawful allowed answers advances
        exact follows.trans lawful (kept.1 _ _ fails).1
      · obtain ⟨next, advances⟩ := reaches
        obtain ⟨follows, kept⟩ := respects.advances lawful allowed answers advances
        exact follows.trans lawful
          (answers asked reached ⟨next, advances⟩ follows kept.1 _ _ fails).1

theorem Respects.raised (lawful : policy.Lawful) {procedure : Procedure request α}
    {post : World → α → Prop} {world last : World} {failure : Failure}
    (allowed : policy.world world) (respects : procedure.Respects policy permitted post world)
    (answers : ∀ asked middle, procedure.Reaches answer world asked middle →
      policy.Follows world middle → permitted middle asked →
      policy.Ensures (answer asked) policy.value middle)
    (raises : procedure.Raises answer world failure last) :
    (policy.contents last).failure failure := by
  obtain ⟨γ, run, next, reached, advances, fails⟩ := raises
  obtain ⟨follows, kept⟩ := respects.advances lawful allowed answers advances
  exact kept.2 failure last fails

/-- A failure of the run is raised by an action, or it is the answer to a permitted question. -/
theorem Respects.fails (lawful : policy.Lawful) {procedure : Procedure request α}
    {post : World → α → Prop} {world last : World} {failure : Failure}
    (allowed : policy.world world) (respects : procedure.Respects policy permitted post world)
    (answers : ∀ asked middle, procedure.Reaches answer world asked middle →
      policy.Follows world middle → permitted middle asked →
      policy.Ensures (answer asked) policy.value middle)
    (fails : procedure.run answer world = (.error failure, last)) :
    (policy.contents last).failure failure ∨ ∃ asked reached,
      procedure.Reaches answer world asked reached ∧ policy.Follows world reached ∧
        permitted reached asked ∧ answer asked reached = (.error failure, last) := by
  rcases run_error fails with raises | ⟨asked, reached, ⟨next, advances⟩, answered⟩
  · exact .inl (respects.raised lawful allowed answers raises)
  · obtain ⟨follows, kept⟩ := respects.advances lawful allowed answers advances
    exact .inr ⟨asked, reached, ⟨next, advances⟩, follows, kept.1, answered⟩

end Procedure

end Lisplet
