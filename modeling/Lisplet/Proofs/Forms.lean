import Lisplet.Proofs.Policies

/-!
Every form of the language and every application respects every lawful policy: a form evaluates its
operands in its own scope, a closure its body in a new one, and nothing else happens to a world.
-/

namespace Lisplet

variable {policy : Policy} {α β : Type}

namespace Policy

/-! ### Actions -/

theorem Keeps.pure (lawful : policy.Lawful) {world : World} {result : α} {post : World → α → Prop}
    (allowed : policy.world world) (holds : post world result) :
    policy.Keeps (pure result) post world :=
  ⟨.pure lawful allowed holds, nofun⟩

theorem Keeps.ofFollows {world later : World} {run : Run α} {result : α} {post : World → α → Prop}
    (runs : run world = (.ok result, later)) (follows : policy.Follows world later)
    (holds : post later result) : policy.Keeps run post world := by
  refine ⟨?_, ?_⟩
  · intro outcome last happens
    rw [runs] at happens
    cases happens
    refine ⟨follows, ?_⟩
    rintro _ ⟨⟩
    exact holds
  · intro failure last happens
    rw [runs] at happens
    cases happens

theorem Keeps.ofExcept (lawful : policy.Lawful) {world : World} {outcome : Except Failure α}
    {property : α → Prop} (allowed : policy.world world)
    (delivers : Delivers (policy.contents world) property outcome) :
    policy.Keeps (Run.ofExcept outcome) (fun _ result => property result) world := by
  refine ⟨?_, ?_⟩
  · rintro _ _ ⟨⟩
    exact ⟨⟨allowed, lawful.refl world⟩, delivers.1⟩
  · intro failure last happens
    cases happens
    exact delivers.2 failure rfl

theorem Keeps.fail (lawful : policy.Lawful) {world : World} {failure : Failure}
    {post : World → α → Prop} (allowed : policy.world world)
    (raises : (policy.contents world).failure failure) :
    policy.Keeps (Run.fail failure) post world := by
  refine ⟨?_, ?_⟩
  · rintro _ _ ⟨⟩
    exact ⟨⟨allowed, lawful.refl world⟩, nofun⟩
  · rintro _ _ ⟨⟩
    exact raises

theorem Keeps.failWith (lawful : policy.Lawful) {world : World} (cause : Cause)
    {post : World → α → Prop} (allowed : policy.world world) :
    policy.Keeps (Run.failWith cause none) post world :=
  .fail lawful allowed ((lawful.contents world).unplaced cause)

theorem Keeps.failAt (lawful : policy.Lawful) {world : World} (cause : Cause) {value : Value}
    {post : World → α → Prop} (allowed : policy.world world) (fine : policy.value world value) :
    policy.Keeps (Run.failWith cause value.ref) post world :=
  .fail lawful allowed ((lawful.contents world).placed cause value fine)

theorem Keeps.bind (lawful : policy.Lawful) {world : World} {run : Run α} {next : α → Run β}
    {post : World → α → Prop} {final : World → β → Prop} (first : policy.Keeps run post world)
    (continues : ∀ later result, policy.Follows world later → post later result →
      policy.Keeps (next result) final later) : policy.Keeps (run >>= next) final world := by
  refine ⟨first.1.bind lawful fun later result follows kept =>
    (continues later result follows kept).1, ?_⟩
  intro failure last runs
  rcases happens : run world with ⟨other | result, middle⟩
  · rw [Run.bind_of_error happens] at runs
    cases runs
    exact first.2 _ _ happens
  · rw [Run.bind_of_ok happens] at runs
    obtain ⟨follows, holds⟩ := first.1 _ _ happens
    exact (continues middle result follows (holds result rfl)).2 failure last runs

theorem Keeps.mono {world : World} {run : Run α} {post weaker : World → α → Prop}
    (keeps : policy.Keeps run post world)
    (weakens : ∀ later result, policy.Follows world later → post later result →
      weaker later result) : policy.Keeps run weaker world := by
  refine ⟨fun outcome last runs => ?_, keeps.2⟩
  obtain ⟨follows, holds⟩ := keeps.1 outcome last runs
  exact ⟨follows, fun result succeeds => weakens last result follows (holds result succeeds)⟩

theorem Keeps.forM (lawful : policy.Lawful) {ι : Type} {step : ι → Run PUnit}
    {fine : World → ι → Prop} (lasts : Procedure.Lasts policy fine)
    (steps : ∀ world item, policy.world world → fine world item →
      policy.Keeps (step item) (fun _ _ => True) world)
    {items : List ι} {world : World} (allowed : policy.world world)
    (all : ∀ item ∈ items, fine world item) :
    policy.Keeps (items.forM step) (fun _ _ => True) world := by
  induction items generalizing world with
  | nil => exact .pure lawful allowed trivial
  | cons item items ih =>
      refine (steps world item allowed (all item List.mem_cons_self)).bind lawful ?_
      intro later result follows kept
      exact ih follows.1 fun other member => lasts _ _ _ follows (all other (List.mem_cons_of_mem item member))

theorem Keeps.mapM (lawful : policy.Lawful) {ι : Type} {step : ι → Run α}
    {fine : World → ι → Prop} {post : World → α → Prop} (lasts : Procedure.Lasts policy fine)
    (stays : Procedure.Lasts policy post)
    (steps : ∀ world item, policy.world world → fine world item →
      policy.Keeps (step item) post world)
    {items : List ι} {world : World} (allowed : policy.world world)
    (all : ∀ item ∈ items, fine world item) :
    policy.Keeps (items.mapM step) (fun later results => ∀ result ∈ results, post later result)
      world := by
  induction items generalizing world with
  | nil =>
      rw [List.mapM_nil]
      exact .pure lawful allowed (List.forall_mem_nil _)
  | cons item items ih =>
      rw [List.mapM_cons]
      refine (steps world item allowed (all item List.mem_cons_self)).bind lawful ?_
      intro middle result follows first
      have rest : ∀ other ∈ items, fine middle other := fun other member =>
        lasts _ _ _ follows (all other (List.mem_cons_of_mem item member))
      refine (ih follows.1 rest).bind lawful fun later results after others => ?_
      exact .pure lawful after.1 (List.forall_mem_cons.mpr ⟨stays _ _ _ after first, others⟩)

theorem Keeps.define (lawful : policy.Lawful) {world : World} {scope : ScopeId} {value : Value}
    (name : Text) (allowed : policy.world world) (inScope : policy.scope world scope)
    (fine : policy.value world value) :
    policy.Keeps (Run.define scope name value) (fun _ _ => True) world :=
  .ofFollows rfl (lawful.define name allowed inScope fine) trivial

theorem Keeps.lookUp (lawful : policy.Lawful) {world : World} {scope : ScopeId} {name : Identifier}
    (allowed : policy.world world) (inScope : policy.scope world scope)
    (fine : policy.value world (.identifier name)) :
    policy.Keeps (Run.lookUp scope name) policy.value world := by
  have reads : policy.Keeps Run.forest (fun later forest => forest = later.forest) world :=
    .ofFollows rfl ⟨allowed, lawful.refl world⟩ rfl
  refine reads.bind lawful fun later forest follows same => ?_
  subst same
  split
  · next value found =>
      exact .pure lawful follows.1
        (lawful.bound follows.1 (lawful.scope_later follows.2 inScope) found)
  · exact .failAt lawful _ follows.1 (lawful.value_later follows.2 fine)

theorem Keeps.bindAll (lawful : policy.Lawful) {scope : ScopeId} {parameters : List Identifier}
    {arguments : List Value} {world : World} (allowed : policy.world world)
    (inScope : policy.scope world scope)
    (fine : ∀ argument ∈ arguments, policy.value world argument) :
    policy.Keeps (Run.bindAll scope parameters arguments) (fun _ _ => True) world := by
  induction parameters generalizing arguments world with
  | nil => exact .pure lawful allowed trivial
  | cons parameter parameters ih =>
      cases arguments with
      | nil => exact .pure lawful allowed trivial
      | cons argument arguments =>
          rw [Run.bindAll]
          refine (Keeps.define lawful parameter.name allowed inScope
            (fine argument List.mem_cons_self)).bind lawful fun later _ follows _ => ?_
          exact ih follows.1 (lawful.scope_later follows.2 inScope) fun other member =>
            lawful.value_later follows.2 (fine other (List.mem_cons_of_mem argument member))

theorem Keeps.call (lawful : policy.Lawful) {host : HostFunction} {arguments : List Value}
    {world : World} (allowed : policy.world world) (callable : policy.value world (.function host))
    (fine : ∀ argument ∈ arguments, policy.value world argument) :
    policy.Keeps (host.call arguments) policy.value world := by
  have contents := lawful.contents world
  have permitted := (contents.function host).mp callable
  -- The contents of the first world are good for the later ones.
  have ofExcept {β : Type} {later : World} {property : β → Prop} {outcome : Except Failure β}
      (follows : policy.Follows world later)
      (delivers : Delivers (policy.contents world) property outcome) :
      policy.Keeps (Run.ofExcept outcome) (fun _ result => property result) later :=
    Keeps.ofExcept lawful follows.1
      ⟨delivers.1, fun failure fails => lawful.failure_later follows.2 (delivers.2 failure fails)⟩
  refine (Keeps.ofExcept lawful allowed (contents.adapted_delivers host fine)).bind lawful ?_
  intro middle adapted follows handed
  have prints : policy.Keeps (Run.print (host.operation.printed adapted)) (fun _ _ => True) middle :=
    .ofFollows rfl (lawful.print _ follows.1) trivial
  refine prints.bind lawful fun later _ after _ => ?_
  have between := follows.trans lawful after
  refine (ofExcept between (contents.operation_delivers permitted handed)).bind lawful ?_
  intro last object behind given
  have upToLast := between.trans lawful behind
  refine (ofExcept upToLast (contents.accept_delivers host given)).mono ?_
  intro final result since kept
  exact lawful.value_later (upToLast.trans lawful since).2 kept

/-- What is registered performs an operation that is permitted. -/
def registrant (policy : Policy) (world : World) : Registrant → Prop
  | .callable operation _ _ => (policy.contents world).operation operation
  | .object _ => True

theorem function_of_registrant (lawful : policy.Lawful) {world : World} {registrant : Registrant}
    (permitted : policy.registrant world registrant) (name : Text) (adapters : List Adapter)
    (unwrap : Bool) : Results (fun host => policy.value world (.function host))
      (registrant.toFunction name adapters unwrap) := by
  intro host becomes
  unfold Registrant.toFunction at becomes
  split at becomes
  · cases becomes
  · split at becomes <;> cases becomes
    exact ((lawful.contents world).function _).mpr permitted
  · split at becomes <;> cases becomes
    exact ((lawful.contents world).function _).mpr permitted

theorem Keeps.register (lawful : policy.Lawful) {scope : ScopeId} (name : Text)
    {registrant : Registrant} (adapters : List Adapter) (unwrap : Bool) {world : World}
    (allowed : policy.world world) (inScope : policy.scope world scope)
    (permitted : policy.registrant world registrant) :
    policy.Keeps (Run.register scope name registrant adapters unwrap)
      (fun later host => policy.value later (.function host)) world := by
  have becomes := function_of_registrant lawful permitted name adapters unwrap
  refine (Keeps.ofExcept lawful allowed (.orFault (lawful.contents world) becomes)).bind lawful ?_
  intro later host follows callable
  have kept := lawful.value_later follows.2 callable
  refine (Keeps.define lawful name follows.1 (lawful.scope_later follows.2 inScope) kept).bind
    lawful fun last _ after _ => ?_
  exact .pure lawful after.1 (lawful.value_later after.2 kept)

end Policy

/-! ### Applications and forms -/

namespace Procedure

theorem Respects.evaluate {world : World} {scope : ScopeId} {expression : Value}
    (inScope : policy.scope world scope) (fine : policy.value world expression) :
    (Request.evaluate expression scope).Respects policy policy.request policy.value world :=
  ⟨⟨inScope, fine⟩, fun _ _ _ given => given⟩

theorem Respects.sequence (lawful : policy.Lawful) {request : Type}
    {permitted : World → request → Prop} {evaluate : Value → ScopeId → Procedure request Value}
    {scope : ScopeId}
    (steps : ∀ world form, policy.world world → policy.scope world scope → policy.value world form →
      (evaluate form scope).Respects policy permitted policy.value world)
    {forms : List Value} {world : World} (allowed : policy.world world)
    (inScope : policy.scope world scope) (fine : ∀ form ∈ forms, policy.value world form) :
    (Lisplet.sequence evaluate forms scope).Respects policy permitted policy.value world := by
  have lasts : Lasts policy fun world form =>
      policy.scope world scope ∧ policy.value world form := by
    intro world later form follows kept
    exact ⟨lawful.scope_later follows.2 kept.1, lawful.value_later follows.2 kept.2⟩
  exact Respects.foldlM lawful lasts
    (fun world form _ allowed kept => steps world form allowed kept.1 kept.2) allowed
    (fun form member => ⟨inScope, fine form member⟩) (lawful.contents world).nil

theorem Respects.evaluateAll (lawful : policy.Lawful) {scope : ScopeId} {operands : List Value}
    {world : World} (allowed : policy.world world) (inScope : policy.scope world scope)
    (fine : ∀ operand ∈ operands, policy.value world operand) :
    (operands.mapM (Request.evaluate · scope)).Respects policy policy.request
      (fun later results => ∀ result ∈ results, policy.value later result) world := by
  have lasts : Lasts policy fun world operand =>
      policy.scope world scope ∧ policy.value world operand := by
    intro world later operand follows kept
    exact ⟨lawful.scope_later follows.2 kept.1, lawful.value_later follows.2 kept.2⟩
  have stays : Lasts policy policy.value := fun _ _ _ follows kept =>
    lawful.value_later follows.2 kept
  exact Respects.mapM lawful lasts stays
    (fun world operand _ kept => Respects.evaluate kept.1 kept.2) allowed
    (fun operand member => ⟨inScope, fine operand member⟩)

theorem Respects.forms (lawful : policy.Lawful) {scope : ScopeId} {forms : List Value}
    {world : World} (allowed : policy.world world) (inScope : policy.scope world scope)
    (fine : ∀ form ∈ forms, policy.value world form) :
    (Lisplet.sequence Request.evaluate forms scope).Respects policy policy.request policy.value
      world :=
  Respects.sequence lawful (fun _ _ _ inside kept => Respects.evaluate inside kept) allowed inScope
    fine

theorem Respects.failWith (lawful : policy.Lawful) {request : Type}
    {permitted : World → request → Prop} {world : World} {post : World → α → Prop}
    (allowed : policy.world world) (cause : Cause) :
    (liftM (Run.failWith cause none : Run α) : Procedure request α).Respects policy permitted post
      world :=
  Respects.lift (.failWith lawful cause allowed)

theorem Respects.failAt (lawful : policy.Lawful) {request : Type}
    {permitted : World → request → Prop} {world : World} {post : World → α → Prop}
    (allowed : policy.world world) (cause : Cause) {value : Value}
    (fine : policy.value world value) :
    (liftM (Run.failWith cause value.ref : Run α) : Procedure request α).Respects policy permitted
      post world :=
  Respects.lift (.failAt lawful cause allowed fine)

theorem Respects.apply (lawful : policy.Lawful) {callee : Value} {arguments : List Value}
    {world : World} (allowed : policy.world world) (fineCallee : policy.value world callee)
    (fine : ∀ argument ∈ arguments, policy.value world argument) :
    (Lisplet.apply callee arguments).Respects policy policy.request policy.value world := by
  unfold Lisplet.apply
  split
  · next name parameters body captured ref =>
      split
      · exact Respects.failAt lawful allowed _ fineCallee
      · have body := (lawful.contents world).body _ _ _ _ _ fineCallee
        obtain ⟨follows, inScope⟩ := lawful.openScope allowed fineCallee
        have opens : policy.Keeps (Run.openScope captured) policy.scope world :=
          .ofFollows rfl follows inScope
        refine (Respects.lift opens).bind lawful allowed fun middle scope follows inside => ?_
        have binds : policy.Keeps (Run.bindAll scope parameters arguments) (fun _ _ => True) middle :=
          .bindAll lawful follows.1 inside fun argument member =>
            lawful.value_later follows.2 (fine argument member)
        refine (Respects.lift binds).bind lawful follows.1 fun later _ after _ => ?_
        exact Respects.forms lawful after.1 (lawful.scope_later after.2 inside) fun form member =>
          lawful.value_later (follows.trans lawful after).2 (body form member)
  · exact Respects.lift (.call lawful allowed fineCallee fine)
  · exact Respects.failWith lawful allowed _
  · exact Respects.failAt lawful allowed _ fineCallee

theorem Respects.condition (lawful : policy.Lawful) {scope : ScopeId} {operand : Value}
    {world : World} (allowed : policy.world world) (inScope : policy.scope world scope)
    (fine : policy.value world operand) :
    (Lisplet.condition scope operand).Respects policy policy.request (fun _ _ => True) world := by
  refine (Respects.evaluate inScope fine).bind lawful allowed fun later result follows _ => ?_
  split
  · exact trivial
  · exact Respects.failAt lawful follows.1 _ (lawful.value_later follows.2 fine)

theorem Respects.items (lawful : policy.Lawful) {scope : ScopeId} {operand : Value}
    {world : World} (allowed : policy.world world) (inScope : policy.scope world scope)
    (fine : policy.value world operand) :
    (Lisplet.items scope operand).Respects policy policy.request
      (fun later items => ∀ item ∈ items, policy.value later item) world := by
  refine (Respects.evaluate inScope fine).bind lawful allowed fun later result follows kept => ?_
  split
  · exact (lawful.contents later).item _ _ kept
  · exact Respects.failAt lawful follows.1 _ (lawful.value_later follows.2 fine)

theorem Respects.importText (lawful : policy.Lawful) {scope : ScopeId} {operand : Value}
    {world : World} (allowed : policy.world world) (inScope : policy.scope world scope)
    (fine : policy.value world operand) :
    (Lisplet.importText scope operand).Respects policy policy.request (fun _ _ => True) world := by
  refine (Respects.evaluate inScope fine).bind lawful allowed fun later result follows _ => ?_
  split
  · exact trivial
  · exact Respects.failAt lawful follows.1 _ (lawful.value_later follows.2 fine)

theorem Respects.evaluateTwice (lawful : policy.Lawful) {scope : ScopeId} {operands : List Value}
    {world : World} (allowed : policy.world world) (inScope : policy.scope world scope)
    (fine : ∀ operand ∈ operands, policy.value world operand) :
    (Lisplet.evaluateTwice scope operands).Respects policy policy.request policy.value world := by
  refine (Respects.evaluateAll lawful allowed inScope fine).bind lawful allowed ?_
  intro later codes follows kept
  exact Respects.forms lawful follows.1 (lawful.scope_later follows.2 inScope) kept

theorem Respects.boundName (lawful : policy.Lawful) (form : FormKind) {target : Value}
    {world : World} (allowed : policy.world world) (fine : policy.value world target) :
    (liftM (form.boundName target) : Procedure Request Identifier).Respects policy policy.request
      (fun _ _ => True) world := by
  apply Respects.lift
  unfold FormKind.boundName
  split
  · exact .pure lawful allowed trivial
  · exact .failAt lawful _ allowed fine

theorem Respects.parameters (lawful : policy.Lawful) {list : Value} {world : World}
    (allowed : policy.world world) (fine : policy.value world list) :
    (liftM (Lisplet.parameters list) : Procedure Request (List Identifier)).Respects policy
      policy.request
      (fun later names => ∀ name ∈ names, policy.value later (.identifier name)) world := by
  have lasts : Lasts policy policy.value := fun _ _ _ follows kept =>
    lawful.value_later follows.2 kept
  have stays : Lasts policy fun world name => policy.value world (.identifier name) :=
    fun _ _ _ follows kept => lawful.value_later follows.2 kept
  have one (world : World) (item : Value) (allowed : policy.world world)
      (fine : policy.value world item) :
      policy.Keeps (parameter item) (fun later name => policy.value later (.identifier name))
        world := by
    unfold parameter
    split
    · exact .pure lawful allowed fine
    · exact .failAt lawful _ allowed fine
  apply Respects.lift
  unfold Lisplet.parameters
  split
  · exact .mapM lawful lasts stays one allowed ((lawful.contents world).item _ _ fine)
  · exact .failAt lawful _ allowed fine

theorem Respects.applyEach (lawful : policy.Lawful) {callee : Value} {items : List Value}
    {world : World} (allowed : policy.world world) (fine : policy.value world callee)
    (all : ∀ item ∈ items, policy.value world item) :
    (items.forM fun item => discard (Lisplet.apply callee [item])).Respects policy policy.request
      (fun _ _ => True) world := by
  have lasts : Lasts policy fun world item => policy.value world callee ∧ policy.value world item := by
    intro world later item follows kept
    exact ⟨lawful.value_later follows.2 kept.1, lawful.value_later follows.2 kept.2⟩
  refine Respects.forM lawful lasts ?_ allowed fun item member => ⟨fine, all item member⟩
  intro world item allowed kept
  have applies := Respects.apply lawful allowed kept.1 (List.forall_mem_singleton.mpr kept.2)
  exact applies.bind lawful allowed fun _ _ _ _ => trivial

/-- A condition, with what it chooses between. -/
theorem Respects.branch (lawful : policy.Lawful) {scope : ScopeId} {test : Value}
    {yes no : Procedure Request Value} {world : World} (allowed : policy.world world)
    (inScope : policy.scope world scope) (fine : policy.value world test)
    (chosen : ∀ later, policy.Follows world later →
      yes.Respects policy policy.request policy.value later)
    (otherwise : ∀ later, policy.Follows world later →
      no.Respects policy policy.request policy.value later) :
    (do if ← Lisplet.condition scope test then yes else no : Procedure Request Value).Respects policy
      policy.request policy.value world := by
  refine (Respects.condition lawful allowed inScope fine).bind lawful allowed ?_
  intro later truth follows _
  split
  · exact chosen later follows
  · exact otherwise later follows

/-- A value is bound to the name, and it is the result. -/
theorem Respects.bindName (lawful : policy.Lawful) {scope : ScopeId} (name : Text) {value : Value}
    {world : World} (allowed : policy.world world) (inScope : policy.scope world scope)
    (fine : policy.value world value) :
    (do Run.define scope name value; return value : Procedure Request Value).Respects policy
      policy.request policy.value world := by
  refine (Respects.lift (.define lawful name allowed inScope fine)).bind lawful allowed ?_
  intro later _ follows _
  exact lawful.value_later follows.2 fine

theorem Respects.runForm (lawful : policy.Lawful) {scope : ScopeId} {ref : Option Ref}
    (kind : FormKind) {head : Value} {operands : List Value} {world : World}
    (allowed : policy.world world) (inScope : policy.scope world scope)
    (whole : policy.value world (.list (head :: operands) ref)) :
    (Lisplet.runForm scope ref kind operands).Respects policy policy.request policy.value world := by
  have fine (operand : Value) (member : operand ∈ operands) : policy.value world operand :=
    (lawful.contents world).item _ _ whole operand (List.mem_cons_of_mem head member)
  have forms {forms : List Value} (part : forms ⊆ operands) :
      (Lisplet.sequence Request.evaluate forms scope).Respects policy policy.request policy.value
        world :=
    Respects.forms lawful allowed inScope fun form member => fine form (part member)
  have evaluates {later : World} (follows : policy.Follows world later) (operand : Value)
      (member : operand ∈ operands) :
      (Request.evaluate operand scope).Respects policy policy.request policy.value later :=
    Respects.evaluate (lawful.scope_later follows.2 inScope)
      (lawful.value_later follows.2 (fine operand member))
  have here : policy.Follows world world := ⟨allowed, lawful.refl world⟩
  unfold Lisplet.runForm
  split
  case h_1 operand | h_2 operand => exact fine operand List.mem_cons_self
  case h_3 test consequence =>
      refine Respects.branch lawful allowed inScope (fine test (by simp)) ?_ ?_
      · exact fun later follows => evaluates follows consequence (by simp)
      · exact fun later _ => (lawful.contents later).nil
  case h_4 test consequence alternative =>
      refine Respects.branch lawful allowed inScope (fine test (by simp)) ?_ ?_
      · exact fun later follows => evaluates follows consequence (by simp)
      · exact fun later follows => evaluates follows alternative (by simp)
  case h_5 target operand =>
      refine (Respects.boundName lawful .define allowed (fine target (by simp))).bind lawful
        allowed ?_
      intro middle name follows _
      refine (evaluates follows operand (by simp)).bind lawful follows.1 ?_
      intro later value after kept
      have inside := lawful.scope_later (follows.trans lawful after).2 inScope
      exact Respects.bindName lawful name.name after.1 inside kept
  case h_6 target list body =>
      refine (Respects.boundName lawful .def_ allowed (fine target (by simp))).bind lawful allowed ?_
      intro middle name follows _
      refine (Respects.parameters lawful follows.1
        (lawful.value_later follows.2 (fine list (by simp)))).bind lawful follows.1 ?_
      intro later parameters after names
      have since := follows.trans lawful after
      have inside := lawful.scope_later since.2 inScope
      have closure : policy.value later (.closure name.name parameters body scope ref) :=
        lawful.closure name.name inside (lawful.value_later since.2 whole) names
          fun form member => lawful.value_later since.2 (fine form (by simp [member]))
      exact Respects.bindName lawful name.name since.1 inside closure
  case h_7 list body =>
      refine (Respects.parameters lawful allowed (fine list (by simp))).bind lawful allowed ?_
      intro later parameters follows names
      exact lawful.closure "lambda" (lawful.scope_later follows.2 inScope)
        (lawful.value_later follows.2 whole) names
        fun form member => lawful.value_later follows.2 (fine form (by simp [member]))
  case h_8 => exact forms (List.Subset.refl operands)
  case h_9 => exact forms (packageBody_subset operands)
  case h_10 => exact Respects.evaluateTwice lawful allowed inScope fine
  case h_11 function list =>
      refine (evaluates here function (by simp)).bind lawful allowed ?_
      intro middle callee follows kept
      refine (Respects.items lawful follows.1 (lawful.scope_later follows.2 inScope)
        (lawful.value_later follows.2 (fine list (by simp)))).bind lawful follows.1 ?_
      intro later items after all
      have kept := lawful.value_later after.2 kept
      refine (Respects.applyEach lawful after.1 kept all).bind lawful after.1 ?_
      intro last _ behind _
      exact (lawful.contents last).nil
  case h_12 operand =>
      refine (Respects.importText lawful allowed inScope (fine operand (by simp))).bind lawful
        allowed ?_
      intro later name follows _
      exact ⟨lawful.scope_later follows.2 inScope, fun _ _ _ given => given⟩
  case h_13 operand start =>
      refine (Respects.importText lawful allowed inScope (fine operand (by simp))).bind lawful
        allowed ?_
      intro middle name follows _
      refine (Respects.importText lawful follows.1 (lawful.scope_later follows.2 inScope)
        (lawful.value_later follows.2 (fine start (by simp)))).bind lawful follows.1 ?_
      intro later start after _
      exact ⟨lawful.scope_later (follows.trans lawful after).2 inScope, fun _ _ _ given => given⟩
  case h_14 => exact Respects.failWith lawful allowed _

theorem Respects.dispatch (lawful : policy.Lawful) {scope : ScopeId} {expression : Value}
    {world : World} (allowed : policy.world world) (inScope : policy.scope world scope)
    (fine : policy.value world expression) :
    (Lisplet.dispatch scope expression).Respects policy policy.request policy.value world := by
  cases expression with
  | list items ref =>
      cases items with
      | nil => exact (lawful.contents world).nil
      | cons head operands =>
          have all := (lawful.contents world).item _ _ fine
          rw [Lisplet.dispatch]
          refine (Respects.evaluate inScope (all head List.mem_cons_self)).bind lawful allowed ?_
          intro middle callee follows kept
          have inside := lawful.scope_later follows.2 inScope
          have rest (operand : Value) (member : operand ∈ operands) : policy.value middle operand :=
            lawful.value_later follows.2 (all operand (List.mem_cons_of_mem head member))
          split
          · exact Respects.runForm lawful _ follows.1 inside (lawful.value_later follows.2 fine)
          · refine (Respects.evaluateAll lawful follows.1 inside rest).bind lawful follows.1 ?_
            intro later arguments after given
            exact Respects.apply lawful after.1 (lawful.value_later after.2 kept) given
  | identifier name => exact Respects.lift (.lookUp lawful allowed inScope fine)
  | integer _ _ | float _ _ | string _ _ | boolean _ _ | nil | closure _ _ _ _ _ | function _
  | form _ | foreign _ _ => exact fine

end Procedure

end Lisplet
