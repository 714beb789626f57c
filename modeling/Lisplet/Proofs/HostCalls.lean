import Lisplet.Proofs.Lookups

/-!
Calls of host functions from their registration on. What is registered has a signature or an adapter
that counts arguments, and so its body runs at most once in a call, and only on arguments that it
admits. What the body fails with passes as it is.
-/

namespace Lisplet

/-! ### Adapted arguments -/

namespace Adapter

variable {arguments adapted : List HostObject}

theorem convert_length (place : Int) (conversion : HostNumber → Except Fault HostObject)
    (arguments : List HostObject) :
    Results (fun adapted => adapted.length = arguments.length)
      (convert place conversion arguments) := by
  refine Results.bind fun position => ?_
  dsimp only
  split
  · rintro _ ⟨⟩
  · exact Results.bind fun converted => .pure List.length_set

/-- An adapter keeps the number of arguments, and one that counts them has found its number. -/
theorem apply_counts {adapter : Adapter} (adapts : apply arguments adapter = .ok adapted) :
    adapted.length = arguments.length ∧
      ∀ count, adapter = .arity count → (arguments.length : Int) = count := by
  cases adapter with
  | arity count =>
      rw [apply] at adapts
      split at adapts
      · next counted =>
          cases adapts
          refine ⟨rfl, fun other same => ?_⟩
          cases same
          exact counted
      · cases adapts
  | toFloat place | toInteger place =>
      rw [apply] at adapts
      refine ⟨convert_length place _ arguments adapted adapts, fun count same => ?_⟩
      cases same

theorem applyAll_cons (adapter : Adapter) (adapters : List Adapter) (arguments : List HostObject) :
    applyAll (adapter :: adapters) arguments =
      (apply arguments adapter).bind (applyAll adapters) :=
  rfl

theorem applyAll_counts {adapters : List Adapter}
    (adapts : applyAll adapters arguments = .ok adapted) :
    adapted.length = arguments.length ∧
      ∀ count, .arity count ∈ adapters → (arguments.length : Int) = count := by
  induction adapters generalizing arguments with
  | nil =>
      cases adapts
      exact ⟨rfl, fun _ member => absurd member List.not_mem_nil⟩
  | cons adapter rest ih =>
      rw [applyAll_cons] at adapts
      cases first : apply arguments adapter with
      | error failure =>
          rw [first] at adapts
          cases adapts
      | ok middle =>
          rw [first] at adapts
          obtain ⟨length, counts⟩ := apply_counts first
          obtain ⟨rests, others⟩ := ih adapts
          refine ⟨rests.trans length, fun count member => ?_⟩
          rcases List.mem_cons.mp member with rfl | later
          · exact counts count rfl
          · rw [← length]
            exact others count later

end Adapter

/-! ### Signatures -/

namespace Parameter

def isRequired (parameter : Parameter) : Bool :=
  parameter.kind = .positional && !parameter.hasDefault

/-- Where a parameter may stand in a signature: required ones first, then those with defaults, then
the rest of the positional arguments, and keywords behind them. -/
def rank (parameter : Parameter) : Nat :=
  match parameter.kind with
  | .positional => if parameter.hasDefault then 1 else 0
  | .rest => 2
  | .keyword => 3
  | .keywordRest => 4

end Parameter

namespace Signature

variable {signature : Signature} {count : Nat}

/-- The parameters stand in the order that the host demands. -/
def Ordered (signature : Signature) : Prop :=
  signature.Pairwise fun first second => first.rank ≤ second.rank

/-- The number of positional arguments fits the parameters, and no keyword is required. -/
structure Admits (signature : Signature) (count : Nat) : Prop where
  enough : signature.countP Parameter.isRequired ≤ count
  few : count ≤ signature.countP (·.kind = .positional) ∨
    ∃ parameter ∈ signature, parameter.kind = .rest
  keywords : ∀ parameter ∈ signature, parameter.kind = .keyword → parameter.hasDefault = true

theorem firstMissing_eq_ok_iff :
    firstMissing signature = .ok () ↔
      ∀ parameter ∈ signature, parameter.isOptional = true := by
  unfold firstMissing
  cases missing : signature.find? fun parameter => !parameter.isOptional with
  | none => simpa using missing
  | some parameter =>
      have found := List.find?_some missing
      have member := List.mem_of_find?_eq_some missing
      simp only [reduceCtorEq, false_iff]
      intro optional
      rw [optional parameter member] at found
      cases found

theorem isOptional_iff (parameter : Parameter) :
    parameter.isOptional = true ↔ parameter.isRequired = false ∧
      (parameter.kind = .keyword → parameter.hasDefault = true) := by
  obtain ⟨name, kind, hasDefault⟩ := parameter
  cases kind <;> cases hasDefault <;> simp [Parameter.isOptional, Parameter.isRequired]

theorem admits_zero_iff :
    signature.Admits 0 ↔ ∀ parameter ∈ signature, parameter.isOptional = true := by
  simp only [isOptional_iff]
  constructor
  · intro admits parameter member
    have required := List.countP_eq_zero.mp (Nat.le_zero.mp admits.enough) parameter member
    exact ⟨eq_false_of_ne_true required, admits.keywords parameter member⟩
  · intro optional
    refine ⟨Nat.le_of_eq (List.countP_eq_zero.mpr fun parameter member => ?_), .inl (Nat.zero_le _),
      fun parameter member => (optional parameter member).2⟩
    exact ne_true_of_eq_false (optional parameter member).1

/-- Behind a parameter of some rank there are none of lower ranks. -/
theorem Ordered.countP_eq_zero {parameter : Parameter} {parameters : Signature}
    (ordered : Ordered (parameter :: parameters)) {test : Parameter → Bool}
    (lower : ∀ other, test other = true → other.rank < parameter.rank) :
    parameters.countP test = 0 := by
  refine List.countP_eq_zero.mpr fun other member holds => ?_
  exact Nat.not_le_of_lt (lower other holds) (List.rel_of_pairwise_cons ordered member)

theorem exists_rest_cons_iff {parameter : Parameter} {parameters : Signature}
    (other : parameter.kind ≠ .rest) :
    (∃ next ∈ parameter :: parameters, next.kind = .rest) ↔
      ∃ next ∈ parameters, next.kind = .rest := by
  simp [other]

/-- An argument fits the first parameter if that is positional. -/
theorem admits_positional_iff {parameter : Parameter} {parameters : Signature}
    (ordered : Ordered (parameter :: parameters)) (kind : parameter.kind = .positional) :
    Admits (parameter :: parameters) (count + 1) ↔ Admits parameters count := by
  have required : (parameter :: parameters).countP Parameter.isRequired ≤ count + 1 ↔
      parameters.countP Parameter.isRequired ≤ count := by
    by_cases needed : parameter.isRequired = true
    · rw [List.countP_cons_of_pos needed, Nat.succ_le_succ_iff]
    · have optional : parameter.hasDefault = true := by
        simpa [Parameter.isRequired, kind] using needed
      have nothing : parameters.countP Parameter.isRequired = 0 :=
        ordered.countP_eq_zero fun other holds => by
          simp_all [Parameter.isRequired, Parameter.rank]
      rw [List.countP_cons_of_neg needed, nothing]
      exact ⟨fun _ => Nat.zero_le _, fun _ => Nat.zero_le _⟩
  have positionals : (parameter :: parameters).countP (·.kind = .positional) =
      parameters.countP (·.kind = .positional) + 1 :=
    List.countP_cons_of_pos (by simp [kind])
  have rests : (∃ next ∈ parameter :: parameters, next.kind = .rest) ↔
      ∃ next ∈ parameters, next.kind = .rest :=
    exists_rest_cons_iff (by rw [kind]; decide)
  constructor
  · intro admits
    refine ⟨required.mp admits.enough, admits.few.imp ?_ rests.mp,
      (List.forall_mem_cons.mp admits.keywords).2⟩
    rw [positionals]
    exact Nat.le_of_succ_le_succ
  · intro admits
    refine ⟨required.mpr admits.enough, admits.few.imp ?_ rests.mpr,
      List.forall_mem_cons.mpr ⟨fun keyword => ?_, admits.keywords⟩⟩
    · rw [positionals]
      exact Nat.succ_le_succ
    · cases kind.symm.trans keyword

theorem admits_rest_iff {parameter : Parameter} {parameters : Signature}
    (ordered : Ordered (parameter :: parameters)) (kind : parameter.kind = .rest) :
    Admits (parameter :: parameters) (count + 1) ↔ Admits parameters 0 := by
  have nothing : (parameter :: parameters).countP Parameter.isRequired = 0 := by
    rw [List.countP_cons_of_neg (by simp [Parameter.isRequired, kind])]
    refine ordered.countP_eq_zero fun other holds => ?_
    simp_all [Parameter.isRequired, Parameter.rank]
  constructor
  · intro admits
    have fewer := nothing ▸ (List.sublist_cons_self parameter parameters).countP_le
    exact ⟨fewer, .inl (Nat.zero_le _), (List.forall_mem_cons.mp admits.keywords).2⟩
  · intro admits
    refine ⟨nothing ▸ Nat.zero_le _, .inr ⟨parameter, List.mem_cons_self, kind⟩,
      List.forall_mem_cons.mpr ⟨fun keyword => ?_, admits.keywords⟩⟩
    cases kind.symm.trans keyword

theorem not_admits_keyword {parameter : Parameter} {parameters : Signature}
    (ordered : Ordered (parameter :: parameters)) (kind : 3 ≤ parameter.rank) :
    ¬Admits (parameter :: parameters) (count + 1) := by
  have ranks : ∀ next ∈ parameter :: parameters, 3 ≤ next.rank :=
    List.forall_mem_cons.mpr ⟨kind, fun next member =>
      Nat.le_trans kind (List.rel_of_pairwise_cons ordered member)⟩
  intro admits
  rcases admits.few with few | ⟨next, member, rest⟩
  · obtain ⟨next, member, positional⟩ := List.countP_pos_iff.mp (Nat.lt_of_lt_of_le count.succ_pos few)
    have lower : next.rank ≤ 1 := by
      rw [Parameter.rank, of_decide_eq_true positional]
      dsimp only
      split <;> decide
    exact absurd (ranks next member) (by omega)
  · have second : next.rank = 2 := by rw [Parameter.rank, rest]
    exact absurd (ranks next member) (by omega)

/-- In the order that the host demands, arguments bind if their number fits. -/
theorem bind_eq_ok_iff (ordered : signature.Ordered) :
    signature.bind count = .ok () ↔ signature.Admits count := by
  induction signature generalizing count with
  | nil =>
      cases count with
      | zero => exact ⟨fun _ => ⟨Nat.le_refl 0, .inl (Nat.le_refl 0), nofun⟩, fun _ => rfl⟩
      | succ count =>
          refine ⟨nofun, fun admits => ?_⟩
          rcases admits.few with few | ⟨_, member, _⟩
          · cases few
          · cases member
  | cons parameter parameters ih =>
      have later := List.Pairwise.of_cons ordered
      cases count with
      | zero =>
          rw [admits_zero_iff, ← firstMissing_eq_ok_iff]
          rfl
      | succ count =>
          rw [Signature.bind]
          cases kind : parameter.kind with
          | positional =>
              rw [admits_positional_iff ordered kind]
              exact ih later
          | rest =>
              rw [admits_rest_iff ordered kind, admits_zero_iff]
              exact firstMissing_eq_ok_iff
          | keyword | keywordRest =>
              have last : 3 ≤ parameter.rank := by simp [Parameter.rank, kind]
              exact ⟨nofun, fun admits => absurd admits (not_admits_keyword ordered last)⟩

end Signature

/-! ### Calls with an open body -/

instance : MonadLift (Except Failure) Run := ⟨Run.ofExcept⟩

/-- What the operation of a host function does to the world. -/
def Operation.perform (operation : Operation) (arguments : List HostObject) : Run HostObject := do
  Run.print (operation.printed arguments)
  Run.ofExcept (operation.run arguments)

/-- Runs that note what the body of a function is handed, also where they fail. -/
abbrev Noting : Type → Type :=
  ExceptT Failure (StateM (World × List (List HostObject)))

def noting (body : List HostObject → Run HostObject) (given : List HostObject) :
    Noting HostObject := fun (world, noted) =>
  ((body given world).1, (body given world).2, noted ++ [given])

theorem Noting.bind_apply {α β : Type} (first : Noting α) (next : α → Noting β)
    (state : World × List (List HostObject)) :
    (first >>= next) state =
      match (first state).1 with
      | .ok result => next result (first state).2
      | .error failure => (.error failure, (first state).2) := by
  change ExceptT.bindCont next (first state).1 (first state).2 = _
  cases (first state).1 <;> rfl

namespace HostFunction

variable {host : HostFunction} {body : List HostObject → Run HostObject} {arguments : List Value}
  {given : List HostObject} {world : World}

/-- A call of the function with any body, in any monad that can fail. -/
def callAround {m : Type → Type} [Monad m] [MonadLift (Except Failure) m] (host : HostFunction)
    (body : List HostObject → m HostObject) (arguments : List Value) : m Value := do
  let given ← host.adapted arguments
  let result ← body given
  host.accept result

theorem call_eq_callAround (host : HostFunction) (arguments : List Value) :
    host.call arguments = host.callAround host.operation.perform arguments :=
  Run.bind_congr fun _ => (Run.bind_assoc _ _ _).symm

/-- What the body is handed in a call, once for each time that it is run. -/
def handed (host : HostFunction) (body : List HostObject → Run HostObject) (arguments : List Value)
    (world : World) : List (List HostObject) :=
  (host.callAround (noting body) arguments (world, [])).2.2

theorem callAround_of_error {failure : Failure} (refused : host.adapted arguments = .error failure) :
    host.callAround body arguments world = (.error failure, world) ∧
      host.handed body arguments world = [] := by
  unfold handed callAround
  rw [refused]
  exact ⟨rfl, rfl⟩

theorem callAround_of_ok (adapts : host.adapted arguments = .ok given) :
    host.callAround body arguments world =
        (body given >>= fun result => Run.ofExcept (host.accept result)) world ∧
      host.handed body arguments world = [given] := by
  unfold handed callAround
  rw [adapts]
  refine ⟨rfl, ?_⟩
  change ((noting body given >>= fun result => liftM (host.accept result)) (world, [])).2.2 = _
  rw [Noting.bind_apply, noting]
  cases (body given world).1 <;> rfl

/-- Taking notes changes nothing else about a call. -/
theorem callAround_noting (host : HostFunction) (body : List HostObject → Run HostObject)
    (arguments : List Value) (world : World) :
    host.callAround (noting body) arguments (world, []) =
      ((host.callAround body arguments world).1, (host.callAround body arguments world).2,
        host.handed body arguments world) := by
  unfold handed callAround
  cases adapts : host.adapted arguments with
  | error failure => rfl
  | ok given =>
      change (noting body given >>= fun result => liftM (host.accept result)) (world, []) =
        (((body given >>= fun result => Run.ofExcept (host.accept result)) world).1,
          ((body given >>= fun result => Run.ofExcept (host.accept result)) world).2,
          ((noting body given >>= fun result => liftM (host.accept result)) (world, [])).2.2)
      rw [Noting.bind_apply, noting]
      rcases runs : body given world with ⟨failure | result, later⟩
      · rw [Run.bind_of_error runs]
      · rw [Run.bind_of_ok runs]
        rfl

/-! ### What a call lets through -/

/-- The signature admits a number of arguments, if there is one. -/
def Takes (host : HostFunction) (count : Nat) : Prop :=
  ∀ signature, host.signature = some signature → signature.Admits count

def Ordered (host : HostFunction) : Prop :=
  ∀ signature, host.signature = some signature → signature.Ordered

theorem bind_cases (ordered : host.Ordered) (given : List HostObject) :
    (host.Takes given.length ∧ host.bind given = .ok ()) ∨
      (¬host.Takes given.length ∧ ∃ failure,
        host.bind given = .error (.ofCause (.binding host.name failure) none)) := by
  unfold HostFunction.bind
  cases stored : host.signature with
  | none => exact .inl ⟨fun _ found => (nomatch stored.symm.trans found), rfl⟩
  | some signature =>
      have takes : host.Takes given.length ↔ signature.Admits given.length := by
        refine ⟨fun takes => takes signature stored, fun admits other found => ?_⟩
        cases stored.symm.trans found
        exact admits
      rw [takes, ← Signature.bind_eq_ok_iff (ordered signature stored)]
      dsimp only
      cases signature.bind given.length with
      | ok => exact .inl ⟨rfl, rfl⟩
      | error failure => exact .inr ⟨nofun, failure, rfl⟩

theorem adapted_of_refused {failure : Failure}
    (refused : Adapter.applyAll host.adapters (host.handOver arguments) = .error failure) :
    host.adapted arguments = .error failure := by
  rw [adapted, refused]
  rfl

theorem adapted_of_ok
    (adapts : Adapter.applyAll host.adapters (host.handOver arguments) = .ok given) :
    host.adapted arguments = (host.bind given).map fun _ => given := by
  rw [adapted, adapts]
  change (host.bind given >>= _) = _
  cases host.bind given <;> rfl

theorem adapted_eq_ok_iff (ordered : host.Ordered) :
    host.adapted arguments = .ok given ↔
      Adapter.applyAll host.adapters (host.handOver arguments) = .ok given ∧
        host.Takes given.length := by
  cases adapts : Adapter.applyAll host.adapters (host.handOver arguments) with
  | error failure =>
      rw [adapted_of_refused adapts]
      exact ⟨nofun, fun both => nomatch both.1⟩
  | ok other =>
      rw [adapted_of_ok adapts]
      rcases bind_cases ordered other with ⟨takes, binds⟩ | ⟨refuses, failure, binds⟩
      · rw [binds]
        constructor
        · rintro ⟨⟩
          exact ⟨rfl, takes⟩
        · rintro ⟨⟨⟩, -⟩
          rfl
      · rw [binds]
        refine ⟨nofun, ?_⟩
        rintro ⟨⟨⟩, takes⟩
        exact absurd takes refuses

theorem length_handOver (host : HostFunction) (arguments : List Value) :
    (host.handOver arguments).length = arguments.length := by
  unfold handOver
  split <;> exact List.length_map _

/-- The body is kept from what it does not admit: it is run if the adapters succeed and the signature
takes what they give, once and on just that. Otherwise the call fails with what they raise, or
because of the number of arguments, and what the body raises passes as it is. -/
structure Guards (host : HostFunction) (body : List HostObject → Run HostObject)
    (arguments : List Value) (world : World) : Prop where
  notes : host.callAround (noting body) arguments (world, []) =
    ((host.callAround body arguments world).1, (host.callAround body arguments world).2,
      host.handed body arguments world)
  runs : ∀ given, host.handed body arguments world = [given] ↔
    Adapter.applyAll host.adapters (host.handOver arguments) = .ok given ∧ host.Takes given.length
  once : host.handed body arguments world = [] ∨
    ∃ given, host.handed body arguments world = [given]
  counts : host.handed body arguments world ≠ [] → host.Takes arguments.length ∧
    ∀ count, .arity count ∈ host.adapters → (arguments.length : Int) = count
  refuses : ∀ failure,
    Adapter.applyAll host.adapters (host.handOver arguments) = .error failure →
      host.callAround body arguments world = (.error failure, world)
  mismatches : ∀ given, Adapter.applyAll host.adapters (host.handOver arguments) = .ok given →
    ¬host.Takes given.length → ∃ error : RuntimeError, error.kind = .arityMismatch ∧
      host.callAround body arguments world = (.error (.error error), world)
  fails : ∀ given, host.handed body arguments world = [given] → ∀ failure later,
    body given world = (.error failure, later) →
      host.callAround body arguments world = (.error failure, later)
  returns : ∀ given, host.handed body arguments world = [given] → ∀ result later,
    body given world = (.ok result, later) →
      host.callAround body arguments world = (host.accept result, later)

theorem guards (ordered : host.Ordered) (body : List HostObject → Run HostObject)
    (arguments : List Value) (world : World) : host.Guards body arguments world := by
  have adapted_iff (given : List HostObject) :
      host.handed body arguments world = [given] ↔ host.adapted arguments = .ok given := by
    cases adapts : host.adapted arguments with
    | error failure => simp [(callAround_of_error adapts).2]
    | ok other => simp [(callAround_of_ok adapts).2]
  refine ⟨host.callAround_noting body arguments world, fun given => ?_, ?_, fun runs => ?_,
    fun failure refused => ?_,
    fun given adapts refuses => ?_, fun given runs failure later fails => ?_,
    fun given runs result later succeeds => ?_⟩
  · rw [adapted_iff, adapted_eq_ok_iff ordered]
  · cases adapts : host.adapted arguments with
    | error failure => exact .inl (callAround_of_error adapts).2
    | ok given => exact .inr ⟨given, (callAround_of_ok adapts).2⟩
  · cases adapts : host.adapted arguments with
    | error failure => exact absurd (callAround_of_error adapts).2 runs
    | ok given =>
        obtain ⟨adapts, takes⟩ := (adapted_eq_ok_iff ordered).mp adapts
        obtain ⟨length, counts⟩ := Adapter.applyAll_counts adapts
        rw [length_handOver] at length counts
        exact ⟨length ▸ takes, counts⟩
  · exact (callAround_of_error (adapted_of_refused refused)).1
  · rcases bind_cases ordered given with ⟨takes, _⟩ | ⟨_, failure, binds⟩
    · exact absurd takes refuses
    · have refused : host.adapted arguments =
          .error (.ofCause (.binding host.name failure) none) := by
        rw [adapted_of_ok adapts, binds]
        rfl
      exact ⟨_, rfl, (callAround_of_error refused).1⟩
  · rw [(callAround_of_ok ((adapted_iff given).mp runs)).1, Run.bind_of_error fails]
  · rw [(callAround_of_ok ((adapted_iff given).mp runs)).1, Run.bind_of_ok succeeds]
    rfl

end HostFunction

/-! ### Registration -/

def Registrant.Ordered : Registrant → Prop
  | .callable _ (some signature) _ => signature.Ordered
  | .callable _ none _ | .object _ => True

/-- What becomes a host function has a signature, or an adapter counts its arguments. -/
theorem Registrant.toFunction_eq_ok {registrant : Registrant} {name : Text}
    {adapters : List Adapter} {unwrap : Bool} {host : HostFunction}
    (becomes : registrant.toFunction name adapters unwrap = .ok host) :
    ∃ operation signature returns, registrant = .callable operation signature returns ∧
      host = ⟨name, operation, adapters, unwrap, signature⟩ ∧
      (signature.isSome = true ∨ ∃ count, .arity count ∈ adapters) := by
  cases registrant with
  | object found => cases becomes
  | callable operation signature returns =>
      refine ⟨operation, signature, returns, rfl, ?_⟩
      cases signature with
      | some signature =>
          rw [toFunction] at becomes
          split at becomes
          · cases becomes
          · cases becomes
            exact ⟨rfl, .inl rfl⟩
      | none =>
          rw [toFunction] at becomes
          split at becomes
          · next checked =>
              cases becomes
              obtain ⟨adapter, member, checks⟩ := List.any_eq_true.mp checked
              refine ⟨rfl, .inr ?_⟩
              cases adapter with
              | arity count => exact ⟨count, member⟩
              | toFloat place | toInteger place => cases checks
          · cases becomes

/-- A registration fails and leaves the world as it is, or it binds a function that has a signature
or counts its arguments. The function performs what was registered, and its calls guard its body. -/
theorem Run.register_guarded (scope : ScopeId) (name : Text) (registrant : Registrant)
    (adapters : List Adapter) (unwrap : Bool) (world : World) (ordered : registrant.Ordered) :
    (∃ failure, register scope name registrant adapters unwrap world =
      (.error failure, world)) ∨
    ∃ operation signature returns later,
      let host : HostFunction := ⟨name, operation, adapters, unwrap, signature⟩
      registrant = .callable operation signature returns ∧
      register scope name registrant adapters unwrap world = (.ok host, later) ∧
      later = { world with forest := world.forest.define scope name (.function host) } ∧
      (scope < world.forest.scopes.size →
        (lookUp scope ⟨name, none⟩ later).1 = .ok (.function host)) ∧
      (signature.isSome = true ∨ ∃ count, .arity count ∈ adapters) ∧
      (∀ arguments, host.call arguments =
        host.callAround host.operation.perform arguments) ∧
      ∀ body arguments world, host.Guards body arguments world := by
  cases becomes : registrant.toFunction name adapters unwrap with
  | error fault =>
      refine .inl ⟨.ofFault fault, ?_⟩
      rw [register, becomes]
      rfl
  | ok host =>
      obtain ⟨operation, signature, returns, rfl, rfl, guarded⟩ :=
        Registrant.toFunction_eq_ok becomes
      refine .inr ⟨operation, signature, returns, _, rfl, ?_, rfl, fun there => ?_, guarded,
        HostFunction.call_eq_callAround _, fun body arguments world => ?_⟩
      · rw [register, becomes]
        rfl
      · rw [lookUp_eq, (Forest.get_define_self there _ scope).1 .itself]
      · refine HostFunction.guards (fun stored found => ?_) body arguments world
        cases found
        exact ordered

/-- A function of one or two arguments that turns the first one into an integer. Two arguments reach
its body, three do not. -/
theorem Run.register_guarded_pair :
    ∃ host later, register 0 "pair" (Sample.pairWithDefault.registrant none) [.toInteger 0] true
        .nested = (.ok host, later) ∧
      ∀ body world,
        host.handed body [.integer 5 none, .string "x" none] world =
          [[.integer 5, .text "x"]] ∧
        host.handed body [.integer 5 none, .string "x" none, .nil] world = [] ∧
        ∃ error : RuntimeError, error.kind = .arityMismatch ∧
          host.callAround body [.integer 5 none, .string "x" none, .nil] world =
            (.error (.error error), world) := by
  have ordered : (Sample.pairWithDefault.registrant none).Ordered := by
    simp [Registrant.Ordered, Sample.registrant, Signature.Ordered, Sample.signature,
      Parameter.rank, Parameter.required, Parameter.optional]
  rcases register_guarded 0 "pair" (Sample.pairWithDefault.registrant none) [.toInteger 0] true
    .nested ordered with ⟨failure, ⟨⟩⟩ | ⟨_, _, _, later, same, registers, -, -, -, -, guards⟩
  cases same
  have takesTwo : Sample.pairWithDefault.signature.Admits 2 :=
    ⟨by decide, .inl (by decide), by decide⟩
  have refusesThree : ¬Sample.pairWithDefault.signature.Admits 3 := by
    rintro ⟨-, few | rest, -⟩
    · exact absurd few (by decide)
    · exact absurd rest (by decide)
  refine ⟨_, later, registers, fun body world => ⟨?_, ?_, ?_⟩⟩
  · refine ((guards body _ world).runs _).mpr ⟨rfl, fun signature found => ?_⟩
    cases found
    exact takesTwo
  · refine Classical.byContradiction fun runs => ?_
    exact refusesThree (((guards body _ world).counts runs).1 _ rfl)
  · exact (guards body _ world).mismatches [.integer 5, .text "x", .nothing] rfl
      fun takes => refusesThree (takes _ rfl)

end Lisplet
