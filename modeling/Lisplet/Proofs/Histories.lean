import Lisplet.Proofs.Frames

/-!
Histories of interpreters: whatever is done with one, in whatever order and with whatever outcome,
its scopes stay a tree below one root, nothing refers to a scope that is not there, and what is
there stays.
-/

namespace Lisplet

/-! ### Parents as they are stored -/

namespace Forest

/-- The parent that a scope was given, whether it is older or not. -/
def storedParent? (forest : Forest) (scope : ScopeId) : Option ScopeId :=
  forest.scopes[scope]?.bind Scope.parent

theorem storedParent_of_parent {forest : Forest} {scope : ScopeId}
    {parent : {parent // parent < scope}} (inside : forest.parent? scope = some parent) :
    forest.storedParent? scope = some parent.1 := by
  unfold parent? at inside
  unfold storedParent?
  split at inside
  · cases inside
  · next found =>
      rw [found]
      split at inside
      · cases inside
        rfl
      · cases inside

/-- The chain of a scope follows the stored parents. -/
theorem chain_isChain (forest : Forest) (scope : ScopeId) :
    (forest.chain scope).IsChain fun inner outer =>
      forest.storedParent? inner = some outer ∧ outer < inner := by
  induction scope using Nat.strongRecOn with
  | ind scope ih =>
      unfold chain
      rw [ancestors]
      cases inside : forest.parent? scope with
      | none => exact .singleton scope
      | some parent =>
          exact .cons_cons ⟨storedParent_of_parent inside, parent.2⟩ (ih parent.1 parent.2)

theorem getLast_chain (forest : Forest) (scope : ScopeId) :
    (forest.chain scope).getLast? = some (forest.root scope) := by
  rw [chain, root, List.getLast?_cons, ← List.getLastD_eq_getLast?]

theorem WellFormed.storedParent {forest : Forest} (wellFormed : forest.WellFormed)
    {scope : ScopeId} (there : scope < forest.scopes.size) :
    scope = 0 ∧ forest.storedParent? scope = none ∨
      ∃ parent < scope, forest.storedParent? scope = some parent := by
  have found := Array.getElem?_eq_getElem there
  have stored : forest.storedParent? scope = forest.scopes[scope].parent := by
    rw [storedParent?, found, Option.bind_some]
  rw [stored]
  cases inside : forest.scopes[scope].parent with
  | none => exact .inl ⟨(wellFormed.root scope _ found).1 inside, rfl⟩
  | some parent => exact .inr ⟨parent, wellFormed.older scope _ found parent inside, rfl⟩

theorem binds_iff_names {forest : Forest} {scope : ScopeId} {present : Scope}
    (found : forest.scopes[scope]? = some present) (name : Text) :
    forest.binds name scope = true ↔ name ∈ present.names := by
  simp [binds, bindings, found, Bindings.get?, Scope.names]

theorem Grows.binds {before after : Forest} (grows : Grows before after) {scope : ScopeId}
    (there : scope < before.scopes.size) {name : Text} (bound : before.binds name scope = true) :
    after.binds name scope = true := by
  have found := Array.getElem?_eq_getElem there
  obtain ⟨grown, still, -, names⟩ := grows scope _ found
  exact (binds_iff_names still name).2 (names.subset ((binds_iff_names found name).1 bound))

theorem Grows.storedParent {before after : Forest} (grows : Grows before after) {scope : ScopeId}
    (there : scope < before.scopes.size) :
    after.storedParent? scope = before.storedParent? scope := by
  have found := Array.getElem?_eq_getElem there
  obtain ⟨grown, still, same, -⟩ := grows scope _ found
  rw [storedParent?, storedParent?, still, found]
  exact same

end Forest

theorem Run.map_world {α β : Type} (run : Run α) (change : α → β) (world : World) :
    ((do return change (← run) : Run β) world).2 = (run world).2 := by
  rcases happens : run world with ⟨failure | result, last⟩
  · rw [Run.bind_of_error happens]
  · rw [Run.bind_of_ok happens]
    rfl

namespace Interpreter

/-! ### Steps of a session -/

/-- What an interpreter is asked to do. -/
inductive Task
  | evaluateAll (source : Source)
  | read (source : Source)
  | evaluate (expression : Value)
  | evaluateRaw (expression : Value)
  | register (name : Text) (registrant : Registrant) (adapters : List Adapter) (unwrap : Bool)

namespace Task

def run (interpreter : Interpreter) : Task → Run Value
  | evaluateAll source => interpreter.evaluateAll source
  | read source => Interpreter.read source
  | evaluate expression => interpreter.evaluate expression
  | evaluateRaw expression => interpreter.evaluateRaw expression
  | register name registrant adapters unwrap => do
    return .function (← Run.register root name registrant adapters unwrap)

/-- Expressions that are handed over capture scopes of the interpreter only. -/
def Permitted (interpreter : Interpreter) : Task → Prop
  | evaluate expression | evaluateRaw expression =>
    expression.Within interpreter.world.forest.scopes.size
  | evaluateAll _ | read _ | register _ _ _ _ => True

def outcome (task : Task) (interpreter : Interpreter) : Except Failure Value :=
  (interpreter.perform (task.run interpreter)).1

def after (task : Task) (interpreter : Interpreter) : Interpreter :=
  (interpreter.perform (task.run interpreter)).2.2

/-- What is handed over from outside keeps the policy. -/
def Fine (policy : Policy) (world : World) : Task → Prop
  | evaluate expression | evaluateRaw expression => policy.value world expression
  | register _ registrant _ _ => policy.registrant world registrant
  | evaluateAll _ | read _ => True

/-- The task reads the source: it is given one, or it imports it from a file. -/
def Reads (interpreter : Interpreter) (file : Source) : Task → Prop
  | evaluateAll source => file = source ∨ ∃ expressions, source.readAll = .ok expressions ∧
      interpreter.ReadsAmong file expressions ⟨interpreter.world.forest, #[]⟩
  | read source => file = source
  | evaluate expression | evaluateRaw expression =>
    interpreter.catalogue.Reads file depthLimit ⟨expression, root⟩ ⟨interpreter.world.forest, #[]⟩
  | register _ _ _ _ => False

theorem run_guards {policy : Policy} (lawful : policy.Lawful) {interpreter : Interpreter}
    (supports : policy.Supports interpreter.catalogue) {task : Task}
    (allowed : policy.world ⟨interpreter.world.forest, #[]⟩)
    (fine : task.Fine policy ⟨interpreter.world.forest, #[]⟩)
    (readable : ∀ file, task.Reads interpreter file →
      (policy.contents ⟨interpreter.world.forest, #[]⟩).source file) :
    policy.Guards (task.run interpreter) policy.value ⟨interpreter.world.forest, #[]⟩ := by
  cases task with
  | evaluateAll source =>
      exact evaluateAll_guards lawful supports allowed (readable source (.inl rfl))
        fun file expressions found reads => readable file (.inr ⟨expressions, found, reads⟩)
  | read source => exact read_guards lawful allowed (readable source rfl)
  | evaluate expression => exact evaluate_guards lawful supports allowed fine readable
  | evaluateRaw expression => exact evaluateRaw_guards lawful supports allowed fine readable
  | register name registrant adapters unwrap =>
      have registers := Policy.Keeps.register lawful name adapters unwrap allowed
        (supports.root _ allowed) fine
      refine .bind lawful (.of_keeps lawful registers) fun later host _ follows callable => ?_
      exact .of_keeps lawful (.pure lawful follows.1 callable)

theorem guards {interpreter : Interpreter} (sound : interpreter.Sound) {task : Task}
    (permitted : task.Permitted interpreter) :
    Policy.wellFormed.Guards (task.run interpreter) Policy.wellFormed.value
      ⟨interpreter.world.forest, #[]⟩ := by
  refine run_guards Policy.wellFormed_lawful sound.harmless.supports sound.wellFormed ?_
    fun _ _ => trivial
  cases task with
  | evaluate expression | evaluateRaw expression => exact permitted
  | register name registrant adapters unwrap => exact Policy.wellFormed_registrant _ registrant
  | evaluateAll source | read source => trivial

theorem reachable_after {interpreter : Interpreter} (reachable : interpreter.Reachable)
    {task : Task} (permitted : task.Permitted interpreter) :
    (task.after interpreter).Reachable := by
  cases task with
  | evaluateAll source => exact .evaluateAll reachable source
  | read source => exact .read reachable source
  | evaluate expression => exact .evaluate reachable permitted
  | evaluateRaw expression => exact .evaluateRaw reachable permitted
  | register name registrant adapters unwrap =>
      have same : (register name registrant adapters unwrap).after interpreter =
          (interpreter.perform (Run.register root name registrant adapters unwrap)).2.2 :=
        congrArg (Interpreter.mk interpreter.catalogue) (Run.map_world _ _ _)
      rw [same]
      exact .register reachable name registrant adapters unwrap

end Task

/-- What comes of an interpreter by tasks that succeed or fail and by changes of files. -/
inductive Leads (interpreter : Interpreter) : Interpreter → Prop
  | refl : Leads interpreter interpreter
  | task {middle : Interpreter} (before : Leads interpreter middle) {task : Task}
      (permitted : task.Permitted middle) : Leads interpreter (task.after middle)
  | writeFile {middle : Interpreter} (before : Leads interpreter middle) (path : Path)
      (entry : FileEntry) : Leads interpreter (middle.writeFile path entry)

theorem Leads.reachable {interpreter later : Interpreter} (leads : Leads interpreter later)
    (reachable : interpreter.Reachable) : later.Reachable := by
  induction leads with
  | refl => exact reachable
  | task _ permitted before => exact Task.reachable_after before permitted
  | writeFile _ path entry before => exact .writeFile before path entry

theorem Leads.grows {interpreter later : Interpreter} (leads : Leads interpreter later)
    (reachable : interpreter.Reachable) :
    interpreter.world.forest.Grows later.world.forest := by
  induction leads with
  | refl => exact .refl _
  | task before permitted grows =>
      have guards := Task.guards (before.reachable reachable).sound permitted
      exact grows.trans guards.ensures.follows.2
  | writeFile _ path entry grows => exact grows

/-! ### What holds in every state -/

/-- The scopes are a tree below the root, whatever is stored or handed out captures scopes that are
there, and later states keep the scopes with their parents and their names. -/
structure Rooted (interpreter : Interpreter) : Prop where
  parents : ∀ scope < interpreter.world.forest.scopes.size,
    scope = root ∧ interpreter.world.forest.storedParent? scope = none ∨
      ∃ parent < scope, interpreter.world.forest.storedParent? scope = some parent
  chains : ∀ scope < interpreter.world.forest.scopes.size,
    ((interpreter.world.forest.chain scope).IsChain fun inner outer =>
      interpreter.world.forest.storedParent? inner = some outer ∧ outer < inner) ∧
      (interpreter.world.forest.chain scope).getLast? = some root ∧
      interpreter.world.forest.root scope = root
  bindings : ∀ scope, ∀ binding ∈ interpreter.world.forest.bindings scope,
    binding.2.Within interpreter.world.forest.scopes.size
  results : ∀ task : Task, task.Permitted interpreter →
    ∀ value, task.outcome interpreter = .ok value →
      value.Within (task.after interpreter).world.forest.scopes.size
  failures : ∀ task : Task, task.Permitted interpreter →
    ∀ failure, task.outcome interpreter = .error failure → ∀ frame ∈ failure.frames,
      frame.Within (task.after interpreter).world.forest.scopes.size
  lasting : ∀ later, Leads interpreter later →
    later.Reachable ∧ ∀ scope < interpreter.world.forest.scopes.size,
      scope < later.world.forest.scopes.size ∧
        later.world.forest.storedParent? scope = interpreter.world.forest.storedParent? scope ∧
        ∀ name, interpreter.world.forest.binds name scope = true →
          later.world.forest.binds name scope = true

/-- Every state that sessions lead to is rooted. -/
theorem Reachable.rooted {interpreter : Interpreter} (reachable : interpreter.Reachable) :
    interpreter.Rooted := by
  have sound := reachable.sound
  have wellFormed := sound.wellFormed
  refine ⟨fun scope there => wellFormed.storedParent there, fun scope there => ?_,
    fun scope binding member => wellFormed.bound member, fun task permitted value succeeds => ?_,
    fun task permitted failure fails => ?_,
    fun later leads => ⟨leads.reachable reachable, fun scope there => ?_⟩⟩
  · have ends := wellFormed.root_eq_zero there
    exact ⟨Forest.chain_isChain _ scope, by rw [Forest.getLast_chain, ends, root], ends⟩
  · exact ((Task.guards sound permitted).ensures _ _ rfl).2 value succeeds
  · exact (Task.guards sound permitted).frames failure _ (Prod.ext fails rfl)
  · have grows := leads.grows reachable
    exact ⟨Nat.lt_of_lt_of_le there grows.size_le, grows.storedParent there,
      fun name bound => grows.binds there bound⟩

theorem calledOnce_rooted :
    calledOnce.world.forest.scopes.size = 2 ∧
      calledOnce.world.forest.storedParent? 1 = some root ∧ calledOnce.Rooted :=
  ⟨by decide +kernel, by decide +kernel, calledOnce_reachable.rooted⟩

end Interpreter

end Lisplet
