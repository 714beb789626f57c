import Lisplet.Interpreter
import Lisplet.Proofs.CallPaths
import Lisplet.Proofs.Scopes

/-!
Sessions: whole evaluations keep every lawful policy, down to the frames of their failures, and so
the scopes of an interpreter stay well formed whatever is done with it.
-/

namespace Lisplet

variable {policy : Policy} {α : Type}

namespace Failure

/-- The frames that a failure shows. -/
def frames (failure : Failure) : List Value :=
  failure.frames?.getD []

theorem IsFresh.frames_eq_nil {failure : Failure} (fresh : failure.IsFresh) :
    failure.frames = [] := by
  cases failure with
  | error inner =>
      have none_ : inner.passed = [] := fresh
      simp [frames, frames?, RuntimeError.stack, none_]
  | fault cause passed =>
      have none_ : passed = [] := fresh
      simp [frames, frames?, none_]
  | panic cause stack => exact fresh.elim
  | unreadable issues => rfl
  | issue issue => rfl

theorem mem_frames_through {failure : Failure} {frame shown : Value}
    (member : shown ∈ (failure.through frame).frames) : shown = frame ∨ shown ∈ failure.frames := by
  cases failure with
  | error inner => simpa [frames, frames?, through, RuntimeError.stack, or_comm] using member
  | fault cause passed => simpa [frames, frames?, through, or_comm] using member
  | panic cause stack => exact .inr member
  | unreadable issues => exact .inr member
  | issue issue => exact .inr member

/-- The failure as it was raised, before it went through any expression. -/
def bare : Failure → Failure
  | .error inner => .error { inner with passed := [] }
  | .fault cause _ | .panic cause _ => .fault cause []
  | failure => failure

theorem IsFresh.bare_eq {failure : Failure} (fresh : failure.IsFresh) : failure.bare = failure := by
  cases failure with
  | error inner =>
      obtain ⟨cause, ref, passed⟩ := inner
      have none_ : passed = [] := fresh
      rw [bare, none_]
  | fault cause passed =>
      have none_ : passed = [] := fresh
      rw [bare, none_]
  | panic cause stack => exact fresh.elim
  | unreadable issues => rfl
  | issue issue => rfl

theorem bare_through (failure : Failure) (frame : Value) :
    (failure.through frame).bare = failure.bare := by
  cases failure <;> rfl

theorem bare_atBoundary (failure : Failure) : failure.atBoundary.bare = failure.bare := by
  cases failure <;> rfl

end Failure

/-! ### Sources that are read -/

namespace Catalogue

/-- The evaluation of the call reads the source, from a file that it imports, or in what it asks
for: its own parts and the forms of the files that it imports. -/
inductive Reads (catalogue : Catalogue) (source : Source) : Nat → Call → World → Prop
  | file {depth : Nat} {call : Call} {world reached : World} {scope : ScopeId} {name start : Text}
      (reaches : (dispatch call.scope call.expression).Reaches
        (catalogue.answer (catalogue.valueOf depth)) world (.load scope name start) reached)
      (finds : catalogue.FindsFile name source) : Reads catalogue source (depth + 1) call world
  | part {depth : Nat} {call inner : Call} {world reached : World}
      (reaches : (dispatch call.scope call.expression).Reaches
        (catalogue.answer (catalogue.valueOf depth)) world (.call inner) reached)
      (reads : Reads catalogue source depth inner reached) :
      Reads catalogue source (depth + 1) call world
  | imported {depth : Nat} {call inner : Call} {world middle reached : World} {scope : ScopeId}
      {name start : Text}
      (reaches : (dispatch call.scope call.expression).Reaches
        (catalogue.answer (catalogue.valueOf depth)) world (.load scope name start) middle)
      (loads : (catalogue.load scope name start).Reaches (catalogue.valueOf depth) middle inner
        reached)
      (reads : Reads catalogue source depth inner reached) :
      Reads catalogue source (depth + 1) call world

end Catalogue

namespace Policy

/-- The policy allows what every evaluation with the catalogue needs. -/
structure Supports (policy : Policy) (catalogue : Catalogue) : Prop where
  root : ∀ world, policy.world world → policy.scope world Interpreter.root
  roots : ∀ world scope, policy.world world → policy.scope world scope →
    policy.scope world (world.forest.root scope)
  admits : policy.Admits catalogue

theorem Ensures.failing {run : Run α} {post : World → α → Prop} {world : World}
    (change : Failure → Failure) (ensures : policy.Ensures run post world) :
    policy.Ensures (run.failing change) post world := by
  intro outcome last runs
  rcases happens : run world with ⟨failure | result, later⟩
  · rw [Run.failing_of_error happens] at runs
    cases runs
    exact ⟨(ensures _ _ happens).1, nofun⟩
  · rw [Run.failing_of_ok happens] at runs
    cases runs
    exact ensures _ _ happens

/-! ### What failures show -/

/-- The run ensures the property of its results, and its failures and their frames keep the policy. -/
structure Guards (policy : Policy) (run : Run α) (post : World → α → Prop) (world : World) :
    Prop where
  ensures : policy.Ensures run post world
  frames : ∀ failure last, run world = (.error failure, last) →
    ∀ frame ∈ failure.frames, policy.value last frame
  raised : ∀ failure last, run world = (.error failure, last) →
    (policy.contents last).failure failure.bare

namespace Guards

variable {β : Type}

theorem of_keeps (lawful : policy.Lawful) {run : Run α} {post : World → α → Prop} {world : World}
    (keeps : policy.Keeps run post world) : policy.Guards run post world := by
  have fresh {failure : Failure} {last : World} (fails : run world = (.error failure, last)) :
      failure.IsFresh := (lawful.contents last).fresh failure (keeps.2 failure last fails)
  refine ⟨keeps.1, fun failure last fails frame member => ?_, fun failure last fails => ?_⟩
  · rw [(fresh fails).frames_eq_nil] at member
    cases member
  · rw [(fresh fails).bare_eq]
    exact keeps.2 failure last fails

theorem bind (lawful : policy.Lawful) {world : World} {run : Run α} {next : α → Run β}
    {post : World → α → Prop} {final : World → β → Prop} (first : policy.Guards run post world)
    (continues : ∀ later result, run world = (.ok result, later) → policy.Follows world later →
      post later result → policy.Guards (next result) final later) :
    policy.Guards (run >>= next) final world := by
  rcases happens : run world with ⟨failure | result, middle⟩
  · have whole : (run >>= next) world = (.error failure, middle) := Run.bind_of_error happens
    refine ⟨fun outcome last runs => ?_, fun other last fails => ?_, fun other last fails => ?_⟩
    · cases whole.symm.trans runs
      exact ⟨(first.ensures _ _ happens).1, nofun⟩
    · cases whole.symm.trans fails
      exact first.frames failure middle happens
    · cases whole.symm.trans fails
      exact first.raised failure middle happens
  · have whole : (run >>= next) world = next result middle := Run.bind_of_ok happens
    obtain ⟨follows, kept⟩ := first.ensures _ _ happens
    have rest := continues middle result happens follows (kept result rfl)
    refine ⟨fun outcome last runs => ?_, fun failure last fails =>
      rest.frames failure last (whole.symm.trans fails), fun failure last fails =>
      rest.raised failure last (whole.symm.trans fails)⟩
    obtain ⟨after, holds⟩ := rest.ensures outcome last (whole.symm.trans runs)
    exact ⟨follows.trans lawful after, holds⟩

/-- A change of failures that keeps how they were raised, and adds only frames that are allowed. -/
theorem failing {run : Run α} {post : World → α → Prop} {world : World} {change : Failure → Failure}
    (guards : policy.Guards run post world) (same : ∀ failure, (change failure).bare = failure.bare)
    (shows : ∀ failure last, policy.Follows world last → ∀ frame ∈ (change failure).frames,
      frame ∈ failure.frames ∨ policy.value last frame) :
    policy.Guards (run.failing change) post world := by
  have fails {failure : Failure} {last : World}
      (fails : run.failing change world = (.error failure, last)) :
      ∃ inner, run world = (.error inner, last) ∧ failure = change inner := by
    rcases happens : run world with ⟨inner | result, middle⟩
    · rw [Run.failing_of_error happens] at fails
      cases fails
      exact ⟨inner, rfl, rfl⟩
    · rw [Run.failing_of_ok happens] at fails
      cases fails
  refine ⟨guards.ensures.failing change, fun failure last broken frame member => ?_,
    fun failure last broken => ?_⟩
  · obtain ⟨inner, happens, rfl⟩ := fails broken
    rcases shows inner last (guards.ensures _ _ happens).1 frame member with shown | allowed
    · exact guards.frames inner last happens frame shown
    · exact allowed
  · obtain ⟨inner, happens, rfl⟩ := fails broken
    rw [same]
    exact guards.raised inner last happens

theorem bounded {run : Run α} {post : World → α → Prop} {world : World}
    (guards : policy.Guards run post world) : policy.Guards run.bounded post world := by
  refine guards.failing Failure.bare_atBoundary fun failure last _ frame member => .inl ?_
  rwa [Failure.frames, failure.frames_atBoundary] at member

theorem within (lawful : policy.Lawful) {run : Run α} {post : World → α → Prop} {world : World}
    {expression : Value} (guards : policy.Guards run post world)
    (fine : policy.value world expression) :
    policy.Guards (run.within expression) post world := by
  refine guards.failing (fun failure => failure.bare_through expression) ?_
  intro failure last follows frame member
  rcases Failure.mem_frames_through member with rfl | shown
  · exact .inr (lawful.value_later follows.2 fine)
  · exact .inl shown

/-- A procedure that respects the policy guards it, if all answers do. -/
theorem run (lawful : policy.Lawful) {request : Type} {permitted : World → request → Prop}
    {answer : request → Run Value} {procedure : Procedure request α} {post : World → α → Prop}
    {world : World} (allowed : policy.world world)
    (respects : procedure.Respects policy permitted post world)
    (answers : ∀ asked middle, procedure.Reaches answer world asked middle →
      policy.Follows world middle → permitted middle asked →
      policy.Guards (answer asked) policy.value middle) :
    policy.Guards (procedure.run answer) post world := by
  have ensures (asked : request) (middle : World)
      (reaches : procedure.Reaches answer world asked middle) (follows : policy.Follows world middle)
      (fine : permitted middle asked) : policy.Ensures (answer asked) policy.value middle :=
    (answers asked middle reaches follows fine).ensures
  refine ⟨respects.ensures lawful allowed ensures, fun failure last fails => ?_,
    fun failure last fails => ?_⟩
  · rcases respects.fails lawful allowed ensures fails with
      raised | ⟨asked, reached, reaches, follows, fine, answered⟩
    · rw [((lawful.contents last).fresh failure raised).frames_eq_nil]
      exact List.forall_mem_nil _
    · exact (answers asked reached reaches follows fine).frames failure last answered
  · rcases respects.fails lawful allowed ensures fails with
      raised | ⟨asked, reached, reaches, follows, fine, answered⟩
    · rwa [((lawful.contents last).fresh failure raised).bare_eq]
    · exact (answers asked reached reaches follows fine).raised failure last answered

/-- Evaluation keeps a lawful policy that supports it and allows the sources that are read. The
frames of its failures are expressions that were handed to evaluation, and those were allowed. -/
theorem evaluate (lawful : policy.Lawful) {catalogue : Catalogue}
    (supports : policy.Supports catalogue) (depth : Nat) {expression : Value} {scope : ScopeId}
    {world : World} (allowed : policy.world world) (inScope : policy.scope world scope)
    (fine : policy.value world expression)
    (readable : ∀ source, catalogue.Reads source depth ⟨expression, scope⟩ world →
      (policy.contents world).source source) :
    policy.Guards (Lisplet.evaluate catalogue depth expression scope) policy.value world := by
  induction depth generalizing expression scope world with
  | zero =>
      exact .of_keeps lawful (.fail lawful allowed ((lawful.contents world).fault _))
  | succ depth ih =>
      refine Guards.within lawful ?_ fine
      rw [Catalogue.procedure, Procedure.run_inline]
      have dispatches := Procedure.Respects.dispatch lawful allowed inScope fine
      refine .run lawful allowed dispatches fun asked middle reaches follows permitted => ?_
      have later {reached : World} (after : policy.Follows world reached) {source : Source}
          (reads : catalogue.Reads source (depth + 1) ⟨expression, scope⟩ world) :
          (policy.contents reached).source source :=
        lawful.source_later after.2 (readable source reads)
      cases asked with
      | call inner =>
          exact ih follows.1 permitted.1 permitted.2 fun source reads =>
            later follows (.part reaches reads)
      | load from_ name start =>
          have loads := Procedure.Respects.load lawful supports.admits start follows.1
            (supports.roots middle from_ follows.1 permitted) fun source finds =>
              later follows (.file reaches finds)
          refine .run lawful follows.1 loads fun inner reached imports after fine => ?_
          exact ih after.1 fine.1 fine.2 fun source reads =>
            later (follows.trans lawful after) (.imported reaches imports reads)

end Guards

end Policy

/-- The constants of libraries capture no scope but the root. -/
def Catalogue.Harmless (catalogue : Catalogue) : Prop :=
  ∀ value, catalogue.Offers value → value.Within 1

theorem Policy.wellFormed_registrant (world : World) (registrant : Registrant) :
    Policy.wellFormed.registrant world registrant := by
  cases registrant <;> trivial

theorem Catalogue.Harmless.supports {catalogue : Catalogue} (harmless : catalogue.Harmless) :
    Policy.wellFormed.Supports catalogue where
  root _ wellFormed := wellFormed.inhabited
  roots world scope _ there := Nat.lt_of_le_of_lt (Forest.root_spec world.forest scope).2 there
  admits world entry wellFormed lists := by
    cases entry with
    | constant value => exact (harmless value lists).mono wellFormed.inhabited
    | function registrant adapters unwrap => exact Policy.wellFormed_registrant world registrant

namespace Interpreter

/-- The states of interpreters between two programs. Expressions that are handed over from outside
capture scopes of the interpreter only. -/
inductive Reachable : Interpreter → Prop
  | start (groups : List BindingGroup) {catalogue : Catalogue} (harmless : catalogue.Harmless) :
      Reachable (start groups catalogue)
  | evaluateAll {interpreter : Interpreter} (before : Reachable interpreter) (source : Source) :
      Reachable (interpreter.perform (interpreter.evaluateAll source)).2.2
  | read {interpreter : Interpreter} (before : Reachable interpreter) (source : Source) :
      Reachable (interpreter.perform (read source)).2.2
  | evaluate {interpreter : Interpreter} (before : Reachable interpreter) {expression : Value}
      (there : expression.Within interpreter.world.forest.scopes.size) :
      Reachable (interpreter.perform (interpreter.evaluate expression)).2.2
  | evaluateRaw {interpreter : Interpreter} (before : Reachable interpreter) {expression : Value}
      (there : expression.Within interpreter.world.forest.scopes.size) :
      Reachable (interpreter.perform (interpreter.evaluateRaw expression)).2.2
  | register {interpreter : Interpreter} (before : Reachable interpreter) (name : Text)
      (registrant : Registrant) (adapters : List Adapter) (unwrap : Bool) :
      Reachable (interpreter.perform (Run.register root name registrant adapters unwrap)).2.2
  | writeFile {interpreter : Interpreter} (before : Reachable interpreter) (path : Path)
      (entry : FileEntry) : Reachable (interpreter.writeFile path entry)

structure Sound (interpreter : Interpreter) : Prop where
  harmless : interpreter.catalogue.Harmless
  wellFormed : interpreter.world.forest.WellFormed

theorem Sound.perform {interpreter : Interpreter} (sound : interpreter.Sound) {run : Run α}
    {post : World → α → Prop}
    (guards : Policy.wellFormed.Guards run post ⟨interpreter.world.forest, #[]⟩) :
    (interpreter.perform run).2.2.Sound :=
  ⟨sound.harmless, guards.ensures.follows.1⟩

/-! ### Fresh interpreters -/

theorem bindForm_keeps (lawful : policy.Lawful) (name : Text) (kind : FormKind) {world : World}
    (allowed : policy.world world) (inRoot : policy.scope world root) :
    policy.Keeps (bindForm name kind) (fun _ _ => True) world :=
  .define lawful name allowed inRoot ((lawful.contents world).form ⟨name, kind⟩)

theorem bindGroup_keeps (lawful : policy.Lawful) (group : BindingGroup) {world : World}
    (allowed : policy.world world) (inRoot : policy.scope world root) :
    policy.Keeps (bindGroup group) (fun _ _ => True) world := by
  have contents := lawful.contents world
  cases group with
  | forms =>
      have lasts : Procedure.Lasts policy fun world (_ : Text × FormKind) =>
          policy.scope world root := fun _ _ _ follows inRoot => lawful.scope_later follows.2 inRoot
      exact .forM lawful lasts
        (fun _ form allowed inRoot => bindForm_keeps lawful form.1 form.2 allowed inRoot) allowed
        fun _ _ => inRoot
  | basic =>
      refine .installAll lawful allowed inRoot ?_
      simp [Library.basic, Library.operator, Library.builtin, Policy.entry, Policy.registrant,
        Policy.value, contents.builtin, contents.boolean, contents.nil]
  | math =>
      refine .installAll lawful allowed inRoot ?_
      simp [Library.qualified, Library.math, Library.realFunction, Library.function,
        Library.constant, Policy.entry, Policy.registrant, Policy.value, contents.math,
        contents.float]

theorem prepare_keeps (lawful : policy.Lawful) (groups : List BindingGroup) {world : World}
    (allowed : policy.world world) (inRoot : policy.scope world root) :
    policy.Keeps (prepare groups) (fun _ _ => True) world := by
  have lasts : Procedure.Lasts policy fun world (_ : BindingGroup) => policy.scope world root :=
    fun _ _ _ follows inRoot => lawful.scope_later follows.2 inRoot
  refine (bindForm_keeps lawful "import" .import_ allowed inRoot).bind lawful ?_
  intro later _ follows _
  exact .forM lawful lasts
    (fun _ group allowed inRoot => bindGroup_keeps lawful group allowed inRoot) follows.1
    fun _ _ => lawful.scope_later follows.2 inRoot

theorem start_sound (groups : List BindingGroup) {catalogue : Catalogue}
    (harmless : catalogue.Harmless) : (start groups catalogue).Sound := by
  have fresh : (Forest.empty.openScope none).2.WellFormed := by
    refine ⟨Nat.one_pos, ?_, ?_, ?_⟩
    all_goals
      intro index scope found
      rw [Forest.scope_openScope] at found
      split at found
      · next first =>
          cases found
          simp_all [Forest.empty]
      · simp [Forest.empty] at found
  have allowed : Policy.wellFormed.world ⟨(Forest.empty.openScope none).2, #[]⟩ := fresh
  have keeps := prepare_keeps Policy.wellFormed_lawful groups allowed fresh.inhabited
  exact ⟨harmless, (keeps.1 _ _ rfl).1.1⟩

/-! ### Sessions -/

theorem evaluateRaw_guards (lawful : policy.Lawful) {interpreter : Interpreter}
    (supports : policy.Supports interpreter.catalogue) {expression : Value} {world : World}
    (allowed : policy.world world) (fine : policy.value world expression)
    (readable : ∀ source, interpreter.catalogue.Reads source depthLimit ⟨expression, root⟩ world →
      (policy.contents world).source source) :
    policy.Guards (interpreter.evaluateRaw expression) policy.value world :=
  .evaluate lawful supports depthLimit allowed (supports.root world allowed) fine readable

theorem evaluate_guards (lawful : policy.Lawful) {interpreter : Interpreter}
    (supports : policy.Supports interpreter.catalogue) {expression : Value} {world : World}
    (allowed : policy.world world) (fine : policy.value world expression)
    (readable : ∀ source, interpreter.catalogue.Reads source depthLimit ⟨expression, root⟩ world →
      (policy.contents world).source source) :
    policy.Guards (interpreter.evaluate expression) policy.value world :=
  (evaluateRaw_guards lawful supports allowed fine readable).bounded

theorem refused_guards (lawful : policy.Lawful) {source : Source} {reason : ReadFailure}
    {world : World} (allowed : policy.world world)
    (readable : (policy.contents world).source source) (refuses : source.Refuses reason) :
    policy.Guards (Run.fail (Failure.ofReading reason) : Run Value) policy.value world :=
  .of_keeps lawful
    (.fail lawful allowed ((lawful.contents world).refused source reason readable refuses))

/-- The evaluation of the expressions, one after the other, reads the source from a file. -/
inductive ReadsAmong (interpreter : Interpreter) (source : Source) : List Value → World → Prop
  | first {expression : Value} {rest : List Value} {world : World}
      (reads : interpreter.catalogue.Reads source depthLimit ⟨expression, root⟩ world) :
      ReadsAmong interpreter source (expression :: rest) world
  | later {expression value : Value} {rest : List Value} {world middle : World}
      (succeeds : interpreter.evaluate expression world = (.ok value, middle))
      (reads : ReadsAmong interpreter source rest middle) :
      ReadsAmong interpreter source (expression :: rest) world

theorem evaluateEach_guards (lawful : policy.Lawful) {interpreter : Interpreter}
    (supports : policy.Supports interpreter.catalogue) {expressions : List Value} {state : Value}
    {world : World} (allowed : policy.world world)
    (fine : ∀ expression ∈ expressions, policy.value world expression)
    (start : policy.value world state)
    (readable : ∀ source, interpreter.ReadsAmong source expressions world →
      (policy.contents world).source source) :
    policy.Guards (expressions.foldlM (fun _ expression => interpreter.evaluate expression) state)
      policy.value world := by
  induction expressions generalizing world state with
  | nil => exact .of_keeps lawful (.pure lawful allowed start)
  | cons expression rest ih =>
      rw [List.foldlM_cons]
      have first := evaluate_guards lawful supports allowed (fine expression List.mem_cons_self)
        fun source reads => readable source (.first reads)
      refine first.bind lawful fun middle value succeeds follows kept => ?_
      refine ih follows.1 ?_ kept fun source reads => ?_
      · exact fun other member =>
          lawful.value_later follows.2 (fine other (List.mem_cons_of_mem expression member))
      · exact lawful.source_later follows.2 (readable source (.later succeeds reads))

theorem evaluateAll_guards (lawful : policy.Lawful) {interpreter : Interpreter}
    (supports : policy.Supports interpreter.catalogue) {source : Source} {world : World}
    (allowed : policy.world world) (given : (policy.contents world).source source)
    (readable : ∀ file expressions, source.readAll = .ok expressions →
      interpreter.ReadsAmong file expressions world → (policy.contents world).source file) :
    policy.Guards (interpreter.evaluateAll source) policy.value world := by
  have contents := lawful.contents world
  unfold evaluateAll
  split
  · next expressions found =>
      exact evaluateEach_guards lawful supports allowed
        (contents.read source expressions given (Source.roots_of_readAll found)) contents.nil
        fun file => readable file expressions found
  · next reason failed => exact refused_guards lawful allowed given (.inl failed)

theorem read_guards (lawful : policy.Lawful) {source : Source} {world : World}
    (allowed : policy.world world) (given : (policy.contents world).source source) :
    policy.Guards (read source) policy.value world := by
  unfold read
  split
  · next value found =>
      obtain ⟨others, reads⟩ := Source.roots_of_readOne found
      have fine := (lawful.contents world).read source _ given reads value List.mem_cons_self
      exact .of_keeps lawful (.pure lawful allowed fine)
  · next reason failed => exact refused_guards lawful allowed given (.inr failed)

theorem Reachable.sound {interpreter : Interpreter} (reachable : interpreter.Reachable) :
    interpreter.Sound := by
  have lawful := Policy.wellFormed_lawful
  induction reachable with
  | start groups harmless => exact start_sound groups harmless
  | evaluateAll before source sound =>
      exact sound.perform (evaluateAll_guards lawful sound.harmless.supports sound.wellFormed trivial
        fun _ _ _ _ => trivial)
  | read before source sound => exact sound.perform (read_guards lawful sound.wellFormed trivial)
  | evaluate before there sound =>
      exact sound.perform (evaluate_guards lawful sound.harmless.supports sound.wellFormed there
        fun _ _ => trivial)
  | evaluateRaw before there sound =>
      exact sound.perform (evaluateRaw_guards lawful sound.harmless.supports sound.wellFormed there
        fun _ _ => trivial)
  | register before name registrant adapters unwrap sound =>
      have wellFormed : Policy.wellFormed.world ⟨_, #[]⟩ := sound.wellFormed
      exact sound.perform (.of_keeps lawful (.register lawful name adapters unwrap wellFormed
        wellFormed.inhabited (Policy.wellFormed_registrant _ registrant)))
  | writeFile before path entry sound => exact ⟨sound.harmless, sound.wellFormed⟩

end Interpreter

end Lisplet
