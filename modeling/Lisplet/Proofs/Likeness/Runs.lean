import Lisplet.Proofs.Likeness.Calls
import Lisplet.Proofs.Scopes
import Mathlib.Data.List.Find

/-!
Runs that cannot tell apart what is alike. Two worlds are alike if they have the same scopes, hold
values that are alike where runs may look, and have the same output; a run from one of them then
does to it what its twin does to the other.
-/

namespace Lisplet

variable {likeness : Likeness} {α β : Type}

/-! ### Bindings -/

def Bindings.mapRefs (change : Option Ref → Option Ref) (bindings : Bindings) : Bindings :=
  bindings.map fun binding => (binding.1, binding.2.mapRefs change)

/-- The same names bound to values that are alike, in the same order. -/
def Bindings.Like (likeness : Likeness) : Bindings → Bindings → Prop :=
  List.Forall₂ fun binding other => binding.1 = other.1 ∧ binding.2.Like likeness other.2

theorem Bindings.like_iff {bindings others : Bindings} :
    bindings.Like likeness others ↔
      bindings.mapRefs likeness.view = others.mapRefs likeness.view ∧
        ∀ binding ∈ bindings, ∀ scope ∈ binding.2.captures, likeness.scope scope := by
  induction bindings generalizing others with
  | nil => cases others <;> simp [Bindings.Like, Bindings.mapRefs]
  | cons binding rest ih =>
      cases others with
      | nil => simp [Bindings.Like, Bindings.mapRefs]
      | cons other twins =>
          unfold Bindings.Like Bindings.mapRefs at ih ⊢
          rw [List.forall₂_cons, ih, Value.like_iff, List.map_cons, List.map_cons,
            List.forall_mem_cons, List.cons.injEq, Prod.mk.injEq]
          grind

namespace Bindings.Like

theorem get {bindings others : Bindings} (all : bindings.Like likeness others) (name : Text) :
    Option.Rel (Value.Like likeness) (bindings.get? name) (others.get? name) := by
  induction all with
  | nil => exact .none
  | @cons binding other rest twins first _ ih =>
      unfold Bindings.get? at ih ⊢
      rw [List.find?_cons, List.find?_cons, first.1]
      cases decide (other.1 = name) with
      | true => exact .some first.2
      | false => exact ih

theorem set {bindings others : Bindings} {value other : Value}
    (all : bindings.Like likeness others) (name : Text) (like : value.Like likeness other) :
    (bindings.set name value).Like likeness (others.set name other) := by
  induction all with
  | nil => exact .cons ⟨rfl, like⟩ .nil
  | @cons binding twin rest twins first others ih =>
      obtain ⟨label, present⟩ := binding
      obtain ⟨twinLabel, twinPresent⟩ := twin
      obtain ⟨rfl, kept⟩ : label = twinLabel ∧ present.Like likeness twinPresent := first
      rw [Bindings.set, Bindings.set]
      split
      · exact .cons ⟨rfl, like⟩ others
      · exact .cons ⟨rfl, kept⟩ ih

end Bindings.Like

/-! ### Forests -/

namespace Forest

/-- The same scopes with the same parents; the scopes that runs may look into are alike, lie in
others of their kind, and all new ones will be of it. -/
structure Like (likeness : Likeness) (forest other : Forest) : Prop where
  parents : ∀ scope : ScopeId,
    forest.scopes[scope]?.map Scope.parent = other.scopes[scope]?.map Scope.parent
  bindings : ∀ scope, likeness.scope scope →
    (forest.bindings scope).Like likeness (other.bindings scope)
  around : ∀ scope, likeness.scope scope → ∀ parent, forest.parent? scope = some parent →
    likeness.scope parent.1
  fresh : ∀ scope, forest.scopes.size ≤ scope → likeness.scope scope

namespace Like

variable {forest other : Forest}

theorem size (like : forest.Like likeness other) : forest.scopes.size = other.scopes.size := by
  have missing (index : Nat) : forest.scopes.size ≤ index ↔ other.scopes.size ≤ index := by
    rw [← Array.getElem?_eq_none_iff, ← Option.map_eq_none_iff, like.parents index,
      Option.map_eq_none_iff, Array.getElem?_eq_none_iff]
  exact Nat.le_antisymm ((missing _).mpr (Nat.le_refl _)) ((missing _).mp (Nat.le_refl _))

theorem parent (like : forest.Like likeness other) (scope : ScopeId) :
    forest.parent? scope = other.parent? scope :=
  parent_congr (like.parents scope)

theorem ancestors (like : forest.Like likeness other) {scope : ScopeId}
    (inside : likeness.scope scope) :
    forest.ancestors scope = other.ancestors scope ∧
      ∀ ancestor ∈ forest.ancestors scope, likeness.scope ancestor := by
  induction scope using Nat.strongRecOn with
  | ind scope ih =>
      rw [Forest.ancestors, Forest.ancestors, ← like.parent scope]
      cases around : forest.parent? scope with
      | none => exact ⟨rfl, List.forall_mem_nil _⟩
      | some parent =>
          have there := like.around scope inside parent around
          obtain ⟨same, all⟩ := ih parent.1 parent.2 there
          exact ⟨congrArg (parent.1 :: ·) same, List.forall_mem_cons.mpr ⟨there, all⟩⟩

theorem root (like : forest.Like likeness other) {scope : ScopeId} (inside : likeness.scope scope) :
    forest.root scope = other.root scope ∧ likeness.scope (forest.root scope) := by
  obtain ⟨same, all⟩ := like.ancestors inside
  have member : forest.root scope ∈ forest.chain scope := List.getLastD_mem_cons
  exact ⟨congrArg (·.getLastD scope) same, List.forall_mem_cons.mpr ⟨inside, all⟩ _ member⟩

theorem get (like : forest.Like likeness other) {scope : ScopeId} (inside : likeness.scope scope)
    (name : Text) :
    Option.Rel (Value.Like likeness) (forest.get? scope name) (other.get? scope name) := by
  obtain ⟨same, all⟩ := like.ancestors inside
  have chain : ∀ ancestor ∈ forest.chain scope, likeness.scope ancestor :=
    List.forall_mem_cons.mpr ⟨inside, all⟩
  have binds : ∀ ancestor ∈ forest.chain scope,
      forest.binds name ancestor = other.binds name ancestor := by
    intro ancestor member
    have found := (like.bindings ancestor (chain ancestor member)).get name
    unfold Forest.binds
    generalize (forest.bindings ancestor).get? name = left at found ⊢
    generalize (other.bindings ancestor).get? name = right at found ⊢
    cases found <;> rfl
  have owners : forest.find? scope name = other.find? scope name := by
    unfold Forest.find?
    rw [Forest.chain, Forest.chain, ← same]
    exact List.find?_congr binds
  unfold Forest.get?
  rw [← owners]
  cases found : forest.find? scope name with
  | none => exact .none
  | some owner => exact (like.bindings owner (chain owner (List.mem_of_find?_eq_some found))).get name

theorem define (like : forest.Like likeness other) (scope : ScopeId) (name : Text)
    {value twin : Value} (values : value.Like likeness twin) :
    (forest.define scope name value).Like likeness (other.define scope name twin) where
  parents index := by
    rw [parents_define, parents_define]
    exact like.parents index
  bindings index inside := by
    have all := like.bindings index inside
    rw [bindings_define, bindings_define, ← like.size]
    split
    · exact all.set name values
    · exact all
  around index inside parent around := by
    rw [parent_congr (parents_define forest scope name value index)] at around
    exact like.around index inside parent around
  fresh index new := by
    rw [Forest.define, Array.size_modify] at new
    exact like.fresh index new

theorem openScope (like : forest.Like likeness other) {captured : ScopeId}
    (inside : likeness.scope captured) :
    (forest.openScope (some captured)).2.Like likeness (other.openScope (some captured)).2 where
  parents index := by
    rw [scope_openScope, scope_openScope, ← like.size]
    split
    · rfl
    · exact like.parents index
  bindings index within := by
    rw [bindings_openScope, bindings_openScope]
    exact like.bindings index within
  around index within parent around := by
    by_cases last : index = forest.scopes.size
    · have opened : (forest.openScope (some captured)).2.scopes[index]?.bind Scope.parent =
          some captured := by
        rw [scope_openScope, if_pos last]
        rfl
      unfold parent? at around
      rw [opened] at around
      obtain ⟨older, same⟩ := Option.dite_none_right_eq_some.mp around
      exact congrArg Subtype.val (Option.some.inj same) ▸ inside
    · refine like.around index within parent ?_
      rw [← around]
      refine parent_congr ?_
      rw [scope_openScope, if_neg last]
  fresh index new := by
    rw [Forest.openScope, Array.size_push] at new
    exact like.fresh index (by omega)

end Like

end Forest

/-! ### Worlds and runs -/

structure World.Like (likeness : Likeness) (world other : World) : Prop where
  forest : world.forest.Like likeness other.forest
  output : world.output = other.output

/-- From worlds that are alike the runs lead to worlds that are alike, and to related results or to
failures that differ in places only. -/
def Run.Like (likeness : Likeness) (results : α → α → Prop) (run other : Run α) : Prop :=
  ∀ world twin, World.Like likeness world twin →
    likeness.Outcome results (run world).1 (other twin).1 ∧
      World.Like likeness (run world).2 (other twin).2

namespace Run.Like

theorem pure {results : α → α → Prop} {result other : α} (related : results result other) :
    Run.Like likeness results (pure result) (pure other) :=
  fun _ _ worlds => ⟨.ok related, worlds⟩

theorem bind {run other : Run α} {next following : α → Run β} {results : α → α → Prop}
    {final : β → β → Prop} (first : Run.Like likeness results run other)
    (continues : ∀ result twin, results result twin →
      Run.Like likeness final (next result) (following twin)) :
    Run.Like likeness final (run >>= next) (other >>= following) := by
  intro world twin worlds
  obtain ⟨outcomes, after⟩ := first world twin worlds
  rcases happens : run world with ⟨outcome, later⟩
  rcases occurs : other twin with ⟨twinOutcome, twinLater⟩
  rw [happens, occurs] at outcomes after
  cases outcomes with
  | ok related =>
      rw [Run.bind_of_ok happens, Run.bind_of_ok occurs]
      exact continues _ _ related later twinLater after
  | error same =>
      rw [Run.bind_of_error happens, Run.bind_of_error occurs]
      exact ⟨.error same, after⟩

theorem ofExcept {results : α → α → Prop} {outcome other : Except Failure α}
    (outcomes : likeness.Outcome results outcome other) :
    Run.Like likeness results (ofExcept outcome) (ofExcept other) :=
  fun _ _ worlds => ⟨outcomes, worlds⟩

theorem fail {results : α → α → Prop} {failure other : Failure}
    (same : failure.mapRefs likeness.view = other.mapRefs likeness.view) :
    Run.Like likeness results (fail failure) (fail other) :=
  fun _ _ worlds => ⟨.error same, worlds⟩

theorem failWith {results : α → α → Prop} {cause other : Cause} {ref place : Option Ref}
    (causes : cause.mapRefs likeness.view = other.mapRefs likeness.view)
    (refs : likeness.ref ref place) :
    Run.Like likeness results (failWith cause ref) (failWith other place) := by
  refine .fail ?_
  simp only [Failure.ofCause, Failure.mapRefs, causes]
  rw [refs]

theorem within {results : α → α → Prop} {run other : Run α} {frame twin : Value}
    (frames : frame.mapRefs likeness.view = twin.mapRefs likeness.view)
    (runs : Run.Like likeness results run other) :
    Run.Like likeness results (run.within frame) (other.within twin) := by
  intro world twinWorld worlds
  obtain ⟨outcomes, after⟩ := runs world twinWorld worlds
  rcases happens : run world with ⟨outcome, later⟩
  rcases occurs : other twinWorld with ⟨twinOutcome, twinLater⟩
  rw [happens, occurs] at outcomes after
  rw [Run.within_eq_failing, Run.within_eq_failing]
  cases outcomes with
  | ok related =>
      rw [Run.failing_of_ok happens, Run.failing_of_ok occurs]
      exact ⟨.ok related, after⟩
  | @error failure other same =>
      rw [Run.failing_of_error happens, Run.failing_of_error occurs]
      refine ⟨.error ?_, after⟩
      rw [Failure.mapRefs_through, Failure.mapRefs_through, frames, same]

theorem print (text : Text) :
    Run.Like likeness (fun _ _ => True) (print text) (print text) :=
  fun _ _ worlds =>
    ⟨.ok trivial, worlds.forest, congrArg (fun output : Array CodePoint => output ++ text)
      worlds.output⟩

theorem define (scope : ScopeId) (name : Text) {value other : Value}
    (like : value.Like likeness other) :
    Run.Like likeness (fun _ _ => True) (define scope name value) (define scope name other) :=
  fun _ _ worlds => ⟨.ok trivial, worlds.forest.define scope name like, worlds.output⟩

theorem openScope {captured : ScopeId} (inside : likeness.scope captured) :
    Run.Like likeness (fun scope other => scope = other ∧ likeness.scope scope)
      (openScope captured) (openScope captured) := by
  intro world twin worlds
  -- New scopes are numbered by how many there are, so both runs open the same one.
  refine ⟨.ok ⟨worlds.forest.size, ?_⟩, worlds.forest.openScope inside, worlds.output⟩
  exact worlds.forest.fresh _ (Nat.le_refl _)

theorem forest : Run.Like likeness (Forest.Like likeness) forest forest :=
  fun _ _ worlds => ⟨.ok worlds.forest, worlds⟩

theorem lookUp {scope : ScopeId} {name other : Identifier} (inside : likeness.scope scope)
    (names : name.Like likeness other) :
    Run.Like likeness (Value.Like likeness) (lookUp scope name) (lookUp scope other) := by
  refine Run.Like.forest.bind fun forest twin forests => ?_
  have found := forests.get inside other.name
  rw [names.spelling]
  generalize forest.get? scope other.name = left at found ⊢
  generalize twin.get? scope other.name = right at found ⊢
  cases found with
  | none => exact .failWith rfl names.ref
  | some like => exact .pure like

theorem mapM {ι : Type} {items others : List ι} {related : ι → ι → Prop} {step : ι → Run α}
    {results : α → α → Prop} (all : List.Forall₂ related items others)
    (steps : ∀ item twin, related item twin →
      Run.Like likeness results (step item) (step twin)) :
    Run.Like likeness (List.Forall₂ results) (items.mapM step) (others.mapM step) := by
  induction all with
  | nil => exact .pure .nil
  | cons first rest ih =>
      rw [List.mapM_cons, List.mapM_cons]
      refine (steps _ _ first).bind fun head twin kept => ih.bind fun tail twins others => ?_
      exact .pure (.cons kept others)

theorem forM {ι : Type} {items : List ι} {step : ι → Run PUnit}
    (steps : ∀ item ∈ items, Run.Like likeness (fun _ _ => True) (step item) (step item)) :
    Run.Like likeness (fun _ _ => True) (items.forM step) (items.forM step) := by
  induction items with
  | nil => exact .pure trivial
  | cons item items ih =>
      obtain ⟨first, rest⟩ := List.forall_mem_cons.mp steps
      exact first.bind fun _ _ _ => ih rest

theorem bindAll (scope : ScopeId) {parameters names : List Identifier}
    {arguments others : List Value} (labels : List.Forall₂ (Identifier.Like likeness) parameters names)
    (all : List.Forall₂ (Value.Like likeness) arguments others) :
    Run.Like likeness (fun _ _ => True) (bindAll scope parameters arguments)
      (bindAll scope names others) := by
  induction labels generalizing arguments others with
  | nil => exact .pure trivial
  | cons label labels ih =>
      cases all with
      | nil => exact .pure trivial
      | cons first rest =>
          rw [Run.bindAll, Run.bindAll, label.spelling]
          exact (Run.Like.define scope _ first).bind fun _ _ _ => ih rest

theorem call (host : HostFunction) {arguments others : List Value}
    (all : List.Forall₂ (Value.Like likeness) arguments others) :
    Run.Like likeness (Value.Like likeness) (host.call arguments) (host.call others) := by
  refine (Run.Like.ofExcept (host.adapted_like all)).bind fun objects twins handed => ?_
  rw [host.operation.printed_like handed]
  refine (Run.Like.print _).bind fun _ _ _ => ?_
  refine (Run.Like.ofExcept (host.operation.run_like handed)).bind fun object twin given => ?_
  exact .ofExcept (host.accept_like given)

end Run.Like

/-! ### Procedures -/

/-- The procedures do the same when the questions of both get these answers. -/
def Procedure.Like {request : Type} (likeness : Likeness) (answer : request → Run Value)
    (results : α → α → Prop) (procedure other : Procedure request α) : Prop :=
  Run.Like likeness results (procedure.run answer) (other.run answer)

namespace Procedure.Like

variable {request : Type} {answer : request → Run Value}

theorem pure {results : α → α → Prop} {result other : α} (related : results result other) :
    Procedure.Like likeness answer results (pure result) (pure other) :=
  Run.Like.pure related

theorem bind {procedure other : Procedure request α} {next following : α → Procedure request β}
    {results : α → α → Prop} {final : β → β → Prop}
    (first : Procedure.Like likeness answer results procedure other)
    (continues : ∀ result twin, results result twin →
      Procedure.Like likeness answer final (next result) (following twin)) :
    Procedure.Like likeness answer final (procedure >>= next) (other >>= following) := by
  change Run.Like likeness final ((procedure.bind next).run answer) ((other.bind following).run answer)
  rw [run_bind, run_bind]
  exact Run.Like.bind first continues

theorem lift {run other : Run α} {results : α → α → Prop}
    (runs : Run.Like likeness results run other) :
    Procedure.Like likeness answer results (liftM run) (liftM other) :=
  runs.bind fun _ _ related => .pure related

theorem ask {question other : request}
    (answers : Run.Like likeness (Value.Like likeness) (answer question) (answer other)) :
    Procedure.Like likeness answer (Value.Like likeness) (.ask question .done) (.ask other .done) :=
  answers.bind fun _ _ related => .pure related

theorem mapM {ι : Type} {items others : List ι} {related : ι → ι → Prop}
    {step : ι → Procedure request α} {results : α → α → Prop}
    (all : List.Forall₂ related items others)
    (steps : ∀ item twin, related item twin →
      Procedure.Like likeness answer results (step item) (step twin)) :
    Procedure.Like likeness answer (List.Forall₂ results) (items.mapM step) (others.mapM step) := by
  induction all with
  | nil => exact .pure .nil
  | cons first rest ih =>
      rw [List.mapM_cons, List.mapM_cons]
      refine (steps _ _ first).bind fun head twin kept => ih.bind fun tail twins others => ?_
      exact .pure (.cons kept others)

theorem forM {ι : Type} {items others : List ι} {related : ι → ι → Prop}
    {step following : ι → Procedure request PUnit} (all : List.Forall₂ related items others)
    (steps : ∀ item twin, related item twin →
      Procedure.Like likeness answer (fun _ _ => True) (step item) (following twin)) :
    Procedure.Like likeness answer (fun _ _ => True) (items.forM step) (others.forM following) := by
  induction all with
  | nil => exact .pure trivial
  | cons first rest ih => exact (steps _ _ first).bind fun _ _ _ => ih

theorem foldlM {ι : Type} {items others : List ι} {related : ι → ι → Prop}
    {step : α → ι → Procedure request α} {results : α → α → Prop}
    (all : List.Forall₂ related items others)
    (steps : ∀ state other item twin, results state other → related item twin →
      Procedure.Like likeness answer results (step state item) (step other twin))
    {state other : α} (start : results state other) :
    Procedure.Like likeness answer results (items.foldlM step state) (others.foldlM step other) := by
  induction all generalizing state other with
  | nil => exact .pure start
  | cons first rest ih =>
      rw [List.foldlM_cons, List.foldlM_cons]
      exact (steps _ _ _ _ start first).bind fun later twin kept => ih kept

end Procedure.Like

end Lisplet
