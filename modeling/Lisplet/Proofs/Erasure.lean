import Lisplet.Proofs.Likeness.Evaluations

/-!
Places in sources are there for reports only. Expressions and sessions that differ in nothing but
places are evaluated alike: to values and failures that differ in places only, with the same messages
and the same output.
-/

namespace Lisplet

/-! ### Erased places -/

def Ref.erased : Option Ref → Option Ref :=
  fun _ => none

/-- The value without any place, be it in bodies of closures or in objects of the host. -/
def Value.erased (value : Value) : Value :=
  value.mapRefs Ref.erased

def Failure.erased (failure : Failure) : Failure :=
  failure.mapRefs Ref.erased

def Scope.erased (scope : Scope) : Scope :=
  ⟨scope.parent, scope.bindings.mapRefs Ref.erased⟩

def Forest.erased (forest : Forest) : Forest :=
  ⟨forest.scopes.map Scope.erased⟩

/-- The kinds and messages of what a failure reports. -/
def Failure.reports : Failure → List (Text × Text)
  | .error inner => [(inner.kind.name, inner.cause.message)]
  | .unreadable issues => issues.map fun found => (found.kind.name, found.problem.message)
  | .issue found => [(found.kind.name, found.problem.message)]
  | .fault raised _ | .panic raised _ => [(raised.kind, raised.message)]

theorem Fault.shown_mapRefs (change : Option Ref → Option Ref) (fault : Fault) :
    (fault.mapRefs change).kind = fault.kind ∧ (fault.mapRefs change).message = fault.message := by
  cases fault with
  | panic payload => exact ⟨rfl, payload.render_mapRefs change⟩
  | keyMissing key => exact ⟨rfl, key.debug_mapRefs change⟩
  | notCallable function found =>
      simp only [mapRefs, kind, message, HostObject.debug_mapRefs, and_self]
  | _ => exact ⟨rfl, rfl⟩

theorem Cause.shown_mapRefs (change : Option Ref → Option Ref) (cause : Cause) :
    (cause.mapRefs change).kind = cause.kind ∧ (cause.mapRefs change).message = cause.message := by
  cases cause with
  | notCallable head =>
      simp only [mapRefs, kind, message, Value.typeName_mapRefs, Value.render_mapRefs, and_self]
  | _ => exact ⟨rfl, rfl⟩

theorem Failure.reports_erased (failure : Failure) : failure.erased.reports = failure.reports := by
  cases failure with
  | error inner =>
      obtain ⟨kind, message⟩ := inner.cause.shown_mapRefs Ref.erased
      simp only [erased, mapRefs, reports, RuntimeError.kind, kind, message]
  | fault raised passed | panic raised stack =>
      obtain ⟨kind, message⟩ := raised.shown_mapRefs Ref.erased
      simp only [erased, mapRefs, reports, kind, message]
  | unreadable issues | issue found => rfl

/-! ### Blind runs -/

/-- Runs that see no places and may look into all scopes. -/
def Likeness.blind : Likeness :=
  ⟨Ref.erased, fun _ => True⟩

theorem Value.like_of_erased {value other : Value} (same : value.erased = other.erased) :
    value.Like .blind other :=
  Value.like_of_mapRefs value same fun _ _ => trivial

namespace Forest

theorem scope_erased (forest : Forest) (scope : ScopeId) :
    forest.erased.scopes[scope]? = forest.scopes[scope]?.map Scope.erased :=
  Array.getElem?_map

theorem parents_erased (forest : Forest) (scope : ScopeId) :
    forest.erased.scopes[scope]?.map Scope.parent = forest.scopes[scope]?.map Scope.parent := by
  rw [scope_erased, Option.map_map]
  rfl

theorem bindings_erased (forest : Forest) (scope : ScopeId) :
    forest.erased.bindings scope = (forest.bindings scope).mapRefs Ref.erased := by
  unfold bindings
  rw [scope_erased]
  cases forest.scopes[scope]? <;> rfl

theorem like_of_erased {forest other : Forest} (same : forest.erased = other.erased) :
    forest.Like .blind other where
  parents scope := by
    rw [← parents_erased forest, ← parents_erased other, same]
  bindings scope _ := by
    refine Bindings.like_iff.mpr ⟨?_, fun _ _ _ _ => trivial⟩
    exact (bindings_erased forest scope).symm.trans (same ▸ bindings_erased other scope)
  around _ _ _ _ := trivial
  fresh _ _ := trivial

theorem Like.erased {forest other : Forest} (like : forest.Like .blind other) :
    forest.erased = other.erased := by
  refine congrArg Forest.mk (Array.ext_getElem? fun index => ?_)
  rw [Array.getElem?_map, Array.getElem?_map]
  have parents := like.parents index
  have bindings := (Bindings.like_iff.mp (like.bindings index trivial)).1
  unfold Forest.bindings at bindings
  generalize forest.scopes[index]? = scope at parents bindings ⊢
  generalize other.scopes[index]? = twin at parents bindings ⊢
  rcases scope with _ | scope <;> rcases twin with _ | twin
  · rfl
  · cases parents
  · cases parents
  · exact congrArg some (congrArg₂ Scope.mk (Option.some.inj parents) bindings)

end Forest

namespace Interpreter

def erasedOutcome : Except Failure Value → Except Failure Value
  | .ok value => .ok value.erased
  | .error failure => .error failure.erased

/-- The runs have the same outcome from the interpreters up to places, report and print the same, and
the interpreters are the same up to places behind them. -/
structure SameErased (first second : Interpreter) (run other : Run Value) : Prop where
  outcome : erasedOutcome (first.perform run).1 = erasedOutcome (second.perform other).1
  reports : ∀ failure twin, (first.perform run).1 = .error failure →
    (second.perform other).1 = .error twin → failure.reports = twin.reports
  printed : (first.perform run).2.1 = (second.perform other).2.1
  forest : (first.perform run).2.2.world.forest.erased =
    (second.perform other).2.2.world.forest.erased

variable {first second : Interpreter}

theorem sameErased_of_like {run other : Run Value}
    (forests : first.world.forest.erased = second.world.forest.erased)
    (runs : Run.Like .blind (Value.Like .blind) run other) : SameErased first second run other := by
  obtain ⟨outcomes, worlds⟩ := runs ⟨first.world.forest, #[]⟩ ⟨second.world.forest, #[]⟩
    ⟨Forest.like_of_erased forests, rfl⟩
  have outcome : erasedOutcome (first.perform run).1 = erasedOutcome (second.perform other).1 := by
    change erasedOutcome (run ⟨first.world.forest, #[]⟩).1 =
      erasedOutcome (other ⟨second.world.forest, #[]⟩).1
    generalize (run ⟨first.world.forest, #[]⟩).1 = given at outcomes ⊢
    generalize (other ⟨second.world.forest, #[]⟩).1 = twin at outcomes ⊢
    cases outcomes with
    | ok like => exact congrArg Except.ok like.mapRefs_eq.1
    | error same => exact congrArg Except.error same
  refine ⟨outcome, ?_, congrArg Array.toList worlds.output, worlds.forest.erased⟩
  intro failure twin fails breaks
  rw [fails, breaks] at outcome
  rw [← failure.reports_erased, ← twin.reports_erased]
  exact congrArg Failure.reports (Except.error.inj outcome)

/-- Expressions and sessions that are the same up to places are evaluated the same up to places, in
every scope and however deep it may nest. -/
theorem evaluation_erased {expression other : Value}
    (catalogues : first.catalogue = second.catalogue)
    (forests : first.world.forest.erased = second.world.forest.erased)
    (expressions : expression.erased = other.erased) (depth : Nat) (scope : ScopeId) :
    SameErased first second (Lisplet.evaluate first.catalogue depth expression scope)
      (Lisplet.evaluate second.catalogue depth other scope) := by
  have offers (value : Value) (_ : first.catalogue.Offers value) : value.Like .blind value :=
    Value.like_of_erased rfl
  have answers := Likeness.answers_valueOf offers depth
  rw [← catalogues]
  exact sameErased_of_like forests
    (answers expression other scope (Value.like_of_erased expressions) trivial)

/-- A session with a closure that calls its argument, all of it at one place. -/
def locatedSession (ref : Option Ref) : Interpreter :=
  let closure := Value.closure "f" [⟨"y", ref⟩] [.list [.identifier ⟨"y", ref⟩] ref] 0 ref
  ⟨⟨[], [], ⟨[]⟩⟩, ⟨⟨#[⟨none, [("f", closure)]⟩]⟩, #[]⟩⟩

def locatedCall (ref : Option Ref) : Value :=
  .list [.identifier ⟨"f", ref⟩, .integer 1 ref] ref

theorem evaluation_erased_locatedCall :
    (locatedSession (some ⟨none, 3, 7⟩)).world.forest.erased =
        (locatedSession none).world.forest.erased ∧
      (locatedCall (some ⟨none, 3, 7⟩)).erased = (locatedCall none).erased ∧
      SameErased (locatedSession (some ⟨none, 3, 7⟩)) (locatedSession none)
        (Lisplet.evaluate (locatedSession (some ⟨none, 3, 7⟩)).catalogue 5
          (locatedCall (some ⟨none, 3, 7⟩)) 0)
        (Lisplet.evaluate (locatedSession none).catalogue 5 (locatedCall none) 0) := by
  have catalogues : (locatedSession (some ⟨none, 3, 7⟩)).catalogue =
      (locatedSession none).catalogue := rfl
  have forests : (locatedSession (some ⟨none, 3, 7⟩)).world.forest.erased =
      (locatedSession none).world.forest.erased := by
    simp only [locatedSession, Forest.erased, List.map_toArray, List.map_cons, List.map_nil]
    rfl
  have calls : (locatedCall (some ⟨none, 3, 7⟩)).erased = (locatedCall none).erased := rfl
  exact ⟨forests, calls, evaluation_erased catalogues forests calls 5 0⟩

end Interpreter

end Lisplet
