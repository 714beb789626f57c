import Lisplet.Proofs.Likeness.Evaluations

/-!
Evaluation is confined to the scopes that it is led to. What an expression gives, prints and changes
depends on the bindings in a region of scopes only, if the region holds the scope that it is evaluated
in and all that can be reached from there.
-/

namespace Lisplet

mutual

theorem Value.mapRefs_id (value : Value) : value.mapRefs id = value := by
  match value with
  | .list items ref => exact congrArg (Value.list · ref) (Value.allMapRefs_id items)
  | .closure name parameters body scope ref =>
      have same : Identifier.mapRef id = id := rfl
      rw [Value.mapRefs, same, List.map_id, Value.allMapRefs_id]
      rfl
  | .foreign object ref => exact congrArg (Value.foreign · ref) (HostObject.mapRefs_id object)
  | .identifier _ | .integer _ _ | .float _ _ | .string _ _ | .boolean _ _ | .nil | .function _
  | .form _ => rfl

theorem Value.allMapRefs_id (values : List Value) : Value.allMapRefs id values = values := by
  match values with
  | [] => rfl
  | value :: rest =>
      exact congrArg₂ List.cons (Value.mapRefs_id value) (Value.allMapRefs_id rest)

theorem HostObject.mapRefs_id (object : HostObject) : object.mapRefs id = object := by
  match object with
  | .list items => exact congrArg HostObject.list (HostObject.allMapRefs_id items)
  | .tuple items => exact congrArg HostObject.tuple (HostObject.allMapRefs_id items)
  | .dictionary entries =>
      exact congrArg HostObject.dictionary (HostObject.entriesMapRefs_id entries)
  | .value inner => exact congrArg HostObject.value (Value.mapRefs_id inner)
  | .nothing | .boolean _ | .integer _ | .float _ | .text _ => rfl

theorem HostObject.allMapRefs_id (objects : List HostObject) :
    HostObject.allMapRefs id objects = objects := by
  match objects with
  | [] => rfl
  | object :: rest =>
      exact congrArg₂ List.cons (HostObject.mapRefs_id object) (HostObject.allMapRefs_id rest)

theorem HostObject.entriesMapRefs_id (entries : List (HostObject × HostObject)) :
    HostObject.entriesMapRefs id entries = entries := by
  match entries with
  | [] => rfl
  | (key, object) :: rest =>
      exact congrArg₂ List.cons
        (congrArg₂ Prod.mk (HostObject.mapRefs_id key) (HostObject.mapRefs_id object))
        (HostObject.entriesMapRefs_id rest)

end

mutual

theorem Value.Within.captures {bound : Nat} (value : Value) (within : value.Within bound) :
    ∀ captured ∈ value.captures, captured < bound := by
  match value with
  | .list items ref => exact Value.AllWithin.captures items within
  | .closure name parameters body scope ref =>
      exact List.forall_mem_cons.mpr ⟨within.1, Value.AllWithin.captures body within.2⟩
  | .foreign object ref => exact HostObject.Within.captures object within
  | .identifier _ | .integer _ _ | .float _ _ | .string _ _ | .boolean _ _ | .nil | .function _
  | .form _ => exact List.forall_mem_nil _

theorem Value.AllWithin.captures {bound : Nat} (values : List Value)
    (within : Value.AllWithin bound values) :
    ∀ captured ∈ Value.allCaptures values, captured < bound := by
  match values with
  | [] => exact List.forall_mem_nil _
  | value :: rest =>
      exact List.forall_mem_append.mpr
        ⟨Value.Within.captures value within.1, Value.AllWithin.captures rest within.2⟩

theorem HostObject.Within.captures {bound : Nat} (object : HostObject)
    (within : object.Within bound) : ∀ captured ∈ object.captures, captured < bound := by
  match object with
  | .list items | .tuple items => exact HostObject.AllWithin.captures items within
  | .dictionary entries => exact HostObject.EntriesWithin.captures entries within
  | .value inner => exact Value.Within.captures inner within
  | .nothing | .boolean _ | .integer _ | .float _ | .text _ => exact List.forall_mem_nil _

theorem HostObject.AllWithin.captures {bound : Nat} (objects : List HostObject)
    (within : HostObject.AllWithin bound objects) :
    ∀ captured ∈ HostObject.allCaptures objects, captured < bound := by
  match objects with
  | [] => exact List.forall_mem_nil _
  | object :: rest =>
      exact List.forall_mem_append.mpr
        ⟨HostObject.Within.captures object within.1, HostObject.AllWithin.captures rest within.2⟩

theorem HostObject.EntriesWithin.captures {bound : Nat} (entries : List (HostObject × HostObject))
    (within : HostObject.EntriesWithin bound entries) :
    ∀ captured ∈ HostObject.entryCaptures entries, captured < bound := by
  match entries with
  | [] => exact List.forall_mem_nil _
  | (key, object) :: rest =>
      refine List.forall_mem_append.mpr ⟨List.forall_mem_append.mpr ?_, ?_⟩
      · exact ⟨HostObject.Within.captures key within.1.1,
          HostObject.Within.captures object within.1.2⟩
      · exact HostObject.EntriesWithin.captures rest within.2

end

theorem Bindings.mapRefs_id (bindings : Bindings) : bindings.mapRefs id = bindings := by
  unfold Bindings.mapRefs
  simp [Value.mapRefs_id]

theorem Failure.mapRefs_id (failure : Failure) : failure.mapRefs id = failure := by
  have values : Value.mapRefs id = id := funext Value.mapRefs_id
  have fault (raised : Fault) : raised.mapRefs id = raised := by
    cases raised <;> simp [Fault.mapRefs, HostObject.mapRefs_id]
  have cause (cause : Cause) : cause.mapRefs id = cause := by
    cases cause <;> simp [Cause.mapRefs, Value.mapRefs_id]
  cases failure <;> simp [Failure.mapRefs, fault, cause, values]

/-! ### Regions -/

/-- Scopes of the forest that lead to no others: neither through parents nor through what closures in
their bindings capture. -/
structure Forest.Encloses (forest : Forest) (region : ScopeId → Prop) : Prop where
  there : ∀ scope, region scope → scope < forest.scopes.size
  parent : ∀ scope, region scope → ∀ parent, forest.parent? scope = some parent → region parent.1
  captured : ∀ scope, region scope → ∀ binding ∈ forest.bindings scope,
    ∀ captured ∈ binding.2.captures, region captured

/-- The forests have the same scopes with the same parents, and in the region the same bindings. -/
structure Forest.AgreesOn (region : ScopeId → Prop) (forest other : Forest) : Prop where
  parents : ∀ scope : ScopeId,
    forest.scopes[scope]?.map Scope.parent = other.scopes[scope]?.map Scope.parent
  bindings : ∀ scope, region scope → forest.bindings scope = other.bindings scope

/-- Runs that see all places, but look into the region and into new scopes only. -/
def Likeness.confined (forest : Forest) (region : ScopeId → Prop) : Likeness :=
  ⟨id, fun scope => region scope ∨ forest.scopes.size ≤ scope⟩

theorem Value.Like.eq_of_confined {forest : Forest} {region : ScopeId → Prop} {value other : Value}
    (like : value.Like (.confined forest region) other) : value = other := by
  rw [← value.mapRefs_id, ← other.mapRefs_id]
  exact like.mapRefs_eq.1

namespace Forest

variable {forest other : Forest} {region : ScopeId → Prop}

theorem Encloses.root (encloses : forest.Encloses region) (wellFormed : forest.WellFormed)
    {scope : ScopeId} (inside : region scope) : region 0 := by
  induction scope using Nat.strongRecOn with
  | ind scope ih =>
      cases around : forest.parent? scope with
      | some parent => exact ih parent.1 parent.2 (encloses.parent scope inside parent around)
      | none =>
          have root := wellFormed.root_eq_zero (encloses.there scope inside)
          rw [root_of_none around] at root
          exact root ▸ inside

theorem bindings_of_missing {scope : ScopeId} (missing : forest.scopes[scope]? = none) :
    forest.bindings scope = [] := by
  rw [Forest.bindings, missing]
  rfl

theorem Encloses.like (encloses : forest.Encloses region) (agrees : AgreesOn region forest other) :
    forest.Like (.confined forest region) other where
  parents := agrees.parents
  bindings scope inside := by
    rcases inside with inside | new
    · rw [← agrees.bindings scope inside, Bindings.like_iff]
      refine ⟨rfl, fun binding member captured there => .inl ?_⟩
      exact encloses.captured scope inside binding member captured there
    · have missing : forest.scopes[scope]? = none := Array.getElem?_eq_none new
      have parents := agrees.parents scope
      rw [missing] at parents
      have absent := Option.map_eq_none_iff.mp parents.symm
      rw [bindings_of_missing missing, bindings_of_missing absent]
      exact .nil
  around scope inside parent around := by
    rcases inside with inside | new
    · exact .inl (encloses.parent scope inside parent around)
    · unfold parent? at around
      rw [Array.getElem?_eq_none new] at around
      cases around
  fresh _ new := .inr new

theorem Like.agreesOn {later twin : Forest}
    (like : later.Like (.confined forest region) twin) :
    AgreesOn (fun scope => region scope ∨ forest.scopes.size ≤ scope) later twin where
  parents := like.parents
  bindings scope inside := by
    have same := (Bindings.like_iff.mp (like.bindings scope inside)).1
    rw [← Bindings.mapRefs_id (later.bindings scope), ← Bindings.mapRefs_id (twin.bindings scope)]
    exact same

end Forest

/-! ### Confined runs -/

namespace Interpreter

/-- The runs have the same outcome from the interpreters and print the same, and behind them the
interpreters agree on the region and on all scopes that were opened meanwhile. -/
structure SameWithin (region : ScopeId → Prop) (first second : Interpreter) (run other : Run Value) :
    Prop where
  outcome : (first.perform run).1 = (second.perform other).1
  printed : (first.perform run).2.1 = (second.perform other).2.1
  agrees : Forest.AgreesOn (fun scope => region scope ∨ first.world.forest.scopes.size ≤ scope)
    (first.perform run).2.2.world.forest (second.perform other).2.2.world.forest

variable {first second : Interpreter} {region : ScopeId → Prop}

theorem sameWithin_of_like {run other : Run Value}
    (encloses : first.world.forest.Encloses region)
    (agrees : Forest.AgreesOn region first.world.forest second.world.forest)
    (runs : Run.Like (.confined first.world.forest region)
      (Value.Like (.confined first.world.forest region)) run other) :
    SameWithin region first second run other := by
  obtain ⟨outcomes, worlds⟩ := runs ⟨first.world.forest, #[]⟩ ⟨second.world.forest, #[]⟩
    ⟨encloses.like agrees, rfl⟩
  refine ⟨?_, congrArg Array.toList worlds.output, worlds.forest.agreesOn⟩
  change (run ⟨first.world.forest, #[]⟩).1 = (other ⟨second.world.forest, #[]⟩).1
  generalize (run ⟨first.world.forest, #[]⟩).1 = outcome at outcomes ⊢
  generalize (other ⟨second.world.forest, #[]⟩).1 = twin at outcomes ⊢
  cases outcomes with
  | ok like => exact congrArg Except.ok like.eq_of_confined
  | @error failure same eq =>
      rw [← failure.mapRefs_id, ← same.mapRefs_id]
      exact congrArg Except.error eq

theorem Sound.answers_confined (sound : first.Sound) (inside : region 0) (depth : Nat) :
    (Likeness.confined first.world.forest region).Answers (first.catalogue.valueOf depth) := by
  refine Likeness.answers_valueOf (fun value offered => Value.like_self ?_) depth
  intro captured member
  have root := (sound.harmless value offered).captures value captured member
  exact .inl (Nat.lt_one_iff.mp root ▸ inside)

/-- Evaluation in a scope of a region that leads to no other scopes depends on the bindings in the
region only: from sessions that agree there it goes the same way, however deep it may nest. So does
the call of a closure that captured a scope of the region, whoever calls it. Only one of the sessions
has to be sound, as all reachable ones are. -/
theorem evaluation_confined (sound : first.Sound)
    (encloses : first.world.forest.Encloses region) (catalogues : first.catalogue = second.catalogue)
    (agrees : Forest.AgreesOn region first.world.forest second.world.forest) (depth : Nat) :
    (∀ (expression : Value) (scope : ScopeId), region scope →
      (∀ captured ∈ expression.captures, region captured) →
      SameWithin region first second (Lisplet.evaluate first.catalogue depth expression scope)
        (Lisplet.evaluate second.catalogue depth expression scope)) ∧
    ∀ (name : Text) (parameters : List Identifier) (body : List Value) (captured : ScopeId)
      (ref : Option Ref) (arguments : List Value),
      (∀ inner ∈ (Value.closure name parameters body captured ref).captures, region inner) →
      (∀ argument ∈ arguments, ∀ inner ∈ argument.captures, region inner) →
      SameWithin region first second
        (first.catalogue.perform depth
          (apply (.closure name parameters body captured ref) arguments))
        (second.catalogue.perform depth
          (apply (.closure name parameters body captured ref) arguments)) := by
  have itself (value : Value) (captures : ∀ captured ∈ value.captures, region captured) :
      value.Like (.confined first.world.forest region) value :=
    Value.like_self fun captured member => .inl (captures captured member)
  rw [← catalogues]
  constructor
  · intro expression scope inside captures
    have answers := sound.answers_confined (encloses.root sound.wellFormed inside) depth
    exact sameWithin_of_like encloses agrees
      (answers expression expression scope (itself expression captures) (.inl inside))
  · intro name parameters body captured ref arguments captures all
    have inside : region captured := captures captured List.mem_cons_self
    have answers := sound.answers_confined (encloses.root sound.wellFormed inside) depth
    have given := List.forall₂_same.mpr fun argument member => itself argument (all argument member)
    exact sameWithin_of_like encloses agrees
      (Procedure.Like.apply answers (itself _ captures) given)

/-- The interpreter with a binding in the scope of a call that is over. -/
def definedInside : Interpreter :=
  let forest := calledOnce.world.forest.define 1 "x" (.integer 1 none)
  { calledOnce with world := { calledOnce.world with forest } }

def sampleClosure : Value :=
  .closure "f" [⟨"y", none⟩] [sampleDefinition, .identifier ⟨"y", none⟩] 0 none

theorem evaluation_confined_calledOnce :
    (calledOnce.world.forest.bindings 1).length = 0 ∧
      (definedInside.world.forest.bindings 1).length = 1 ∧
      calledOnce.world.forest.Encloses (· = 0) ∧
      SameWithin (· = 0) calledOnce definedInside
        (Lisplet.evaluate calledOnce.catalogue 5 (.list [sampleClosure, .nil] none) 0)
        (Lisplet.evaluate definedInside.catalogue 5 (.list [sampleClosure, .nil] none) 0) ∧
      SameWithin (· = 0) calledOnce definedInside
        (calledOnce.catalogue.perform 5 (apply sampleClosure [.nil]))
        (definedInside.catalogue.perform 5 (apply sampleClosure [.nil])) := by
  have encloses : calledOnce.world.forest.Encloses (· = 0) := by
    refine ⟨?_, ?_, ?_⟩
    · rintro _ rfl
      decide +kernel
    · rintro _ rfl parent -
      exact absurd parent.2 (Nat.not_lt_zero _)
    · rintro _ rfl
      decide +kernel
  have agrees : Forest.AgreesOn (· = 0) calledOnce.world.forest definedInside.world.forest := by
    refine ⟨fun scope => (Forest.parents_define _ 1 "x" _ scope).symm, ?_⟩
    rintro _ rfl
    exact ((Forest.bindings_define _ 1 "x" _ 0).trans (if_neg (by simp))).symm
  have catalogues : calledOnce.catalogue = definedInside.catalogue := rfl
  have confined := evaluation_confined calledOnce_reachable.sound encloses catalogues agrees 5
  refine ⟨by decide +kernel, by decide +kernel, encloses, ?_, ?_⟩
  · exact confined.1 (.list [sampleClosure, .nil] none) 0 rfl (by decide)
  · exact confined.2 "f" [⟨"y", none⟩] [sampleDefinition, .identifier ⟨"y", none⟩] 0 none [.nil]
      (by decide) (by decide)

end Interpreter

end Lisplet
