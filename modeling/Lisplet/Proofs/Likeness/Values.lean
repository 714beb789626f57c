import Lisplet.Host.Number
import Lisplet.Proofs.Literals
import Lisplet.Value.Printer
import Mathlib.Data.List.Forall2

/-!
Values that two runs take for one another. They are built the same; their places may differ as far
as a view of places goes, and their closures capture scopes that both runs may look into.
-/

namespace Lisplet

/-! ### Places and captured scopes -/

def Identifier.mapRef (change : Option Ref → Option Ref) (name : Identifier) : Identifier :=
  ⟨name.name, change name.ref⟩

mutual

/-- The value with its place and all places in it changed. -/
def Value.mapRefs (change : Option Ref → Option Ref) : Value → Value
  | .identifier name => .identifier (name.mapRef change)
  | .integer number ref => .integer number (change ref)
  | .float number ref => .float number (change ref)
  | .string text ref => .string text (change ref)
  | .boolean truth ref => .boolean truth (change ref)
  | .list items ref => .list (Value.allMapRefs change items) (change ref)
  | .nil => .nil
  | .closure name parameters body scope ref =>
    .closure name (parameters.map (Identifier.mapRef change)) (Value.allMapRefs change body) scope
      (change ref)
  | .function host => .function host
  | .form special => .form special
  | .foreign object ref => .foreign (object.mapRefs change) (change ref)

def Value.allMapRefs (change : Option Ref → Option Ref) : List Value → List Value
  | [] => []
  | value :: rest => value.mapRefs change :: Value.allMapRefs change rest

def HostObject.mapRefs (change : Option Ref → Option Ref) : HostObject → HostObject
  | .nothing => .nothing
  | .boolean truth => .boolean truth
  | .integer number => .integer number
  | .float number => .float number
  | .text content => .text content
  | .list items => .list (HostObject.allMapRefs change items)
  | .tuple items => .tuple (HostObject.allMapRefs change items)
  | .dictionary entries => .dictionary (HostObject.entriesMapRefs change entries)
  | .value inner => .value (inner.mapRefs change)

def HostObject.allMapRefs (change : Option Ref → Option Ref) : List HostObject → List HostObject
  | [] => []
  | object :: rest => object.mapRefs change :: HostObject.allMapRefs change rest

def HostObject.entriesMapRefs (change : Option Ref → Option Ref) :
    List (HostObject × HostObject) → List (HostObject × HostObject)
  | [] => []
  | (key, object) :: rest =>
    (key.mapRefs change, object.mapRefs change) :: HostObject.entriesMapRefs change rest

end

mutual

/-- The scopes that closures in the value capture, at any depth. -/
def Value.captures : Value → List ScopeId
  | .list items _ => Value.allCaptures items
  | .closure _ _ body scope _ => scope :: Value.allCaptures body
  | .foreign object _ => object.captures
  | .identifier _ | .integer _ _ | .float _ _ | .string _ _ | .boolean _ _ | .nil | .function _
  | .form _ => []

def Value.allCaptures : List Value → List ScopeId
  | [] => []
  | value :: rest => value.captures ++ Value.allCaptures rest

def HostObject.captures : HostObject → List ScopeId
  | .list items => HostObject.allCaptures items
  | .tuple items => HostObject.allCaptures items
  | .dictionary entries => HostObject.entryCaptures entries
  | .value inner => inner.captures
  | .nothing | .boolean _ | .integer _ | .float _ | .text _ => []

def HostObject.allCaptures : List HostObject → List ScopeId
  | [] => []
  | object :: rest => object.captures ++ HostObject.allCaptures rest

def HostObject.entryCaptures : List (HostObject × HostObject) → List ScopeId
  | [] => []
  | (key, object) :: rest => key.captures ++ object.captures ++ HostObject.entryCaptures rest

end

/-! ### Likeness -/

/-- What two runs have in common: how much of places they see, and the scopes that they may look
into. -/
structure Likeness where
  view : Option Ref → Option Ref
  scope : ScopeId → Prop

def Likeness.ref (likeness : Likeness) (ref other : Option Ref) : Prop :=
  likeness.view ref = likeness.view other

structure Identifier.Like (likeness : Likeness) (name other : Identifier) : Prop where
  spelling : name.name = other.name
  ref : likeness.ref name.ref other.ref

mutual

inductive Value.Like (likeness : Likeness) : Value → Value → Prop
  | identifier {name other : Identifier} : name.Like likeness other →
      Value.Like likeness (.identifier name) (.identifier other)
  | integer (number : Int64) {ref other : Option Ref} : likeness.ref ref other →
      Value.Like likeness (.integer number ref) (.integer number other)
  | float (number : Float) {ref other : Option Ref} : likeness.ref ref other →
      Value.Like likeness (.float number ref) (.float number other)
  | string (text : Text) {ref other : Option Ref} : likeness.ref ref other →
      Value.Like likeness (.string text ref) (.string text other)
  | boolean (truth : Bool) {ref other : Option Ref} : likeness.ref ref other →
      Value.Like likeness (.boolean truth ref) (.boolean truth other)
  | list {items others : List Value} {ref other : Option Ref} :
      List.Forall₂ (Value.Like likeness) items others → likeness.ref ref other →
      Value.Like likeness (.list items ref) (.list others other)
  | nil : Value.Like likeness .nil .nil
  | closure (name : Text) {parameters others : List Identifier} {body code : List Value}
      {scope : ScopeId} {ref other : Option Ref} :
      List.Forall₂ (Identifier.Like likeness) parameters others →
      List.Forall₂ (Value.Like likeness) body code → likeness.scope scope →
      likeness.ref ref other →
      Value.Like likeness (.closure name parameters body scope ref)
        (.closure name others code scope other)
  | function (host : HostFunction) : Value.Like likeness (.function host) (.function host)
  | form (special : SpecialForm) : Value.Like likeness (.form special) (.form special)
  | foreign {object other : HostObject} {ref place : Option Ref} :
      HostObject.Like likeness object other → likeness.ref ref place →
      Value.Like likeness (.foreign object ref) (.foreign other place)

inductive HostObject.Like (likeness : Likeness) : HostObject → HostObject → Prop
  | nothing : HostObject.Like likeness .nothing .nothing
  | boolean (truth : Bool) : HostObject.Like likeness (.boolean truth) (.boolean truth)
  | integer (number : Int) : HostObject.Like likeness (.integer number) (.integer number)
  | float (number : Float) : HostObject.Like likeness (.float number) (.float number)
  | text (content : Text) : HostObject.Like likeness (.text content) (.text content)
  | list {items others : List HostObject} : List.Forall₂ (HostObject.Like likeness) items others →
      HostObject.Like likeness (.list items) (.list others)
  | tuple {items others : List HostObject} : List.Forall₂ (HostObject.Like likeness) items others →
      HostObject.Like likeness (.tuple items) (.tuple others)
  | dictionary {entries others : List (HostObject × HostObject)} :
      List.Forall₂ (HostObject.EntryLike likeness) entries others →
      HostObject.Like likeness (.dictionary entries) (.dictionary others)
  | value {inner other : Value} : Value.Like likeness inner other →
      HostObject.Like likeness (.value inner) (.value other)

inductive HostObject.EntryLike (likeness : Likeness) :
    HostObject × HostObject → HostObject × HostObject → Prop
  | entry {key object otherKey other : HostObject} : HostObject.Like likeness key otherKey →
      HostObject.Like likeness object other →
      HostObject.EntryLike likeness (key, object) (otherKey, other)

end

variable {likeness : Likeness}

theorem Identifier.like_iff {name other : Identifier} :
    name.Like likeness other ↔ name.mapRef likeness.view = other.mapRef likeness.view := by
  constructor
  · intro same
    rw [mapRef, same.spelling, same.ref]
    rfl
  · intro same
    obtain ⟨spelling, ref⟩ := Identifier.mk.inj same
    exact ⟨spelling, ref⟩

theorem Identifier.allLike_iff {names others : List Identifier} :
    List.Forall₂ (Identifier.Like likeness) names others ↔
      names.map (mapRef likeness.view) = others.map (mapRef likeness.view) := by
  induction names generalizing others with
  | nil => cases others <;> simp
  | cons name rest ih =>
      cases others with
      | nil => simp
      | cons other others => simp [like_iff, ih]

mutual

theorem Value.Like.mapRefs_eq {value other : Value} (like : value.Like likeness other) :
    value.mapRefs likeness.view = other.mapRefs likeness.view ∧
      ∀ scope ∈ value.captures, likeness.scope scope := by
  match value with
  | .identifier name =>
      cases like with
      | identifier same =>
          exact ⟨congrArg Value.identifier (Identifier.like_iff.mp same), List.forall_mem_nil _⟩
  | .integer number ref =>
      cases like with
      | integer _ refs =>
          exact ⟨congrArg (Value.integer number) refs, List.forall_mem_nil _⟩
  | .float number ref =>
      cases like with
      | float _ refs =>
          exact ⟨congrArg (Value.float number) refs, List.forall_mem_nil _⟩
  | .string text ref =>
      cases like with
      | string _ refs =>
          exact ⟨congrArg (Value.string text) refs, List.forall_mem_nil _⟩
  | .boolean truth ref =>
      cases like with
      | boolean _ refs =>
          exact ⟨congrArg (Value.boolean truth) refs, List.forall_mem_nil _⟩
  | .list items ref =>
      cases like with
      | list all refs =>
          obtain ⟨same, inside⟩ := Value.Like.allMapRefs_eq all
          exact ⟨congrArg₂ Value.list same refs, inside⟩
  | .closure name parameters body scope ref =>
      cases like with
      | closure _ names all there refs =>
          obtain ⟨same, inside⟩ := Value.Like.allMapRefs_eq all
          refine ⟨?_, List.forall_mem_cons.mpr ⟨there, inside⟩⟩
          rw [Value.mapRefs, Value.mapRefs, Identifier.allLike_iff.mp names, same, refs]
  | .nil | .function host | .form special =>
      cases like
      exact ⟨rfl, List.forall_mem_nil _⟩
  | .foreign object ref =>
      cases like with
      | foreign objects refs =>
          obtain ⟨same, inside⟩ := HostObject.Like.mapRefs_eq objects
          exact ⟨congrArg₂ Value.foreign same refs, inside⟩
termination_by structural value

theorem Value.Like.allMapRefs_eq {values others : List Value}
    (all : List.Forall₂ (Value.Like likeness) values others) :
    Value.allMapRefs likeness.view values = Value.allMapRefs likeness.view others ∧
      ∀ scope ∈ Value.allCaptures values, likeness.scope scope := by
  match values with
  | [] =>
      cases all
      exact ⟨rfl, List.forall_mem_nil _⟩
  | value :: rest =>
      cases all with
      | cons like all =>
          obtain ⟨same, inside⟩ := Value.Like.mapRefs_eq like
          obtain ⟨sameRest, insideRest⟩ := Value.Like.allMapRefs_eq all
          exact ⟨congrArg₂ List.cons same sameRest, List.forall_mem_append.mpr ⟨inside, insideRest⟩⟩
termination_by structural values

theorem HostObject.Like.mapRefs_eq {object other : HostObject}
    (like : object.Like likeness other) :
    object.mapRefs likeness.view = other.mapRefs likeness.view ∧
      ∀ scope ∈ object.captures, likeness.scope scope := by
  match object with
  | .nothing | .boolean _ | .integer _ | .float _ | .text _ =>
      cases like
      exact ⟨rfl, List.forall_mem_nil _⟩
  | .list items =>
      cases like with
      | list all =>
          obtain ⟨same, inside⟩ := HostObject.Like.allMapRefs_eq all
          exact ⟨congrArg HostObject.list same, inside⟩
  | .tuple items =>
      cases like with
      | tuple all =>
          obtain ⟨same, inside⟩ := HostObject.Like.allMapRefs_eq all
          exact ⟨congrArg HostObject.tuple same, inside⟩
  | .dictionary entries =>
      cases like with
      | dictionary all =>
          obtain ⟨same, inside⟩ := HostObject.Like.entriesMapRefs_eq all
          exact ⟨congrArg HostObject.dictionary same, inside⟩
  | .value inner =>
      cases like with
      | value values =>
          obtain ⟨same, inside⟩ := Value.Like.mapRefs_eq values
          exact ⟨congrArg HostObject.value same, inside⟩
termination_by structural object

theorem HostObject.Like.allMapRefs_eq {objects others : List HostObject}
    (all : List.Forall₂ (HostObject.Like likeness) objects others) :
    HostObject.allMapRefs likeness.view objects = HostObject.allMapRefs likeness.view others ∧
      ∀ scope ∈ HostObject.allCaptures objects, likeness.scope scope := by
  match objects with
  | [] =>
      cases all
      exact ⟨rfl, List.forall_mem_nil _⟩
  | object :: rest =>
      cases all with
      | cons like all =>
          obtain ⟨same, inside⟩ := HostObject.Like.mapRefs_eq like
          obtain ⟨sameRest, insideRest⟩ := HostObject.Like.allMapRefs_eq all
          exact ⟨congrArg₂ List.cons same sameRest, List.forall_mem_append.mpr ⟨inside, insideRest⟩⟩
termination_by structural objects

theorem HostObject.Like.entriesMapRefs_eq {entries others : List (HostObject × HostObject)}
    (all : List.Forall₂ (HostObject.EntryLike likeness) entries others) :
    HostObject.entriesMapRefs likeness.view entries =
        HostObject.entriesMapRefs likeness.view others ∧
      ∀ scope ∈ HostObject.entryCaptures entries, likeness.scope scope := by
  match entries with
  | [] =>
      cases all
      exact ⟨rfl, List.forall_mem_nil _⟩
  | (key, object) :: rest =>
      cases all with
      | cons first all =>
          obtain ⟨keys, objects⟩ := first
          obtain ⟨sameKey, insideKey⟩ := HostObject.Like.mapRefs_eq keys
          obtain ⟨same, inside⟩ := HostObject.Like.mapRefs_eq objects
          obtain ⟨sameRest, insideRest⟩ := HostObject.Like.entriesMapRefs_eq all
          refine ⟨congrArg₂ List.cons (congrArg₂ Prod.mk sameKey same) sameRest, ?_⟩
          exact List.forall_mem_append.mpr
            ⟨List.forall_mem_append.mpr ⟨insideKey, inside⟩, insideRest⟩
termination_by structural entries

end

mutual

theorem Value.like_of_mapRefs (value : Value) {other : Value}
    (same : value.mapRefs likeness.view = other.mapRefs likeness.view)
    (inside : ∀ scope ∈ value.captures, likeness.scope scope) : value.Like likeness other := by
  match value with
  | .identifier name =>
      cases other with
      | identifier twin => exact .identifier (Identifier.like_iff.mpr (Value.identifier.inj same))
      | _ => cases same
  | .integer number ref =>
      cases other with
      | integer twin place =>
          obtain ⟨rfl, refs⟩ := Value.integer.inj same
          exact .integer number refs
      | _ => cases same
  | .float number ref =>
      cases other with
      | float twin place =>
          obtain ⟨rfl, refs⟩ := Value.float.inj same
          exact .float number refs
      | _ => cases same
  | .string text ref =>
      cases other with
      | string twin place =>
          obtain ⟨rfl, refs⟩ := Value.string.inj same
          exact .string text refs
      | _ => cases same
  | .boolean truth ref =>
      cases other with
      | boolean twin place =>
          obtain ⟨rfl, refs⟩ := Value.boolean.inj same
          exact .boolean truth refs
      | _ => cases same
  | .list items ref =>
      cases other with
      | list twins place =>
          obtain ⟨all, refs⟩ := Value.list.inj same
          exact .list (Value.allLike_of_mapRefs items all inside) refs
      | _ => cases same
  | .closure name parameters body scope ref =>
      cases other with
      | closure twin names code captured place =>
          obtain ⟨rfl, names, all, rfl, refs⟩ := Value.closure.inj same
          obtain ⟨there, within⟩ := List.forall_mem_cons.mp inside
          exact .closure name (Identifier.allLike_iff.mpr names)
            (Value.allLike_of_mapRefs body all within) there refs
      | _ => cases same
  | .nil =>
      cases other with
      | nil => exact .nil
      | _ => cases same
  | .function host =>
      cases other with
      | function twin => exact Value.function.inj same ▸ .function host
      | _ => cases same
  | .form special =>
      cases other with
      | form twin => exact Value.form.inj same ▸ .form special
      | _ => cases same
  | .foreign object ref =>
      cases other with
      | foreign twin place =>
          obtain ⟨objects, refs⟩ := Value.foreign.inj same
          exact .foreign (HostObject.like_of_mapRefs object objects inside) refs
      | _ => cases same
termination_by structural value

theorem Value.allLike_of_mapRefs (values : List Value) {others : List Value}
    (same : Value.allMapRefs likeness.view values = Value.allMapRefs likeness.view others)
    (inside : ∀ scope ∈ Value.allCaptures values, likeness.scope scope) :
    List.Forall₂ (Value.Like likeness) values others := by
  match values, others with
  | [], [] => exact .nil
  | [], _ :: _ | _ :: _, [] => cases same
  | value :: rest, other :: others =>
      obtain ⟨first, all⟩ := List.cons.inj same
      obtain ⟨here, behind⟩ := List.forall_mem_append.mp inside
      exact .cons (Value.like_of_mapRefs value first here) (Value.allLike_of_mapRefs rest all behind)
termination_by structural values

theorem HostObject.like_of_mapRefs (object : HostObject) {other : HostObject}
    (same : object.mapRefs likeness.view = other.mapRefs likeness.view)
    (inside : ∀ scope ∈ object.captures, likeness.scope scope) : object.Like likeness other := by
  match object with
  | .nothing =>
      cases other with
      | nothing => exact .nothing
      | _ => cases same
  | .boolean truth =>
      cases other with
      | boolean twin => exact HostObject.boolean.inj same ▸ .boolean truth
      | _ => cases same
  | .integer number =>
      cases other with
      | integer twin => exact HostObject.integer.inj same ▸ .integer number
      | _ => cases same
  | .float number =>
      cases other with
      | float twin => exact HostObject.float.inj same ▸ .float number
      | _ => cases same
  | .text content =>
      cases other with
      | text twin => exact HostObject.text.inj same ▸ .text content
      | _ => cases same
  | .list items =>
      cases other with
      | list twins =>
          exact .list (HostObject.allLike_of_mapRefs items (HostObject.list.inj same) inside)
      | _ => cases same
  | .tuple items =>
      cases other with
      | tuple twins =>
          exact .tuple (HostObject.allLike_of_mapRefs items (HostObject.tuple.inj same) inside)
      | _ => cases same
  | .dictionary entries =>
      cases other with
      | dictionary twins =>
          exact .dictionary
            (HostObject.entriesLike_of_mapRefs entries (HostObject.dictionary.inj same) inside)
      | _ => cases same
  | .value inner =>
      cases other with
      | value twin => exact .value (Value.like_of_mapRefs inner (HostObject.value.inj same) inside)
      | _ => cases same
termination_by structural object

theorem HostObject.allLike_of_mapRefs (objects : List HostObject) {others : List HostObject}
    (same : HostObject.allMapRefs likeness.view objects =
      HostObject.allMapRefs likeness.view others)
    (inside : ∀ scope ∈ HostObject.allCaptures objects, likeness.scope scope) :
    List.Forall₂ (HostObject.Like likeness) objects others := by
  match objects, others with
  | [], [] => exact .nil
  | [], _ :: _ | _ :: _, [] => cases same
  | object :: rest, other :: others =>
      obtain ⟨first, all⟩ := List.cons.inj same
      obtain ⟨here, behind⟩ := List.forall_mem_append.mp inside
      exact .cons (HostObject.like_of_mapRefs object first here)
        (HostObject.allLike_of_mapRefs rest all behind)
termination_by structural objects

theorem HostObject.entriesLike_of_mapRefs (entries : List (HostObject × HostObject))
    {others : List (HostObject × HostObject)}
    (same : HostObject.entriesMapRefs likeness.view entries =
      HostObject.entriesMapRefs likeness.view others)
    (inside : ∀ scope ∈ HostObject.entryCaptures entries, likeness.scope scope) :
    List.Forall₂ (HostObject.EntryLike likeness) entries others := by
  match entries, others with
  | [], [] => exact .nil
  | [], _ :: _ | _ :: _, [] => cases same
  | (key, object) :: rest, (otherKey, other) :: others =>
      obtain ⟨first, all⟩ := List.cons.inj same
      obtain ⟨here, behind⟩ := List.forall_mem_append.mp inside
      obtain ⟨inKey, inObject⟩ := List.forall_mem_append.mp here
      obtain ⟨keys, objects⟩ := Prod.mk.inj first
      exact .cons (.entry (HostObject.like_of_mapRefs key keys inKey)
        (HostObject.like_of_mapRefs object objects inObject))
        (HostObject.entriesLike_of_mapRefs rest all behind)
termination_by structural entries

end

/-- Values are alike if they look the same and capture no other scopes. -/
theorem Value.like_iff (likeness : Likeness) (value other : Value) :
    value.Like likeness other ↔ value.mapRefs likeness.view = other.mapRefs likeness.view ∧
      ∀ scope ∈ value.captures, likeness.scope scope :=
  ⟨Value.Like.mapRefs_eq, fun same => Value.like_of_mapRefs value same.1 same.2⟩

theorem Value.like_self {value : Value} (inside : ∀ scope ∈ value.captures, likeness.scope scope) :
    value.Like likeness value :=
  (Value.like_iff likeness value value).mpr ⟨rfl, inside⟩

end Lisplet
