import Lisplet.Proofs.Likeness.Values

/-!
Values that cross to the host and back. They keep everything but the places of their data, while
identifiers and callables come back as they are. The other way round, data of the host come back with
their integers wrapped.
-/

namespace Lisplet

mutual

/-- What is foreign in the value, at any depth of lists, has no counterpart in the language. -/
def Value.Crosses : Value → Prop
  | .foreign object _ => Value.ofHost object = .foreign object none
  | .list items _ => Value.AllCross items
  | .identifier _ | .integer _ _ | .float _ _ | .string _ _ | .boolean _ _ | .nil
  | .closure _ _ _ _ _ | .function _ | .form _ => True

def Value.AllCross : List Value → Prop
  | [] => True
  | value :: rest => value.Crosses ∧ Value.AllCross rest

end

mutual

/-- The value with the places of its data gone. Identifiers and callables keep theirs. -/
def Value.returned : Value → Value
  | .integer number _ => .integer number none
  | .float number _ => .float number none
  | .string text _ => .string text none
  | .boolean truth _ => .boolean truth none
  | .list items _ => .list (Value.allReturned items) none
  | .foreign object _ => .foreign object none
  | .nil => .nil
  | .identifier name => .identifier name
  | .closure name parameters body scope ref => .closure name parameters body scope ref
  | .function host => .function host
  | .form special => .form special

def Value.allReturned : List Value → List Value
  | [] => []
  | value :: rest => value.returned :: Value.allReturned rest

end

mutual

/-- Is the object made of nothing, truth values, numbers, texts and lists? -/
def HostObject.isData : HostObject → Bool
  | .nothing | .boolean _ | .integer _ | .float _ | .text _ => true
  | .list items => HostObject.allData items
  | .tuple _ | .dictionary _ | .value _ => false

def HostObject.allData : List HostObject → Bool
  | [] => true
  | object :: rest => object.isData && HostObject.allData rest

end

mutual

/-- The object with the integers in its lists wrapped. -/
def HostObject.wrapped : HostObject → HostObject
  | .integer number => .integer (Integer64.wrap number)
  | .list items => .list (HostObject.allWrapped items)
  | .nothing => .nothing
  | .boolean truth => .boolean truth
  | .float number => .float number
  | .text content => .text content
  | .tuple items => .tuple items
  | .dictionary entries => .dictionary entries
  | .value inner => .value inner

def HostObject.allWrapped : List HostObject → List HostObject
  | [] => []
  | object :: rest => object.wrapped :: HostObject.allWrapped rest

end

mutual

theorem Value.ofHost_toHost (value : Value) (crosses : value.Crosses) :
    Value.ofHost value.toHost = value.returned := by
  match value with
  | .integer number ref =>
      rw [Value.toHost, Value.ofHost, Int64.ofInt_toInt]
      rfl
  | .list items ref =>
      rw [Value.toHost, Value.ofHost, Value.allOfHost_allToHost items crosses]
      rfl
  | .foreign object ref => exact crosses
  | .float _ _ | .string _ _ | .boolean _ _ | .nil | .identifier _ | .closure _ _ _ _ _
  | .function _ | .form _ => rfl

theorem Value.allOfHost_allToHost (values : List Value) (cross : Value.AllCross values) :
    Value.allOfHost (Value.allToHost values) = Value.allReturned values := by
  match values with
  | [] => rfl
  | value :: rest =>
      rw [Value.allToHost, Value.allOfHost, Value.ofHost_toHost value cross.1,
        Value.allOfHost_allToHost rest cross.2]
      rfl

end

mutual

/-- Without any places nothing is lost. -/
theorem Value.mapRefs_returned (value : Value) :
    value.returned.mapRefs (fun _ => none) = value.mapRefs fun _ => none := by
  match value with
  | .list items ref =>
      rw [Value.returned, Value.mapRefs, Value.mapRefs, Value.allMapRefs_allReturned items]
  | .integer _ _ | .float _ _ | .string _ _ | .boolean _ _ | .nil | .identifier _
  | .closure _ _ _ _ _ | .function _ | .form _ | .foreign _ _ => rfl

theorem Value.allMapRefs_allReturned (values : List Value) :
    Value.allMapRefs (fun _ => none) (Value.allReturned values) =
      Value.allMapRefs (fun _ => none) values := by
  match values with
  | [] => rfl
  | value :: rest =>
      rw [Value.allReturned, Value.allMapRefs, Value.allMapRefs, Value.mapRefs_returned value,
        Value.allMapRefs_allReturned rest]

end

mutual

theorem HostObject.toHost_ofHost (object : HostObject) (data : object.isData = true) :
    (Value.ofHost object).toHost = object.wrapped := by
  match object with
  | .integer number =>
      rw [Value.ofHost, Value.toHost, Integer64.toInt_ofInt]
      rfl
  | .list items =>
      rw [Value.ofHost, Value.toHost, HostObject.allToHost_allOfHost items data]
      rfl
  | .nothing | .boolean _ | .float _ | .text _ => rfl

theorem HostObject.allToHost_allOfHost (objects : List HostObject)
    (data : HostObject.allData objects = true) :
    Value.allToHost (Value.allOfHost objects) = HostObject.allWrapped objects := by
  match objects with
  | [] => rfl
  | object :: rest =>
      obtain ⟨first, others⟩ := (Bool.and_eq_true _ _).mp data
      rw [Value.allOfHost, Value.allToHost, HostObject.toHost_ofHost object first,
        HostObject.allToHost_allOfHost rest others]
      rfl

end

/-- A value that goes to the host and back is the same value without the places of its data, if what
is foreign in it has no counterpart. Data of the host that come to the language and back are the same
data with their integers wrapped. -/
theorem Value.crossing_returns :
    (∀ value : Value, value.Crosses →
      Value.ofHost value.toHost = value.returned ∧
        value.returned.mapRefs (fun _ => none) = value.mapRefs fun _ => none) ∧
    ∀ object : HostObject, object.isData = true →
      (Value.ofHost object).toHost = object.wrapped :=
  ⟨fun value crosses => ⟨value.ofHost_toHost crosses, value.mapRefs_returned⟩,
    HostObject.toHost_ofHost⟩

/-- An identifier among data keeps its place, and a truth value stays one beside an integer that
wraps. -/
theorem Value.crossing_returns_mixed :
    let place : Option Ref := some ⟨none, 4, 2⟩
    Value.ofHost (Value.toHost (.list [.integer 5 place, .identifier ⟨"a", place⟩,
        .list [.float (0.0 / 0.0) place, .nil] place, .foreign (.tuple [.nothing]) place] place)) =
      .list [.integer 5 none, .identifier ⟨"a", place⟩, .list [.float (0.0 / 0.0) none, .nil] none,
        .foreign (.tuple [.nothing]) none] none ∧
    (Value.ofHost (.list [.boolean true, .integer 0x10000000000000005, .list []])).toHost =
      .list [.boolean true, .integer 5, .list []] := by
  refine ⟨(crossing_returns.1 _ ?_).1, crossing_returns.2 _ rfl⟩
  exact ⟨trivial, trivial, ⟨trivial, trivial, trivial⟩, rfl, trivial⟩

end Lisplet
