import Lisplet.Proofs.Contents
import Lisplet.Proofs.Likeness.Written

/-!
Host functions cannot tell apart what is alike: from arguments that are alike they give results that
are alike, or failures that differ in places only, and they print the same.
-/

namespace Lisplet

/-! ### Failures and outcomes -/

def Fault.mapRefs (change : Option Ref → Option Ref) : Fault → Fault
  | .panic payload => .panic (payload.mapRefs change)
  | .notCallable function found => .notCallable function (found.mapRefs change)
  | .keyMissing key => .keyMissing (key.mapRefs change)
  | fault => fault

def Cause.mapRefs (change : Option Ref → Option Ref) : Cause → Cause
  | .notCallable head => .notCallable (head.mapRefs change)
  | cause => cause

/-- The failure with the places of its error and in its expressions changed. Issues of reading stem
from texts and keep theirs. -/
def Failure.mapRefs (change : Option Ref → Option Ref) : Failure → Failure
  | .error inner =>
    .error ⟨inner.cause.mapRefs change, change inner.ref, inner.passed.map (Value.mapRefs change)⟩
  | .unreadable issues => .unreadable issues
  | .issue found => .issue found
  | .fault raised passed => .fault (raised.mapRefs change) (passed.map (Value.mapRefs change))
  | .panic raised stack => .panic (raised.mapRefs change) (stack.map (Value.mapRefs change))

theorem Failure.mapRefs_through (change : Option Ref → Option Ref) (frame : Value)
    (failure : Failure) :
    (failure.through frame).mapRefs change =
      (failure.mapRefs change).through (frame.mapRefs change) := by
  cases failure <;> rfl

/-- Both succeed and the results are related, or both fail in the same way. -/
inductive Likeness.Outcome (likeness : Likeness) {α : Type} (results : α → α → Prop) :
    Except Failure α → Except Failure α → Prop
  | ok {result other : α} : results result other → Outcome likeness results (.ok result) (.ok other)
  | error {failure other : Failure} :
      failure.mapRefs likeness.view = other.mapRefs likeness.view →
      Outcome likeness results (.error failure) (.error other)

variable {change : Option Ref → Option Ref} {likeness : Likeness} {α β : Type}

namespace Likeness.Outcome

theorem bind {outcome other : Except Failure α} {next following : α → Except Failure β}
    {results : α → α → Prop} {final : β → β → Prop}
    (first : likeness.Outcome results outcome other)
    (continues : ∀ result twin, results result twin →
      likeness.Outcome final (next result) (following twin)) :
    likeness.Outcome final (outcome >>= next) (other >>= following) := by
  cases first with
  | ok related => exact continues _ _ related
  | error same => exact .error same

theorem of_eq {outcome other : Except Failure α} {results : α → α → Prop} (same : outcome = other)
    (reflexive : Results (fun result => results result result) outcome) :
    likeness.Outcome results outcome other := by
  subst same
  cases outcome with
  | ok result => exact .ok (reflexive result rfl)
  | error failure => exact .error rfl

theorem refl (outcome : Except Failure α) : likeness.Outcome Eq outcome outcome :=
  .of_eq rfl fun _ _ => rfl

theorem foldlM {ι : Type} {step : α → ι → Except Failure α} {results : α → α → Prop}
    (steps : ∀ state twin item, results state twin →
      likeness.Outcome results (step state item) (step twin item))
    (items : List ι) {state twin : α} (related : results state twin) :
    likeness.Outcome results (items.foldlM step state) (items.foldlM step twin) := by
  induction items generalizing state twin with
  | nil => exact .ok related
  | cons item items ih =>
      rw [List.foldlM_cons, List.foldlM_cons]
      exact (steps state twin item related).bind fun later other kept => ih kept

end Likeness.Outcome

/-! ### What is captured -/

/-- Contents whose closures capture scopes of a kind only. -/
def Contents.capturing (scope : ScopeId → Prop) : Contents :=
  .ofAnywhere (fun value => ∀ captured ∈ value.captures, scope captured)
    fun object => ∀ captured ∈ object.captures, scope captured

theorem Value.forall_allCaptures {scope : ScopeId → Prop} {values : List Value} :
    (∀ captured ∈ Value.allCaptures values, scope captured) ↔
      ∀ value ∈ values, ∀ captured ∈ value.captures, scope captured := by
  induction values with
  | nil => simp [Value.allCaptures]
  | cons value rest ih => rw [Value.allCaptures, List.forall_mem_append, List.forall_mem_cons, ih]

theorem HostObject.forall_allCaptures {scope : ScopeId → Prop} {objects : List HostObject} :
    (∀ captured ∈ HostObject.allCaptures objects, scope captured) ↔
      ∀ object ∈ objects, ∀ captured ∈ object.captures, scope captured := by
  induction objects with
  | nil => simp [HostObject.allCaptures]
  | cons object rest ih =>
      rw [HostObject.allCaptures, List.forall_mem_append, List.forall_mem_cons, ih]

theorem HostObject.forall_entryCaptures {scope : ScopeId → Prop}
    {entries : List (HostObject × HostObject)} :
    (∀ captured ∈ HostObject.entryCaptures entries, scope captured) ↔
      ∀ entry ∈ entries, (∀ captured ∈ entry.1.captures, scope captured) ∧
        ∀ captured ∈ entry.2.captures, scope captured := by
  induction entries with
  | nil => simp [HostObject.entryCaptures]
  | cons entry rest ih =>
      rw [HostObject.entryCaptures, List.forall_mem_append, List.forall_mem_append,
        List.forall_mem_cons, ih]

theorem Value.Plain.capturing (scope : ScopeId → Prop) {value : Value} (plain : value.Plain) :
    (Contents.capturing scope).value value := by
  induction plain with
  | identifier name => exact List.forall_mem_nil _
  | integer number ref => exact List.forall_mem_nil _
  | float number ref => exact List.forall_mem_nil _
  | string text ref => exact List.forall_mem_nil _
  | list ref plain ih => exact Value.forall_allCaptures.mpr ih

theorem Contents.capturing_lawful (scope : ScopeId → Prop) : (capturing scope).Lawful where
  toRaises := ofAnywhere_raises
  nil := List.forall_mem_nil _
  boolean _ := List.forall_mem_nil _
  integer _ := List.forall_mem_nil _
  float _ := List.forall_mem_nil _
  string _ := List.forall_mem_nil _
  list _ inside := Value.forall_allCaptures.mpr inside
  item _ _ inside := Value.forall_allCaptures.mp inside
  body _ _ _ _ _ inside := Value.forall_allCaptures.mp (List.forall_mem_cons.mp inside).2
  form _ := List.forall_mem_nil _
  function _ := iff_of_true (List.forall_mem_nil _) trivial
  wrap _ inside := inside
  unwrap _ _ inside := inside
  read _ _ _ reads root member := (Reader.read_plain reads root member).capturing scope
  nothing := List.forall_mem_nil _
  truth _ := List.forall_mem_nil _
  whole _ := List.forall_mem_nil _
  real _ := List.forall_mem_nil _
  text _ := List.forall_mem_nil _
  items _ := HostObject.forall_allCaptures
  tuple _ := HostObject.forall_allCaptures
  dictionary _ := HostObject.forall_entryCaptures
  inner _ := Iff.rfl
  builtin _ := trivial
  math _ := trivial
  sample _ _ := ofAnywhere_tolerant fun _ plain => plain.capturing scope

theorem HostObject.map_fst_entriesMapRefs (entries : List (HostObject × HostObject)) :
    (HostObject.entriesMapRefs change entries).map Prod.fst =
      (entries.map Prod.fst).map (HostObject.mapRefs change) := by
  induction entries with
  | nil => rfl
  | cons entry rest ih => exact congrArg (entry.1.mapRefs change :: ·) ih

@[simp]
theorem HostObject.length_entriesMapRefs (entries : List (HostObject × HostObject)) :
    (HostObject.entriesMapRefs change entries).length = entries.length := by
  rw [← List.length_map Prod.fst, map_fst_entriesMapRefs, List.length_map, List.length_map]

/-- Whoever does not see places takes alike objects for the same. -/
theorem HostObject.Like.seen {ω : Type} {look : HostObject → ω}
    (blind : ∀ object : HostObject, look (object.mapRefs likeness.view) = look object)
    {object other : HostObject} (like : object.Like likeness other) : look object = look other := by
  rw [← blind object, ← blind other, like.mapRefs_eq.1]

theorem HostObject.Like.map_mapRefs {objects others : List HostObject}
    (all : List.Forall₂ (HostObject.Like likeness) objects others) :
    objects.map (HostObject.mapRefs likeness.view) =
      others.map (HostObject.mapRefs likeness.view) := by
  rw [← HostObject.allMapRefs_eq_map, ← HostObject.allMapRefs_eq_map,
    (HostObject.Like.allMapRefs_eq all).1]

theorem HostObject.like_self {object : HostObject}
    (inside : (Contents.capturing likeness.scope).object object) : object.Like likeness object :=
  HostObject.like_of_mapRefs object rfl inside

theorem HostObject.like_of_eq {object other : HostObject} (same : object = other)
    (inside : (Contents.capturing likeness.scope).object object) : object.Like likeness other :=
  same ▸ HostObject.like_self inside

/-! ### Operators and functions -/

namespace Operands

theorem number_mapRefs (operator : Text) (argument : HostObject) :
    number operator (argument.mapRefs change) = number operator argument := by
  unfold number
  rw [HostNumber.ofObject_mapRefs, HostObject.typeName_mapRefs]

theorem read_mapRefs (operator : Text) (minimum : Nat) (arguments : List HostObject) :
    read operator minimum (arguments.map (HostObject.mapRefs change)) =
      read operator minimum arguments := by
  unfold read
  cases arguments with
  | nil => rfl
  | cons first rest => simp [number_mapRefs, Function.comp_def]

end Operands

theorem Arithmetic.run_mapRefs (operator : Arithmetic) (arguments : List HostObject) :
    operator.run (arguments.map (HostObject.mapRefs change)) = operator.run arguments := by
  unfold run
  rw [Operands.read_mapRefs]

namespace Comparison

theorem text_mapRefs (argument : HostObject) :
    Comparands.text? (argument.mapRefs change) = Comparands.text? argument := by
  cases argument <;> rfl

theorem run_mapRefs (comparison : Comparison) (arguments : List HostObject) :
    comparison.run (arguments.map (HostObject.mapRefs change)) = comparison.run arguments := by
  unfold run Comparands.read
  rw [Operands.read_mapRefs, List.length_map]
  simp [text_mapRefs, Function.comp_def]

end Comparison

theorem MathOperation.run_mapRefs (operation : MathOperation) (arguments : List HostObject) :
    operation.run (arguments.map (HostObject.mapRefs change)) = operation.run arguments := by
  have absolute (argument : HostObject) :
      runAbsolute (argument.mapRefs change) = runAbsolute argument := by
    cases argument with
    | value inner =>
        simp only [HostObject.mapRefs, runAbsolute, HostObject.kind, Value.hostKind_mapRefs]
    | _ => rfl
  cases operation <;> rcases arguments with _ | ⟨first, _ | ⟨second, _ | ⟨third, rest⟩⟩⟩ <;>
    simp only [List.map_cons, List.map_nil, run, HostObject.toReal_mapRefs,
      HostNumber.ofObject_mapRefs, HostObject.kind_mapRefs, absolute]

namespace Builtin

theorem run_mapRefs {operation : Builtin} (quiet : operation ≠ .panic)
    (arguments : List HostObject) :
    operation.run (arguments.map (HostObject.mapRefs change)) = operation.run arguments := by
  have name (inner : Value) : HostObject.typeName (.value (inner.mapRefs change)) =
      HostObject.typeName (.value inner) := HostObject.typeName_mapRefs change (.value inner)
  cases operation with
  | arithmetic operator => exact operator.run_mapRefs arguments
  | comparison operator => exact operator.run_mapRefs arguments
  | panic => exact absurd rfl quiet
  | print => rfl
  | format =>
      cases arguments with
      | nil => rfl
      | cons first rest =>
          cases first with
          | text content =>
              exact congrArg (fun outcome => Failure.orFault (outcome.map HostObject.text))
                (Format.run_mapRefs change content rest)
          | value inner => simp only [List.map_cons, HostObject.mapRefs, run, name]
          | _ => rfl
  | typeName =>
      rcases arguments with _ | ⟨first, _ | ⟨second, rest⟩⟩
      · rfl
      · simp only [List.map_cons, List.map_nil, run, HostObject.typeName_mapRefs]
      · rfl
  | not =>
      rcases arguments with _ | ⟨first, _ | ⟨second, rest⟩⟩
      · rfl
      · cases first with
        | value inner => simp only [List.map_cons, List.map_nil, HostObject.mapRefs, run, name]
        | _ => rfl
      · cases first <;> rfl
  | length =>
      rcases arguments with _ | ⟨first, _ | ⟨second, rest⟩⟩
      · rfl
      · cases first with
        | list items => simp [HostObject.mapRefs, run]
        | value inner => simp only [List.map_cons, List.map_nil, HostObject.mapRefs, run, name]
        | _ => rfl
      · cases first <;> rfl

theorem run_like (operation : Builtin) {arguments others : List HostObject}
    (all : List.Forall₂ (HostObject.Like likeness) arguments others) :
    likeness.Outcome (HostObject.Like likeness) (operation.run arguments)
      (operation.run others) := by
  have lawful := Contents.capturing_lawful likeness.scope
  -- Of all builtins only a panic hands on what it was given.
  by_cases quiet : operation = .panic
  · subst quiet
    rcases all with _ | ⟨like, _ | ⟨_, _⟩⟩
    · exact .error rfl
    · refine .error ?_
      simp only [Failure.ofFault, Failure.mapRefs, Fault.mapRefs, like.mapRefs_eq.1]
    · exact .error rfl
  · have same : operation.run arguments = operation.run others := by
      rw [← run_mapRefs quiet arguments, ← run_mapRefs quiet others, HostObject.Like.map_mapRefs all]
    exact .of_eq same fun result gives =>
      HostObject.like_self ((run_delivers lawful operation arguments).1 result gives)

end Builtin

/-! ### Samples -/

namespace Sample

theorem entryOf_like {entries others : List (HostObject × HostObject)} {key : HostObject}
    (blind : ∀ object : HostObject, (object.mapRefs likeness.view).equals key = object.equals key)
    (all : List.Forall₂ (HostObject.EntryLike likeness) entries others) :
    likeness.Outcome (HostObject.Like likeness) (Failure.orFault (entryOf entries key))
      (Failure.orFault (entryOf others key)) := by
  induction all with
  | nil => exact .error rfl
  | cons first rest ih =>
      obtain @⟨label, object, twinLabel, other, labels, objects⟩ := first
      have same : label.equals key = twinLabel.equals key := by
        rw [← blind label, ← blind twinLabel, labels.mapRefs_eq.1]
      unfold entryOf HostObject.lookUp? at ih ⊢
      rw [List.find?_cons, List.find?_cons, same]
      cases twinLabel.equals key with
      | true => exact .ok objects
      | false => exact ih

theorem firstOf_like (sequence : Text) {items others : List HostObject}
    (all : List.Forall₂ (HostObject.Like likeness) items others) :
    likeness.Outcome (HostObject.Like likeness) (Failure.orFault (firstOf sequence items))
      (Failure.orFault (firstOf sequence others)) := by
  cases all with
  | nil => exact .error rfl
  | cons first rest => exact .ok first

theorem runDouble_like {argument other : HostObject} (like : argument.Like likeness other) :
    likeness.Outcome (HostObject.Like likeness) (Failure.orFault (runDouble argument))
      (Failure.orFault (runDouble other)) := by
  have kind := like.seen HostObject.kind_mapRefs
  cases like with
  | boolean truth => exact .ok (.integer _)
  | integer number => exact .ok (.integer _)
  | float number => exact .ok (.float _)
  | text content => exact .ok (.text _)
  | list all => exact .ok (.list (List.rel_append all all))
  | tuple all => exact .ok (.tuple (List.rel_append all all))
  | nothing => exact .error rfl
  | dictionary all => exact .error rfl
  | value inner => exact .error (by simp only [kind])

theorem notSubscriptable_like {object other : HostObject} (same : object.kind = other.kind)
    {results : HostObject → HostObject → Prop} :
    likeness.Outcome results (Failure.orFault (.error (notSubscriptable object)))
      (Failure.orFault (.error (notSubscriptable other))) := by
  unfold notSubscriptable
  rw [same]
  exact .error rfl

theorem runLookUp_like {argument other : HostObject} (like : argument.Like likeness other) :
    likeness.Outcome (HostObject.Like likeness) (Failure.orFault (runLookUp argument))
      (Failure.orFault (runLookUp other)) := by
  have kind := like.seen HostObject.kind_mapRefs
  cases like with
  | dictionary all =>
      refine entryOf_like (fun object => ?_) all
      cases object <;> simp [HostObject.mapRefs, HostObject.equals]
  | list all => exact .error rfl
  | tuple all => exact .error rfl
  | text content => exact .error rfl
  | value inner =>
      cases inner with
      | list all refs => exact .error rfl
      | _ => exact notSubscriptable_like kind
  | _ => exact notSubscriptable_like kind

theorem runFirst_like {argument other : HostObject} (like : argument.Like likeness other) :
    likeness.Outcome (HostObject.Like likeness) (Failure.orFault (runFirst argument))
      (Failure.orFault (runFirst other)) := by
  have kind := like.seen HostObject.kind_mapRefs
  cases like with
  | dictionary all =>
      refine entryOf_like (fun object => ?_) all
      cases object <;> simp [HostObject.mapRefs, HostObject.equals]
  | list all => exact firstOf_like "list" all
  | tuple all => exact firstOf_like "tuple" all
  | text content =>
      refine firstOf_like "string" (List.forall₂_map_left_iff.mpr (List.forall₂_map_right_iff.mpr ?_))
      exact List.forall₂_same.mpr fun point _ => .text [point]
  | value inner =>
      cases inner with
      | list all refs => exact firstOf_like "tuple" (List.rel_map (fun _ _ like => .value like) all)
      | _ => exact notSubscriptable_like kind
  | _ => exact notSubscriptable_like kind

theorem runLength_mapRefs (argument : HostObject) :
    runLength (argument.mapRefs change) = runLength argument := by
  cases argument with
  | list items | tuple items => simp [HostObject.mapRefs, runLength]
  | dictionary entries => simp [HostObject.mapRefs, runLength]
  | value inner =>
      cases inner with
      | list items ref => simp [HostObject.mapRefs, Value.mapRefs, runLength]
      | _ => rfl
  | _ => rfl

theorem pieces_mapRefs (items : List HostObject) :
    pieces (items.map (HostObject.mapRefs change)) = pieces items := by
  induction items with
  | nil => rfl
  | cons object rest ih =>
      cases object with
      | text content => simp only [List.map_cons, HostObject.mapRefs, pieces, ih]
      | value inner =>
          simp only [List.map_cons, HostObject.mapRefs, pieces, HostObject.kind,
            Value.hostKind_mapRefs]
      | _ => rfl

theorem programPieces_mapRefs (argument : HostObject) :
    programPieces (argument.mapRefs change) = programPieces argument := by
  cases argument with
  | list items | tuple items =>
      simp only [HostObject.mapRefs, HostObject.allMapRefs_eq_map, programPieces, pieces_mapRefs]
  | dictionary entries =>
      simp only [HostObject.mapRefs, programPieces, HostObject.map_fst_entriesMapRefs,
        pieces_mapRefs]
  | value inner =>
      cases inner with
      | list items ref =>
          have wrapped : (items.map (Value.mapRefs change)).map HostObject.value =
              (items.map HostObject.value).map (HostObject.mapRefs change) := by
            rw [List.map_map, List.map_map]
            rfl
          simp only [HostObject.mapRefs, Value.mapRefs, Value.allMapRefs_eq_map, programPieces,
            wrapped, pieces_mapRefs]
      | _ => rfl
  | _ => rfl

theorem runRead_mapRefs (argument : HostObject) :
    runRead (argument.mapRefs change) = runRead argument := by
  unfold runRead
  rw [programPieces_mapRefs]

theorem run_like (sample : Sample) {arguments others : List HostObject}
    (all : List.Forall₂ (HostObject.Like likeness) arguments others) :
    likeness.Outcome (HostObject.Like likeness) (sample.run arguments) (sample.run others) := by
  have lawful := Contents.capturing_lawful likeness.scope
  have counts := congrArg (fun count : Nat => HostObject.integer count) all.length_eq
  rcases all with _ | ⟨first, _ | ⟨second, _ | ⟨third, rest⟩⟩⟩
  · cases sample with
    | nothing | oversized | nested | dictionary | twoResults | noResults | oneElement =>
        exact .ok (HostObject.like_self (List.forall_mem_nil _))
    | count => exact .ok (.integer 0)
    | _ => exact .error rfl
  · cases sample with
    | identity => exact .ok first
    | pairWithDefault => exact .ok (.list (.cons first (.cons (.integer 7) .nil)))
    | firstAndRest => exact .ok (.list (.cons first (.cons (.list .nil) .nil)))
    | withKeyword => exact .ok (.list (.cons first (.cons (.integer 3) .nil)))
    | count => exact .ok (.integer 1)
    | kindName =>
        have same := congrArg HostObject.text (first.seen HostObject.kind_mapRefs)
        exact .ok (HostObject.like_of_eq same (List.forall_mem_nil _))
    | debugForm =>
        have same := congrArg HostObject.text (first.seen (HostObject.debug_mapRefs _))
        exact .ok (HostObject.like_of_eq same (List.forall_mem_nil _))
    | double => exact runDouble_like first
    | lookUp => exact runLookUp_like first
    | first => exact runFirst_like first
    | length =>
        refine .of_eq (congrArg Failure.orFault (first.seen runLength_mapRefs)) ?_
        exact fun result gives => HostObject.like_self
          ((Delivers.orFault lawful (runLength_results lawful _)).1 result gives)
    | read =>
        refine .of_eq (first.seen runRead_mapRefs) fun result gives => ?_
        have tolerant := lawful.sample .read trivial
        exact HostObject.like_self ((runRead_delivers lawful tolerant _).1 result gives)
    | _ => exact .error rfl
  · cases sample with
    | pair | pairWithDefault => exact .ok (.list (.cons first (.cons second .nil)))
    | firstAndRest => exact .ok (.list (.cons first (.cons (.list (.cons second .nil)) .nil)))
    | count => exact .ok (.integer 2)
    | _ => exact .error rfl
  · cases sample with
    | firstAndRest =>
        exact .ok (.list (.cons first (.cons (.list (.cons second (.cons third rest))) .nil)))
    | count => exact .ok (HostObject.like_of_eq counts (List.forall_mem_nil _))
    | _ => exact .error rfl

end Sample

theorem Operation.run_like (operation : Operation) {arguments others : List HostObject}
    (all : List.Forall₂ (HostObject.Like likeness) arguments others) :
    likeness.Outcome (HostObject.Like likeness) (operation.run arguments)
      (operation.run others) := by
  have lawful := Contents.capturing_lawful likeness.scope
  cases operation with
  | builtin operation => exact operation.run_like all
  | sample operation => exact operation.run_like all
  | math operation =>
      have same : operation.run arguments = operation.run others := by
        rw [← operation.run_mapRefs arguments, ← operation.run_mapRefs others,
          HostObject.Like.map_mapRefs all]
      refine .of_eq (congrArg Failure.orFault same) fun result gives => ?_
      exact HostObject.like_self
        ((Delivers.orFault lawful (MathOperation.run_results lawful operation arguments)).1 result
          gives)

theorem Operation.printed_like (operation : Operation) {arguments others : List HostObject}
    (all : List.Forall₂ (HostObject.Like likeness) arguments others) :
    operation.printed arguments = operation.printed others := by
  have display (object : HostObject) :
      Builtin.display (object.mapRefs likeness.view) = Builtin.display object := by
    cases object with
    | value inner =>
        cases inner with
        | string text ref => rfl
        | _ => exact HostObject.render_mapRefs likeness.view (.value _)
    | list items => exact HostObject.render_mapRefs likeness.view (.list items)
    | tuple items => exact HostObject.render_mapRefs likeness.view (.tuple items)
    | dictionary entries => exact HostObject.render_mapRefs likeness.view (.dictionary entries)
    | _ => rfl
  have shown : arguments.map Builtin.display = others.map Builtin.display := by
    induction all with
    | nil => rfl
    | cons first rest ih => exact congrArg₂ List.cons (first.seen display) ih
  cases operation with
  | builtin operation =>
      cases operation with
      | print => exact congrArg (fun pieces => Text.join " " pieces ++ "\n") shown
      | _ => rfl
  | math operation | sample operation => rfl

/-! ### Adapters -/

theorem HostObject.Like.set {arguments others : List HostObject} {object other : HostObject}
    (all : List.Forall₂ (HostObject.Like likeness) arguments others)
    (like : object.Like likeness other) (index : Nat) :
    List.Forall₂ (HostObject.Like likeness) (arguments.set index object)
      (others.set index other) := by
  induction all generalizing index with
  | nil => exact .nil
  | cons first rest ih =>
      cases index with
      | zero => exact .cons like rest
      | succ index => exact .cons first (ih index)

namespace Adapter

theorem index_cast {count other : Nat} (same : count = other) (place : Int) :
    index place other = (index place count).map (Fin.cast same) := by
  subst same
  cases index place count <;> rfl

theorem convert_like (place : Int) {conversion : HostNumber → Except Fault HostObject}
    (plain : ∀ number result, conversion number = .ok result → result.captures = [])
    {arguments others : List HostObject}
    (all : List.Forall₂ (HostObject.Like likeness) arguments others) :
    likeness.Outcome (List.Forall₂ (HostObject.Like likeness)) (convert place conversion arguments)
      (convert place conversion others) := by
  unfold convert
  rw [index_cast all.length_eq place]
  cases index place arguments.length with
  | error failure => exact .error rfl
  | ok index =>
      have like : arguments[index].Like likeness others[Fin.cast all.length_eq index] :=
        all.get index.isLt (Fin.cast all.length_eq index).isLt
      have number := like.seen (HostNumber.ofObject_mapRefs likeness.view)
      have name := like.seen (HostObject.typeName_mapRefs likeness.view)
      simp only [Except.map, Bind.bind, Except.bind]
      rw [number, name]
      cases HostNumber.ofObject? others[Fin.cast all.length_eq index] with
      | none => exact .error rfl
      | some number =>
          dsimp only
          cases converts : conversion number with
          | error fault => exact .error rfl
          | ok converted =>
              have inside : (Contents.capturing likeness.scope).object converted := by
                intro captured member
                rw [plain number converted converts] at member
                cases member
              exact .ok (HostObject.Like.set all (HostObject.like_self inside) index)

theorem apply_like (adapter : Adapter) {arguments others : List HostObject}
    (all : List.Forall₂ (HostObject.Like likeness) arguments others) :
    likeness.Outcome (List.Forall₂ (HostObject.Like likeness)) (adapter.apply arguments)
      (adapter.apply others) := by
  cases adapter with
  | arity count =>
      rw [apply, apply, all.length_eq]
      split
      · exact .ok all
      · exact .error rfl
  | toFloat place =>
      refine convert_like place (fun number result converts => ?_) all
      cases float : number.toFloat <;> rw [float] at converts <;> cases converts
      rfl
  | toInteger place =>
      refine convert_like place (fun number result converts => ?_) all
      cases integer : number.toInteger <;> rw [integer] at converts <;> cases converts
      rfl

end Adapter

/-! ### Host functions -/

mutual

theorem Value.Like.toHost {value other : Value} (like : value.Like likeness other) :
    value.toHost.Like likeness other.toHost := by
  match value with
  | .list items ref =>
      cases like with
      | list all refs => exact .list (Value.Like.allToHost all)
  | .integer _ _ => cases like; exact .integer _
  | .float _ _ => cases like; exact .float _
  | .string _ _ => cases like; exact .text _
  | .boolean _ _ => cases like; exact .boolean _
  | .nil => cases like; exact .nothing
  | .foreign object ref =>
      cases like with
      | foreign objects refs => exact objects
  | .identifier name =>
      cases like with
      | identifier names => exact .value (.identifier names)
  | .closure name parameters body scope ref =>
      cases like with
      | closure _ names all there refs => exact .value (.closure name names all there refs)
  | .function host => cases like; exact .value (.function host)
  | .form special => cases like; exact .value (.form special)

theorem Value.Like.allToHost {values others : List Value}
    (all : List.Forall₂ (Value.Like likeness) values others) :
    List.Forall₂ (HostObject.Like likeness) (Value.allToHost values) (Value.allToHost others) := by
  match values with
  | [] => cases all; exact .nil
  | value :: rest =>
      cases all with
      | cons like all => exact .cons (Value.Like.toHost like) (Value.Like.allToHost all)

end

mutual

theorem HostObject.Like.ofHost {object other : HostObject} (like : object.Like likeness other) :
    (Value.ofHost object).Like likeness (Value.ofHost other) := by
  match object with
  | .nothing => cases like; exact .nil
  | .boolean truth => cases like; exact .boolean truth rfl
  | .integer number => cases like; exact .integer _ rfl
  | .float number => cases like; exact .float number rfl
  | .text content => cases like; exact .string content rfl
  | .list items =>
      cases like with
      | list all => exact .list (HostObject.Like.allOfHost all) rfl
  | .tuple items =>
      cases like with
      | tuple all => exact .foreign (.tuple all) rfl
  | .dictionary entries =>
      cases like with
      | dictionary all => exact .foreign (.dictionary all) rfl
  | .value inner =>
      cases like with
      | value like => exact like

theorem HostObject.Like.allOfHost {objects others : List HostObject}
    (all : List.Forall₂ (HostObject.Like likeness) objects others) :
    List.Forall₂ (Value.Like likeness) (Value.allOfHost objects) (Value.allOfHost others) := by
  match objects with
  | [] => cases all; exact .nil
  | object :: rest =>
      cases all with
      | cons like all => exact .cons (HostObject.Like.ofHost like) (HostObject.Like.allOfHost all)

end

namespace HostFunction

theorem adapted_like (host : HostFunction) {arguments others : List Value}
    (all : List.Forall₂ (Value.Like likeness) arguments others) :
    likeness.Outcome (List.Forall₂ (HostObject.Like likeness)) (host.adapted arguments)
      (host.adapted others) := by
  have handed : List.Forall₂ (HostObject.Like likeness) (host.handOver arguments)
      (host.handOver others) := by
    unfold handOver
    split
    · exact List.rel_map (fun _ _ like => Value.Like.toHost like) all
    · exact List.rel_map (fun _ _ like => .value like) all
  have adapts := Likeness.Outcome.foldlM
    (fun _ _ adapter related => Adapter.apply_like adapter related) host.adapters handed
  refine adapts.bind fun objects twins related => ?_
  have binds : host.bind objects = host.bind twins := by
    unfold bind
    rw [related.length_eq]
  rw [binds]
  cases host.bind twins with
  | error failure => exact .error rfl
  | ok _ => exact .ok related

theorem accept_like (host : HostFunction) {object other : HostObject}
    (like : object.Like likeness other) :
    likeness.Outcome (Value.Like likeness) (host.accept object) (host.accept other) := by
  cases like with
  | tuple all =>
      simp only [accept, all.length_eq]
      exact .error rfl
  | nothing => exact .ok .nil
  | boolean truth => exact .ok (.boolean truth rfl)
  | integer number => exact .ok (.integer _ rfl)
  | float number => exact .ok (.float number rfl)
  | text content => exact .ok (.string content rfl)
  | list all => exact .ok (HostObject.Like.ofHost (.list all))
  | dictionary all => exact .ok (HostObject.Like.ofHost (.dictionary all))
  | value like => exact .ok like

end HostFunction

end Lisplet
