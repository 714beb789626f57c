import Lisplet.Format
import Lisplet.Proofs.Likeness.Values

/-!
What hosts see and write of values says nothing of places: kinds, written forms and numbers stay the
same when places change, and so does the text that a format gives.
-/

namespace Lisplet

variable {change : Option Ref → Option Ref} {likeness : Likeness}

/-! ### Kinds and written forms -/

@[simp]
theorem Value.allMapRefs_eq_map (change : Option Ref → Option Ref) (values : List Value) :
    Value.allMapRefs change values = values.map (Value.mapRefs change) := by
  induction values with
  | nil => rfl
  | cons value rest ih => rw [Value.allMapRefs, ih, List.map_cons]

@[simp]
theorem HostObject.allMapRefs_eq_map (change : Option Ref → Option Ref)
    (objects : List HostObject) :
    HostObject.allMapRefs change objects = objects.map (HostObject.mapRefs change) := by
  induction objects with
  | nil => rfl
  | cons object rest ih => rw [HostObject.allMapRefs, ih, List.map_cons]

@[simp]
theorem Value.hostKind_mapRefs (value : Value) :
    (value.mapRefs change).hostKind = value.hostKind := by
  cases value <;> rfl

@[simp]
theorem HostObject.kind_mapRefs (object : HostObject) :
    (object.mapRefs change).kind = object.kind := by
  cases object with
  | value inner => exact inner.hostKind_mapRefs
  | _ => rfl

@[simp]
theorem Value.typeName_mapRefs (value : Value) :
    (value.mapRefs change).typeName = value.typeName := by
  cases value with
  | foreign object ref => exact congrArg (_ ++ ·) object.kind_mapRefs
  | _ => rfl

theorem HostObject.typeName_mapRefs (change : Option Ref → Option Ref) (object : HostObject) :
    (object.mapRefs change).typeName = object.typeName := by
  cases object with
  | value inner => exact inner.typeName_mapRefs
  | _ => rfl

mutual

theorem Value.debug_mapRefs (change : Option Ref → Option Ref) (value : Value) :
    (value.mapRefs change).debug = value.debug := by
  match value with
  | .list items ref =>
      rw [Value.mapRefs, Value.debug, Value.debugAll_mapRefs, Value.debug]
  | .closure name parameters body scope ref =>
      rw [Value.mapRefs, Value.debug, List.length_map, Value.debug]
  | .foreign object ref =>
      rw [Value.mapRefs, Value.debug, HostObject.debug_mapRefs, Value.debug]
  | .identifier _ | .integer _ _ | .float _ _ | .string _ _ | .boolean _ _ | .nil | .function _
  | .form _ => rfl

theorem Value.debugAll_mapRefs (change : Option Ref → Option Ref) (values : List Value) :
    Value.debugAll (Value.allMapRefs change values) = Value.debugAll values := by
  match values with
  | [] => rfl
  | value :: rest =>
      exact congrArg₂ List.cons (Value.debug_mapRefs change value)
        (Value.debugAll_mapRefs change rest)

theorem HostObject.debug_mapRefs (change : Option Ref → Option Ref) (object : HostObject) :
    (object.mapRefs change).debug = object.debug := by
  match object with
  | .list items =>
      rw [HostObject.mapRefs, HostObject.debug, HostObject.debugAll_mapRefs, HostObject.debug]
  | .tuple items =>
      rw [HostObject.mapRefs, HostObject.debug, HostObject.debugAll_mapRefs, HostObject.debug]
  | .dictionary entries =>
      rw [HostObject.mapRefs, HostObject.debug, HostObject.debugEntries_mapRefs, HostObject.debug]
  | .value inner => exact Value.debug_mapRefs change inner
  | .nothing | .boolean _ | .integer _ | .float _ | .text _ => rfl

theorem HostObject.debugAll_mapRefs (change : Option Ref → Option Ref)
    (objects : List HostObject) :
    HostObject.debugAll (HostObject.allMapRefs change objects) = HostObject.debugAll objects := by
  match objects with
  | [] => rfl
  | object :: rest =>
      exact congrArg₂ List.cons (HostObject.debug_mapRefs change object)
        (HostObject.debugAll_mapRefs change rest)

theorem HostObject.debugEntries_mapRefs (change : Option Ref → Option Ref)
    (entries : List (HostObject × HostObject)) :
    HostObject.debugEntries (HostObject.entriesMapRefs change entries) =
      HostObject.debugEntries entries := by
  match entries with
  | [] => rfl
  | (key, object) :: rest =>
      rw [HostObject.entriesMapRefs, HostObject.debugEntries, HostObject.debug_mapRefs,
        HostObject.debug_mapRefs, HostObject.debugEntries_mapRefs, HostObject.debugEntries]

end

mutual

theorem Value.render_mapRefs (change : Option Ref → Option Ref) (value : Value) :
    (value.mapRefs change).render = value.render := by
  match value with
  | .list items ref =>
      rw [Value.mapRefs, Value.render, Value.renderAll_mapRefs, Value.render]
  | .closure name parameters body scope ref =>
      have names : (parameters.map (Identifier.mapRef change)).map Identifier.name =
          parameters.map Identifier.name := by
        rw [List.map_map]
        rfl
      rw [Value.mapRefs, Value.render, Value.renderAll_mapRefs, names, Value.render]
  | .foreign object ref =>
      rw [Value.mapRefs, Value.render, HostObject.debug_mapRefs, HostObject.kind_mapRefs,
        Value.render]
  | .identifier _ | .integer _ _ | .float _ _ | .string _ _ | .boolean _ _ | .nil | .function _
  | .form _ => rfl

theorem Value.renderAll_mapRefs (change : Option Ref → Option Ref) (values : List Value) :
    Value.renderAll (Value.allMapRefs change values) = Value.renderAll values := by
  match values with
  | [] => rfl
  | value :: rest =>
      exact congrArg₂ List.cons (Value.render_mapRefs change value)
        (Value.renderAll_mapRefs change rest)

end

theorem HostObject.render_mapRefs (change : Option Ref → Option Ref) (object : HostObject) :
    (object.mapRefs change).render = object.render := by
  cases object with
  | text content => rfl
  | value inner => exact inner.render_mapRefs change
  | _ => exact HostObject.debug_mapRefs change _

/-! ### Numbers -/

theorem HostNumber.ofObject_mapRefs (change : Option Ref → Option Ref) (object : HostObject) :
    ofObject? (object.mapRefs change) = ofObject? object := by
  cases object <;> rfl

theorem HostObject.toReal_mapRefs (change : Option Ref → Option Ref) (object : HostObject) :
    (object.mapRefs change).toReal = object.toReal := by
  cases object with
  | value inner => simp only [mapRefs, toReal, kind, Value.hostKind_mapRefs]
  | _ => rfl

/-! ### Formats -/

namespace Format

theorem convert_mapRefs (directive : Directive) (letter : CodePoint) (argument : HostObject)
    (conversion : Conversion) :
    directive.convert letter (argument.mapRefs change) conversion =
      directive.convert letter argument conversion := by
  have whole : wholeArgument letter (argument.mapRefs change) = wholeArgument letter argument := by
    cases argument with
    | value inner =>
        simp only [HostObject.mapRefs, wholeArgument, HostObject.kind, Value.hostKind_mapRefs]
    | _ => rfl
  have integer : integerArgument letter (argument.mapRefs change) =
      integerArgument letter argument := by
    cases argument with
    | value inner =>
        simp only [HostObject.mapRefs, integerArgument, HostObject.kind, Value.hostKind_mapRefs]
    | _ => rfl
  have character : characterArgument (argument.mapRefs change) = characterArgument argument := by
    cases argument <;> rfl
  cases conversion <;>
    simp only [Directive.convert, HostObject.render_mapRefs, HostObject.debug_mapRefs,
      HostObject.toReal_mapRefs, whole, integer, character]

namespace Progress

/-- The progress with the places in its pending arguments changed. -/
def mapRefs (change : Option Ref → Option Ref) (progress : Progress) : Progress :=
  { progress with pending := progress.pending.map (HostObject.mapRefs change) }

theorem argument_mapRefs (progress : Progress) :
    (progress.mapRefs change).argument = progress.argument.map fun (argument, later) =>
      (argument.mapRefs change, later.mapRefs change) := by
  unfold argument
  cases pending : progress.pending <;> simp [mapRefs, pending, Except.map]

theorem sizeArgument_mapRefs (progress : Progress) :
    (progress.mapRefs change).sizeArgument = progress.sizeArgument.map fun (size, later) =>
      (size, later.mapRefs change) := by
  unfold sizeArgument
  rw [argument_mapRefs]
  cases progress.argument with
  | error fault => rfl
  | ok taken => obtain ⟨argument, later⟩ := taken; cases argument <;> rfl

theorem atConversion_mapRefs (progress : Progress) (directive : Directive) (letter : CodePoint) :
    (progress.mapRefs change).atConversion directive letter =
      (progress.atConversion directive letter).map (mapRefs change) := by
  unfold atConversion
  rw [argument_mapRefs]
  cases progress.argument with
  | error fault => rfl
  | ok taken =>
      obtain ⟨argument, later⟩ := taken
      cases Conversion.ofLetter? letter with
      | none => rfl
      | some conversion =>
          simp only [Except.map, Except.bind, Bind.bind, convert_mapRefs]
          cases directive.convert letter argument conversion with
          | error fault => rfl
          | ok field =>
              dsimp only
              split <;> rfl

theorem atModifier_mapRefs (progress : Progress) (directive : Directive) (point : CodePoint) :
    (progress.mapRefs change).atModifier directive point =
      (progress.atModifier directive point).map (mapRefs change) := by
  unfold atModifier
  split
  · rfl
  · exact progress.atConversion_mapRefs directive point

theorem atPrecision_mapRefs (progress : Progress) (directive : Directive) (point : CodePoint) :
    (progress.mapRefs change).atPrecision directive point =
      (progress.atPrecision directive point).map (mapRefs change) := by
  unfold atPrecision
  split
  · rw [sizeArgument_mapRefs]
    cases progress.sizeArgument with
    | error fault => rfl
    | ok taken =>
        obtain ⟨size, later⟩ := taken
        simp only [Except.map, Except.bind, Bind.bind]
        split <;> rfl
  · split
    · rfl
    · exact progress.atModifier_mapRefs directive point

theorem atPrecisionDigits_mapRefs (progress : Progress) (directive : Directive)
    (point : CodePoint) :
    (progress.mapRefs change).atPrecisionDigits directive point =
      (progress.atPrecisionDigits directive point).map (mapRefs change) := by
  unfold atPrecisionDigits
  split
  · cases extend greatestPrecision .precisionTooBig (directive.precision.getD 0) point <;> rfl
  · exact progress.atModifier_mapRefs directive point

theorem behindWidth_mapRefs (progress : Progress) (directive : Directive) (point : CodePoint) :
    (progress.mapRefs change).behindWidth directive point =
      (progress.behindWidth directive point).map (mapRefs change) := by
  unfold behindWidth
  split
  · rfl
  · exact progress.atModifier_mapRefs directive point

theorem atWidth_mapRefs (progress : Progress) (directive : Directive) (point : CodePoint) :
    (progress.mapRefs change).atWidth directive point =
      (progress.atWidth directive point).map (mapRefs change) := by
  unfold atWidth
  split
  · rw [sizeArgument_mapRefs]
    cases progress.sizeArgument <;> rfl
  · split
    · rfl
    · exact progress.behindWidth_mapRefs directive point

theorem atWidthDigits_mapRefs (progress : Progress) (directive : Directive) (point : CodePoint) :
    (progress.mapRefs change).atWidthDigits directive point =
      (progress.atWidthDigits directive point).map (mapRefs change) := by
  unfold atWidthDigits
  split
  · cases extend greatestWidth .widthTooBig directive.width point <;> rfl
  · exact progress.behindWidth_mapRefs directive point

theorem atFlags_mapRefs (progress : Progress) (directive : Directive) (point : CodePoint) :
    (progress.mapRefs change).atFlags directive point =
      (progress.atFlags directive point).map (mapRefs change) := by
  unfold atFlags
  repeat' split
  all_goals first
    | rfl
    | exact progress.atWidth_mapRefs directive point

theorem atOpened_mapRefs (progress : Progress) (directive : Directive) (point : CodePoint) :
    (progress.mapRefs change).atOpened directive point =
      (progress.atOpened directive point).map (mapRefs change) := by
  unfold atOpened
  split
  · rfl
  · split
    · rfl
    · exact progress.atFlags_mapRefs directive point

theorem read_mapRefs (progress : Progress) (point : CodePoint) :
    (progress.mapRefs change).read point = (progress.read point).map (mapRefs change) := by
  have same : (progress.mapRefs change).directive? = progress.directive? := rfl
  unfold read
  rw [same]
  cases progress.directive? with
  | none =>
      dsimp only
      split <;> rfl
  | some reading =>
      obtain ⟨directive, phase⟩ := reading
      cases phase with
      | opened => exact progress.atOpened_mapRefs directive point
      | flags => exact progress.atFlags_mapRefs directive point
      | widthDigits => exact progress.atWidthDigits_mapRefs directive point
      | behindWidth => exact progress.behindWidth_mapRefs directive point
      | precision => exact progress.atPrecision_mapRefs directive point
      | precisionDigits => exact progress.atPrecisionDigits_mapRefs directive point
      | behindPrecision => exact progress.atModifier_mapRefs directive point
      | conversion => exact progress.atConversion_mapRefs directive point

theorem step_mapRefs (progress : Progress) (point : CodePoint) :
    (progress.mapRefs change).step point = (progress.step point).map (mapRefs change) := by
  unfold step
  rw [read_mapRefs]
  cases progress.read point <;> rfl

theorem finish_mapRefs (progress : Progress) :
    (progress.mapRefs change).finish = progress.finish := by
  have pending : (progress.mapRefs change).pending.isEmpty = progress.pending.isEmpty :=
    List.isEmpty_map
  unfold finish
  rw [pending]
  rfl

theorem foldlM_step_mapRefs (format : Text) (progress : Progress) :
    format.foldlM step (progress.mapRefs change) =
      (format.foldlM step progress).map (mapRefs change) := by
  induction format generalizing progress with
  | nil => rfl
  | cons point rest ih =>
      rw [List.foldlM_cons, List.foldlM_cons, step_mapRefs]
      cases progress.step point with
      | error fault => rfl
      | ok later => exact ih later

end Progress

theorem run_mapRefs (change : Option Ref → Option Ref) (format : Text)
    (arguments : List HostObject) :
    run format (arguments.map (HostObject.mapRefs change)) = run format arguments := by
  have start : Progress.start (arguments.map (HostObject.mapRefs change)) =
      (Progress.start arguments).mapRefs change := rfl
  unfold run
  rw [start, Progress.foldlM_step_mapRefs]
  cases format.foldlM Progress.step (Progress.start arguments) with
  | error fault => rfl
  | ok progress => exact progress.finish_mapRefs

end Format

end Lisplet
