import Lisplet.Proofs.HostCalls

/-!
Chains of adapters. Each argument goes through the conversions that name its place, in their order
and apart from all other arguments, and a chain fails with the first adapter that refuses what it
gets.
-/

namespace Lisplet

/-! ### Conversions of numbers -/

inductive NumberKind
  | integer
  | float
deriving DecidableEq

namespace HostNumber

def toObject : HostNumber → HostObject
  | integer number => .integer number
  | float number => .float number

def kind : HostNumber → NumberKind
  | integer _ => .integer
  | float _ => .float

def convert (number : HostNumber) : NumberKind → Except Fault HostNumber
  | .integer => number.toInteger.map .integer
  | .float => number.toFloat.map .float

inductive Unconvertible : HostNumber → NumberKind → Fault → Prop
  | infinite {number : Float} {negative : Bool} :
      Binary64.ofFloat number = .infinite negative →
        Unconvertible (.float number) .integer .infinityToInteger
  | nan {number : Float} :
      Binary64.ofFloat number = .nan → Unconvertible (.float number) .integer .nanToInteger
  | tooLarge {number : Int} :
      Binary64.overflowBound ≤ number.natAbs →
        Unconvertible (.integer number) .float .integerTooLargeForFloat

variable {number converted : HostNumber} {kind : NumberKind}

theorem ofObject_eq_some_iff {object : HostObject} :
    ofObject? object = some number ↔ object = number.toObject := by
  constructor
  · intro found
    cases object <;> cases found <;> rfl
  · rintro rfl
    cases number <;> rfl

theorem kind_of_convert (converts : number.convert kind = .ok converted) :
    converted.kind = kind := by
  cases kind with
  | integer =>
      cases whole : number.toInteger <;> rw [convert, whole] at converts <;> cases converts
      rfl
  | float =>
      cases real : number.toFloat <;> rw [convert, real] at converts <;> cases converts
      rfl

theorem convert_kind (number : HostNumber) : number.convert number.kind = .ok number := by
  cases number <;> rfl

theorem convert_eq_error_iff {fault : Fault} :
    number.convert kind = .error fault ↔ number.Unconvertible kind fault := by
  constructor
  · intro fails
    cases number with
    | integer number =>
        cases kind with
        | integer => cases fails
        | float =>
            rw [convert, toFloat, Binary64.ofIntChecked] at fails
            split at fails
            · next large =>
                cases fails
                exact .tooLarge large
            · cases fails
    | float number =>
        cases kind with
        | float => cases fails
        | integer =>
            rw [convert, toInteger, Binary64.toIntChecked] at fails
            split at fails
            · next stands =>
                cases fails
                exact .nan stands
            · next negative stands =>
                cases fails
                exact .infinite stands
            · cases fails
  · intro unconvertible
    cases unconvertible with
    | infinite stands | nan stands =>
        rw [convert, toInteger, Binary64.toIntChecked, stands]
        rfl
    | tooLarge large =>
        rw [convert, toFloat, Binary64.ofIntChecked, if_pos large]
        rfl

end HostNumber

/-! ### Single adapters -/

namespace Adapter

def conversion : NumberKind → Nat → Adapter
  | .integer, place => toInteger place
  | .float, place => toFloat place

/-- Neither a count nor a place is negative. -/
def Natural : Adapter → Prop
  | arity count => 0 ≤ count
  | toFloat place | toInteger place => 0 ≤ place

/-- What an adapter makes of the argument at a place. -/
def kindAt? (place : Nat) : Adapter → Option NumberKind
  | arity _ => none
  | toFloat named => if named = place then some .float else none
  | toInteger named => if named = place then some .integer else none

/-- How an adapter fails. A wrong number of arguments and a missing one are mismatches of arity, an
argument that is no number is one of type, and an impossible conversion is a fault of the host. -/
inductive Refuses (adapter : Adapter) (arguments : List HostObject) : Failure → Prop
  | count {count : Int} : adapter = arity count → (arguments.length : Int) ≠ count →
      Refuses adapter arguments (.ofCause (.argumentCount count arguments.length) none)
  | place {kind : NumberKind} {place : Nat} : adapter.kindAt? place = some kind →
      arguments.length ≤ place →
        Refuses adapter arguments (.ofCause (.argumentMissing place arguments.length) none)
  | type {kind : NumberKind} {place : Nat} {object : HostObject} :
      adapter.kindAt? place = some kind → arguments[place]? = some object →
        (∀ number : HostNumber, object ≠ number.toObject) →
          Refuses adapter arguments (.ofCause (.argumentNotNumber place object.typeName) none)
  | conversion {kind : NumberKind} {place : Nat} {number : HostNumber} {fault : Fault} :
      adapter.kindAt? place = some kind → arguments[place]? = some number.toObject →
        number.Unconvertible kind fault → Refuses adapter arguments (.ofFault fault)

variable {adapter : Adapter} {kind other : NumberKind} {place apart : Nat}
  {arguments adapted : List HostObject} {failure : Failure}

theorem kindAt?_eq_some_iff : adapter.kindAt? place = some kind ↔ adapter = conversion kind place := by
  cases adapter with
  | arity count => cases kind <;> simp [kindAt?, conversion]
  | toFloat named | toInteger named => cases kind <;> simp [kindAt?, conversion]

theorem Natural.cases (natural : adapter.Natural) :
    (∃ count, adapter = arity count) ∨ ∃ kind place, adapter = conversion kind place := by
  cases adapter with
  | arity count => exact .inl ⟨count, rfl⟩
  | toFloat place => exact .inr ⟨.float, place.toNat, congrArg toFloat (Int.toNat_of_nonneg natural).symm⟩
  | toInteger place =>
      exact .inr ⟨.integer, place.toNat, congrArg toInteger (Int.toNat_of_nonneg natural).symm⟩

theorem apply_conversion (kind : NumberKind) (place : Nat) (arguments : List HostObject) :
    apply arguments (conversion kind place) =
      convert place (fun number => (number.convert kind).map HostNumber.toObject) arguments := by
  have same (number : HostNumber) : (number.convert kind).map HostNumber.toObject =
      match kind with
      | .integer => number.toInteger.map .integer
      | .float => number.toFloat.map .float := by
    cases kind with
    | integer => cases whole : number.toInteger <;> rw [HostNumber.convert, whole] <;> rfl
    | float => cases real : number.toFloat <;> rw [HostNumber.convert, real] <;> rfl
  rw [funext same]
  cases kind <;> rfl

theorem apply_missing (kind : NumberKind) (missing : arguments.length ≤ place) :
    apply arguments (conversion kind place) =
      .error (.ofCause (.argumentMissing place arguments.length) none) := by
  have beyond : (arguments.length : Int) ≤ place := by omega
  rw [apply_conversion, convert, index, dif_pos beyond]
  rfl

theorem index_natural {count : Nat} (below : place < count) :
    index place count = .ok ⟨place, below⟩ := by
  have within : ¬(count : Int) ≤ place := by omega
  rw [index, dif_neg within, dif_pos (Int.natCast_nonneg place)]
  rfl

theorem apply_other (kind : NumberKind) {object : HostObject}
    (found : arguments[place]? = some object) (other : HostNumber.ofObject? object = none) :
    apply arguments (conversion kind place) =
      .error (.ofCause (.argumentNotNumber place object.typeName) none) := by
  obtain ⟨below, rfl⟩ := List.getElem?_eq_some_iff.mp found
  rw [apply_conversion, convert, index_natural below]
  simp only [Bind.bind, Except.bind, Fin.getElem_fin, other]

theorem apply_number (kind : NumberKind) {number : HostNumber}
    (found : arguments[place]? = some number.toObject) :
    apply arguments (conversion kind place) =
      (Failure.orFault (number.convert kind)).map fun converted =>
        arguments.set place converted.toObject := by
  obtain ⟨below, same⟩ := List.getElem?_eq_some_iff.mp found
  rw [apply_conversion, convert, index_natural below]
  simp only [Bind.bind, Except.bind, Fin.getElem_fin, HostNumber.ofObject_eq_some_iff.mpr same]
  cases number.convert kind <;> rfl

theorem Refuses.apply_eq (refuses : adapter.Refuses arguments failure) :
    apply arguments adapter = .error failure := by
  cases refuses with
  | count counts other => rw [counts, apply, if_neg other]
  | place names missing =>
      obtain rfl := kindAt?_eq_some_iff.mp names
      exact apply_missing _ missing
  | type names found other =>
      obtain rfl := kindAt?_eq_some_iff.mp names
      refine apply_other _ found (Option.eq_none_iff_forall_ne_some.mpr fun number reads => ?_)
      exact other number (HostNumber.ofObject_eq_some_iff.mp reads)
  | conversion names found unconvertible =>
      obtain rfl := kindAt?_eq_some_iff.mp names
      rw [apply_number _ found, HostNumber.convert_eq_error_iff.mpr unconvertible]
      rfl

/-- An adapter that converts an argument refuses, or it has found a number and sets what it
becomes. -/
theorem conversion_cases (kind : NumberKind) (place : Nat) (arguments : List HostObject) :
    (∃ failure, (conversion kind place).Refuses arguments failure) ∨
      ∃ number converted : HostNumber, arguments[place]? = some number.toObject ∧
        number.convert kind = .ok converted ∧
          apply arguments (conversion kind place) =
            .ok (arguments.set place converted.toObject) := by
  have names : (conversion kind place).kindAt? place = some kind := kindAt?_eq_some_iff.mpr rfl
  cases found : arguments[place]? with
  | none => exact .inl ⟨_, .place names (List.getElem?_eq_none_iff.mp found)⟩
  | some object =>
      by_cases isNumber : ∃ number : HostNumber, object = number.toObject
      · obtain ⟨number, rfl⟩ := isNumber
        cases converts : number.convert kind with
        | error fault =>
            exact .inl ⟨_, .conversion names found (HostNumber.convert_eq_error_iff.mp converts)⟩
        | ok converted =>
            refine .inr ⟨number, converted, rfl, converts, ?_⟩
            rw [apply_number kind found, converts]
            rfl
      · exact .inl ⟨_, .type names found fun number same => isNumber ⟨number, same⟩⟩

theorem apply_conversion_eq_ok_iff : apply arguments (conversion kind place) = .ok adapted ↔
    ∃ number converted : HostNumber, arguments[place]? = some number.toObject ∧
      number.convert kind = .ok converted ∧ adapted = arguments.set place converted.toObject := by
  constructor
  · intro adapts
    rcases conversion_cases kind place arguments with
      ⟨failure, refuses⟩ | ⟨number, converted, found, converts, sets⟩
    · rw [refuses.apply_eq] at adapts
      cases adapts
    · rw [sets] at adapts
      cases adapts
      exact ⟨number, converted, found, converts, rfl⟩
  · rintro ⟨number, converted, found, converts, rfl⟩
    rw [apply_number kind found, converts]
    rfl

theorem apply_eq_error_iff (natural : adapter.Natural) :
    apply arguments adapter = .error failure ↔ adapter.Refuses arguments failure := by
  refine ⟨fun fails => ?_, Refuses.apply_eq⟩
  rcases natural.cases with ⟨count, rfl⟩ | ⟨kind, place, rfl⟩
  · rw [apply] at fails
    split at fails
    · cases fails
    · next other =>
        cases fails
        exact .count rfl other
  · rcases conversion_cases kind place arguments with ⟨other, refuses⟩ | ⟨_, _, _, _, sets⟩
    · rw [refuses.apply_eq] at fails
      cases fails
      exact refuses
    · rw [sets] at fails
      cases fails

/-! ### Chains -/

/-- The conversions of the argument at a place, in the order of the chain. -/
def kindsAt (place : Nat) (adapters : List Adapter) : List NumberKind :=
  adapters.filterMap (kindAt? place)

/-- An object goes through conversions one after the other, from number to number. -/
inductive Converts : List NumberKind → Option HostObject → Option HostObject → Prop
  | nil {object : Option HostObject} : Converts [] object object
  | cons {kind : NumberKind} {kinds : List NumberKind} {number converted : HostNumber}
      {last : Option HostObject} : number.convert kind = .ok converted →
        Converts kinds (some converted.toObject) last →
          Converts (kind :: kinds) (some number.toObject) last

theorem kindAt?_conversion_of_ne (kind : NumberKind) (different : place ≠ apart) :
    (conversion kind place).kindAt? apart = none := by
  cases kind <;> simpa [conversion, kindAt?, Int.natCast_inj] using different

/-- One adapter converts the argument that it names, and the others stay. -/
theorem converts_of_apply (natural : adapter.Natural)
    (adapts : apply arguments adapter = .ok adapted) {kinds : List NumberKind}
    {last : Option HostObject} (rest : Converts kinds adapted[place]? last) :
    Converts ((adapter.kindAt? place).toList ++ kinds) arguments[place]? last := by
  rcases natural.cases with ⟨count, rfl⟩ | ⟨kind, named, rfl⟩
  · rw [apply] at adapts
    split at adapts
    · cases adapts
      exact rest
    · cases adapts
  · obtain ⟨number, converted, found, converts, rfl⟩ := apply_conversion_eq_ok_iff.mp adapts
    by_cases same : named = place
    · subst same
      have below := (List.getElem?_eq_some_iff.mp found).1
      rw [List.getElem?_set_self below] at rest
      rw [kindAt?_eq_some_iff.mpr rfl, found]
      exact .cons converts rest
    · rw [List.getElem?_set_ne same] at rest
      rw [kindAt?_conversion_of_ne kind same]
      exact rest

theorem applyAll_eq_ok_iff {adapters : List Adapter} :
    applyAll (adapter :: adapters) arguments = .ok adapted ↔
      ∃ middle, apply arguments adapter = .ok middle ∧ applyAll adapters middle = .ok adapted := by
  rw [applyAll_cons]
  cases apply arguments adapter with
  | error failure => simp [Except.bind]
  | ok middle => simp [Except.bind]

theorem converts_of_applyAll {adapters : List Adapter}
    (natural : ∀ adapter ∈ adapters, adapter.Natural)
    (adapts : applyAll adapters arguments = .ok adapted) (place : Nat) :
    Converts (kindsAt place adapters) arguments[place]? adapted[place]? := by
  induction adapters generalizing arguments with
  | nil =>
      cases adapts
      exact .nil
  | cons adapter rest ih =>
      obtain ⟨first, others⟩ := List.forall_mem_cons.mp natural
      obtain ⟨middle, head, tail⟩ := applyAll_eq_ok_iff.mp adapts
      have whole := converts_of_apply first head (ih others tail)
      rw [kindsAt, List.filterMap_cons]
      cases named : adapter.kindAt? place with
      | none => simpa [named, kindsAt] using whole
      | some kind => simpa [named, kindsAt] using whole

theorem Converts.same {first last : Option HostObject} (converts : Converts [] first last) :
    last = first := by
  cases converts
  rfl

/-- What goes through several conversions was a number, and the last one gives its kind. -/
theorem Converts.number {kinds : List NumberKind} {first last : Option HostObject}
    (converts : Converts kinds first last) (some : kinds ≠ []) :
    ∃ number converted : HostNumber, first = .some number.toObject ∧
      kinds.foldlM HostNumber.convert number = .ok converted ∧ last = .some converted.toObject ∧
        kinds.getLast? = .some converted.kind := by
  induction converts with
  | nil => exact absurd rfl some
  | @cons kind kinds number converted last first behind ih =>
      refine ⟨number, ?_⟩
      rw [List.foldlM_cons, first]
      cases kinds with
      | nil =>
          cases behind
          refine ⟨converted, rfl, rfl, rfl, ?_⟩
          rw [HostNumber.kind_of_convert first]
          rfl
      | cons next kinds =>
          obtain ⟨start, final, begins, folds, ends, kind⟩ := ih (List.cons_ne_nil next kinds)
          obtain rfl : converted = start := by
            have same := HostNumber.ofObject_eq_some_iff.mpr (Option.some.inj begins)
            rw [HostNumber.ofObject_eq_some_iff.mpr rfl] at same
            exact Option.some.inj same
          exact ⟨final, rfl, folds, ends, kind⟩

/-- A chain fails with the first adapter that refuses what the ones before it have made of the
arguments. -/
theorem applyAll_eq_error_iff {adapters : List Adapter}
    (natural : ∀ adapter ∈ adapters, adapter.Natural) :
    applyAll adapters arguments = .error failure ↔
      ∃ before adapter behind middle, adapters = before ++ adapter :: behind ∧
        applyAll before arguments = .ok middle ∧ adapter.Refuses middle failure := by
  induction adapters generalizing arguments with
  | nil =>
      constructor
      · rintro ⟨⟩
      · rintro ⟨before, adapter, behind, middle, cut, -⟩
        simp at cut
  | cons adapter rest ih =>
      obtain ⟨first, others⟩ := List.forall_mem_cons.mp natural
      constructor
      · intro fails
        cases head : apply arguments adapter with
        | error other =>
            rw [applyAll_cons, head] at fails
            cases fails
            exact ⟨[], adapter, rest, arguments, rfl, rfl, (apply_eq_error_iff first).mp head⟩
        | ok middle =>
            rw [applyAll_cons, head] at fails
            obtain ⟨before, refusing, behind, reached, rfl, passes, refuses⟩ := (ih others).mp fails
            exact ⟨adapter :: before, refusing, behind, reached, rfl,
              applyAll_eq_ok_iff.mpr ⟨middle, head, passes⟩, refuses⟩
      · rintro ⟨before, refusing, behind, middle, cut, passes, refuses⟩
        rw [applyAll_cons]
        cases before with
        | nil =>
            cases cut
            cases passes
            rw [refuses.apply_eq]
            rfl
        | cons head before =>
            cases cut
            obtain ⟨reached, passed, left⟩ := applyAll_eq_ok_iff.mp passes
            rw [passed]
            exact (ih others).mpr ⟨before, refusing, behind, middle, rfl, left, refuses⟩

/-! ### Two adapters -/

/-- Neither of two conversions at different places sees what the other one does. -/
theorem applyAll_apart (different : place ≠ apart) :
    applyAll [conversion kind place, conversion other apart] arguments = .ok adapted ↔
      ∃ number converted turned changed : HostNumber,
        (arguments[place]? = some number.toObject ∧ number.convert kind = .ok converted) ∧
        (arguments[apart]? = some turned.toObject ∧ turned.convert other = .ok changed) ∧
          adapted = (arguments.set place converted.toObject).set apart changed.toObject := by
  rw [applyAll_eq_ok_iff]
  constructor
  · rintro ⟨middle, head, tail⟩
    obtain ⟨last, second, ends⟩ := applyAll_eq_ok_iff.mp tail
    cases ends
    obtain ⟨number, converted, found, converts, rfl⟩ := apply_conversion_eq_ok_iff.mp head
    obtain ⟨turned, changed, present, changes, rfl⟩ := apply_conversion_eq_ok_iff.mp second
    rw [List.getElem?_set_ne different] at present
    exact ⟨number, converted, turned, changed, ⟨found, converts⟩, ⟨present, changes⟩, rfl⟩
  · rintro ⟨number, converted, turned, changed, ⟨found, converts⟩, ⟨present, changes⟩, rfl⟩
    refine ⟨arguments.set place converted.toObject, ?_, applyAll_eq_ok_iff.mpr ⟨_, ?_, rfl⟩⟩
    · exact apply_conversion_eq_ok_iff.mpr ⟨number, converted, found, converts, rfl⟩
    · refine apply_conversion_eq_ok_iff.mpr ⟨turned, changed, ?_, changes, rfl⟩
      rw [List.getElem?_set_ne different]
      exact present

theorem applyAll_comm (different : place ≠ apart)
    (adapts : applyAll [conversion kind place, conversion other apart] arguments = .ok adapted) :
    applyAll [conversion other apart, conversion kind place] arguments = .ok adapted := by
  obtain ⟨number, converted, turned, changed, first, second, rfl⟩ :=
    (applyAll_apart different).mp adapts
  refine (applyAll_apart different.symm).mpr
    ⟨turned, changed, number, converted, second, first, ?_⟩
  exact List.set_comm _ _ different

theorem applyAll_of_each (different : place ≠ apart) {first second : List HostObject}
    (one : apply arguments (conversion kind place) = .ok first)
    (two : apply arguments (conversion other apart) = .ok second) :
    ∃ adapted, applyAll [conversion kind place, conversion other apart] arguments =
      .ok adapted := by
  obtain ⟨number, converted, found, converts, -⟩ := apply_conversion_eq_ok_iff.mp one
  obtain ⟨turned, changed, present, changes, -⟩ := apply_conversion_eq_ok_iff.mp two
  exact ⟨_, (applyAll_apart different).mpr
    ⟨number, converted, turned, changed, ⟨found, converts⟩, ⟨present, changes⟩, rfl⟩⟩

theorem apply_again (natural : adapter.Natural)
    (adapts : apply arguments adapter = .ok adapted) : apply adapted adapter = .ok adapted := by
  rcases natural.cases with ⟨count, rfl⟩ | ⟨kind, place, rfl⟩
  · have counted := adapts
    rw [apply] at adapts
    split at adapts
    · cases adapts
      exact counted
    · cases adapts
  · obtain ⟨number, converted, found, converts, rfl⟩ := apply_conversion_eq_ok_iff.mp adapts
    have below := (List.getElem?_eq_some_iff.mp found).1
    have kept : converted.convert kind = .ok converted := by
      rw [← HostNumber.kind_of_convert converts]
      exact converted.convert_kind
    refine apply_conversion_eq_ok_iff.mpr ⟨converted, converted, ?_, kept, ?_⟩
    · exact List.getElem?_set_self below
    · exact (List.set_set _).symm

theorem applyAll_twice (natural : adapter.Natural) (arguments : List HostObject) :
    applyAll [adapter, adapter] arguments = applyAll [adapter] arguments := by
  rw [applyAll_cons, applyAll_cons]
  cases adapts : apply arguments adapter with
  | error failure => rfl
  | ok middle =>
      change applyAll [adapter] middle = _
      rw [applyAll_cons, apply_again natural adapts]

/-- A chain that succeeds converts the arguments that it names, in its order, and changes nothing
else. Otherwise the first adapter that refuses says why. Conversions at different places can be
swapped, and one behind itself changes nothing. -/
theorem chain_converts (adapters : List Adapter)
    (natural : ∀ adapter ∈ adapters, adapter.Natural) (arguments : List HostObject) :
    (∀ adapted, applyAll adapters arguments = .ok adapted →
      adapted.length = arguments.length ∧ ∀ place,
        (kindsAt place adapters = [] → adapted[place]? = arguments[place]?) ∧
        (kindsAt place adapters ≠ [] → ∃ number converted : HostNumber,
          arguments[place]? = some number.toObject ∧
            (kindsAt place adapters).foldlM HostNumber.convert number = .ok converted ∧
            adapted[place]? = some converted.toObject ∧
            (kindsAt place adapters).getLast? = some converted.kind)) ∧
    (∀ failure, applyAll adapters arguments = .error failure ↔
      ∃ before adapter behind middle, adapters = before ++ adapter :: behind ∧
        applyAll before arguments = .ok middle ∧ adapter.Refuses middle failure) ∧
    (∀ (kind other : NumberKind) (place apart : Nat), place ≠ apart →
      (∀ adapted, applyAll [conversion kind place, conversion other apart] arguments = .ok adapted ↔
        applyAll [conversion other apart, conversion kind place] arguments = .ok adapted) ∧
      ((∃ first, apply arguments (conversion kind place) = .ok first) →
        (∃ second, apply arguments (conversion other apart) = .ok second) →
          ∃ adapted, applyAll [conversion kind place, conversion other apart] arguments =
            .ok adapted)) ∧
    ∀ adapter : Adapter, adapter.Natural →
      applyAll [adapter, adapter] arguments = applyAll [adapter] arguments := by
  refine ⟨fun adapted adapts => ⟨(applyAll_counts adapts).1, fun place => ?_⟩,
    fun failure => applyAll_eq_error_iff natural, fun kind other place apart different => ⟨?_, ?_⟩,
    fun adapter single => applyAll_twice single arguments⟩
  · have converts := converts_of_applyAll natural adapts place
    refine ⟨fun none => ?_, converts.number⟩
    rw [none] at converts
    exact converts.same
  · exact fun adapted => ⟨applyAll_comm different, applyAll_comm different.symm⟩
  · rintro ⟨first, one⟩ ⟨second, two⟩
    exact applyAll_of_each different one two

/-- A float that becomes an integer stays one, next to a text. The text itself has no conversion. -/
theorem chain_converts_truncated :
    (∃ number converted : HostNumber,
      some (.float (Float.ofBits 0x4004000000000000)) = some number.toObject ∧
        [NumberKind.float, .integer].foldlM HostNumber.convert number = .ok converted ∧
        some (.integer 2) = some converted.toObject ∧ some .integer = some converted.kind) ∧
      applyAll [arity 2, toFloat 0, toInteger 1]
          [.float (Float.ofBits 0x4004000000000000), .text "a"] =
        .error (.ofCause (.argumentNotNumber 1 "string") none) := by
  let arguments : List HostObject := [.float (Float.ofBits 0x4004000000000000), .text "a"]
  have adapts : applyAll [arity 2, toFloat 0, toInteger 0] arguments =
      .ok [.integer 2, .text "a"] := rfl
  have converts := chain_converts [arity 2, toFloat 0, toInteger 0] (by simp [Natural]) arguments
  have fails := chain_converts [arity 2, toFloat 0, toInteger 1] (by simp [Natural]) arguments
  have names : (toInteger 1).kindAt? 1 = some .integer := rfl
  have found : arguments[1]? = some (.text "a") := rfl
  have other (number : HostNumber) : HostObject.text "a" ≠ number.toObject := by
    cases number <;> exact HostObject.noConfusion
  refine ⟨((converts.1 _ adapts).2 0).2 (by decide), (fails.2.1 _).mpr ?_⟩
  exact ⟨[arity 2, toFloat 0], toInteger 1, [], arguments, rfl, rfl, .type names found other⟩

end Adapter

end Lisplet
