import Lisplet.Proofs.Conversions
import Lisplet.Proofs.Expressions
import Lisplet.Proofs.Installations
import Lisplet.Proofs.Operators

/-!
Calls of the mathematical functions. Whatever prefix the library is installed with, its functions
refuse a wrong number of arguments and, but for the absolute value, arguments that are no numbers.
What they refuse does not reach their operations, and it is an error of the language.
-/

namespace Lisplet

/-! ### Refused calls -/

/-- The expression is a call: what stands in front evaluates to the function, and the operands behind
it to the arguments, from left to right. -/
inductive Catalogue.Calls (catalogue : Catalogue) (depth : Nat) (host : HostFunction)
    (arguments : List Value) : Value → ScopeId → World → World → Prop
  | list {head : Value} {operands : List Value} {scope : ScopeId} {world middle later : World}
      (ref : Option Ref)
      (front : catalogue.valueOf depth ⟨head, scope⟩ world = (.ok (.function host), middle))
      (behind : (operands.mapM fun operand => catalogue.valueOf depth ⟨operand, scope⟩) middle =
        (.ok arguments, later)) :
      Calls catalogue depth host arguments (.list (head :: operands) ref) scope world later

namespace HostFunction

variable {host : HostFunction} {arguments : List Value}

/-- Whatever the body is, it is not run, and the call ends in an error of the language. So does the
evaluation of every expression that is such a call, and no panic is made of it. -/
structure Refuses (host : HostFunction) (kind : ErrorKind) (arguments : List Value) : Prop where
  idle : ∀ body world, host.handed body arguments world = []
  raises : ∀ body world, Run.Raises kind (host.callAround body arguments) world
  evaluates : ∀ catalogue depth expression scope world later,
    Catalogue.Calls catalogue depth host arguments expression scope world later →
      ∃ error : RuntimeError, error.kind = kind ∧ error.stack = [expression] ∧
        (catalogue.valueOf (depth + 1) ⟨expression, scope⟩).bounded world =
          (.error (.error error), later)

/-- Adapters that raise an error of the language keep a call from its function. -/
theorem refuses_of_applyAll {cause : Cause}
    (refused : Adapter.applyAll host.adapters (host.handOver arguments) =
      .error (.ofCause cause none)) : host.Refuses cause.kind arguments := by
  have ends (body : List HostObject → Run HostObject) (world : World) :
      host.callAround body arguments world = (.error (.ofCause cause none), world) ∧
        host.handed body arguments world = [] :=
    callAround_of_error (adapted_of_refused refused)
  refine ⟨fun body world => (ends body world).2, fun body world => ⟨_, rfl, (ends body world).1⟩, ?_⟩
  rintro catalogue depth _ scope world later ⟨ref, front, behind⟩
  refine ⟨⟨cause, none, [_]⟩, rfl, rfl, ?_⟩
  have calls : host.call arguments later = (.error (.ofCause cause none), later) := by
    rw [host.call_eq_callAround, (ends _ later).1]
  rw [Run.bounded, Catalogue.valueOf_call ref front behind, Run.within, calls]
  rfl

end HostFunction

/-! ### Mathematical functions -/

/-- Is the value a number of the host that is wrapped although the language has numbers? -/
def Value.isForeignNumber : Value → Bool
  | .foreign (.integer _) _ | .foreign (.float _) _ => true
  | _ => false

theorem Value.exists_numeral {value : Value} {number : HostNumber}
    (plain : value.isForeignNumber = false) (same : value.toHost = number.toObject) :
    ∃ numeral : Numeral, value = numeral.value ∧ number = numeral.number := by
  cases value with
  | integer whole ref =>
      cases number <;> cases same
      exact ⟨.integer whole ref, rfl, rfl⟩
  | float real ref =>
      cases number <;> cases same
      exact ⟨.float real ref, rfl, rfl⟩
  | foreign object ref =>
      cases number <;> cases same <;> cases plain
  | _ => cases number <;> cases same

theorem Value.toHost_ne_number {value : Value} (plain : value.isForeignNumber = false)
    (other : value.isNumber = false) (number : HostNumber) : value.toHost ≠ number.toObject := by
  intro same
  obtain ⟨numeral, rfl, -⟩ := Value.exists_numeral plain same
  cases numeral <;> cases other

/-- Every number of the language has a float next to it. -/
theorem Numeral.convert_float (numeral : Numeral) :
    numeral.number.convert .float = .ok (.float numeral.real) := by
  rw [HostNumber.convert, numeral.toFloat_number]
  rfl

theorem Numeral.convertible (numeral : Numeral) (fault : Fault) :
    ¬numeral.number.Unconvertible .float fault := fun unconvertible =>
  nomatch numeral.convert_float.symm.trans (HostNumber.convert_eq_error_iff.mpr unconvertible)

namespace MathOperation

/-- How many arguments the operation takes. -/
def arity : MathOperation → Nat
  | power => 2
  | real _ | floor | ceiling | absolute | truncate => 1

/-! #### Operations on the right number of arguments -/

/-- If the operation fails, then not for the number of its arguments. -/
def Suits {α : Type} (outcome : Except Fault α) : Prop :=
  outcome ≠ .error .unfitArguments

theorem Suits.bind {α β : Type} {first : Except Fault α} {next : α → Except Fault β}
    (head : Suits first) (tail : ∀ result, Suits (next result)) : Suits (first >>= next) := by
  cases first with
  | ok result => exact tail result
  | error fault => exact fun fails => head (by cases fails; rfl)

theorem Suits.ofIntChecked (number : Int) : Suits (Binary64.ofIntChecked number) := by
  unfold Binary64.ofIntChecked
  split <;> exact nofun

theorem Suits.toIntChecked (number : Float) : Suits (Binary64.toIntChecked number) := by
  unfold Binary64.toIntChecked
  split <;> exact nofun

theorem Suits.toReal (object : HostObject) : Suits object.toReal := by
  cases object with
  | integer number => exact ofIntChecked number
  | _ => exact nofun

theorem Suits.real (function : RealFunction) (number : Float) : Suits (function.run number) := by
  unfold RealFunction.run
  dsimp only
  repeat' split
  all_goals exact nofun

theorem Suits.power (base exponent : Float) : Suits (runPower base exponent) := by
  unfold runPower
  dsimp only
  repeat' split
  all_goals exact nofun

theorem Suits.absolute (argument : HostObject) : Suits (runAbsolute argument) := by
  cases argument <;> exact nofun

theorem Suits.toInteger (number : HostNumber) : Suits number.toInteger := by
  cases number with
  | integer whole => exact nofun
  | float real => exact toIntChecked real

theorem suits_run {operation : MathOperation} {arguments : List HostObject}
    (length : arguments.length = operation.arity) : Suits (operation.run arguments) := by
  cases operation with
  | power =>
      obtain ⟨base, exponent, rfl⟩ := List.length_eq_two.mp length
      refine .bind (.toReal base) fun _ => .bind (.toReal exponent) fun _ => ?_
      exact .bind (.power _ _) fun _ => nofun
  | real function =>
      obtain ⟨argument, rfl⟩ := List.length_eq_one_iff.mp length
      exact .bind (.toReal argument) fun _ => .bind (.real function _) fun _ => nofun
  | floor | ceiling =>
      obtain ⟨argument, rfl⟩ := List.length_eq_one_iff.mp length
      exact .bind (.toReal argument) fun _ => .bind (.toIntChecked _) fun _ => nofun
  | absolute =>
      obtain ⟨argument, rfl⟩ := List.length_eq_one_iff.mp length
      exact .absolute argument
  | truncate =>
      obtain ⟨argument, rfl⟩ := List.length_eq_one_iff.mp length
      rw [run]
      split
      · exact .bind (.toInteger _) fun _ => nofun
      · exact nofun

/-- What the arguments are turned into before the operation gets them. -/
def argumentKind? : MathOperation → Option NumberKind
  | real _ | floor | ceiling | power => some .float
  | truncate => some .integer
  | absolute => none

def adapters (operation : MathOperation) : List Adapter :=
  .arity operation.arity :: Adapter.conversions operation.arity operation.argumentKind?

/-- The signature admits as many arguments as the operation takes, if there is one. -/
def AdmittedBy (operation : MathOperation) (signature : Option Signature) : Prop :=
  ∀ parameters, signature = some parameters →
    parameters.Ordered ∧ parameters.Admits operation.arity

theorem admittedBy_none {operation : MathOperation} : operation.AdmittedBy none := nofun

def function (operation : MathOperation) (name : Text) (signature : Option Signature) :
    HostFunction :=
  ⟨name, .math operation, operation.adapters, true, signature⟩

end MathOperation

namespace Library

theorem oneNumber_admits {operation : MathOperation} (single : operation.arity = 1) :
    operation.AdmittedBy oneNumber := by
  rintro _ ⟨⟩
  rw [single]
  exact ⟨by simp [Signature.Ordered], by decide, .inl (by decide), by decide⟩

theorem twoNumbers_admit :
    MathOperation.power.AdmittedBy (some [Parameter.required "x", Parameter.required "y"]) := by
  rintro _ ⟨⟩
  exact ⟨by simp [Signature.Ordered, Parameter.rank, Parameter.required],
    by decide, .inl (by decide), by decide⟩

/-- The operation of a function determines its adapters. -/
theorem math_entries (start : Text) : ∀ item ∈ math,
    (∃ value, item.2 start = .constant value) ∨
      ∃ (operation : MathOperation) (signature : Option Signature), operation.AdmittedBy signature ∧
        item.2 start = .function (.callable (.math operation) signature none) operation.adapters
          true := by
  simp only [math, List.forall_mem_cons, List.not_mem_nil, false_implies, implies_true, and_true]
  exact ⟨.inr ⟨.real .sine, _, oneNumber_admits rfl, rfl⟩,
    .inr ⟨.real .cosine, _, oneNumber_admits rfl, rfl⟩,
    .inr ⟨.real .tangent, _, oneNumber_admits rfl, rfl⟩,
    .inr ⟨.real .squareRoot, _, oneNumber_admits rfl, rfl⟩,
    .inr ⟨.real .exponential, _, oneNumber_admits rfl, rfl⟩,
    .inr ⟨.real .logarithm, _, MathOperation.admittedBy_none, rfl⟩,
    .inr ⟨.floor, _, oneNumber_admits rfl, rfl⟩, .inr ⟨.ceiling, _, oneNumber_admits rfl, rfl⟩,
    .inr ⟨.power, _, twoNumbers_admit, rfl⟩, .inr ⟨.absolute, _, oneNumber_admits rfl, rfl⟩,
    .inr ⟨.truncate, _, MathOperation.admittedBy_none, rfl⟩, .inl ⟨_, rfl⟩, .inl ⟨_, rfl⟩⟩

end Library

namespace HostFunction

/-- How a function of the library deals with the arguments of its calls. The operation gets what is
not refused, each argument converted and in its place. The absolute value does not look at the types
of arguments: it takes truth values for numbers and panics at everything else that is none. -/
structure Validates (host : HostFunction) (operation : MathOperation) : Prop where
  performs : host.operation = .math operation
  suits : ∀ given, given.length = operation.arity → operation.run given ≠ .error .unfitArguments
  counts : ∀ arguments, arguments.length ≠ operation.arity →
    host.Refuses .arityMismatch arguments
  types : operation ≠ .absolute → ∀ arguments, arguments.length = operation.arity →
    (∀ argument ∈ arguments, argument.isForeignNumber = false) →
    (∃ argument ∈ arguments, argument.isNumber = false) → host.Refuses .typeMismatch arguments
  runs : ∀ body arguments world given, host.handed body arguments world = [given] ↔
    arguments.length = operation.arity ∧ List.Forall₂ (fun object result =>
      Adapter.Converts operation.argumentKind?.toList (some object) (some result))
        (arguments.map Value.toHost) given
  truths : operation = .absolute → ∀ argument truth, argument.toHost = .boolean truth →
    ∀ world, host.call [argument] world = (.ok (.integer (if truth then 1 else 0) none), world)
  faults : operation = .absolute → ∀ argument : Value, argument.isForeignNumber = false →
    argument.isNumber = false → (∀ truth, argument.toHost ≠ .boolean truth) → ∀ world,
      (host.call [argument]).bounded world =
        (.error (.panic (.badAbsolute argument.toHost.kind) []), world)

end HostFunction

namespace MathOperation

variable {operation : MathOperation} {name : Text} {signature : Option Signature}
  {arguments : List Value}

theorem applyAll_adapters (operation : MathOperation) (objects : List HostObject) :
    Adapter.applyAll operation.adapters objects =
      if objects.length = operation.arity then
        Adapter.applyAll (Adapter.conversions objects.length operation.argumentKind?) objects
      else .error (.ofCause (.argumentCount operation.arity objects.length) none) := by
  rw [adapters, Adapter.applyAll_cons, Adapter.apply]
  by_cases same : objects.length = operation.arity
  · rw [if_pos (Int.natCast_inj.mpr same), if_pos same, same]
    rfl
  · rw [if_neg (mt Int.natCast_inj.mp same), if_neg same]
    rfl

theorem refuses_of_adapters {cause : Cause}
    (refused : Adapter.applyAll operation.adapters (arguments.map Value.toHost) =
      .error (.ofCause cause none)) :
    (operation.function name signature).Refuses cause.kind arguments :=
  HostFunction.refuses_of_applyAll refused

theorem refuses_count (other : arguments.length ≠ operation.arity) :
    (operation.function name signature).Refuses .arityMismatch arguments := by
  have counted : (arguments.map Value.toHost).length ≠ operation.arity := by simpa using other
  exact refuses_of_adapters ((applyAll_adapters _ _).trans (if_neg counted))

theorem refuses_type (checked : operation ≠ .absolute) (count : arguments.length = operation.arity)
    (plain : ∀ argument ∈ arguments, argument.isForeignNumber = false)
    (other : ∃ argument ∈ arguments, argument.isNumber = false) :
    (operation.function name signature).Refuses .typeMismatch arguments := by
  obtain ⟨argument, member, noNumber⟩ := other
  have mistyped := Value.toHost_ne_number (plain argument member) noNumber
  have counted : (arguments.map Value.toHost).length = operation.arity := by simpa using count
  obtain ⟨kind, kinds, single⟩ : ∃ kind, operation.argumentKind? = some kind ∧
      (kind = .integer → operation.arity = 1) := by
    cases operation with
    | absolute => exact absurd rfl checked
    | truncate => exact ⟨.integer, rfl, fun _ => rfl⟩
    | _ => exact ⟨.float, rfl, nofun⟩
  have converts (number : HostNumber) (among : number.toObject ∈ arguments.map Value.toHost)
      (fault : Fault) : ¬number.Unconvertible kind fault := by
    obtain ⟨given, inside, same⟩ := List.mem_map.mp among
    cases kind with
    | float =>
        obtain ⟨numeral, rfl, rfl⟩ := Value.exists_numeral (plain given inside) same
        exact numeral.convertible fault
    | integer =>
        -- The only argument is the one that is no number.
        obtain ⟨only, rfl⟩ := List.length_eq_one_iff.mp (count.trans (single rfl))
        obtain rfl := List.mem_singleton.mp member
        obtain rfl := List.mem_singleton.mp inside
        exact absurd same (mistyped number)
  obtain ⟨place, found, fails⟩ :=
    Adapter.applyAll_conversions_mistyped (List.mem_map_of_mem member) mistyped converts
  rw [← kinds] at fails
  exact refuses_of_adapters (((applyAll_adapters _ _).trans (if_pos counted)).trans fails)

/-- Only the right number of arguments reaches the operation, and all of them converted. -/
theorem handed_eq_iff (admits : operation.AdmittedBy signature)
    (body : List HostObject → Run HostObject) (world : World) (given : List HostObject) :
    (operation.function name signature).handed body arguments world = [given] ↔
      arguments.length = operation.arity ∧ List.Forall₂ (fun object result =>
        Adapter.Converts operation.argumentKind?.toList (some object) (some result))
          (arguments.map Value.toHost) given := by
  have ordered : (operation.function name signature).Ordered := fun found same => (admits found same).1
  rw [(HostFunction.guards ordered body arguments world).runs given]
  change Adapter.applyAll operation.adapters (arguments.map Value.toHost) = .ok given ∧ _ ↔ _
  rw [applyAll_adapters, ← Adapter.applyAll_conversions_eq_ok_iff, List.length_map]
  by_cases count : arguments.length = operation.arity
  · rw [if_pos count, and_iff_right count]
    refine and_iff_left_of_imp fun adapts found same => ?_
    have length := (Adapter.applyAll_counts adapts).1
    rw [List.length_map, count] at length
    exact length ▸ (admits found same).2
  · rw [if_neg count]
    exact ⟨nofun, fun both => absurd both.1 count⟩

/-- The absolute value takes a single argument as it is. -/
theorem call_absolute (admits : absolute.AdmittedBy signature) (argument : Value) (world : World) :
    (function .absolute name signature).call [argument] world =
      (Failure.orFault (runAbsolute argument.toHost) >>= (function .absolute name signature).accept,
        world) := by
  have ordered : (function .absolute name signature).Ordered :=
    fun found same => (admits found same).1
  have adapts : (function .absolute name signature).adapted [argument] = .ok [argument.toHost] :=
    (HostFunction.adapted_eq_ok_iff ordered).mpr ⟨rfl, fun found same => (admits found same).2⟩
  rw [HostFunction.call_eq_callAround, (HostFunction.callAround_of_ok adapts).1]
  change (Run.ofExcept (Failure.orFault (runAbsolute argument.toHost)) >>= fun result =>
    Run.ofExcept ((function .absolute name signature).accept result)) world = _
  cases runAbsolute argument.toHost <;> rfl

theorem call_absolute_truth (admits : absolute.AdmittedBy signature) {argument : Value}
    {truth : Bool} (same : argument.toHost = .boolean truth) (world : World) :
    (function .absolute name signature).call [argument] world =
      (.ok (.integer (if truth then 1 else 0) none), world) := by
  rw [call_absolute admits, same]
  cases truth <;> rfl

theorem call_absolute_other (admits : absolute.AdmittedBy signature) {argument : Value}
    (plain : argument.isForeignNumber = false) (other : argument.isNumber = false)
    (noTruth : ∀ truth, argument.toHost ≠ .boolean truth) (world : World) :
    ((function .absolute name signature).call [argument]).bounded world =
      (.error (.panic (.badAbsolute argument.toHost.kind) []), world) := by
  have fails : runAbsolute argument.toHost = .error (.badAbsolute argument.toHost.kind) := by
    have noNumber := Value.toHost_ne_number plain other
    cases kind : argument.toHost with
    | boolean truth => exact absurd kind (noTruth truth)
    | integer number => exact absurd kind (noNumber (.integer number))
    | float number => exact absurd kind (noNumber (.float number))
    | _ => rfl
  rw [Run.bounded, call_absolute admits, fails]
  rfl

theorem function_validates (admits : operation.AdmittedBy signature) :
    (operation.function name signature).Validates operation where
  performs := rfl
  suits _ length := MathOperation.suits_run length
  counts _ other := refuses_count other
  types checked _ count plain other := refuses_type checked count plain other
  runs body _ world given := handed_eq_iff admits body world given
  truths := by
    rintro rfl argument truth same world
    exact call_absolute_truth admits same world
  faults := by
    rintro rfl argument plain other noTruth world
    exact call_absolute_other admits plain other noTruth world

end MathOperation

namespace Library

theorem math_distinct (start : Text) : ((math.qualified start).map Prod.fst).Nodup := by
  have names : (math.qualified start).map Prod.fst =
      (math.map Prod.fst).map (start ++ "." ++ ·) := by
    rw [qualified, List.map_map, List.map_map]
    rfl
  rw [names]
  exact List.Nodup.map (List.append_right_injective _) (by decide)

theorem math_bound {start : Text} {item : Text × LibraryEntry}
    (member : item ∈ math.qualified start) :
    (∃ value, item.2 = .constant value) ∨
      ∃ (operation : MathOperation) (signature : Option Signature), operation.AdmittedBy signature ∧
        item.2 = .function (.callable (.math operation) signature none) operation.adapters true ∧
          item.2.bound item.1 = .ok (.function (operation.function item.1 signature)) := by
  obtain ⟨⟨label, make⟩, among, rfl⟩ := List.mem_map.mp member
  rcases math_entries start _ among with constant | ⟨operation, signature, admits, same⟩
  · exact .inl constant
  · refine .inr ⟨operation, signature, admits, same, ?_⟩
    change (make start).bound _ = _
    rw [show make start = _ from same]
    cases signature <;> rfl

/-- Under every prefix all functions of the library are found, and all of them validate the arguments
of their calls. -/
theorem math_validates (start : Text) (scope : ScopeId) (world : World)
    (there : scope < world.forest.scopes.size) :
    ∃ later, Run.installAll scope (math.qualified start) world = (.ok (), later) ∧
      ∀ name registrant adapters unwrap,
        (name, .function registrant adapters unwrap) ∈ math.qualified start →
          ∃ operation signature, registrant = .callable (.math operation) signature none ∧
            let host : HostFunction := ⟨name, .math operation, adapters, unwrap, signature⟩
            (Run.lookUp scope ⟨name, none⟩ later).1 = .ok (.function host) ∧
              host.Validates operation := by
  have binds : ∀ item ∈ math.qualified start, ∃ value, item.2.bound item.1 = .ok value := by
    intro item member
    rcases math_bound member with ⟨value, constant⟩ | ⟨_, _, _, _, bound⟩
    · exact ⟨value, by rw [constant, LibraryEntry.bound]⟩
    · exact ⟨_, bound⟩
  obtain ⟨later, installs, finds, -⟩ := Run.installAll_finds (math_distinct start) binds there
  refine ⟨later, installs, fun name registrant adapters unwrap member => ?_⟩
  rcases math_bound member with ⟨_, ⟨⟩⟩ | ⟨operation, signature, admits, same, bound⟩
  cases same
  refine ⟨operation, signature, rfl, ?_, MathOperation.function_validates admits⟩
  rw [Run.lookUp_eq, finds _ member _ bound]
  rfl

/-- A square root under a prefix that a program has chosen: a text and two numbers are refused, and a
single integer becomes a float. -/
theorem math_validates_squareRoot :
    ∃ later host, Run.installAll 0 (math.qualified "m") .nested = (.ok (), later) ∧
      (Run.lookUp 0 ⟨"m.sqrt", none⟩ later).1 = .ok (.function host) ∧
      host.Refuses .typeMismatch [.string "a" none] ∧
      host.Refuses .arityMismatch [.integer 4 none, .integer 9 none] ∧
      ∀ body world, host.handed body [.integer 4 none] world = [[.float (Binary64.ofInt 4)]] := by
  obtain ⟨later, installs, each⟩ := math_validates "m" 0 .nested (by decide)
  have member : (("m.sqrt" : Text), LibraryEntry.function
      (.callable (.math (.real .squareRoot)) oneNumber none) [.arity 1, .toFloat 0] true) ∈
        math.qualified "m" :=
    List.mem_of_getElem? (show (math.qualified "m")[3]? = some _ from rfl)
  obtain ⟨_, _, ⟨⟩, found, validates⟩ := each _ _ _ _ member
  refine ⟨later, _, installs, found, ?_, ?_, fun body world => ?_⟩
  · exact validates.types nofun _ rfl (by simp [Value.isForeignNumber])
      ⟨_, List.mem_singleton_self _, rfl⟩
  · exact validates.counts _ (by decide)
  · have converts := Adapter.Converts.cons (Numeral.integer 4 none).convert_float .nil
    exact (validates.runs body _ world _).mpr ⟨rfl, .cons converts .nil⟩

/-- A text is let through to the absolute value. -/
theorem math_overlooks_text :
    ¬∀ (start name : Text) (operation : MathOperation) (signature : Option Signature),
      (name, .function (.callable (.math operation) signature none) operation.adapters true) ∈
          math.qualified start →
        ∀ arguments : List Value, arguments.length = operation.arity →
          (∀ argument ∈ arguments, argument.isForeignNumber = false) →
          (∃ argument ∈ arguments, argument.isNumber = false) →
            (operation.function name signature).Refuses .typeMismatch arguments := by
  intro validates
  have member : (("math.abs" : Text), LibraryEntry.function (.callable (.math .absolute) oneNumber none)
      MathOperation.absolute.adapters true) ∈ math.qualified "math" :=
    List.mem_of_getElem? (show (math.qualified "math")[9]? = some _ from rfl)
  have refuses := validates "math" "math.abs" .absolute oneNumber member [.string "a" none] rfl
    (by simp [Value.isForeignNumber]) ⟨_, List.mem_singleton_self _, rfl⟩
  have handed (body : List HostObject → Run HostObject) :
      (MathOperation.function .absolute "math.abs" oneNumber).handed body [.string "a" none]
        .nested = [[.text "a"]] :=
    (MathOperation.handed_eq_iff (oneNumber_admits rfl) _ _ _).mpr
      ⟨rfl, .cons Adapter.Converts.nil .nil⟩
  exact nomatch (handed fun _ => pure (.text "a")).symm.trans (refuses.idle _ .nested)

end Library

end Lisplet
