import Lisplet.Evaluation.Application
import Lisplet.Proofs.Literals

/-!
What host functions make of their arguments: their results hold nothing that was not in the
arguments or could not stand in a source, and their failures are their own.
-/

namespace Lisplet

/-- A failure that went through no expression yet. -/
def Failure.IsFresh : Failure → Prop
  | .error inner => inner.passed = []
  | .fault _ passed => passed = []
  | .panic _ _ => False
  | .unreadable _ | .issue _ => True

theorem Failure.isFresh_ofReading (reason : ReadFailure) : (Failure.ofReading reason).IsFresh := by
  cases reason with
  | issues issues => trivial
  | oversizedNumber digits => rfl

/-- The source cannot be read for this reason, as a whole or as a single expression. -/
def Source.Refuses (source : Source) (reason : ReadFailure) : Prop :=
  source.readAll = .error reason ∨ source.readOne = .error reason

/-- Values that may go around and objects of the host that may stand for them, operations that host
functions may perform, sources that may be read, and failures that may be raised. -/
structure Contents where
  value : Value → Prop
  object : HostObject → Prop
  operation : Operation → Prop
  source : Source → Prop
  failure : Failure → Prop

namespace Contents

/-- All literals and all failures of the host are let in, wherever they stem from. -/
structure Tolerant (contents : Contents) : Prop where
  plain : ∀ value : Value, value.Plain → contents.value value
  fresh : ∀ failure : Failure, failure.IsFresh → contents.failure failure

/-- The failures of the language and of reading are among those that may be raised. -/
structure Raises (contents : Contents) : Prop where
  fresh : ∀ failure, contents.failure failure → failure.IsFresh
  fault : ∀ fault, contents.failure (.ofFault fault)
  unplaced : ∀ cause, contents.failure (.ofCause cause none)
  placed : ∀ cause value, contents.value value → contents.failure (.ofCause cause value.ref)
  refused : ∀ source reason, contents.source source → source.Refuses reason →
    contents.failure (.ofReading reason)

/-- What evaluation and host functions make of such contents are such contents again. -/
structure Lawful (contents : Contents) : Prop extends contents.Raises where
  nil : contents.value .nil
  boolean : ∀ truth, contents.value (.boolean truth none)
  integer : ∀ number, contents.value (.integer number none)
  float : ∀ number, contents.value (.float number none)
  string : ∀ text, contents.value (.string text none)
  list : ∀ items, (∀ item ∈ items, contents.value item) → contents.value (.list items none)
  item : ∀ items ref, contents.value (.list items ref) → ∀ item ∈ items, contents.value item
  body : ∀ name parameters body scope ref,
    contents.value (.closure name parameters body scope ref) → ∀ form ∈ body, contents.value form
  form : ∀ special, contents.value (.form special)
  function : ∀ host, contents.value (.function host) ↔ contents.operation host.operation
  wrap : ∀ object, contents.object object → contents.value (.foreign object none)
  unwrap : ∀ object ref, contents.value (.foreign object ref) → contents.object object
  read : ∀ source roots, contents.source source → (Reader.read source).roots = .ok roots →
    ∀ root ∈ roots, contents.value root
  nothing : contents.object .nothing
  truth : ∀ truth, contents.object (.boolean truth)
  whole : ∀ number, contents.object (.integer number)
  real : ∀ number, contents.object (.float number)
  text : ∀ content, contents.object (.text content)
  items : ∀ items, contents.object (.list items) ↔ ∀ item ∈ items, contents.object item
  tuple : ∀ items, contents.object (.tuple items) ↔ ∀ item ∈ items, contents.object item
  dictionary : ∀ entries, contents.object (.dictionary entries) ↔
    ∀ entry ∈ entries, contents.object entry.1 ∧ contents.object entry.2
  inner : ∀ value, contents.object (.value value) ↔ contents.value value
  builtin : ∀ operation, contents.operation (.builtin operation)
  math : ∀ operation, contents.operation (.math operation)
  sample : ∀ operation, contents.operation (.sample operation) → contents.Tolerant

/-- Contents that do not depend on where they stem from. -/
def ofAnywhere (value : Value → Prop) (object : HostObject → Prop) : Contents :=
  ⟨value, object, fun _ => True, fun _ => True, Failure.IsFresh⟩

variable {value : Value → Prop} {object : HostObject → Prop}

theorem ofAnywhere_raises : (ofAnywhere value object).Raises where
  fresh _ fresh := fresh
  fault _ := rfl
  unplaced _ := rfl
  placed _ _ _ := rfl
  refused _ reason _ _ := Failure.isFresh_ofReading reason

theorem ofAnywhere_tolerant (plain : ∀ literal : Value, literal.Plain → value literal) :
    (ofAnywhere value object).Tolerant :=
  ⟨plain, fun _ fresh => fresh⟩

def any : Contents :=
  ofAnywhere (fun _ => True) fun _ => True

theorem any_lawful : any.Lawful := by
  constructor
  case toRaises => exact ofAnywhere_raises
  case sample => exact fun _ _ => ofAnywhere_tolerant fun _ _ => trivial
  all_goals simp [any, ofAnywhere]

end Contents

def Results {ε α : Type} (property : α → Prop) (outcome : Except ε α) : Prop :=
  ∀ result, outcome = .ok result → property result

namespace Results

variable {ε α β : Type}

theorem pure {property : α → Prop} {result : α} (holds : property result) :
    Results property (pure result : Except ε α) := by
  rintro _ ⟨⟩
  exact holds

theorem bind {outcome : Except ε α} {next : α → Except ε β} {property : β → Prop}
    (continues : ∀ result, Results property (next result)) : Results property (outcome >>= next) := by
  intro result gives
  cases outcome with
  | error failure => cases gives
  | ok given => exact continues given result gives

end Results

variable {contents : Contents}

/-- A computation of the host has a result with a property, or fails on its own. -/
def Delivers {α : Type} (contents : Contents) (property : α → Prop) (outcome : Except Failure α) :
    Prop :=
  Results property outcome ∧ ∀ failure, outcome = .error failure → contents.failure failure

namespace Delivers

variable {α β : Type}

theorem ok {property : α → Prop} {result : α} (holds : property result) :
    Delivers contents property (.ok result) := by
  refine ⟨?_, nofun⟩
  rintro _ ⟨⟩
  exact holds

theorem error {property : α → Prop} {failure : Failure} (fails : contents.failure failure) :
    Delivers contents property (.error failure) := by
  refine ⟨nofun, ?_⟩
  rintro _ ⟨⟩
  exact fails

theorem ofCause (lawful : contents.Lawful) {property : α → Prop} (cause : Cause) :
    Delivers contents property (.error (.ofCause cause none)) :=
  error (lawful.unplaced cause)

theorem ofFault (lawful : contents.Lawful) {property : α → Prop} (fault : Fault) :
    Delivers contents property (.error (.ofFault fault)) :=
  error (lawful.fault fault)

theorem orFault (lawful : contents.Lawful) {property : α → Prop} {outcome : Except Fault α}
    (results : Results property outcome) : Delivers contents property (Failure.orFault outcome) := by
  cases outcome with
  | ok result => exact ok (results result rfl)
  | error fault => exact ofFault lawful fault

theorem bind {outcome : Except Failure α} {next : α → Except Failure β} {property : α → Prop}
    {final : β → Prop} (first : Delivers contents property outcome)
    (continues : ∀ result, property result → Delivers contents final (next result)) :
    Delivers contents final (outcome >>= next) := by
  cases outcome with
  | ok result => exact continues result (first.1 result rfl)
  | error failure => exact error (first.2 failure rfl)

theorem map {outcome : Except Failure α} {change : α → β} {property : α → Prop} {final : β → Prop}
    (first : Delivers contents property outcome)
    (holds : ∀ result, property result → final (change result)) :
    Delivers contents final (outcome.map change) := by
  cases outcome with
  | ok result => exact ok (holds result (first.1 result rfl))
  | error failure => exact error (first.2 failure rfl)

theorem foldlM {ι : Type} {step : α → ι → Except Failure α} {property : α → Prop}
    (steps : ∀ state item, property state → Delivers contents property (step state item))
    (items : List ι) {state : α} (holds : property state) :
    Delivers contents property (items.foldlM step state) := by
  induction items generalizing state with
  | nil => exact ok holds
  | cons item items ih => exact (steps state item holds).bind fun result kept => ih kept

theorem mapM {ι : Type} {step : ι → Except Failure α} {property : α → Prop}
    (steps : ∀ item, Delivers contents property (step item)) (items : List ι) :
    Delivers contents (fun results => ∀ result ∈ results, property result) (items.mapM step) := by
  induction items with
  | nil => exact ok fun result member => absurd member List.not_mem_nil
  | cons item items ih =>
      rw [List.mapM_cons]
      refine (steps item).bind fun first holds => ih.bind fun rest others => ok ?_
      exact List.forall_mem_cons.mpr ⟨holds, others⟩

end Delivers

def Contents.All (contents : Contents) (objects : List HostObject) : Prop :=
  ∀ object ∈ objects, contents.object object

namespace Operands

theorem read_delivers (lawful : contents.Lawful) (operator : Text) (minimum : Nat) (arguments : List HostObject) :
    Delivers contents (fun _ => True) (read operator minimum arguments) := by
  have numbers (argument : HostObject) :
      Delivers contents (fun _ => True) (number operator argument) := by
    unfold number
    split
    · exact .ok trivial
    · exact .ofCause lawful _
  unfold read
  split
  · exact .ofCause lawful _
  · cases arguments with
    | nil => exact .ofCause lawful _
    | cons first rest =>
        refine (numbers first).bind fun head _ => (Delivers.mapM numbers rest).bind fun others _ => ?_
        exact .orFault lawful fun _ _ => trivial

end Operands

namespace Arithmetic

theorem run_delivers (lawful : contents.Lawful) (operator : Arithmetic)
    (arguments : List HostObject) : Delivers contents contents.object (operator.run arguments) := by
  refine (Operands.read_delivers lawful _ _ arguments).bind fun operands _ => .orFault lawful ?_
  unfold compute
  split
  · split
    · exact .bind fun _ => .bind fun _ => .bind fun _ => .pure (lawful.real _)
    · exact .bind fun _ => .pure (lawful.whole _)
  · exact .bind fun _ => .pure (lawful.real _)

end Arithmetic

namespace Comparison

theorem run_delivers (lawful : contents.Lawful) (comparison : Comparison)
    (arguments : List HostObject) : Delivers contents contents.object (comparison.run arguments) := by
  have reads : Delivers contents (fun _ => True) (Comparands.read comparison.name arguments) := by
    unfold Comparands.read
    split
    · exact .ofCause lawful _
    · split
      · exact .ok trivial
      · exact (Operands.read_delivers lawful _ _ arguments).map fun _ _ => trivial
  exact reads.bind fun _ _ => .ok (lawful.truth _)

end Comparison

namespace MathOperation

theorem run_results (lawful : contents.Lawful) (operation : MathOperation)
    (arguments : List HostObject) : Results contents.object (operation.run arguments) := by
  unfold run
  split
  · exact .bind fun _ => .bind fun _ => .pure (lawful.real _)
  · exact .bind fun _ => .bind fun _ => .pure (lawful.whole _)
  · exact .bind fun _ => .bind fun _ => .pure (lawful.whole _)
  · exact .bind fun _ => .bind fun _ => .bind fun _ => .pure (lawful.real _)
  · unfold runAbsolute
    split
    · exact .pure (lawful.whole _)
    · exact .pure (lawful.whole _)
    · exact .pure (lawful.real _)
    · exact nofun
  · split
    · exact .bind fun _ => .pure (lawful.whole _)
    · exact nofun
  · exact nofun

end MathOperation

namespace Builtin

theorem run_delivers (lawful : contents.Lawful) (operation : Builtin)
    (arguments : List HostObject) : Delivers contents contents.object (operation.run arguments) := by
  unfold run
  split
  · exact Arithmetic.run_delivers lawful _ _
  · exact Comparison.run_delivers lawful _ _
  · exact .ok (lawful.truth _)
  · exact .ofCause lawful _
  · exact .ok (lawful.whole _)
  · exact .ok (lawful.whole _)
  · exact .ofCause lawful _
  · next content others =>
      refine .orFault lawful fun object formats => ?_
      cases formatted : Format.run content others with
      | error fault =>
          rw [formatted] at formats
          cases formats
      | ok text =>
          rw [formatted] at formats
          cases formats
          exact lawful.text text
  · exact .ofCause lawful _
  · exact .ofFault lawful _
  · exact .ok lawful.nothing
  · exact .ok (lawful.text _)
  · exact .ofFault lawful _

end Builtin

namespace Sample

theorem entryOf_results (entries : List (HostObject × HostObject)) (key : HostObject)
    (allowed : ∀ entry ∈ entries, contents.object entry.1 ∧ contents.object entry.2) :
    Results contents.object (entryOf entries key) := by
  unfold entryOf
  split
  · next object found =>
      obtain ⟨entry, present, rfl⟩ := Option.map_eq_some_iff.mp found
      exact .pure (allowed entry (List.mem_of_find?_eq_some present)).2
  · exact nofun

theorem firstOf_results (sequence : Text) {items : List HostObject} (allowed : contents.All items) :
    Results contents.object (firstOf sequence items) := by
  cases items with
  | nil => exact nofun
  | cons head rest => exact .pure (allowed head List.mem_cons_self)

theorem runDouble_results (lawful : contents.Lawful) {argument : HostObject}
    (allowed : contents.object argument) : Results contents.object (runDouble argument) := by
  have twice {items : List HostObject} (all : contents.All items) : contents.All (items ++ items) :=
    fun item member => all item (by simpa using member)
  unfold runDouble
  split
  · exact .pure (lawful.whole _)
  · exact .pure (lawful.whole _)
  · exact .pure (lawful.real _)
  · exact .pure (lawful.text _)
  · exact .pure ((lawful.items _).mpr (twice ((lawful.items _).mp allowed)))
  · exact .pure ((lawful.tuple _).mpr (twice ((lawful.tuple _).mp allowed)))
  · exact nofun

theorem runLookUp_results (lawful : contents.Lawful) {argument : HostObject}
    (allowed : contents.object argument) : Results contents.object (runLookUp argument) := by
  unfold runLookUp
  split
  · exact entryOf_results _ _ ((lawful.dictionary _).mp allowed)
  all_goals exact nofun

theorem runFirst_results (lawful : contents.Lawful) {argument : HostObject}
    (allowed : contents.object argument) : Results contents.object (runFirst argument) := by
  unfold runFirst
  split
  · exact firstOf_results _ ((lawful.items _).mp allowed)
  · exact firstOf_results _ ((lawful.tuple _).mp allowed)
  · next items ref =>
      refine firstOf_results _ (List.forall_mem_map.mpr fun item member => ?_)
      exact (lawful.inner item).mpr (lawful.item items ref ((lawful.inner _).mp allowed) item member)
  · exact firstOf_results _ (List.forall_mem_map.mpr fun point _ => lawful.text [point])
  · exact entryOf_results _ _ ((lawful.dictionary _).mp allowed)
  · exact nofun

theorem runLength_results (lawful : contents.Lawful) (argument : HostObject) :
    Results contents.object (runLength argument) := by
  unfold runLength
  split
  all_goals first
    | exact .pure (lawful.whole _)
    | exact nofun

theorem runRead_delivers (lawful : contents.Lawful) (tolerant : contents.Tolerant)
    (argument : HostObject) :
    Delivers contents contents.object (runRead argument) := by
  have looks : Delivers contents (fun _ => True) (Failure.orFault (programPieces argument)) :=
    .orFault lawful fun _ _ => trivial
  refine looks.bind fun pieces _ => ?_
  split
  · next value found =>
      exact .ok ((lawful.inner value).mpr (tolerant.plain value (Source.plain_of_readOne found)))
  · next reason _ => exact .error (tolerant.fresh _ (Failure.isFresh_ofReading reason))

theorem raises_fresh {sample : Sample} {failure : Failure}
    (raised : sample.raises = some failure) : failure.IsFresh := by
  unfold raises at raised
  split at raised <;> cases raised <;> first | rfl | trivial

theorem object_of_result (lawful : contents.Lawful) {sample : Sample} {arguments : List HostObject}
    (allowed : contents.All arguments) {object : HostObject}
    (result : sample.result? arguments = some object) : contents.object object := by
  have nested : contents.object nestedObject := by
    simp [nestedObject, lawful.items, lawful.whole, lawful.real, lawful.nothing, lawful.truth,
      lawful.text]
  unfold result? at result
  split at result <;> cases result
  all_goals simp_all [Contents.All, lawful.items, lawful.tuple, lawful.dictionary, lawful.whole,
    lawful.text, lawful.nothing]

theorem run_delivers (lawful : contents.Lawful) (tolerant : contents.Tolerant) (sample : Sample)
    {arguments : List HostObject} (allowed : contents.All arguments) : Delivers contents contents.object (sample.run arguments) := by
  unfold run
  split
  · next failure raised => exact .error (tolerant.fresh failure (raises_fresh raised))
  · split
    · exact .orFault lawful (runDouble_results lawful (allowed _ List.mem_cons_self))
    · exact .orFault lawful (runLookUp_results lawful (allowed _ List.mem_cons_self))
    · exact .orFault lawful (runFirst_results lawful (allowed _ List.mem_cons_self))
    · exact .orFault lawful (runLength_results lawful _)
    · exact runRead_delivers lawful tolerant _
    · split
      · next object result => exact .ok (object_of_result lawful allowed result)
      · exact .ofFault lawful _

end Sample

theorem Contents.Lawful.operation_delivers (lawful : contents.Lawful) {operation : Operation}
    (permitted : contents.operation operation) {arguments : List HostObject}
    (allowed : contents.All arguments) :
    Delivers contents contents.object (operation.run arguments) := by
  cases operation with
  | builtin operation => exact Builtin.run_delivers lawful operation arguments
  | math operation => exact .orFault lawful (MathOperation.run_results lawful operation arguments)
  | sample operation => exact Sample.run_delivers lawful (lawful.sample operation permitted) operation allowed

namespace Adapter

theorem index_delivers (lawful : contents.Lawful) (place : Int) (count : Nat) :
    Delivers contents (fun _ => True) (index place count) := by
  unfold index
  split
  · exact .ofCause lawful _
  · split
    · exact .ok trivial
    · split
      · exact .ok trivial
      · split
        · exact .ofFault lawful _
        · exact .ofFault lawful _

theorem convert_delivers (lawful : contents.Lawful) (place : Int)
    {conversion : HostNumber → Except Fault HostObject}
    (converts : ∀ number, Results contents.object (conversion number))
    {arguments : List HostObject} (allowed : contents.All arguments) :
    Delivers contents contents.All (convert place conversion arguments) := by
  refine (index_delivers lawful place arguments.length).bind fun index _ => ?_
  dsimp only
  split
  · exact .ofCause lawful _
  · next number found =>
      refine (Delivers.orFault lawful (converts number)).bind fun converted fine => .ok ?_
      intro object member
      rcases List.mem_or_eq_of_mem_set member with member | rfl
      · exact allowed object member
      · exact fine

theorem apply_delivers (lawful : contents.Lawful) (adapter : Adapter)
    {arguments : List HostObject} (allowed : contents.All arguments) :
    Delivers contents contents.All (apply arguments adapter) := by
  cases adapter with
  | arity count =>
      rw [apply]
      split
      · exact .ok allowed
      · exact .ofCause lawful _
  | toFloat place =>
      refine convert_delivers lawful place (fun number => ?_) allowed
      intro object converts
      cases converted : number.toFloat with
      | error fault =>
          rw [converted] at converts
          cases converts
      | ok float =>
          rw [converted] at converts
          cases converts
          exact lawful.real float
  | toInteger place =>
      refine convert_delivers lawful place (fun number => ?_) allowed
      intro object converts
      cases converted : number.toInteger with
      | error fault =>
          rw [converted] at converts
          cases converts
      | ok whole =>
          rw [converted] at converts
          cases converts
          exact lawful.whole whole

end Adapter

mutual

theorem Contents.Lawful.toHost (lawful : contents.Lawful) (value : Value)
    (allowed : contents.value value) : contents.object value.toHost := by
  match value with
  | .integer number ref => exact lawful.whole number.toInt
  | .float number ref => exact lawful.real number
  | .string text ref => exact lawful.text text
  | .boolean truth ref => exact lawful.truth truth
  | .nil => exact lawful.nothing
  | .foreign object ref => exact lawful.unwrap object ref allowed
  | .identifier name => exact (lawful.inner _).mpr allowed
  | .closure name parameters body scope ref => exact (lawful.inner _).mpr allowed
  | .function host => exact (lawful.inner _).mpr allowed
  | .form special => exact (lawful.inner _).mpr allowed
  | .list items ref =>
      exact (lawful.items _).mpr (lawful.allToHost items (lawful.item items ref allowed))

theorem Contents.Lawful.allToHost (lawful : contents.Lawful) (values : List Value)
    (allowed : ∀ value ∈ values, contents.value value) : contents.All (Value.allToHost values) := by
  match values with
  | [] => exact fun object member => absurd member List.not_mem_nil
  | value :: rest =>
      rw [Value.allToHost]
      exact List.forall_mem_cons.mpr ⟨lawful.toHost value (allowed value List.mem_cons_self),
        lawful.allToHost rest fun other member => allowed other (List.mem_cons_of_mem value member)⟩

end

mutual

theorem Contents.Lawful.ofHost (lawful : contents.Lawful) (object : HostObject)
    (allowed : contents.object object) : contents.value (Value.ofHost object) := by
  match object with
  | .nothing => exact lawful.nil
  | .boolean truth => exact lawful.boolean truth
  | .integer number => exact lawful.integer _
  | .float number => exact lawful.float number
  | .text content => exact lawful.string content
  | .value inner => exact (lawful.inner inner).mp allowed
  | .tuple items => exact lawful.wrap _ allowed
  | .dictionary entries => exact lawful.wrap _ allowed
  | .list items =>
      exact lawful.list _ (lawful.allOfHost items ((lawful.items items).mp allowed))

theorem Contents.Lawful.allOfHost (lawful : contents.Lawful) (objects : List HostObject)
    (allowed : contents.All objects) :
    ∀ value ∈ Value.allOfHost objects, contents.value value := by
  match objects with
  | [] => exact fun value member => absurd member List.not_mem_nil
  | object :: rest =>
      rw [Value.allOfHost]
      exact List.forall_mem_cons.mpr ⟨lawful.ofHost object (allowed object List.mem_cons_self),
        lawful.allOfHost rest fun other member => allowed other (List.mem_cons_of_mem object member)⟩

end

namespace Contents.Lawful

theorem adapted_delivers (lawful : contents.Lawful) (host : HostFunction) {arguments : List Value}
    (allowed : ∀ argument ∈ arguments, contents.value argument) :
    Delivers contents contents.All (host.adapted arguments) := by
  have handed : contents.All (host.handOver arguments) := by
    unfold HostFunction.handOver
    split
    · exact List.forall_mem_map.mpr fun argument member =>
        lawful.toHost argument (allowed argument member)
    · exact List.forall_mem_map.mpr fun argument member =>
        (lawful.inner argument).mpr (allowed argument member)
  have binds (objects : List HostObject) : Delivers contents (fun _ => True) (host.bind objects) := by
    unfold HostFunction.bind
    split
    · exact .ok trivial
    · split
      · exact .ok trivial
      · exact .ofCause lawful _
  refine Delivers.bind ?_ fun objects fine => (binds objects).bind fun _ _ => .ok fine
  exact Delivers.foldlM (fun objects adapter fine => Adapter.apply_delivers lawful adapter fine)
    host.adapters handed

theorem accept_delivers (lawful : contents.Lawful) (host : HostFunction) {object : HostObject}
    (allowed : contents.object object) : Delivers contents contents.value (host.accept object) := by
  unfold HostFunction.accept
  split
  · exact .ofFault lawful _
  · exact .ok (lawful.ofHost object allowed)

end Contents.Lawful

end Lisplet
