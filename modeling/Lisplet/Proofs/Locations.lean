import Lisplet.Proofs.Histories
import Lisplet.Proofs.Places

/-!
Where values and failures come from. As long as a session uses the functions of the language and of
its mathematical library only, every place that a binding or a failure shows is one in a source that
the session has read.
-/

namespace Lisplet

/-! ### Located values -/

/-- The operation belongs to the language or to its mathematical library. -/
def Operation.IsStandard : Operation → Prop
  | .builtin _ | .math _ => True
  | .sample _ => False

/-- The place, if there is one, is the start of a fitting token of one of the sources. -/
def StartsIn (sources : Source → Prop) (fits : Token → Prop) (place : Option Ref) : Prop :=
  ∀ ref, place = some ref → ∃ source token, sources source ∧ source.Starts token ref ∧ fits token

def AtOpening (sources : Source → Prop) (place : Option Ref) : Prop :=
  StartsIn sources (fun token => token.kind = .opening) place

/-- The place of the atom, if it has one, is the start of a token that is read as the atom. -/
def AtAtom (sources : Source → Prop) (atom : Value) : Prop :=
  StartsIn sources (fun token => Reader.atom? token = some atom) atom.ref

mutual

/-- All places in the value are starts of tokens of the sources: of an opening parenthesis for a
list and a closure, of itself for an atom. Truth values and objects of the host have no place, and
all functions are standard. -/
def Value.Located (sources : Source → Prop) : Value → Prop
  | .identifier name => AtAtom sources (.identifier name)
  | .integer number ref => AtAtom sources (.integer number ref)
  | .float number ref => AtAtom sources (.float number ref)
  | .string text ref => AtAtom sources (.string text ref)
  | .boolean _ ref => ref = none
  | .list items ref => AtOpening sources ref ∧ Value.AllLocated sources items
  | .closure _ parameters body _ ref => AtOpening sources ref ∧
      (∀ parameter ∈ parameters, AtAtom sources (.identifier parameter)) ∧
        Value.AllLocated sources body
  | .function host => host.operation.IsStandard
  | .foreign object ref => ref = none ∧ object.Located sources
  | .nil | .form _ => True

def Value.AllLocated (sources : Source → Prop) : List Value → Prop
  | [] => True
  | value :: rest => value.Located sources ∧ Value.AllLocated sources rest

def HostObject.Located (sources : Source → Prop) : HostObject → Prop
  | .list items => HostObject.AllLocated sources items
  | .tuple items => HostObject.AllLocated sources items
  | .dictionary entries => HostObject.EntriesLocated sources entries
  | .value inner => inner.Located sources
  | .nothing | .boolean _ | .integer _ | .float _ | .text _ => True

def HostObject.AllLocated (sources : Source → Prop) : List HostObject → Prop
  | [] => True
  | object :: rest => object.Located sources ∧ HostObject.AllLocated sources rest

def HostObject.EntriesLocated (sources : Source → Prop) : List (HostObject × HostObject) → Prop
  | [] => True
  | (key, object) :: rest =>
    (key.Located sources ∧ object.Located sources) ∧ HostObject.EntriesLocated sources rest

end

variable {sources more : Source → Prop}

theorem Value.allLocated_iff (values : List Value) :
    Value.AllLocated sources values ↔ ∀ value ∈ values, value.Located sources := by
  induction values with
  | nil => simp [Value.AllLocated]
  | cons value rest ih => simp [Value.AllLocated, ih]

theorem HostObject.allLocated_iff (objects : List HostObject) :
    HostObject.AllLocated sources objects ↔ ∀ object ∈ objects, object.Located sources := by
  induction objects with
  | nil => simp [HostObject.AllLocated]
  | cons object rest ih => simp [HostObject.AllLocated, ih]

theorem HostObject.entriesLocated_iff (entries : List (HostObject × HostObject)) :
    HostObject.EntriesLocated sources entries ↔
      ∀ entry ∈ entries, entry.1.Located sources ∧ entry.2.Located sources := by
  induction entries with
  | nil => simp [HostObject.EntriesLocated]
  | cons entry rest ih => simp [HostObject.EntriesLocated, ih]

theorem StartsIn.mono {fits : Token → Prop} {place : Option Ref}
    (grows : ∀ source, sources source → more source) (starts : StartsIn sources fits place) :
    StartsIn more fits place := by
  intro ref same
  obtain ⟨source, token, given, stands, fit⟩ := starts ref same
  exact ⟨source, token, grows source given, stands, fit⟩

mutual

theorem Value.Located.mono (grows : ∀ source, sources source → more source) (value : Value)
    (located : value.Located sources) : value.Located more := by
  match value with
  | .identifier _ | .integer _ _ | .float _ _ | .string _ _ => exact StartsIn.mono grows located
  | .list items ref => exact ⟨located.1.mono grows, Value.AllLocated.mono grows items located.2⟩
  | .closure name parameters body scope ref =>
      exact ⟨located.1.mono grows, fun parameter member => (located.2.1 parameter member).mono grows,
        Value.AllLocated.mono grows body located.2.2⟩
  | .foreign object ref => exact ⟨located.1, HostObject.Located.mono grows object located.2⟩
  | .boolean _ _ | .function _ => exact located
  | .nil | .form _ => trivial

theorem Value.AllLocated.mono (grows : ∀ source, sources source → more source)
    (values : List Value) (located : Value.AllLocated sources values) :
    Value.AllLocated more values := by
  match values with
  | [] => trivial
  | value :: rest =>
      exact ⟨Value.Located.mono grows value located.1, Value.AllLocated.mono grows rest located.2⟩

theorem HostObject.Located.mono (grows : ∀ source, sources source → more source)
    (object : HostObject) (located : object.Located sources) : object.Located more := by
  match object with
  | .list items => exact HostObject.AllLocated.mono grows items located
  | .tuple items => exact HostObject.AllLocated.mono grows items located
  | .dictionary entries => exact HostObject.EntriesLocated.mono grows entries located
  | .value inner => exact Value.Located.mono grows inner located
  | .nothing | .boolean _ | .integer _ | .float _ | .text _ => trivial

theorem HostObject.AllLocated.mono (grows : ∀ source, sources source → more source)
    (objects : List HostObject) (located : HostObject.AllLocated sources objects) :
    HostObject.AllLocated more objects := by
  match objects with
  | [] => trivial
  | object :: rest =>
      exact ⟨HostObject.Located.mono grows object located.1,
        HostObject.AllLocated.mono grows rest located.2⟩

theorem HostObject.EntriesLocated.mono (grows : ∀ source, sources source → more source)
    (entries : List (HostObject × HostObject))
    (located : HostObject.EntriesLocated sources entries) :
    HostObject.EntriesLocated more entries := by
  match entries with
  | [] => trivial
  | (key, object) :: rest =>
      exact ⟨⟨HostObject.Located.mono grows key located.1.1,
        HostObject.Located.mono grows object located.1.2⟩,
        HostObject.EntriesLocated.mono grows rest located.2⟩

end

theorem StartsIn.weaken {fits weaker : Token → Prop} {place : Option Ref}
    (implies : ∀ token, fits token → weaker token) (starts : StartsIn sources fits place) :
    StartsIn sources weaker place := by
  intro ref same
  obtain ⟨source, token, given, stands, fit⟩ := starts ref same
  exact ⟨source, token, given, stands, implies token fit⟩

/-- The places of located values are those of tokens that open something or stand for something. -/
theorem Value.Located.startsIn {value : Value} (located : value.Located sources) :
    StartsIn sources (fun token => token.kind ≠ .closing) value.ref := by
  have opening (token : Token) (opens : token.kind = .opening) : token.kind ≠ .closing :=
    fun closes => nomatch opens.symm.trans closes
  cases value with
  | identifier _ | integer _ _ | float _ _ | string _ _ =>
      exact StartsIn.weaken (fun token reads => (Reader.kind_of_atom reads).2.1) located
  | list items ref => exact located.1.weaken opening
  | closure name parameters body scope ref => exact located.1.weaken opening
  | boolean truth ref =>
      obtain rfl : ref = none := located
      exact nofun
  | foreign object ref =>
      obtain rfl : ref = none := located.1
      exact nofun
  | nil | function _ | form _ => exact nofun

/-! ### What reading locates -/

theorem Reader.Level.located {source : Source} {inside tokens items rest strays unclosed}
    (given : sources source) (level : Level inside tokens items rest strays unclosed)
    (there : ∀ token ∈ tokens, token ∈ source.tokens) : ∀ item ∈ items, item.Located sources := by
  have atOpening {opening : Token} (isOpening : opening.kind = .opening)
      (member : opening ∈ source.tokens) : AtOpening sources opening.ref :=
    fun ref place => ⟨source, opening, given, Source.starts_of_ref member place, isOpening⟩
  induction level with
  | finish | close => exact List.forall_mem_nil _
  | stray _ _ ih => exact ih fun token member => there token (List.mem_cons_of_mem _ member)
  | @atom _ token _ value _ _ _ _ atom _ ih =>
      have rest := ih fun other member => there other (List.mem_cons_of_mem token member)
      have ref : token.ref = value.ref := by
        unfold atom? at atom
        split at atom <;> cases atom <;> rfl
      have atAtom : AtAtom sources value := fun place same => ⟨source, token, given,
        Source.starts_of_ref (there token List.mem_cons_self) (ref.trans same), atom⟩
      refine List.forall_mem_cons.2 ⟨?_, rest⟩
      unfold atom? at atom
      split at atom <;> cases atom <;> exact atAtom
  | @list _ opening closing tokens behind inner _ _ _ _ isOpening _ level _ ihInner ihBehind =>
      have within (token : Token) (member : token ∈ tokens) : token ∈ source.tokens :=
        there token (List.mem_cons_of_mem opening member)
      have after (token : Token) (member : token ∈ behind) : token ∈ source.tokens :=
        within token (level.suffix.subset (List.mem_cons_of_mem closing member))
      exact List.forall_mem_cons.2 ⟨⟨atOpening isOpening (there opening List.mem_cons_self),
        (Value.allLocated_iff inner).2 (ihInner within)⟩, ihBehind after⟩
  | @cutOff _ opening tokens inner _ isOpening _ ih =>
      have within (token : Token) (member : token ∈ tokens) : token ∈ source.tokens :=
        there token (List.mem_cons_of_mem opening member)
      exact List.forall_mem_singleton.2 ⟨atOpening isOpening (there opening List.mem_cons_self),
        (Value.allLocated_iff inner).2 (ih within)⟩

theorem Reader.read_located {source : Source} {roots : List Value} (given : sources source)
    (reads : (read source).roots = .ok roots) : ∀ root ∈ roots, root.Located sources := by
  cases ended : source.ending with
  | error failure =>
      rw [read_breaks ended] at reads
      cases reads
  | ok last =>
      obtain ⟨items, strays, unclosed, level, reading⟩ :=
        read_gives ended (Source.ending_kind ended) source.tokens_kind
      rw [reading] at reads
      cases reads
      exact level.located given fun token member => member

theorem Token.strays_subset (depth : Nat) (tokens : List Token) :
    Token.strays depth tokens ⊆ tokens := by
  induction tokens generalizing depth with
  | nil => exact List.nil_subset _
  | cons token tokens ih =>
      rw [Token.strays_cons]
      split
      · exact List.cons_subset_cons token (ih _)
      · exact List.subset_cons_of_subset token (ih _)

theorem Token.ref_of_strayIssues {tokens : List Token} {issue : Issue}
    (member : issue ∈ Token.strayIssues tokens) : ∃ token ∈ tokens, token.ref = issue.ref := by
  cases tokens with
  | nil => cases member
  | cons first tokens =>
      rw [Token.strayIssues, List.mem_append] at member
      rcases member with here | later
      · split at here
        · rw [List.mem_singleton.1 here]
          exact ⟨first, List.mem_cons_self, rfl⟩
        · cases here
      · obtain ⟨stray, isStray, rfl⟩ := List.mem_map.1 later
        exact ⟨stray, List.mem_cons_of_mem first (Token.strays_subset _ tokens isStray), rfl⟩

namespace Source

open Reader

theorem issuePlace_of_token {source : Source} {issue : Issue} {ref : Ref}
    (stands : ∃ token ∈ source.tokens, token.ref = issue.ref) (place : issue.ref = some ref) :
    source.IssuePlace ref := by
  obtain ⟨token, member, same⟩ := stands
  exact .token (starts_of_ref member (same.trans place))

theorem issuePlace_of_rootIssue {source : Source} {roots : List Value} {issue : Issue} {ref : Ref}
    (located : ∀ root ∈ roots, root.Located fun other => other = source)
    (found : source.rootIssue? roots = some issue) (place : issue.ref = some ref) :
    source.IssuePlace ref := by
  unfold rootIssue? at found
  split at found <;> cases found
  · exact .start (Option.some.inj place).symm
  · next first second rest =>
      have second := located second (List.mem_cons_of_mem first List.mem_cons_self)
      obtain ⟨_, token, rfl, stands, -⟩ := second.startsIn ref place
      exact .token stands

/-- All issues for which a source is refused have their places in it. -/
theorem issuePlace_of_refuses {source : Source} {issues : List Issue}
    (refuses : source.Refuses (.issues issues)) :
    ∀ issue ∈ issues, ∀ ref, issue.ref = some ref → source.IssuePlace ref := by
  intro issue member ref place
  cases ended : source.ending with
  | error failure =>
      have broken : brokenOff (Token.strayIssues source.tokens.dropLast) (.stream failure) =
          .issues issues := by
        rcases refuses with refused | refused
        · simpa [readAll, read_breaks ended] using refused
        · simpa [readOne, read_breaks ended] using refused
      cases failure with
      | oversizedNumber digits => cases broken
      | issue fatal =>
          cases broken
          rcases List.mem_append.1 member with early | last
          · obtain ⟨token, stands, same⟩ := Token.ref_of_strayIssues early
            exact issuePlace_of_token ⟨token, List.mem_of_mem_dropLast stands, same⟩ place
          · cases List.mem_singleton.1 last
            exact issuePlace_of_ending ended place
  | ok last =>
      obtain ⟨roots, strays, unclosed, level, reading⟩ :=
        read_gives ended (ending_kind ended) source.tokens_kind
      have located : ∀ root ∈ roots, root.Located fun other => other = source :=
        level.located rfl fun _ there => there
      have known : issue ∈ sourceIssues source.tokens last unclosed strays ∨
          source.rootIssue? roots = some issue := by
        rcases refuses with refused | refused
        · rw [readAll_of_reading reading] at refused
          split at refused <;> cases refused
          exact .inl member
        · simp only [readOne, reading] at refused
          split at refused <;> cases refused
          simpa using member
      rcases known with inParentheses | ofRoots
      · rw [level.issues_eq, List.mem_append] at inParentheses
        rcases inParentheses with stray | cutOff
        · exact issuePlace_of_token (Token.ref_of_strayIssues stray) place
        · obtain ⟨_, -, rfl⟩ := List.mem_map.1 cutOff
          exact .ending (Option.some.inj (place.symm.trans (ending_ref ended)))
      · exact issuePlace_of_rootIssue located ofRoots place

end Source

/-! ### Located failures -/

def Issue.Located (sources : Source → Prop) (issue : Issue) : Prop :=
  ∀ ref, issue.ref = some ref → ∃ source, sources source ∧ source.IssuePlace ref

/-- The place of the failure, or of each of its issues, is in one of the sources. -/
def Failure.Placed (sources : Source → Prop) : Failure → Prop
  | .error inner => StartsIn sources (fun token => token.kind ≠ .closing) inner.ref
  | .unreadable issues => ∀ issue ∈ issues, issue.Located sources
  | .issue found => found.Located sources
  | .fault _ _ | .panic _ _ => True

structure Failure.Located (sources : Source → Prop) (failure : Failure) : Prop where
  placed : failure.Placed sources
  frames : ∀ frame ∈ failure.frames, frame.Located sources

theorem Failure.placed_bare {failure : Failure} (placed : failure.bare.Placed sources) :
    failure.Placed sources := by
  cases failure with
  | error inner => exact placed
  | unreadable issues => exact placed
  | issue issue => exact placed
  | fault _ _ | panic _ _ => trivial

theorem Failure.placed_of_refuses {source : Source} {reason : ReadFailure} (given : sources source)
    (refuses : source.Refuses reason) : (Failure.ofReading reason).Placed sources := by
  cases reason with
  | issues issues => exact fun issue member ref place =>
      ⟨source, given, Source.issuePlace_of_refuses refuses issue member ref place⟩
  | oversizedNumber digits => trivial

/-! ### What evaluation keeps -/

def Contents.located (sources : Source → Prop) : Contents where
  value := Value.Located sources
  object := HostObject.Located sources
  operation := Operation.IsStandard
  source := sources
  failure failure := failure.IsFresh ∧ failure.Placed sources

theorem Contents.located_raises (sources : Source → Prop) : (located sources).Raises where
  fresh _ raised := raised.1
  fault _ := ⟨rfl, trivial⟩
  unplaced _ := ⟨rfl, nofun⟩
  placed _ _ located := ⟨rfl, located.startsIn⟩
  refused _ reason given refuses :=
    ⟨Failure.isFresh_ofReading reason, Failure.placed_of_refuses given refuses⟩

theorem Contents.located_lawful (sources : Source → Prop) : (located sources).Lawful where
  toRaises := located_raises sources
  nil := trivial
  boolean _ := rfl
  integer _ := nofun
  float _ := nofun
  string _ := nofun
  list items located := ⟨nofun, (Value.allLocated_iff items).mpr located⟩
  item items _ located := (Value.allLocated_iff items).mp located.2
  body _ _ body _ _ located := (Value.allLocated_iff body).mp located.2.2
  form _ := trivial
  function _ := Iff.rfl
  wrap _ located := ⟨rfl, located⟩
  unwrap _ _ located := located.2
  read _ _ given reads := Reader.read_located given reads
  nothing := trivial
  truth _ := trivial
  whole _ := trivial
  real _ := trivial
  text _ := trivial
  items := HostObject.allLocated_iff
  tuple := HostObject.allLocated_iff
  dictionary := HostObject.entriesLocated_iff
  inner _ := Iff.rfl
  builtin _ := trivial
  math _ := trivial
  sample _ standard := standard.elim

/-- All that is bound is located. -/
def Policy.located (sources : Source → Prop) : Policy where
  world world := ∀ scope, ∀ binding ∈ world.forest.bindings scope, binding.2.Located sources
  later _ _ := True
  scope _ _ := True
  contents _ := Contents.located sources

theorem Policy.located_lawful (sources : Source → Prop) : (Policy.located sources).Lawful where
  refl _ := trivial
  trans _ _ := trivial
  scope_later _ _ := trivial
  value_later _ located := located
  source_later _ given := given
  failure_later _ raised := raised
  contents _ := Contents.located_lawful sources
  bound := by
    intro world scope name value allowed _ found
    obtain ⟨owner, -, found⟩ := Option.bind_eq_some_iff.mp found
    obtain ⟨binding, member, rfl⟩ := Bindings.mem_of_get found
    exact allowed owner binding member
  closure _ _ list parameters body :=
    ⟨list.1, parameters, (Value.allLocated_iff _).mpr body⟩
  define := by
    intro world scope value name allowed _ located
    refine ⟨fun index binding member => ?_, trivial⟩
    rw [Forest.bindings, Forest.scope_define] at member
    split at member
    · rw [Option.map_map] at member
      cases found : world.forest.scopes[index]? with
      | none =>
          rw [found] at member
          cases member
      | some present =>
          rw [found] at member
          have inside := allowed index
          rw [Forest.bindings, found] at inside
          rcases Bindings.mem_set member with before | rfl
          · exact inside binding before
          · exact located
    · exact allowed index binding member
  openScope := by
    intro world name parameters body captured ref allowed _
    refine ⟨⟨fun index binding member => ?_, trivial⟩, trivial⟩
    rw [Forest.bindings, Forest.scope_openScope] at member
    split at member
    · cases member
    · exact allowed index binding member
  print _ allowed := ⟨allowed, trivial⟩

/-! ### Standard catalogues -/

def Registrant.IsStandard : Registrant → Prop
  | .callable operation _ _ => operation.IsStandard
  | .object _ => True

/-- What a library binds is standard, and it comes from nowhere. -/
def LibraryEntry.IsStandard : LibraryEntry → Prop
  | .constant value => value.Located fun _ => False
  | .function registrant _ _ => registrant.IsStandard

def Catalogue.IsStandard (catalogue : Catalogue) : Prop :=
  ∀ entry, catalogue.Lists entry → entry.IsStandard

theorem Catalogue.isStandard_of_math {catalogue : Catalogue}
    (libraries : ∀ library ∈ catalogue.libraries, library.2 = Library.math) :
    catalogue.IsStandard := by
  have entries : ∀ item ∈ Library.math, ∀ start, (item.2 start).IsStandard := by
    simp [Library.math, Library.realFunction, Library.function, Library.constant,
      LibraryEntry.IsStandard, Registrant.IsStandard, Operation.IsStandard, Value.Located, AtAtom,
      StartsIn, Value.ref]
  rintro _ ⟨library, member, item, inside, start, rfl⟩
  rw [libraries library member] at inside
  exact entries item inside start

theorem Registrant.IsStandard.permitted {registrant : Registrant} (standard : registrant.IsStandard)
    (world : World) : (Policy.located sources).registrant world registrant := by
  cases registrant with
  | callable operation signature returns => exact standard
  | object found => trivial

theorem Catalogue.IsStandard.supports {catalogue : Catalogue} (standard : catalogue.IsStandard) :
    (Policy.located sources).Supports catalogue where
  root _ _ := trivial
  roots _ _ _ _ := trivial
  admits world entry _ lists := by
    cases entry with
    | constant value => exact (standard _ lists).mono nofun
    | function registrant adapters unwrap =>
        exact Registrant.IsStandard.permitted (standard _ lists) world

namespace Interpreter

/-! ### Sessions that read -/

/-- Expressions that are handed over are located in the sources, and what is registered performs a
standard operation. -/
def Task.IsStandard (sources : Source → Prop) : Task → Prop
  | .evaluate expression | .evaluateRaw expression => expression.Located sources
  | .register _ registrant _ _ => registrant.IsStandard
  | .evaluateAll _ | .read _ => True

/-- Interpreters with standard functions only, with the sources that they have read: programs and
files that were imported. -/
inductive Session : (Source → Prop) → Interpreter → Prop
  | start (groups : List BindingGroup) {catalogue : Catalogue} (standard : catalogue.IsStandard) :
      Session (fun _ => False) (start groups catalogue)
  | task {sources : Source → Prop} {interpreter : Interpreter} (before : Session sources interpreter)
      {task : Task} (standard : task.IsStandard sources) :
      Session (fun source => sources source ∨ task.Reads interpreter source) (task.after interpreter)
  | writeFile {sources : Source → Prop} {interpreter : Interpreter}
      (before : Session sources interpreter) (path : Path) (entry : FileEntry) :
      Session sources (interpreter.writeFile path entry)

theorem Task.located_guards {interpreter : Interpreter}
    (catalogue : interpreter.catalogue.IsStandard)
    (bindings : (Policy.located sources).world interpreter.world) {task : Task}
    (standard : task.IsStandard sources) :
    let policy := Policy.located fun source => sources source ∨ task.Reads interpreter source
    policy.Guards (task.run interpreter) policy.value ⟨interpreter.world.forest, #[]⟩ := by
  intro policy
  have grows (source : Source) (given : sources source) :
      sources source ∨ task.Reads interpreter source := .inl given
  have allowed : policy.world ⟨interpreter.world.forest, #[]⟩ :=
    fun scope binding member => (bindings scope binding member).mono grows
  refine task.run_guards (Policy.located_lawful _) catalogue.supports allowed ?_
    fun file reads => .inr reads
  cases task with
  | evaluate expression | evaluateRaw expression => exact Value.Located.mono grows _ standard
  | register name registrant adapters unwrap => exact Registrant.IsStandard.permitted standard _
  | evaluateAll source | read source => trivial

theorem Session.keeps {interpreter : Interpreter} (session : Session sources interpreter) :
    interpreter.catalogue.IsStandard ∧ (Policy.located sources).world interpreter.world := by
  induction session with
  | start groups standard =>
      have fresh : (Policy.located fun _ => False).world ⟨(Forest.empty.openScope none).2, #[]⟩ := by
        intro scope binding member
        rw [Forest.bindings, Forest.scope_openScope] at member
        split at member
        · cases member
        · simp [Forest.empty] at member
      have keeps := prepare_keeps (Policy.located_lawful _) groups fresh trivial
      exact ⟨standard, (keeps.1 _ _ rfl).1.1⟩
  | task before standard kept =>
      exact ⟨kept.1, (Task.located_guards kept.1 kept.2 standard).ensures.follows.1⟩
  | writeFile before path entry kept =>
      exact ⟨kept.1, kept.2⟩

/-- In sessions with standard functions only, all places in what is bound, in results and in failures
with their issues and frames lead into sources that were read by then: to the start of a token, and
those of issues also to what the lexer fails at, to the end of input or to the start of the text. The
context of such a place is the whole line with a caret below the place. -/
theorem Session.all_located {interpreter : Interpreter} (session : Session sources interpreter) :
    (∀ scope, ∀ binding ∈ interpreter.world.forest.bindings scope, binding.2.Located sources) ∧
    (∀ task : Task, task.IsStandard sources →
      let known := fun source => sources source ∨ task.Reads interpreter source
      Session known (task.after interpreter) ∧
        (∀ value, task.outcome interpreter = .ok value → value.Located known) ∧
        ∀ failure, task.outcome interpreter = .error failure → failure.Located known) ∧
    ∀ (source : Source) (ref : Ref), source.IssuePlace ref → ref.ShowsLine := by
  obtain ⟨catalogue, bindings⟩ := session.keeps
  refine ⟨bindings, fun task standard => ?_, fun source ref place => place.showsLine⟩
  have guards := Task.located_guards catalogue bindings standard
  refine ⟨.task session standard, fun value succeeds => ?_, fun failure fails => ?_⟩
  · exact (guards.ensures _ _ rfl).2 value succeeds
  · have failed : task.run interpreter ⟨interpreter.world.forest, #[]⟩ =
        (.error failure, (task.after interpreter).world) := Prod.ext fails rfl
    exact ⟨Failure.placed_bare (guards.raised failure _ failed).2, guards.frames failure _ failed⟩

theorem outcome_unbound {interpreter : Interpreter} {source : Source} {name : Identifier}
    (reads : source.readAll = .ok [.identifier name])
    (missing : interpreter.world.forest.get? root name.name = none) :
    (Task.evaluateAll source).outcome interpreter =
      .error (.error ⟨.unboundName name.name, name.ref, [.identifier name]⟩) := by
  let world : World := ⟨interpreter.world.forest, #[]⟩
  have looks : Run.lookUp root name world =
      (.error (.ofCause (.unboundName name.name) name.ref), world) := by
    have forest : Run.forest world = (.ok world.forest, world) := rfl
    rw [Run.lookUp, Run.bind_of_ok forest, missing]
    rfl
  have raises : interpreter.evaluate (.identifier name) world =
      (.error (.error ⟨.unboundName name.name, name.ref, [.identifier name]⟩), world) :=
    Run.failing_of_error (Run.failing_of_error (Run.bind_of_error looks))
  have runs : interpreter.evaluateAll source world =
      (.error (.error ⟨.unboundName name.name, name.ref, [.identifier name]⟩), world) := by
    rw [evaluateAll, reads]
    exact Run.bind_of_error raises
  exact congrArg Prod.fst runs

theorem all_located_unbound :
    let interpreter := start [] ⟨[("math", Library.math)], [], ⟨[]⟩⟩
    let source := Source.ofText "program" "\n x"
    let ref : Ref := ⟨source, 1, 1⟩
    let failure : Failure := .error ⟨.unboundName "x", ref, [.identifier ⟨"x", ref⟩]⟩
    (Task.evaluateAll source).outcome interpreter = .error failure ∧
      failure.Located (fun other => False ∨ (Task.evaluateAll source).Reads interpreter other) ∧
        ref.ShowsLine := by
  intro interpreter source ref failure
  have standard : interpreter.catalogue.IsStandard :=
    Catalogue.isStandard_of_math (by simp [interpreter, start])
  have reading : source.readAll = .ok [.identifier ⟨"x", ref⟩] := by
    have blanks : Lexer.Separator [Source.newline, CodePoint.ofChar ' '] :=
      .blank rfl (.blank rfl .nil)
    have word : Lexer.Lexes source ⟨("x" : Text) ++ [], ⟨1, 1⟩⟩ ⟨[], ⟨1, 2⟩⟩
        [⟨.identifier "x", "x", ref⟩] :=
      Lexer.lexes_word (by decide) (by decide) (by decide) (by simp [Lexer.EndsWord])
    obtain ⟨tokens, ended⟩ :=
      Source.tokens_of_lexes ((blanks.lexes source Position.start "x").trans word)
    exact Source.readAll_of_level ended (tokens ▸ .atom rfl .finish)
  have missing : interpreter.world.forest.get? root "x" = none :=
    Option.isNone_iff_eq_none.mp (by decide +kernel)
  have fails : (Task.evaluateAll source).outcome interpreter = .error failure :=
    outcome_unbound reading missing
  have session : Session (fun _ => False) interpreter := .start [] standard
  obtain ⟨-, tasks, showsLine⟩ := session.all_located
  have located := (tasks (.evaluateAll source) trivial).2.2 failure fails
  obtain ⟨other, token, -, stands, -⟩ := located.placed ref rfl
  exact ⟨fails, located, showsLine other ref (.token stands)⟩

end Interpreter

end Lisplet
