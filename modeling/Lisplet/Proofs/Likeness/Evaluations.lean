import Lisplet.Proofs.Frames
import Lisplet.Proofs.Likeness.Runs

/-!
Evaluation cannot tell apart what is alike: no form, no application and no import looks at places or
into scopes that it is not led to, and so whole evaluations from worlds that are alike lead to worlds
that are alike again.
-/

namespace Lisplet

variable {likeness : Likeness}

theorem Value.Like.ref {value other : Value} (like : value.Like likeness other) :
    likeness.ref value.ref other.ref := by
  cases like with
  | identifier names => exact names.ref
  | integer _ refs | float _ refs | string _ refs | boolean _ refs => exact refs
  | list _ refs | closure _ _ _ _ refs | foreign _ refs => exact refs
  | nil | function host | form special => rfl

theorem Value.Like.typeName {value other : Value} (like : value.Like likeness other) :
    value.typeName = other.typeName := by
  rw [← value.typeName_mapRefs, ← other.typeName_mapRefs, like.mapRefs_eq.1]

/-- Calls of expressions that are alike, in a scope that may be looked into, are answered alike. -/
def Likeness.Answers (likeness : Likeness) (answer : Call → Run Value) : Prop :=
  ∀ (expression other : Value) (scope : ScopeId), expression.Like likeness other →
    likeness.scope scope →
    Run.Like likeness (Value.Like likeness) (answer ⟨expression, scope⟩) (answer ⟨other, scope⟩)

/-! ### Actions -/

namespace Run.Like

theorem register (scope : ScopeId) (name : Text) (registrant : Registrant)
    (adapters : List Adapter) (unwrap : Bool) :
    Run.Like likeness (fun _ _ => True) (register scope name registrant adapters unwrap)
      (register scope name registrant adapters unwrap) := by
  refine (Run.Like.ofExcept (.refl _)).bind fun host twin same => ?_
  subst same
  exact (Run.Like.define scope name (.function host)).bind fun _ _ _ => .pure trivial

theorem install (scope : ScopeId) (name : Text) {entry : LibraryEntry}
    (fine : ∀ value, entry = .constant value → value.Like likeness value) :
    Run.Like likeness (fun _ _ => True) (install scope name entry) (install scope name entry) := by
  cases entry with
  | constant value => exact .define scope name (fine value rfl)
  | function registrant adapters unwrap =>
      exact (Run.Like.register scope name registrant adapters unwrap).bind fun _ _ _ => .pure trivial

/-- Errors that name the type of what was found are the same. -/
theorem unexpected {α : Type} {results : α → α → Prop} (cause : Text → Cause)
    {found other : Value} (like : found.Like likeness other) {ref place : Option Ref}
    (refs : likeness.ref ref place) :
    Run.Like likeness results (Run.failWith (cause found.typeName) ref)
      (Run.failWith (cause other.typeName) place) := by
  rw [like.typeName]
  exact .failWith rfl refs

theorem boundName (form : FormKind) {target other : Value} (like : target.Like likeness other) :
    Run.Like likeness (Identifier.Like likeness) (form.boundName target)
      (form.boundName other) := by
  have itself := like
  cases like with
  | identifier names => exact .pure names
  | _ => exact .unexpected (.nameExpected form) itself itself.ref

theorem parameter {operand other : Value} (like : operand.Like likeness other) :
    Run.Like likeness (Identifier.Like likeness) (Lisplet.parameter operand)
      (Lisplet.parameter other) := by
  have itself := like
  cases like with
  | identifier names => exact .pure names
  | _ => exact .unexpected .parameterExpected itself itself.ref

theorem parameters {list other : Value} (like : list.Like likeness other) :
    Run.Like likeness (List.Forall₂ (Identifier.Like likeness)) (Lisplet.parameters list)
      (Lisplet.parameters other) := by
  have itself := like
  cases like with
  | list all => exact .mapM all fun _ _ operand => .parameter operand
  | _ => exact .unexpected .parametersExpected itself itself.ref

end Run.Like

/-! ### Imports -/

namespace Procedure.Like

variable {answer : Call → Run Value} {catalogue : Catalogue}

theorem sequence {request : Type} {answer : request → Run Value}
    {evaluate : Value → ScopeId → Procedure request Value} {scope : ScopeId}
    (steps : ∀ form twin : Value, form.Like likeness twin →
      Procedure.Like likeness answer (Value.Like likeness) (evaluate form scope)
        (evaluate twin scope))
    {forms others : List Value} (all : List.Forall₂ (Value.Like likeness) forms others) :
    Procedure.Like likeness answer (Value.Like likeness) (Lisplet.sequence evaluate forms scope)
      (Lisplet.sequence evaluate others scope) :=
  Procedure.Like.foldlM all (fun _ _ form twin _ like => steps form twin like) .nil

theorem importFile (answers : likeness.Answers answer) (path : Path) (content : List UInt8)
    {root : ScopeId} (inside : likeness.scope root) :
    Procedure.Like likeness answer (Value.Like likeness) (Lisplet.importFile path content root)
      (Lisplet.importFile path content root) := by
  refine Procedure.Like.bind (.lift (.ofExcept (.refl _))) fun source twin same => ?_
  subst same
  split
  · next forms found =>
      refine sequence (fun form twin like => .ask (answers form twin root like inside)) ?_
      refine List.forall₂_same.mpr fun form member => Value.like_self ?_
      exact (Source.plain_of_readAll found form member).capturing likeness.scope
  · exact .lift (.fail rfl)

theorem load (answers : likeness.Answers answer)
    (offers : ∀ value, catalogue.Offers value → value.Like likeness value) {scope : ScopeId}
    (inside : likeness.scope scope) (name start : Text) :
    Procedure.Like likeness answer (Value.Like likeness) (catalogue.load scope name start)
      (catalogue.load scope name start) := by
  unfold Catalogue.load
  split
  · exact .lift (.failWith rfl rfl)
  · refine Procedure.Like.bind (.lift .forest) fun forest twin forests => ?_
    obtain ⟨roots, inRoot⟩ := forests.root inside
    rw [← roots]
    split
    · next library found =>
        refine Procedure.Like.bind (.lift (.forM fun item member => ?_)) fun _ _ _ => .pure .nil
        exact .install _ item.1 fun value constant =>
          offers value (Catalogue.offers_of_qualified found member constant)
    · refine Procedure.Like.bind (.lift (.ofExcept (.refl _))) fun file twin same => ?_
      subst same
      split
      · exact importFile answers _ _ inRoot
      · exact .lift (.failWith rfl rfl)

/-! ### Applications and forms -/

theorem evaluate (answers : likeness.Answers answer) {expression other : Value} {scope : ScopeId}
    (like : expression.Like likeness other) (inside : likeness.scope scope) :
    Procedure.Like likeness (catalogue.answer answer) (Value.Like likeness)
      (Request.evaluate expression scope) (Request.evaluate other scope) :=
  .ask (answers expression other scope like inside)

theorem forms (answers : likeness.Answers answer) {scope : ScopeId}
    (inside : likeness.scope scope) {forms others : List Value}
    (all : List.Forall₂ (Value.Like likeness) forms others) :
    Procedure.Like likeness (catalogue.answer answer) (Value.Like likeness)
      (Lisplet.sequence Request.evaluate forms scope)
      (Lisplet.sequence Request.evaluate others scope) :=
  sequence (fun _ _ like => evaluate answers like inside) all

theorem apply (answers : likeness.Answers answer) {callee other : Value}
    (like : callee.Like likeness other) {arguments others : List Value}
    (all : List.Forall₂ (Value.Like likeness) arguments others) :
    Procedure.Like likeness (catalogue.answer answer) (Value.Like likeness)
      (Lisplet.apply callee arguments) (Lisplet.apply other others) := by
  have refs := like.ref
  have heads := congrArg Cause.notCallable like.mapRefs_eq.1
  cases like with
  | closure name labels body inside places =>
      rw [Lisplet.apply, Lisplet.apply, all.length_eq, labels.length_eq]
      split
      · exact .lift (.failWith rfl places)
      · refine Procedure.Like.bind (.lift (.openScope inside)) fun scope twin opened => ?_
        obtain ⟨rfl, within⟩ := opened
        refine Procedure.Like.bind (.lift (.bindAll scope labels all)) fun _ _ _ => ?_
        exact forms answers within body
  | function host => exact .lift (.call host all)
  | form special => exact .lift (.failWith rfl rfl)
  | _ => exact .lift (.failWith heads refs)

theorem condition (answers : likeness.Answers answer) {scope : ScopeId}
    (inside : likeness.scope scope) {operand other : Value} (like : operand.Like likeness other) :
    Procedure.Like likeness (catalogue.answer answer) Eq (Lisplet.condition scope operand)
      (Lisplet.condition scope other) := by
  refine Procedure.Like.bind (evaluate answers like inside) fun value twin values => ?_
  have itself := values
  cases values with
  | boolean truth => exact .pure rfl
  | _ => exact .lift (.unexpected .conditionExpected itself like.ref)

theorem items (answers : likeness.Answers answer) {scope : ScopeId}
    (inside : likeness.scope scope) {operand other : Value} (like : operand.Like likeness other) :
    Procedure.Like likeness (catalogue.answer answer) (List.Forall₂ (Value.Like likeness))
      (Lisplet.items scope operand) (Lisplet.items scope other) := by
  refine Procedure.Like.bind (evaluate answers like inside) fun value twin values => ?_
  have itself := values
  cases values with
  | list all => exact .pure all
  | _ => exact .lift (.unexpected .sequenceExpected itself like.ref)

theorem importText (answers : likeness.Answers answer) {scope : ScopeId}
    (inside : likeness.scope scope) {operand other : Value} (like : operand.Like likeness other) :
    Procedure.Like likeness (catalogue.answer answer) Eq (Lisplet.importText scope operand)
      (Lisplet.importText scope other) := by
  refine Procedure.Like.bind (evaluate answers like inside) fun value twin values => ?_
  have itself := values
  cases values with
  | string text => exact .pure rfl
  | _ => exact .lift (.unexpected .libraryNameExpected itself like.ref)

theorem evaluateTwice (answers : likeness.Answers answer) {scope : ScopeId}
    (inside : likeness.scope scope) {operands others : List Value}
    (all : List.Forall₂ (Value.Like likeness) operands others) :
    Procedure.Like likeness (catalogue.answer answer) (Value.Like likeness)
      (Lisplet.evaluateTwice scope operands) (Lisplet.evaluateTwice scope others) := by
  refine Procedure.Like.bind (.mapM all fun _ _ like => evaluate answers like inside) ?_
  exact fun codes twins given => forms answers inside given

theorem runForm (answers : likeness.Answers answer)
    (offers : ∀ value, catalogue.Offers value → value.Like likeness value) {scope : ScopeId}
    (inside : likeness.scope scope) {ref place : Option Ref} (refs : likeness.ref ref place)
    (kind : FormKind) {operands others : List Value}
    (all : List.Forall₂ (Value.Like likeness) operands others) :
    Procedure.Like likeness (catalogue.answer answer) (Value.Like likeness)
      (Lisplet.runForm scope ref kind operands) (Lisplet.runForm scope place kind others) := by
  have miscounted : Procedure.Like likeness (catalogue.answer answer) (Value.Like likeness)
      (liftM (Run.failWith (.operandCount kind operands.length) none : Run Value))
      (liftM (Run.failWith (.operandCount kind others.length) none : Run Value)) := by
    rw [all.length_eq]
    exact .lift (.failWith rfl rfl)
  cases kind with
  | quote | array =>
      rcases all with _ | ⟨first, _ | ⟨second, rest⟩⟩
      · exact miscounted
      · exact .pure first
      · exact miscounted
  | if_ =>
      rcases all with _ | ⟨test, _ | ⟨consequence, _ | ⟨alternative, _ | ⟨fourth, rest⟩⟩⟩⟩
      · exact miscounted
      · exact miscounted
      · refine Procedure.Like.bind (condition answers inside test) fun truth twin same => ?_
        subst same
        split
        · exact evaluate answers consequence inside
        · exact .pure .nil
      · refine Procedure.Like.bind (condition answers inside test) fun truth twin same => ?_
        subst same
        split
        · exact evaluate answers consequence inside
        · exact evaluate answers alternative inside
      · exact miscounted
  | define =>
      rcases all with _ | ⟨target, _ | ⟨operand, _ | ⟨third, rest⟩⟩⟩
      · exact miscounted
      · exact miscounted
      · refine Procedure.Like.bind (.lift (.boundName .define target)) fun name twin names => ?_
        refine Procedure.Like.bind (evaluate answers operand inside) fun value other values => ?_
        rw [names.spelling]
        exact Procedure.Like.bind (.lift (.define scope _ values)) fun _ _ _ => .pure values
      · exact miscounted
  | def_ =>
      rcases all with _ | ⟨target, _ | ⟨list, body⟩⟩
      · exact miscounted
      · exact miscounted
      · refine Procedure.Like.bind (.lift (.boundName .def_ target)) fun name twin names => ?_
        refine Procedure.Like.bind (.lift (.parameters list)) fun labels others all => ?_
        rw [names.spelling]
        have closures := Value.Like.closure twin.name all body inside refs
        exact Procedure.Like.bind (.lift (.define scope _ closures)) fun _ _ _ => .pure closures
  | lambda =>
      rcases all with _ | ⟨list, body⟩
      · exact miscounted
      · refine Procedure.Like.bind (.lift (.parameters list)) fun labels others all => ?_
        exact .pure (.closure _ all body inside refs)
  | begin_ => exact forms answers inside all
  | package =>
      refine forms answers inside ?_
      rcases all with _ | ⟨first, rest⟩
      · exact .nil
      · have kept := List.Forall₂.cons first rest
        cases first with
        | string text => exact rest
        | _ => exact kept
  | eval => exact evaluateTwice answers inside all
  | for_ =>
      rcases all with _ | ⟨function, _ | ⟨list, _ | ⟨third, rest⟩⟩⟩
      · exact miscounted
      · exact miscounted
      · refine Procedure.Like.bind (evaluate answers function inside) fun callee twin callees => ?_
        refine Procedure.Like.bind (items answers inside list) fun given others all => ?_
        refine Procedure.Like.bind (.forM all fun item other like => ?_) fun _ _ _ => .pure .nil
        refine Procedure.Like.bind (apply answers callees (.cons like .nil)) fun _ _ _ => ?_
        exact .pure trivial
      · exact miscounted
  | import_ =>
      rcases all with _ | ⟨operand, _ | ⟨start, _ | ⟨third, rest⟩⟩⟩
      · exact miscounted
      · refine Procedure.Like.bind (importText answers inside operand) fun name twin same => ?_
        subst same
        exact .ask (load answers offers inside name [])
      · refine Procedure.Like.bind (importText answers inside operand) fun name twin same => ?_
        refine Procedure.Like.bind (importText answers inside start) fun label other prefixes => ?_
        subst same prefixes
        exact .ask (load answers offers inside name label)
      · exact miscounted

theorem dispatch (answers : likeness.Answers answer)
    (offers : ∀ value, catalogue.Offers value → value.Like likeness value) {scope : ScopeId}
    (inside : likeness.scope scope) {expression other : Value}
    (like : expression.Like likeness other) :
    Procedure.Like likeness (catalogue.answer answer) (Value.Like likeness)
      (Lisplet.dispatch scope expression) (Lisplet.dispatch scope other) := by
  have itself := like
  cases like with
  | list all refs =>
      cases all with
      | nil => exact .pure .nil
      | @cons _ _ operands others head rest =>
          rw [Lisplet.dispatch, Lisplet.dispatch]
          refine Procedure.Like.bind (evaluate answers head inside) fun callee twin callees => ?_
          have applies : Procedure.Like likeness (catalogue.answer answer) (Value.Like likeness)
              (operands.mapM (Request.evaluate · scope) >>= Lisplet.apply callee)
              (others.mapM (Request.evaluate · scope) >>= Lisplet.apply twin) :=
            Procedure.Like.bind (.mapM rest fun _ _ like => evaluate answers like inside)
              fun _ _ given => apply answers callees given
          cases callees with
          | form special => exact runForm answers offers inside refs special.kind rest
          | _ => exact applies
  | identifier names => exact .lift (.lookUp inside names)
  | _ => exact .pure itself

end Procedure.Like

/-- Evaluation down to any depth answers calls alike. -/
theorem Likeness.answers_valueOf {catalogue : Catalogue}
    (offers : ∀ value, catalogue.Offers value → value.Like likeness value) (depth : Nat) :
    likeness.Answers (catalogue.valueOf depth) := by
  induction depth with
  | zero => exact fun _ _ _ _ _ => .fail rfl
  | succ depth ih =>
      intro expression other scope like inside
      -- A call is the run of its procedure, which asks for calls of the depth below only.
      rw [Catalogue.valueOf_eq_perform, Catalogue.valueOf_eq_perform]
      exact .within like.mapRefs_eq.1 (Procedure.Like.dispatch ih offers inside like)

end Lisplet
