import Lisplet.Proofs.Expressions
import Lisplet.Proofs.Literals
import Lisplet.Proofs.Questions
import Lisplet.Proofs.Reprinting

/-!
A printed closure denotes the closure: the text is a form again, and evaluating it in the captured
scope builds a closure with the same parameters, the same body and the same scope. Closures that are
made by what was read are printed like this.
-/

namespace Lisplet

/-! ### Parameter lists -/

theorem parameters_identifiers (names : List Identifier) (place : Option Ref) :
    parameters (.list (names.map .identifier) place) = pure names := by
  unfold parameters
  induction names with
  | nil => rfl
  | cons name names ih =>
      dsimp only at ih ⊢
      rw [List.map_cons, List.mapM_cons, ih]
      rfl

theorem identifiers_of_mapM {items : List Value} {names : List Identifier} {world later : World}
    (given : items.mapM parameter world = (.ok names, later)) :
    items = names.map .identifier ∧ later = world := by
  induction items generalizing names with
  | nil =>
      cases given
      exact ⟨rfl, rfl⟩
  | cons item items ih =>
      rw [List.mapM_cons] at given
      cases item with
      | identifier name =>
          change (items.mapM parameter >>= fun others => pure (name :: others)) world = _ at given
          rcases happens : items.mapM parameter world with ⟨failure | others, middle⟩
          · rw [Run.bind_of_error happens] at given
            cases given
          · rw [Run.bind_of_ok happens] at given
            cases given
            obtain ⟨rfl, rfl⟩ := ih happens
            exact ⟨rfl, rfl⟩
      | _ => cases given

theorem list_of_parameters {list : Value} {names : List Identifier} {world later : World}
    (given : parameters list world = (.ok names, later)) :
    ∃ place, list = .list (names.map .identifier) place := by
  cases list with
  | list items place =>
      obtain ⟨rfl, -⟩ := identifiers_of_mapM given
      exact ⟨place, rfl⟩
  | _ => cases given

/-! ### The printed form -/

/-- The expression that a closure is printed as. -/
def lambdaForm (parameters : List Identifier) (body : List Value) : Value :=
  .list (.identifier ⟨"lambda", none⟩ :: .list (parameters.map .identifier) none :: body) none

section Printed

variable {parameters : List Identifier} {body : List Value}

theorem render_lambdaForm (name : Text) (scope : ScopeId) (place : Option Ref) :
    (Value.closure name parameters body scope place).render = (lambdaForm parameters body).render := by
  have names : Value.renderAll (parameters.map .identifier) = parameters.map Identifier.name := by
    rw [Printable.renderAll_eq_map, List.map_map]
    rfl
  rw [lambdaForm, Value.render, Value.render, Value.renderAll, Value.renderAll, Value.render,
    Value.render, names]

theorem printable_lambdaForm (words : ∀ parameter ∈ parameters, Printable (.identifier parameter))
    (forms : ∀ form ∈ body, Printable form) : Printable (lambdaForm parameters body) := by
  have lambda : Printable (.identifier ⟨"lambda", none⟩) :=
    .identifier (by decide) (by decide) (by decide)
  have list : Printable (.list (parameters.map .identifier) none) :=
    .list (List.forall_mem_map.mpr words)
  exact .list (List.forall_mem_cons.mpr ⟨lambda, List.forall_mem_cons.mpr ⟨list, forms⟩⟩)

theorem readOne_printable (file : Text) {value : Value} (printable : Printable value) :
    ∃ root, (Source.ofText file value.render).readOne = .ok root ∧
      root.withoutRefs = value.withoutRefs := by
  obtain ⟨roots, reading, same⟩ := Source.read_of_readsAs printable.readsAs file
  match roots with
  | [] => simp [Value.allWithoutRefs] at same
  | _ :: _ :: _ => simp [Value.allWithoutRefs] at same
  | [root] =>
      refine ⟨root, ?_, by simpa [Value.allWithoutRefs] using same⟩
      rw [Source.ofText_of_kept file printable.kept, Source.readOne_of_root reading, if_pos rfl]

theorem identifier_of_withoutRefs {value : Value} {name : Text}
    (same : value.withoutRefs = .identifier ⟨name, none⟩) :
    ∃ place, value = .identifier ⟨name, place⟩ := by
  cases value with
  | identifier word =>
      obtain ⟨given, place⟩ := word
      obtain rfl : given = name := by simpa [Value.withoutRefs, Value.withRef] using same
      exact ⟨place, rfl⟩
  | _ => simp [Value.withoutRefs, Value.withRef] at same

theorem list_of_withoutRefs {value : Value} {items : List Value}
    (same : value.withoutRefs = .list items none) :
    ∃ inner place, value = .list inner place ∧ Value.allWithoutRefs inner = items := by
  cases value with
  | list inner place =>
      simp only [Value.withoutRefs, Value.list.injEq, and_true] at same
      exact ⟨inner, place, rfl, same⟩
  | _ => simp [Value.withoutRefs, Value.withRef] at same

theorem identifiers_of_withoutRefs {values : List Value}
    (same : Value.allWithoutRefs values = Value.allWithoutRefs (parameters.map .identifier)) :
    ∃ names : List Identifier, values = names.map .identifier ∧
      names.map Identifier.name = parameters.map Identifier.name := by
  induction parameters generalizing values with
  | nil =>
      cases values with
      | nil => exact ⟨[], rfl, rfl⟩
      | cons value values => simp [Value.allWithoutRefs] at same
  | cons parameter parameters ih =>
      cases values with
      | nil => simp [Value.allWithoutRefs] at same
      | cons value values =>
          simp only [List.map_cons, Value.allWithoutRefs, List.cons.injEq] at same
          obtain ⟨place, rfl⟩ := identifier_of_withoutRefs same.1
          obtain ⟨names, rfl, named⟩ := ih same.2
          exact ⟨⟨parameter.name, place⟩ :: names, rfl, congrArg (parameter.name :: ·) named⟩

theorem lambdaForm_of_withoutRefs {root : Value}
    (same : root.withoutRefs = (lambdaForm parameters body).withoutRefs) :
    ∃ (word inner place : Option Ref) (names : List Identifier) (forms : List Value),
      root = .list (.identifier ⟨"lambda", word⟩ :: .list (names.map .identifier) inner :: forms) place ∧
        names.map Identifier.name = parameters.map Identifier.name ∧
        Value.allWithoutRefs forms = Value.allWithoutRefs body := by
  rw [lambdaForm, Value.withoutRefs] at same
  obtain ⟨items, place, rfl, inside⟩ := list_of_withoutRefs same
  match items with
  | [] => simp [Value.allWithoutRefs] at inside
  | [_] => simp [Value.allWithoutRefs] at inside
  | head :: list :: forms =>
      simp only [Value.allWithoutRefs, List.cons.injEq] at inside
      obtain ⟨sameHead, sameList, sameForms⟩ := inside
      obtain ⟨word, rfl⟩ := identifier_of_withoutRefs sameHead
      obtain ⟨values, inner, rfl, sameValues⟩ := list_of_withoutRefs sameList
      obtain ⟨names, rfl, named⟩ := identifiers_of_withoutRefs sameValues
      exact ⟨word, inner, place, names, forms, rfl, named, sameForms⟩

end Printed

/-! ### What the printed form evaluates to -/

/-- The closures differ in their names and places at most. -/
inductive Value.SameClosure : Value → Value → Prop
  | intro {name other : Text} {parameters others : List Identifier} {body forms : List Value}
      {place another : Option Ref} (scope : ScopeId)
      (named : others.map Identifier.name = parameters.map Identifier.name)
      (same : Value.SameReading forms body) :
      SameClosure (.closure other others forms scope another) (.closure name parameters body scope place)

theorem Value.SameClosure.render {other value : Value} (same : other.SameClosure value) :
    other.render = value.render := by
  cases same with
  | @intro name other parameters others body forms _ _ scope named same =>
      have shown : Value.renderAll forms = Value.renderAll body := by
        rw [← Value.renderAll_withoutRefs forms, same.withoutRefs, Value.renderAll_withoutRefs]
      rw [Value.render, Value.render, named, shown]

/-- The value is a closure, and its printed form evaluates to the same closure wherever `lambda` is
the form, seen from the captured scope. -/
def Value.Denoted (value : Value) : Prop :=
  ∃ name parameters body scope place, value = .closure name parameters body scope place ∧
    ∀ (catalogue : Catalogue) (depth : Nat) (file : Text) (world : World) (special : SpecialForm),
      world.forest.get? scope "lambda" = some (.form special) → special.kind = .lambda →
      ∃ root again, (Source.ofText file value.render).readOne = .ok root ∧
        evaluate catalogue (depth + 2) root scope world = (.ok again, world) ∧
          again.SameClosure value ∧ again.render = value.render

theorem evaluate_lambda (catalogue : Catalogue) (depth : Nat) {scope : ScopeId} {world : World}
    {special : SpecialForm} (bound : world.forest.get? scope "lambda" = some (.form special))
    (isLambda : special.kind = .lambda) (word inner place : Option Ref) (names : List Identifier)
    (forms : List Value) :
    evaluate catalogue (depth + 2)
        (.list (.identifier ⟨"lambda", word⟩ :: .list (names.map .identifier) inner :: forms) place)
        scope world =
      (.ok (.closure "lambda" names forms scope place), world) := by
  refine (Catalogue.valueOf_form word place bound).trans ?_
  rw [isLambda, runForm, parameters_identifiers]
  rfl

theorem denoted_closure (name : Text) {parameters : List Identifier} {body : List Value}
    (scope : ScopeId) (place : Option Ref)
    (words : ∀ parameter ∈ parameters, Printable (.identifier parameter))
    (forms : ∀ form ∈ body, Printable form) :
    (Value.closure name parameters body scope place).Denoted := by
  refine ⟨name, parameters, body, scope, place, rfl, ?_⟩
  intro catalogue depth file world special bound isLambda
  obtain ⟨root, read, same⟩ := readOne_printable file (printable_lambdaForm words forms)
  obtain ⟨word, inner, outer, names, others, rfl, named, sameForms⟩ := lambdaForm_of_withoutRefs same
  have again : (Value.closure "lambda" names others scope outer).SameClosure
      (.closure name parameters body scope place) :=
    .intro scope named ⟨sameForms, Printable.allEqual forms sameForms⟩
  refine ⟨_, _, ?_, evaluate_lambda catalogue depth bound isLambda word inner outer names others,
    again, again.render⟩
  rw [render_lambdaForm]
  exact read

/-! ### Closures of programs -/

theorem Run.ok_of_within {α : Type} {frame : Value} {run : Run α} {world later : World} {result : α}
    (succeeds : run.within frame world = (.ok result, later)) : run world = (.ok result, later) := by
  unfold within at succeeds
  split at succeeds
  · rename_i given reached happens
    rw [happens]
    exact succeeds
  · cases succeeds

/-- The value is a part of what some text is read as. -/
inductive Value.Parsed (value : Value) : Prop
  | one {file text : Text} {root : Value} (read : (Source.ofText file text).readOne = .ok root)
      (member : value ∈ root.nodes)
  | all {file text : Text} {roots : List Value} (read : (Source.ofText file text).readAll = .ok roots)
      (member : value ∈ Value.allNodes roots)

/-- The head of the expression stands for `lambda` or `def`, and the expression evaluates to the
value. -/
def Value.Makes (expression value : Value) : Prop :=
  ∃ (catalogue : Catalogue) (depth : Nat) (head : Value) (operands : List Value)
    (place : Option Ref) (scope : ScopeId) (special : SpecialForm) (before middle after : World),
    expression = .list (head :: operands) place ∧
      evaluate catalogue depth head scope before = (.ok (.form special), middle) ∧
      (special.kind = .lambda ∨ special.kind = .def_) ∧
      evaluate catalogue (depth + 1) expression scope before = (.ok value, after)

theorem Source.readAll_of_readOne {source : Source} {root : Value}
    (done : source.readOne = .ok root) : source.readAll = .ok [root] := by
  obtain ⟨others, found⟩ := roots_of_readOne done
  have reading : Reader.read source = ⟨.ok (root :: others), (Reader.read source).issues⟩ := by
    rw [← found]
  by_cases single : others = []
  · subst single
    rw [readOne_of_root reading] at done
    rw [readAll_of_reading reading]
    split at done
    · rename_i noIssue
      rw [if_pos noIssue]
    · cases done
  · obtain ⟨issue, -, refused⟩ := readOne_of_roots reading (by simpa using single)
    rw [done] at refused
    cases refused

mutual

theorem Value.printable_of_node (value : Value) (printable : Printable value.reread) :
    ∀ node ∈ value.nodes, Printable node.reread := by
  cases value with
  | list items place =>
      intro node member
      rcases List.mem_cons.mp member with rfl | inside
      · exact printable
      · rw [Value.reread] at printable
        cases printable with
        | list parts => exact Value.printable_of_allNodes items parts node inside
  | _ =>
      intro node member
      obtain rfl := List.mem_singleton.mp member
      exact printable

theorem Value.printable_of_allNodes (values : List Value)
    (printable : ∀ value ∈ Value.allReread values, Printable value) :
    ∀ node ∈ Value.allNodes values, Printable node.reread := by
  cases values with
  | nil => exact List.forall_mem_nil _
  | cons value rest =>
      obtain ⟨first, behind⟩ := List.forall_mem_cons.mp printable
      exact List.forall_mem_append.mpr
        ⟨Value.printable_of_node value first, Value.printable_of_allNodes rest behind⟩

end

theorem printable_of_parsed {value : Value} (parsed : value.Parsed)
    (finite : ∀ node ∈ value.nodes, ¬node.IsInfinite) : Printable value := by
  have ofAll {file text : Text} {roots : List Value}
      (read : (Source.ofText file text).readAll = .ok roots) (member : value ∈ Value.allNodes roots) : Printable value := by
    obtain ⟨last, ended⟩ := Source.ending_of_readAll read
    have printable : ∀ root ∈ Value.allReread roots, Printable root := by
      refine (Source.level_of_readAll ended read).printable fun token belongs => ?_
      exact ⟨Source.tokens_written _ token belongs,
        List.filter_eq_self.mp (Source.tokens_kept file text token belongs)⟩
    have shown := Value.printable_of_allNodes roots printable value member
    rwa [Value.reread_of_finite value finite] at shown
  cases parsed with
  | all read member => exact ofAll read member
  | one read member =>
      exact ofAll (Source.readAll_of_readOne read) (by simpa [Value.allNodes] using member)

/-- What the two forms build is made of their operands. -/
theorem closure_of_runForm {answer : Request → Run Value} {scope : ScopeId} {place : Option Ref}
    {kind : FormKind} (builds : kind = .lambda ∨ kind = .def_) {operands : List Value} {value : Value}
    (gives : (runForm scope place kind operands).Gives answer value) :
    ∃ (name : Text) (names : List Identifier) (front body : List Value) (inner : Option Ref),
      operands = front ++ .list (names.map .identifier) inner :: body ∧
        value = .closure name names body scope place := by
  have listed {list : Value} {names : List Identifier}
      (gives : (liftM (parameters list) : Procedure Request (List Identifier)).Gives answer names) :
      ∃ inner, list = .list (names.map .identifier) inner := by
    obtain ⟨before, after, runs⟩ := gives
    rw [Procedure.run_lift] at runs
    exact list_of_parameters runs
  rcases builds with rfl | rfl
  · cases operands with
    | nil => obtain ⟨before, after, ⟨⟩⟩ := gives
    | cons list body =>
        obtain ⟨names, given, made⟩ := gives.of_bind
        obtain ⟨inner, rfl⟩ := listed given
        exact ⟨"lambda", names, [], body, inner, rfl, made.of_pure⟩
  · match operands with
    | [] => obtain ⟨before, after, ⟨⟩⟩ := gives
    | [_] => obtain ⟨before, after, ⟨⟩⟩ := gives
    | target :: list :: body =>
        obtain ⟨name, -, named⟩ := gives.of_bind
        obtain ⟨names, given, made⟩ := named.of_bind
        obtain ⟨-, -, bound⟩ := made.of_bind
        obtain ⟨inner, rfl⟩ := listed given
        exact ⟨name.name, names, [target], body, inner, rfl, bound.of_pure⟩

theorem denoted_of_makes {expression value : Value} (parsed : expression.Parsed)
    (finite : ∀ node ∈ expression.nodes, ¬node.IsInfinite) (makes : expression.Makes value) :
    value.Denoted := by
  obtain ⟨catalogue, depth, head, operands, place, scope, special, before, middle, after, rfl, headed,
    builds, evaluates⟩ := makes
  have run : (runForm scope place special.kind operands).Gives
      (catalogue.answer (catalogue.valueOf depth)) value := by
    refine ⟨middle, after, ?_⟩
    change catalogue.valueOf (depth + 1) ⟨_, scope⟩ before = _ at evaluates
    rw [Catalogue.valueOf_eq] at evaluates
    have ran := Run.ok_of_within evaluates
    have stands : (Request.evaluate head scope).run (catalogue.answer (catalogue.valueOf depth)) before =
        (.ok (.form special), middle) := by
      rw [Catalogue.run_evaluate]
      exact headed
    rwa [dispatch, Procedure.run_then stands] at ran
  obtain ⟨name, names, front, body, inner, rfl, rfl⟩ := closure_of_runForm builds run
  cases printable_of_parsed parsed finite with
  | list parts =>
      have operands := (List.forall_mem_append.mp (List.forall_mem_cons.mp parts).2).2
      obtain ⟨list, forms⟩ := List.forall_mem_cons.mp operands
      cases list with
      | list words => exact denoted_closure name scope place (List.forall_mem_map.mp words) forms

/-- A closure whose parameters and body can be printed denotes itself in print, and so do the closures
that the forms of a program make, unless there is an infinite float in the form. -/
theorem closures_denoted :
    (∀ (name : Text) (parameters : List Identifier) (body : List Value) (scope : ScopeId)
      (place : Option Ref), (∀ parameter ∈ parameters, Printable (.identifier parameter)) →
      (∀ form ∈ body, Printable form) → (Value.closure name parameters body scope place).Denoted) ∧
    ∀ expression value : Value, expression.Parsed →
      (∀ node ∈ expression.nodes, ¬node.IsInfinite) → expression.Makes value → value.Denoted := by
  constructor
  · intro name parameters body scope place words forms
    exact denoted_closure name scope place words forms
  · intro expression value parsed finite makes
    exact denoted_of_makes parsed finite makes

/-- One scope, in which `lambda` is the form. -/
def World.withLambda : World :=
  ⟨⟨#[⟨none, [("lambda", .form ⟨"lambda", .lambda⟩)]⟩]⟩, #[]⟩

/-- A closure without parameters and body, one with both, and one that a program makes. -/
theorem closures_denoted_small :
    (∃ root again, (Source.ofText "printed" "(lambda ())").readOne = .ok root ∧
      evaluate ⟨[], [], ⟨[]⟩⟩ 2 root 0 .withLambda = (.ok again, .withLambda) ∧
        again.SameClosure (.closure "f" [] [] 0 none) ∧ again.render = "(lambda ())") ∧
    (Value.closure "g" [⟨"x", none⟩, ⟨"x", none⟩] [Source.sampleData] 0 none).Denoted ∧
    ∃ expression value : Value, expression.Parsed ∧ expression.Makes value ∧ value.Denoted := by
  let source := Source.ofText "text" "(lambda ())"
  let expression : Value :=
    .list [.identifier ⟨"lambda", some ⟨source, 0, 1⟩⟩, .list [] (some ⟨source, 0, 8⟩)]
      (some ⟨source, 0, 0⟩)
  have bound : World.withLambda.forest.get? 0 "lambda" = some (.form ⟨"lambda", .lambda⟩) := rfl
  obtain ⟨printed, made⟩ := closures_denoted
  have read : source.readAll = .ok [expression] := by
    have word : Lexer.Lexes source ⟨("lambda" : Text) ++ " ())", ⟨0, 1⟩⟩ ⟨" ())", ⟨0, 7⟩⟩
        [⟨.identifier "lambda", "lambda", some ⟨source, 0, 1⟩⟩] :=
      Lexer.lexes_word (by decide) (by decide) (by decide) (Lexer.endsWord_cons rfl _)
    have lexes := ((((Lexer.lexes_opening source Position.start "lambda ())").trans word).trans
      (Lexer.lexes_blank source ⟨0, 7⟩ rfl "())")).trans
      (Lexer.lexes_opening source ⟨0, 8⟩ "))")).trans (Lexer.lexes_closing source ⟨0, 9⟩ ")")
    obtain ⟨tokens, ended⟩ :=
      Source.tokens_of_lexes (lexes.trans (Lexer.lexes_closing source ⟨0, 10⟩ []))
    refine Source.readAll_of_level ended ?_
    rw [tokens]
    exact .list rfl rfl (.atom rfl (.list rfl rfl (.close rfl) (.close rfl))) .finish
  have parsed : expression.Parsed := .all read (by simp [Value.allNodes, Value.nodes, expression])
  have makes : expression.Makes (.closure "lambda" [] [] 0 (some ⟨source, 0, 0⟩)) :=
    ⟨⟨[], [], ⟨[]⟩⟩, 1, _, _, _, 0, _, .withLambda, .withLambda, .withLambda, rfl,
      Catalogue.valueOf_identifier _ bound, .inl rfl, evaluate_lambda _ 0 bound rfl _ _ _ [] []⟩
  refine ⟨?_, ?_, expression, _, parsed, makes, made expression _ parsed ?_ makes⟩
  · obtain ⟨name, parameters, body, scope, place, same, denoted⟩ :=
      printed "f" [] [] 0 none (List.forall_mem_nil _) (List.forall_mem_nil _)
    cases same
    exact denoted ⟨[], [], ⟨[]⟩⟩ 0 "printed" .withLambda _ bound rfl
  · refine printed "g" _ _ 0 none ?_ (List.forall_mem_singleton.mpr Source.sampleData_printable)
    have word : Printable (.identifier ⟨"x", none⟩) :=
      .identifier (by decide) (by decide) (by decide)
    intro parameter member
    obtain rfl : parameter = ⟨"x", none⟩ := by simpa using member
    exact word
  · simp [expression, Value.allNodes, Value.nodes, Value.IsInfinite]

end Lisplet
