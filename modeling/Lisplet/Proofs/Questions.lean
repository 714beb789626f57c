import Lisplet.Proofs.Procedures

/-!
What is asked for on the way of a call. An expression hands its parts to evaluation, the body of a
closure that one of them stands for, the code that one of them stands for, or the forms of a file
that it imports, and nothing else.
-/

namespace Lisplet

namespace Procedure

variable {request α β ι : Type} {answer : request → Run Value} {permitted : request → Prop}

def Gives (answer : request → Run Value) (procedure : Procedure request α) (result : α) : Prop :=
  ∃ before after, procedure.run answer before = (.ok result, after)

def Asks (answer : request → Run Value) (permitted : request → Prop)
    (procedure : Procedure request α) : Prop :=
  ∀ world asked reached, procedure.Reaches answer world asked reached → permitted asked

theorem reaches_bind {first : Procedure request α} {next : α → Procedure request β}
    {world reached : World} {asked : request}
    (reaches : (first >>= next).Reaches answer world asked reached) :
    first.Reaches answer world asked reached ∨ ∃ result middle,
      first.run answer world = (.ok result, middle) ∧
        (next result).Reaches answer middle asked reached := by
  change (first.bind next).Reaches answer world asked reached at reaches
  induction first generalizing world with
  | done result => exact .inr ⟨result, world, rfl, reaches⟩
  | act run rest ih =>
      obtain ⟨left, advances⟩ := reaches
      cases advances with
      | acted succeeds onwards =>
          rcases ih _ ⟨left, onwards⟩ with earlier | ⟨result, middle, gives, later⟩
          · exact .inl (earlier.acted succeeds)
          · refine .inr ⟨result, middle, ?_, later⟩
            rw [Procedure.run, Run.bind_of_ok succeeds, gives]
  | ask question rest ih =>
      obtain ⟨left, advances⟩ := reaches
      cases advances with
      | refl => exact .inl ⟨rest, .refl⟩
      | answered succeeds onwards =>
          rcases ih _ ⟨left, onwards⟩ with earlier | ⟨result, middle, gives, later⟩
          · exact .inl (earlier.answered succeeds)
          · refine .inr ⟨result, middle, ?_, later⟩
            rw [Procedure.run, Run.bind_of_ok succeeds, gives]

theorem Gives.of_bind {first : Procedure request α} {next : α → Procedure request β} {result : β}
    (gives : (first >>= next).Gives answer result) :
    ∃ middle, first.Gives answer middle ∧ (next middle).Gives answer result := by
  obtain ⟨before, after, runs⟩ := gives
  change (first.bind next).run answer before = _ at runs
  rw [run_bind] at runs
  rcases happens : first.run answer before with ⟨failure | given, middle⟩
  · rw [Run.bind_of_error happens] at runs
    cases runs
  · rw [Run.bind_of_ok happens] at runs
    exact ⟨given, ⟨before, middle, happens⟩, middle, after, runs⟩

theorem Gives.of_pure {given result : α}
    (gives : (pure given : Procedure request α).Gives answer result) : result = given := by
  obtain ⟨before, after, ⟨⟩⟩ := gives
  rfl

theorem Gives.of_orFault {outcome : Except Fault α} {result : α}
    (gives : (liftM (Run.ofExcept (Failure.orFault outcome)) : Procedure request α).Gives answer
      result) : outcome = .ok result := by
  obtain ⟨before, after, runs⟩ := gives
  cases outcome with
  | error raised => cases runs
  | ok given =>
      cases runs
      rfl

theorem Gives.of_mapM {step : ι → Procedure request α} {items : List ι} {results : List α}
    (gives : (items.mapM step).Gives answer results) :
    ∀ result ∈ results, ∃ item ∈ items, (step item).Gives answer result := by
  induction items generalizing results with
  | nil =>
      rw [List.mapM_nil] at gives
      simp [gives.of_pure]
  | cons item items ih =>
      rw [List.mapM_cons] at gives
      obtain ⟨first, here, gives⟩ := gives.of_bind
      obtain ⟨others, there, gives⟩ := gives.of_bind
      rw [gives.of_pure]
      intro result member
      rcases List.mem_cons.mp member with rfl | member
      · exact ⟨item, List.mem_cons_self, here⟩
      · obtain ⟨origin, present, given⟩ := ih there result member
        exact ⟨origin, List.mem_cons_of_mem item present, given⟩

theorem Asks.bind {first : Procedure request α} {next : α → Procedure request β}
    (asks : first.Asks answer permitted)
    (continues : ∀ result, first.Gives answer result → (next result).Asks answer permitted) :
    (first >>= next).Asks answer permitted := by
  intro world asked reached reaches
  rcases reaches_bind reaches with earlier | ⟨result, middle, gives, later⟩
  · exact asks world asked reached earlier
  · exact continues result ⟨world, middle, gives⟩ middle asked reached later

theorem Asks.pure (result : α) : (pure result : Procedure request α).Asks answer permitted := by
  rintro world asked reached ⟨next, ⟨⟩⟩

theorem Asks.lift (run : Run α) : (liftM run : Procedure request α).Asks answer permitted := by
  rintro world asked reached ⟨next, advances⟩
  cases advances with
  | acted succeeds rest => cases rest

theorem Asks.ask {question : request} (allowed : permitted question) :
    (ask question done).Asks answer permitted := by
  rintro world asked reached ⟨next, advances⟩
  cases advances with
  | refl => exact allowed
  | answered succeeds rest => cases rest

theorem Asks.mapM {step : ι → Procedure request α} {items : List ι}
    (steps : ∀ item ∈ items, (step item).Asks answer permitted) :
    (items.mapM step).Asks answer permitted := by
  induction items with
  | nil =>
      rw [List.mapM_nil]
      exact .pure []
  | cons item items ih =>
      rw [List.mapM_cons]
      refine (steps item List.mem_cons_self).bind fun first _ => ?_
      refine (ih fun other member => steps other (List.mem_cons_of_mem item member)).bind ?_
      exact fun others _ => .pure (first :: others)

theorem Asks.foldlM {step : β → ι → Procedure request β} {items : List ι} {state : β}
    (steps : ∀ item ∈ items, ∀ state, (step state item).Asks answer permitted) :
    (items.foldlM step state).Asks answer permitted := by
  induction items generalizing state with
  | nil => exact .pure state
  | cons item items ih =>
      rw [List.foldlM_cons]
      refine (steps item List.mem_cons_self state).bind fun later _ => ?_
      exact ih fun other member => steps other (List.mem_cons_of_mem item member)

theorem Asks.forM {step : ι → Procedure request PUnit} {items : List ι}
    (steps : ∀ item, (step item).Asks answer permitted) :
    (items.forM step).Asks answer permitted := by
  induction items with
  | nil => exact .pure PUnit.unit
  | cons item items ih => exact (steps item).bind fun _ _ => ih

theorem Asks.sequence {evaluate : Value → ScopeId → Procedure request Value} {forms : List Value}
    {scope : ScopeId} (asks : ∀ form ∈ forms, (evaluate form scope).Asks answer permitted) :
    (Lisplet.sequence evaluate forms scope).Asks answer permitted :=
  .foldlM fun form member _ => asks form member

end Procedure

/-! ### What the forms of the language ask for -/

/-- Some evaluation of the expression in the scope gives the value. -/
def StandsFor (answer : Call → Run Value) (scope : ScopeId) (expression value : Value) : Prop :=
  ∃ before after, answer ⟨expression, scope⟩ before = (.ok value, after)

/-- The scope is opened inside the captured one, at some time. -/
def ScopeId.OpensIn (scope captured : ScopeId) : Prop :=
  ∃ world : World, (world.forest.openScope (some captured)).1 = scope

namespace Procedure

variable {catalogue : Catalogue} {answer : Call → Run Value} {permitted : Request → Prop}

theorem Gives.of_evaluate {expression value : Value} {scope : ScopeId}
    (gives : (Request.evaluate expression scope).Gives (catalogue.answer answer) value) :
    StandsFor answer scope expression value := by
  obtain ⟨before, after, runs⟩ := gives
  refine ⟨before, after, ?_⟩
  rw [← runs]
  exact congrFun (Run.bind_pure (answer ⟨expression, scope⟩)).symm before

theorem Asks.evaluate {expression : Value} {scope : ScopeId}
    (allowed : permitted (.call ⟨expression, scope⟩)) :
    (Request.evaluate expression scope).Asks (catalogue.answer answer) permitted :=
  .ask allowed

theorem Asks.apply {callee : Value} (arguments : List Value)
    (bodies : ∀ name parameters body captured ref, callee = .closure name parameters body captured ref →
      ∀ form ∈ body, ∀ scope : ScopeId, scope.OpensIn captured → permitted (.call ⟨form, scope⟩)) :
    (Lisplet.apply callee arguments).Asks (catalogue.answer answer) permitted := by
  unfold Lisplet.apply
  split
  · next name parameters body captured ref =>
      split
      · exact .lift _
      · refine (Asks.lift _).bind fun scope opened => (Asks.lift _).bind fun _ _ => ?_
        obtain ⟨before, after, opens⟩ := opened
        have within : scope.OpensIn captured := by
          cases opens
          exact ⟨before, rfl⟩
        exact .sequence fun form member =>
          .evaluate (bodies name parameters body captured ref rfl form member scope within)
  · exact .lift _
  · exact .lift _
  · exact .lift _

theorem Asks.condition {scope : ScopeId} {operand : Value}
    (allowed : permitted (.call ⟨operand, scope⟩)) :
    (Lisplet.condition scope operand).Asks (catalogue.answer answer) permitted := by
  refine (Asks.evaluate allowed).bind fun value _ => ?_
  split
  · exact .pure _
  · exact .lift _

theorem Asks.items {scope : ScopeId} {operand : Value}
    (allowed : permitted (.call ⟨operand, scope⟩)) :
    (Lisplet.items scope operand).Asks (catalogue.answer answer) permitted := by
  refine (Asks.evaluate allowed).bind fun value _ => ?_
  split
  · exact .pure _
  · exact .lift _

theorem Asks.importText {scope : ScopeId} {operand : Value}
    (allowed : permitted (.call ⟨operand, scope⟩)) :
    (Lisplet.importText scope operand).Asks (catalogue.answer answer) permitted := by
  refine (Asks.evaluate allowed).bind fun value _ => ?_
  split
  · exact .pure _
  · exact .lift _

theorem Gives.of_importText {scope : ScopeId} {operand : Value} {text : Text}
    (gives : (Lisplet.importText scope operand).Gives (catalogue.answer answer) text) :
    ∃ place, StandsFor answer scope operand (.string text place) := by
  obtain ⟨value, evaluates, gives⟩ := gives.of_bind
  split at gives
  · next given place =>
      rw [gives.of_pure]
      exact ⟨place, evaluates.of_evaluate⟩
  · obtain ⟨before, after, ⟨⟩⟩ := gives

theorem Asks.runForm {scope : ScopeId} (ref : Option Ref) {kind : FormKind} {operands : List Value}
    (parts : ∀ operand ∈ operands, permitted (.call ⟨operand, scope⟩))
    (codes : kind = .eval → ∀ operand ∈ operands, ∀ code,
      StandsFor answer scope operand code → permitted (.call ⟨code, scope⟩))
    (bodies : kind = .for_ → ∀ operand ∈ operands, ∀ name parameters body captured place,
      StandsFor answer scope operand (.closure name parameters body captured place) →
      ∀ form ∈ body, ∀ inner : ScopeId, inner.OpensIn captured → permitted (.call ⟨form, inner⟩))
    (loads : kind = .import_ → ∀ operand ∈ operands, ∀ name place,
      StandsFor answer scope operand (.string name place) →
      ∀ start, permitted (.load scope name start)) :
    (Lisplet.runForm scope ref kind operands).Asks (catalogue.answer answer) permitted := by
  have forms {forms : List Value} (part : forms ⊆ operands) :
      (Lisplet.sequence Request.evaluate forms scope).Asks (catalogue.answer answer) permitted :=
    .sequence fun form member => .evaluate (parts form (part member))
  unfold Lisplet.runForm
  split
  case h_1 operand | h_2 operand => exact .pure operand
  case h_3 test consequence =>
      refine (Asks.condition (parts test (by simp))).bind fun truth _ => ?_
      split
      · exact .evaluate (parts consequence (by simp))
      · exact .pure _
  case h_4 test consequence alternative =>
      refine (Asks.condition (parts test (by simp))).bind fun truth _ => ?_
      split
      · exact .evaluate (parts consequence (by simp))
      · exact .evaluate (parts alternative (by simp))
  case h_5 target operand =>
      refine (Asks.lift _).bind fun name _ => ?_
      refine (Asks.evaluate (parts operand (by simp))).bind fun value _ => ?_
      exact (Asks.lift _).bind fun _ _ => .pure value
  case h_6 target list body =>
      refine (Asks.lift _).bind fun name _ => (Asks.lift _).bind fun parameters _ => ?_
      exact (Asks.lift _).bind fun _ _ => .pure _
  case h_7 list body => exact (Asks.lift _).bind fun parameters _ => .pure _
  case h_8 => exact forms (List.Subset.refl operands)
  case h_9 => exact forms (packageBody_subset operands)
  case h_10 =>
      have operandsAsked : (operands.mapM (Request.evaluate · scope)).Asks
          (catalogue.answer answer) permitted :=
        .mapM fun operand member => .evaluate (parts operand member)
      refine operandsAsked.bind fun given gives => .sequence fun code member => ?_
      obtain ⟨operand, present, evaluates⟩ := gives.of_mapM code member
      exact .evaluate (codes rfl operand present code evaluates.of_evaluate)
  case h_11 function list =>
      refine (Asks.evaluate (parts function (by simp))).bind fun callee evaluates => ?_
      refine (Asks.items (parts list (by simp))).bind fun items _ => ?_
      refine Asks.bind (.forM fun item => ?_) fun _ _ => .pure _
      refine (Asks.apply [item] ?_).bind fun _ _ => .pure _
      rintro name parameters body captured place rfl
      exact bodies rfl function (by simp) name parameters body captured place evaluates.of_evaluate
  case h_12 operand =>
      refine (Asks.importText (parts operand (by simp))).bind fun name gives => ?_
      obtain ⟨place, stands⟩ := gives.of_importText
      exact .ask (loads rfl operand (by simp) name place stands [])
  case h_13 operand start =>
      refine (Asks.importText (parts operand (by simp))).bind fun name gives => ?_
      refine (Asks.importText (parts start (by simp))).bind fun prefixed _ => ?_
      obtain ⟨place, stands⟩ := gives.of_importText
      exact .ask (loads rfl operand (by simp) name place stands prefixed)
  case h_14 => exact .lift _

end Procedure

/-! ### Calls that come from other calls -/

/-- The expression of the call applies a form to the operands. -/
def Call.Runs (answer : Call → Run Value) (call : Call) (kind : FormKind) (operands : List Value) :
    Prop :=
  ∃ head ref name, call.expression = .list (head :: operands) ref ∧
    StandsFor answer call.scope head (.form ⟨name, kind⟩)

namespace Catalogue

/-- The file that the name stands for can be read, and these are its forms. -/
def Provides (catalogue : Catalogue) (name : Text) (forms : List Value) : Prop :=
  ∃ path content source, catalogue.resolve name = .ok (some (path, content)) ∧
    sourceOf path content = .ok source ∧ source.readAll = .ok forms

/-- A call hands another one to evaluation, when calls are answered like this. -/
inductive Hands (catalogue : Catalogue) (answer : Call → Run Value) (outer : Call) : Call → Prop
  /-- The head of an expression, one of its operands, or a part of a form. -/
  | part {items : List Value} {ref : Option Ref} {part : Value}
      (list : outer.expression = .list items ref) (member : part ∈ items) :
      Hands catalogue answer outer ⟨part, outer.scope⟩
  /-- A form of the closure that is applied. -/
  | body {head form : Value} {operands body : List Value} {ref place : Option Ref} {name : Text}
      {parameters : List Identifier} {captured scope : ScopeId}
      (list : outer.expression = .list (head :: operands) ref)
      (stands : StandsFor answer outer.scope head (.closure name parameters body captured place))
      (member : form ∈ body) (opens : scope.OpensIn captured) :
      Hands catalogue answer outer ⟨form, scope⟩
  /-- A form of the closure that `for` applies to every item. -/
  | loop {function form : Value} {operands body : List Value} {place : Option Ref} {name : Text}
      {parameters : List Identifier} {captured scope : ScopeId}
      (runs : outer.Runs answer .for_ operands) (given : function ∈ operands)
      (stands : StandsFor answer outer.scope function (.closure name parameters body captured place))
      (member : form ∈ body) (opens : scope.OpensIn captured) :
      Hands catalogue answer outer ⟨form, scope⟩
  /-- What an operand of `eval` stands for. -/
  | code {operand code : Value} {operands : List Value} (runs : outer.Runs answer .eval operands)
      (given : operand ∈ operands) (stands : StandsFor answer outer.scope operand code) :
      Hands catalogue answer outer ⟨code, outer.scope⟩
  /-- A form of a file. -/
  | imported {operand form : Value} {operands forms : List Value} {name : Text} {place : Option Ref}
      {world : World} (runs : outer.Runs answer .import_ operands) (given : operand ∈ operands)
      (stands : StandsFor answer outer.scope operand (.string name place))
      (provides : catalogue.Provides name forms) (member : form ∈ forms) :
      Hands catalogue answer outer ⟨form, world.forest.root outer.scope⟩

def Opens (catalogue : Catalogue) (answer : Call → Run Value) (outer : Call) : Request → Prop
  | .call inner => catalogue.Hands answer outer inner
  | .load scope name _ => scope = outer.scope ∧ ∃ operands, outer.Runs answer .import_ operands ∧
      ∃ operand ∈ operands, ∃ place, StandsFor answer outer.scope operand (.string name place)

end Catalogue

namespace Procedure

variable {catalogue : Catalogue} {answer : Call → Run Value}

theorem Asks.dispatch (call : Call) :
    (Lisplet.dispatch call.scope call.expression).Asks (catalogue.answer answer)
      (catalogue.Opens answer call) := by
  obtain ⟨expression, scope⟩ := call
  cases expression with
  | list items ref =>
      cases items with
      | nil => exact .pure _
      | cons head operands =>
          rw [Lisplet.dispatch]
          refine (Asks.evaluate (.part rfl List.mem_cons_self)).bind fun callee evaluates => ?_
          have parts : ∀ operand ∈ operands,
              catalogue.Hands answer ⟨.list (head :: operands) ref, scope⟩ ⟨operand, scope⟩ :=
            fun operand member => .part rfl (List.mem_cons_of_mem head member)
          split
          · next special =>
              obtain ⟨name, kind⟩ := special
              have runs : Call.Runs answer ⟨.list (head :: operands) ref, scope⟩ kind operands :=
                ⟨head, ref, name, rfl, evaluates.of_evaluate⟩
              refine Asks.runForm ref parts ?_ ?_ ?_
              · rintro rfl operand given code stands
                exact .code runs given stands
              · rintro rfl operand given label parameters body captured place stands form member inner opens
                exact .loop runs given stands member opens
              · rintro rfl operand given label place stands start
                exact ⟨rfl, operands, runs, operand, given, place, stands⟩
          · refine (Asks.mapM fun operand member => .evaluate (parts operand member)).bind ?_
            intro arguments _
            refine Asks.apply arguments ?_
            rintro name parameters body captured place rfl form member inner opens
            exact .body rfl evaluates.of_evaluate member opens
  | identifier name => exact .lift _
  | integer _ _ | float _ _ | string _ _ | boolean _ _ | nil | closure _ _ _ _ _ | function _
  | form _ | foreign _ _ => exact .pure _

theorem Asks.importFile {permitted : Call → Prop} {path : Path} {content : List UInt8}
    {root : ScopeId}
    (forms : ∀ source forms, Catalogue.sourceOf path content = .ok source →
      source.readAll = .ok forms → ∀ form ∈ forms, permitted ⟨form, root⟩) :
    (Lisplet.importFile path content root).Asks answer permitted := by
  refine (Asks.lift _).bind fun source gives => ?_
  split
  · next contents reads =>
      exact .sequence fun form member =>
        .ask (forms source contents gives.of_orFault reads form member)
  · exact .lift _

theorem Asks.load {permitted : Call → Prop} {scope : ScopeId} {name : Text} (start : Text)
    (forms : ∀ forms, catalogue.Provides name forms → ∀ form ∈ forms, ∀ world : World,
      permitted ⟨form, world.forest.root scope⟩) :
    (catalogue.load scope name start).Asks answer permitted := by
  unfold Catalogue.load
  split
  · exact .lift _
  · refine (Asks.lift _).bind fun forest gives => ?_
    obtain ⟨world, after, ⟨⟩⟩ := gives
    split
    · exact (Asks.lift _).bind fun _ _ => .pure _
    · refine (Asks.lift _).bind fun file gives => ?_
      split
      · next path content =>
          refine Asks.importFile fun source contents decodes reads form member => ?_
          exact forms contents ⟨path, content, source, gives.of_orFault, decodes, reads⟩ form member
            world
      · exact .lift _

theorem reaches_inline {α : Type} {procedure : Procedure Request α} {world reached : World}
    {inner : Call} (reaches : (procedure.inline catalogue).Reaches answer world inner reached) :
    procedure.Reaches (catalogue.answer answer) world (.call inner) reached ∨
      ∃ scope name start middle,
        procedure.Reaches (catalogue.answer answer) world (.load scope name start) middle ∧
          (catalogue.load scope name start).Reaches answer middle inner reached := by
  induction procedure generalizing world with
  | done result =>
      obtain ⟨left, ⟨⟩⟩ := reaches
  | act run next ih =>
      obtain ⟨left, advances⟩ := reaches
      cases advances with
      | acted succeeds rest =>
          rcases ih _ ⟨left, rest⟩ with here | ⟨scope, name, start, middle, asks, loads⟩
          · exact .inl (here.acted succeeds)
          · exact .inr ⟨scope, name, start, middle, asks.acted succeeds, loads⟩
  | ask asked next ih =>
      cases asked with
      | call call =>
          obtain ⟨left, advances⟩ := reaches
          cases advances with
          | refl => exact .inl ⟨next, .refl⟩
          | answered succeeds rest =>
              rcases ih _ ⟨left, rest⟩ with here | ⟨scope, name, start, middle, asks, loads⟩
              · exact .inl (here.answered succeeds)
              · exact .inr ⟨scope, name, start, middle, asks.answered succeeds, loads⟩
      | load scope name start =>
          rcases reaches_bind reaches with loads | ⟨result, middle, succeeds, later⟩
          · exact .inr ⟨scope, name, start, world, ⟨next, .refl⟩, loads⟩
          · rcases ih result later with here | ⟨scope, name, start, last, asks, loads⟩
            · exact .inl (here.answered succeeds)
            · exact .inr ⟨scope, name, start, last, asks.answered succeeds, loads⟩

end Procedure

/-- Whatever a call asks for, it hands to evaluation in one of the ways of the language. -/
theorem Catalogue.hands_of_reaches {catalogue : Catalogue} {answer : Call → Run Value}
    {outer inner : Call} {world reached : World}
    (reaches : (catalogue.procedure outer).Reaches answer world inner reached) :
    catalogue.Hands answer outer inner := by
  rcases Procedure.reaches_inline reaches with here | ⟨scope, name, start, middle, asks, loads⟩
  · exact Procedure.Asks.dispatch outer world (.call inner) reached here
  · obtain ⟨rfl, operands, runs, operand, given, place, stands⟩ :=
      Procedure.Asks.dispatch outer world (.load scope name start) middle asks
    have forms : (catalogue.load outer.scope name start).Asks answer
        (catalogue.Hands answer outer) :=
      .load start fun forms provides form member _ => .imported runs given stands provides member
    exact forms middle inner reached loads

end Lisplet
