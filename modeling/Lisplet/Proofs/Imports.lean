import Lisplet.Proofs.Forms

/-!
Imports respect every lawful policy that allows the root to be used: a library is bound there, and
a file is evaluated there.
-/

namespace Lisplet

variable {policy : Policy}

/-- A library of the catalogue binds the value, under some prefix. -/
def Catalogue.Offers (catalogue : Catalogue) (value : Value) : Prop :=
  ∃ library ∈ catalogue.libraries, ∃ item ∈ library.2, ∃ start, item.2 start = .constant value

/-- A library of the catalogue has the entry, under some prefix. -/
def Catalogue.Lists (catalogue : Catalogue) (entry : LibraryEntry) : Prop :=
  ∃ library ∈ catalogue.libraries, ∃ item ∈ library.2, ∃ start, item.2 start = entry

theorem Catalogue.lists_of_qualified {catalogue : Catalogue} {name start : Text}
    {library : Library} {item : Text × LibraryEntry}
    (found : catalogue.library? name = some library) (member : item ∈ library.qualified start) :
    catalogue.Lists item.2 := by
  obtain ⟨given, present, rfl⟩ := Option.map_eq_some_iff.mp found
  obtain ⟨⟨label, make⟩, inside, rfl⟩ := List.mem_map.mp member
  exact ⟨given, List.mem_of_find?_eq_some present, (label, make), inside, start, rfl⟩

theorem Catalogue.offers_of_qualified {catalogue : Catalogue} {name start : Text}
    {library : Library} {item : Text × LibraryEntry} {value : Value}
    (found : catalogue.library? name = some library) (member : item ∈ library.qualified start)
    (constant : item.2 = .constant value) : catalogue.Offers value := by
  have lists := Catalogue.lists_of_qualified found member
  rw [constant] at lists
  exact lists

/-- The import of the name reads the source, from a file. -/
def Catalogue.FindsFile (catalogue : Catalogue) (name : Text) (source : Source) : Prop :=
  isFlat name = true ∧ catalogue.library? name = none ∧
    ∃ path content, catalogue.resolve name = .ok (some (path, content)) ∧
      sourceOf path content = .ok source

namespace Policy

def entry (policy : Policy) (world : World) : LibraryEntry → Prop
  | .constant value => policy.value world value
  | .function registrant _ _ => policy.registrant world registrant

/-- Whatever the libraries of the catalogue bind is allowed. -/
def Admits (policy : Policy) (catalogue : Catalogue) : Prop :=
  ∀ world entry, policy.world world → catalogue.Lists entry → policy.entry world entry

theorem registrant_later (lawful : policy.Lawful) {world later : World} {registrant : Registrant}
    (after : policy.later world later) (permitted : policy.registrant world registrant) :
    policy.registrant later registrant := by
  cases registrant with
  | object found => trivial
  | callable operation signature returns =>
      -- Functions stay allowed, so their operations stay permitted.
      have callable : policy.value world (.function ⟨[], operation, [], true, none⟩) :=
        ((lawful.contents world).function _).mpr permitted
      exact ((lawful.contents later).function _).mp (lawful.value_later after callable)

theorem entry_later (lawful : policy.Lawful) {world later : World} {entry : LibraryEntry}
    (after : policy.later world later) (fine : policy.entry world entry) :
    policy.entry later entry := by
  cases entry with
  | constant value => exact lawful.value_later after fine
  | function registrant adapters unwrap => exact registrant_later lawful after fine

theorem Keeps.install (lawful : policy.Lawful) {scope : ScopeId} (name : Text)
    {entry : LibraryEntry} {world : World} (allowed : policy.world world)
    (inScope : policy.scope world scope) (fine : policy.entry world entry) :
    policy.Keeps (Run.install scope name entry) (fun _ _ => True) world := by
  cases entry with
  | constant value => exact .define lawful name allowed inScope fine
  | function registrant adapters unwrap =>
      refine (Keeps.register lawful name adapters unwrap allowed inScope fine).bind lawful ?_
      intro later _ follows _
      exact .pure lawful follows.1 trivial

theorem Keeps.installAll (lawful : policy.Lawful) {scope : ScopeId}
    {entries : List (Text × LibraryEntry)} {world : World} (allowed : policy.world world)
    (inScope : policy.scope world scope) (fine : ∀ item ∈ entries, policy.entry world item.2) :
    policy.Keeps (Run.installAll scope entries) (fun _ _ => True) world := by
  have lasts : Procedure.Lasts policy fun world item =>
      policy.scope world scope ∧ policy.entry world (Prod.snd (α := Text) item) := by
    intro world later item follows kept
    exact ⟨lawful.scope_later follows.2 kept.1, entry_later lawful follows.2 kept.2⟩
  exact .forM lawful lasts
    (fun world item allowed kept => .install lawful item.1 allowed kept.1 kept.2) allowed
    (fun item member => ⟨inScope, fine item member⟩)

end Policy

namespace Procedure

theorem Respects.importFile (lawful : policy.Lawful) {path : Path} {content : List UInt8}
    {root : ScopeId} {world : World} (allowed : policy.world world)
    (inScope : policy.scope world root)
    (sources : ∀ source, Catalogue.sourceOf path content = .ok source →
      (policy.contents world).source source) :
    (Lisplet.importFile path content root).Respects policy policy.call policy.value world := by
  have decodes : Delivers (policy.contents world) (policy.contents world).source
      (Failure.orFault (Catalogue.sourceOf path content)) := .orFault (lawful.contents world) sources
  refine (Respects.lift (.ofExcept lawful allowed decodes)).bind lawful allowed ?_
  intro later source follows readable
  have readable := lawful.source_later follows.2 readable
  split
  · next forms found =>
      refine Respects.sequence lawful (fun world form _ inside kept => ?_) follows.1
        (lawful.scope_later follows.2 inScope)
        ((lawful.contents later).read source forms readable (Source.roots_of_readAll found))
      exact ⟨⟨inside, kept⟩, fun _ _ _ given => given⟩
  · next reason failed =>
      exact Respects.lift (.fail lawful follows.1
        ((lawful.contents later).refused source reason readable (.inl failed)))

theorem Respects.load (lawful : policy.Lawful) {catalogue : Catalogue}
    (admits : policy.Admits catalogue) {scope : ScopeId} {name : Text} (start : Text)
    {world : World} (allowed : policy.world world)
    (inRoot : policy.scope world (world.forest.root scope))
    (sources : ∀ source, catalogue.FindsFile name source → (policy.contents world).source source) :
    (catalogue.load scope name start).Respects policy policy.call policy.value world := by
  unfold Catalogue.load
  split
  · exact Respects.failWith lawful allowed _
  · next flat =>
      have reads : policy.Keeps Run.forest
          (fun later forest => world = later ∧ forest = world.forest) world :=
        .ofFollows rfl ⟨allowed, lawful.refl world⟩ ⟨rfl, rfl⟩
      refine (Respects.lift reads).bind lawful allowed ?_
      rintro _ _ - ⟨rfl, rfl⟩
      split
      · next library found =>
          have entries : ∀ item ∈ library.qualified (if start.isEmpty then name else start),
              policy.entry world item.2 := fun item member =>
            admits world item.2 allowed (Catalogue.lists_of_qualified found member)
          refine (Respects.lift (.installAll lawful allowed inRoot entries)).bind lawful allowed ?_
          intro later _ follows _
          exact (lawful.contents later).nil
      · next noLibrary =>
          have resolves : Delivers (policy.contents world)
              (fun file => ∀ path content, file = some (path, content) →
                catalogue.resolve name = .ok (some (path, content)))
              (Failure.orFault (catalogue.resolve name)) :=
            .orFault (lawful.contents world) fun file found path content same => same ▸ found
          refine (Respects.lift (.ofExcept lawful allowed resolves)).bind lawful allowed ?_
          intro later file follows found
          split
          · refine Respects.importFile lawful follows.1 (lawful.scope_later follows.2 inRoot) ?_
            intro source decodes
            have flat : Catalogue.isFlat name = true := by simpa using flat
            exact lawful.source_later follows.2
              (sources source ⟨flat, noLibrary, _, _, found _ _ rfl, decodes⟩)
          · exact Respects.failWith lawful follows.1 _

theorem Respects.inline (lawful : policy.Lawful) {catalogue : Catalogue} {α : Type}
    (loads : ∀ world scope name start, policy.world world → policy.scope world scope →
      (catalogue.load scope name start).Respects policy policy.call policy.value world)
    {procedure : Procedure Request α} {post : World → α → Prop} {world : World}
    (allowed : policy.world world)
    (respects : procedure.Respects policy policy.request post world) :
    (procedure.inline catalogue).Respects policy policy.call post world := by
  induction procedure generalizing world with
  | done result => exact respects
  | act run next ih =>
      refine ⟨fun outcome last happens => ?_, respects.2⟩
      obtain ⟨follows, kept⟩ := respects.1 outcome last happens
      exact ⟨follows, fun result succeeds => ih result follows.1 (kept result succeeds)⟩
  | ask asked next ih =>
      cases asked with
      | call call =>
          refine ⟨respects.1, fun answer later follows fine => ?_⟩
          exact ih answer follows.1 (respects.2 answer later follows fine)
      | load scope name start =>
          refine (loads world scope name start allowed respects.1).bind lawful allowed ?_
          intro later answer follows fine
          exact ih answer follows.1 (respects.2 answer later follows fine)

end Procedure

/-- All that there is to do for a call respects every lawful policy that allows roots to be used,
libraries to be bound and sources to be read. -/
theorem Catalogue.procedure_respects (lawful : policy.Lawful) {catalogue : Catalogue}
    (roots : ∀ world scope, policy.world world → policy.scope world scope →
      policy.scope world (world.forest.root scope))
    (admits : policy.Admits catalogue)
    (sources : ∀ world source, (policy.contents world).source source)
    {call : Call} {world : World} (allowed : policy.world world) (fine : policy.call world call) :
    (catalogue.procedure call).Respects policy policy.call policy.value world := by
  refine Procedure.Respects.inline lawful ?_ allowed
    (Procedure.Respects.dispatch lawful allowed fine.1 fine.2)
  intro later scope name start permitted inScope
  exact Procedure.Respects.load lawful admits start permitted (roots later scope permitted inScope)
    fun source _ => sources later source

end Lisplet
