import Lisplet.Proofs.Policies

/-!
Scopes over time: a forest only grows, its scopes keep their parents and their names, and as long as
closures capture scopes that are there, there is only one root.
-/

namespace Lisplet

/-! ### What values capture -/

mutual

/-- All closures in the value capture scopes below the bound. -/
def Value.Within (bound : Nat) : Value → Prop
  | .list items _ => Value.AllWithin bound items
  | .closure _ _ body scope _ => scope < bound ∧ Value.AllWithin bound body
  | .foreign object _ => object.Within bound
  | .identifier _ | .integer _ _ | .float _ _ | .string _ _ | .boolean _ _ | .nil | .function _
  | .form _ => True

def Value.AllWithin (bound : Nat) : List Value → Prop
  | [] => True
  | value :: rest => value.Within bound ∧ Value.AllWithin bound rest

def HostObject.Within (bound : Nat) : HostObject → Prop
  | .list items => HostObject.AllWithin bound items
  | .tuple items => HostObject.AllWithin bound items
  | .dictionary entries => HostObject.EntriesWithin bound entries
  | .value inner => inner.Within bound
  | .nothing | .boolean _ | .integer _ | .float _ | .text _ => True

def HostObject.AllWithin (bound : Nat) : List HostObject → Prop
  | [] => True
  | object :: rest => object.Within bound ∧ HostObject.AllWithin bound rest

def HostObject.EntriesWithin (bound : Nat) : List (HostObject × HostObject) → Prop
  | [] => True
  | (key, object) :: rest =>
    (key.Within bound ∧ object.Within bound) ∧ HostObject.EntriesWithin bound rest

end

theorem Value.allWithin_iff (bound : Nat) (values : List Value) :
    Value.AllWithin bound values ↔ ∀ value ∈ values, value.Within bound := by
  induction values with
  | nil => simp [Value.AllWithin]
  | cons value rest ih => simp [Value.AllWithin, ih]

theorem HostObject.allWithin_iff (bound : Nat) (objects : List HostObject) :
    HostObject.AllWithin bound objects ↔ ∀ object ∈ objects, object.Within bound := by
  induction objects with
  | nil => simp [HostObject.AllWithin]
  | cons object rest ih => simp [HostObject.AllWithin, ih]

theorem HostObject.entriesWithin_iff (bound : Nat) (entries : List (HostObject × HostObject)) :
    HostObject.EntriesWithin bound entries ↔
      ∀ entry ∈ entries, entry.1.Within bound ∧ entry.2.Within bound := by
  induction entries with
  | nil => simp [HostObject.EntriesWithin]
  | cons entry rest ih => simp [HostObject.EntriesWithin, ih]

mutual

theorem Value.Within.mono {bound larger : Nat} (le : bound ≤ larger) (value : Value)
    (within : value.Within bound) : value.Within larger := by
  match value with
  | .list items ref => exact Value.AllWithin.mono le items within
  | .closure name parameters body scope ref =>
      exact ⟨Nat.lt_of_lt_of_le within.1 le, Value.AllWithin.mono le body within.2⟩
  | .foreign object ref => exact HostObject.Within.mono le object within
  | .identifier _ | .integer _ _ | .float _ _ | .string _ _ | .boolean _ _ | .nil | .function _
  | .form _ => trivial

theorem Value.AllWithin.mono {bound larger : Nat} (le : bound ≤ larger) (values : List Value)
    (within : Value.AllWithin bound values) : Value.AllWithin larger values := by
  match values with
  | [] => trivial
  | value :: rest =>
      exact ⟨Value.Within.mono le value within.1, Value.AllWithin.mono le rest within.2⟩

theorem HostObject.Within.mono {bound larger : Nat} (le : bound ≤ larger) (object : HostObject)
    (within : object.Within bound) : object.Within larger := by
  match object with
  | .list items => exact HostObject.AllWithin.mono le items within
  | .tuple items => exact HostObject.AllWithin.mono le items within
  | .dictionary entries => exact HostObject.EntriesWithin.mono le entries within
  | .value inner => exact Value.Within.mono le inner within
  | .nothing | .boolean _ | .integer _ | .float _ | .text _ => trivial

theorem HostObject.AllWithin.mono {bound larger : Nat} (le : bound ≤ larger)
    (objects : List HostObject) (within : HostObject.AllWithin bound objects) :
    HostObject.AllWithin larger objects := by
  match objects with
  | [] => trivial
  | object :: rest =>
      exact ⟨HostObject.Within.mono le object within.1, HostObject.AllWithin.mono le rest within.2⟩

theorem HostObject.EntriesWithin.mono {bound larger : Nat} (le : bound ≤ larger)
    (entries : List (HostObject × HostObject)) (within : HostObject.EntriesWithin bound entries) :
    HostObject.EntriesWithin larger entries := by
  match entries with
  | [] => trivial
  | (key, object) :: rest =>
      exact ⟨⟨HostObject.Within.mono le key within.1.1, HostObject.Within.mono le object within.1.2⟩,
        HostObject.EntriesWithin.mono le rest within.2⟩

end

theorem Value.Plain.within (bound : Nat) {value : Value} (plain : value.Plain) :
    value.Within bound := by
  induction plain with
  | identifier name => trivial
  | integer number ref => trivial
  | float number ref => trivial
  | string text ref => trivial
  | list ref plain ih => exact (Value.allWithin_iff bound _).mpr ih

def Contents.within (bound : Nat) : Contents :=
  .ofAnywhere (Value.Within bound) (HostObject.Within bound)

theorem Contents.within_lawful (bound : Nat) : (Contents.within bound).Lawful where
  toRaises := Contents.ofAnywhere_raises
  nil := trivial
  boolean _ := trivial
  integer _ := trivial
  float _ := trivial
  string _ := trivial
  list items within := (Value.allWithin_iff bound items).mpr within
  item items _ within := (Value.allWithin_iff bound items).mp within
  body _ _ body _ _ within := (Value.allWithin_iff bound body).mp within.2
  form _ := trivial
  function _ := Iff.rfl
  wrap _ within := within
  unwrap _ _ within := within
  read _ _ _ reads root member := (Reader.read_plain reads root member).within bound
  nothing := trivial
  truth _ := trivial
  whole _ := trivial
  real _ := trivial
  text _ := trivial
  items objects := HostObject.allWithin_iff bound objects
  tuple objects := HostObject.allWithin_iff bound objects
  dictionary entries := HostObject.entriesWithin_iff bound entries
  inner _ := Iff.rfl
  builtin _ := trivial
  math _ := trivial
  sample _ _ := Contents.ofAnywhere_tolerant fun _ plain => plain.within bound

/-! ### Growing forests -/

namespace Bindings

theorem names_set (name : Text) (value : Value) (bindings : Bindings) :
    bindings.map Prod.fst <+: (bindings.set name value).map Prod.fst := by
  induction bindings with
  | nil => exact List.nil_prefix
  | cons binding rest ih =>
      obtain ⟨other, present⟩ := binding
      rw [Bindings.set]
      split
      · exact List.prefix_rfl
      · exact List.prefix_cons_inj other |>.mpr ih

theorem mem_set {name : Text} {value : Value} {bindings : Bindings} {binding : Text × Value}
    (member : binding ∈ bindings.set name value) : binding ∈ bindings ∨ binding.2 = value := by
  induction bindings with
  | nil =>
      rw [Bindings.set, List.mem_singleton] at member
      exact .inr (congrArg Prod.snd member)
  | cons first rest ih =>
      obtain ⟨other, present⟩ := first
      rw [Bindings.set] at member
      split at member
      · rcases List.mem_cons.mp member with rfl | member
        · exact .inr rfl
        · exact .inl (List.mem_cons_of_mem _ member)
      · rcases List.mem_cons.mp member with rfl | member
        · exact .inl List.mem_cons_self
        · exact (ih member).imp_left (List.mem_cons_of_mem _)

theorem mem_of_get {name : Text} {value : Value} {bindings : Bindings}
    (found : bindings.get? name = some value) : ∃ binding ∈ bindings, binding.2 = value := by
  obtain ⟨binding, present, rfl⟩ := Option.map_eq_some_iff.mp found
  exact ⟨binding, List.mem_of_find?_eq_some present, rfl⟩

end Bindings

def Scope.names (scope : Scope) : List Text :=
  scope.bindings.map Prod.fst

namespace Forest

theorem scope_define (forest : Forest) (scope : ScopeId) (name : Text) (value : Value)
    (index : ScopeId) :
    (forest.define scope name value).scopes[index]? =
      if scope = index then
        (forest.scopes[index]?).map fun present =>
          { present with bindings := present.bindings.set name value }
      else forest.scopes[index]? := by
  simp [define, Array.getElem?_modify]

theorem scope_openScope (forest : Forest) (parent : Option ScopeId) (index : ScopeId) :
    (forest.openScope parent).2.scopes[index]? =
      if index = forest.scopes.size then some ⟨parent, []⟩ else forest.scopes[index]? := by
  simp [openScope, Array.getElem?_push]

theorem bindings_define (forest : Forest) (scope : ScopeId) (name : Text) (value : Value)
    (index : ScopeId) :
    (forest.define scope name value).bindings index =
      if scope = index ∧ index < forest.scopes.size then (forest.bindings index).set name value
      else forest.bindings index := by
  unfold bindings
  rw [scope_define]
  by_cases there : index < forest.scopes.size
  · by_cases same : scope = index
    · simp [same, there]
    · simp [same]
  · simp [there]

theorem bindings_openScope (forest : Forest) (parent : Option ScopeId) (index : ScopeId) :
    (forest.openScope parent).2.bindings index = forest.bindings index := by
  unfold bindings
  rw [scope_openScope]
  split
  · next last => simp [last]
  · rfl

theorem parents_define (forest : Forest) (scope : ScopeId) (name : Text) (value : Value)
    (index : ScopeId) :
    (forest.define scope name value).scopes[index]?.map Scope.parent =
      forest.scopes[index]?.map Scope.parent := by
  rw [scope_define]
  split
  · rw [Option.map_map]
    rfl
  · rfl

theorem parent_congr {forest other : Forest} {scope : ScopeId}
    (same : forest.scopes[scope]?.map Scope.parent = other.scopes[scope]?.map Scope.parent) :
    forest.parent? scope = other.parent? scope := by
  have parents : forest.scopes[scope]?.bind Scope.parent = other.scopes[scope]?.bind Scope.parent := by
    have joined := congrArg (Option.bind · id) same
    simpa only [Option.bind_map, Function.id_comp] using joined
  unfold parent?
  rw [parents]

/-- No scope is lost, and scopes keep their parents and their names. -/
def Grows (before after : Forest) : Prop :=
  ∀ (index : ScopeId) (scope : Scope), before.scopes[index]? = some scope →
    ∃ grown : Scope, after.scopes[index]? = some grown ∧ grown.parent = scope.parent ∧
      scope.names <+: grown.names

theorem Grows.refl (forest : Forest) : Grows forest forest :=
  fun _ scope found => ⟨scope, found, rfl, List.prefix_rfl⟩

theorem Grows.trans {first second third : Forest} (before : Grows first second)
    (after : Grows second third) : Grows first third := by
  intro index scope found
  obtain ⟨middle, there, parent, names⟩ := before index scope found
  obtain ⟨last, still, same, more⟩ := after index middle there
  exact ⟨last, still, same.trans parent, names.trans more⟩

theorem Grows.size_le {before after : Forest} (grows : Grows before after) :
    before.scopes.size ≤ after.scopes.size := by
  refine Nat.le_of_not_lt fun bound => ?_
  obtain ⟨grown, there, -⟩ := grows _ _ (Array.getElem?_eq_getElem bound)
  simp at there

theorem grows_define (forest : Forest) (scope : ScopeId) (name : Text) (value : Value) :
    Grows forest (forest.define scope name value) := by
  intro index present found
  rw [scope_define, found]
  split
  · exact ⟨_, rfl, rfl, Bindings.names_set name value present.bindings⟩
  · exact ⟨present, rfl, rfl, List.prefix_rfl⟩

theorem grows_openScope (forest : Forest) (parent : Option ScopeId) :
    Grows forest (forest.openScope parent).2 := by
  intro index present found
  have bound : index < forest.scopes.size := (Array.getElem?_eq_some_iff.mp found).1
  rw [scope_openScope, if_neg (Nat.ne_of_lt bound), found]
  exact ⟨present, rfl, rfl, List.prefix_rfl⟩

theorem Grows.parent {before after : Forest} (grows : Grows before after) {index : ScopeId}
    (bound : index < before.scopes.size) : after.parent? index = before.parent? index := by
  obtain ⟨grown, there, same, -⟩ := grows index _ (Array.getElem?_eq_getElem bound)
  have parents : after.scopes[index]?.bind Scope.parent = before.scopes[index]?.bind Scope.parent := by
    rw [there, Array.getElem?_eq_getElem bound]
    exact same
  unfold parent?
  rw [parents]

theorem root_of_parent {forest : Forest} {scope : ScopeId} {parent : {parent // parent < scope}}
    (inside : forest.parent? scope = some parent) : forest.root scope = forest.root parent.1 := by
  have ancestors : forest.ancestors scope = parent.1 :: forest.ancestors parent.1 := by
    rw [Forest.ancestors, inside]
  unfold root
  rw [ancestors]
  cases forest.ancestors parent.1 <;> rfl

theorem root_of_none {forest : Forest} {scope : ScopeId} (outside : forest.parent? scope = none) :
    forest.root scope = scope := by
  have ancestors : forest.ancestors scope = [] := by
    rw [Forest.ancestors, outside]
  unfold root
  rw [ancestors]
  rfl

theorem root_spec (forest : Forest) (scope : ScopeId) :
    forest.parent? (forest.root scope) = none ∧ forest.root scope ≤ scope := by
  induction scope using Nat.strongRecOn with
  | ind scope ih =>
      cases inside : forest.parent? scope with
      | none =>
          rw [root_of_none inside]
          exact ⟨inside, Nat.le_refl scope⟩
      | some parent =>
          obtain ⟨last, older⟩ := ih parent.1 parent.2
          rw [root_of_parent inside]
          exact ⟨last, Nat.le_trans older (Nat.le_of_lt parent.2)⟩

/-! ### Well-formed forests -/

/-- The oldest scope is the only root, all others stand in older ones, and closures capture scopes
that are there. -/
structure WellFormed (forest : Forest) : Prop where
  inhabited : 0 < forest.scopes.size
  root : ∀ (index : ScopeId) (scope : Scope), forest.scopes[index]? = some scope →
    (scope.parent = none ↔ index = 0)
  older : ∀ (index : ScopeId) (scope : Scope), forest.scopes[index]? = some scope →
    ∀ parent, scope.parent = some parent → parent < index
  within : ∀ (index : ScopeId) (scope : Scope), forest.scopes[index]? = some scope →
    ∀ binding ∈ scope.bindings, binding.2.Within forest.scopes.size

namespace WellFormed

variable {forest : Forest}

theorem define (wellFormed : forest.WellFormed) (scope : ScopeId) (name : Text) {value : Value}
    (fine : value.Within forest.scopes.size) : (forest.define scope name value).WellFormed := by
  have size : (forest.define scope name value).scopes.size = forest.scopes.size :=
    Array.size_modify
  have before {index : ScopeId} {changed : Scope}
      (found : (forest.define scope name value).scopes[index]? = some changed) :
      ∃ present : Scope, forest.scopes[index]? = some present ∧ changed.parent = present.parent ∧
        ∀ binding ∈ changed.bindings, binding ∈ present.bindings ∨ binding.2 = value := by
    rw [scope_define] at found
    split at found
    · obtain ⟨present, there, rfl⟩ := Option.map_eq_some_iff.mp found
      exact ⟨present, there, rfl, fun binding member => Bindings.mem_set member⟩
    · exact ⟨changed, found, rfl, fun binding member => .inl member⟩
  refine ⟨?_, ?_, ?_, ?_⟩
  · rw [size]
    exact wellFormed.inhabited
  · intro index changed found
    obtain ⟨present, there, parent, -⟩ := before found
    rw [parent]
    exact wellFormed.root index present there
  · intro index changed found parent inside
    obtain ⟨present, there, same, -⟩ := before found
    exact wellFormed.older index present there parent (same.symm.trans inside)
  · intro index changed found binding member
    obtain ⟨present, there, -, bindings⟩ := before found
    rw [size]
    rcases bindings binding member with member | rfl
    · exact wellFormed.within index present there binding member
    · exact fine

theorem openScope (wellFormed : forest.WellFormed) {captured : ScopeId}
    (there : captured < forest.scopes.size) :
    (forest.openScope (some captured)).2.WellFormed := by
  have size : (forest.openScope (some captured)).2.scopes.size = forest.scopes.size + 1 :=
    Array.size_push _
  have positive := wellFormed.inhabited
  refine ⟨?_, ?_, ?_, ?_⟩
  · omega
  · intro index scope found
    rw [scope_openScope] at found
    split at found
    · next last =>
        cases found
        subst last
        exact ⟨nofun, fun first => absurd first (Nat.ne_of_gt positive)⟩
    · exact wellFormed.root index scope found
  · intro index scope found parent inside
    rw [scope_openScope] at found
    split at found
    · next last =>
        cases found
        cases inside
        subst last
        exact there
    · exact wellFormed.older index scope found parent inside
  · intro index scope found binding member
    rw [scope_openScope] at found
    split at found
    · cases found
      cases member
    · rw [size]
      exact (wellFormed.within index scope found binding member).mono (Nat.le_succ _)

theorem bound (wellFormed : forest.WellFormed) {scope : ScopeId} {binding : Text × Value}
    (member : binding ∈ forest.bindings scope) : binding.2.Within forest.scopes.size := by
  unfold bindings at member
  cases there : forest.scopes[scope]? with
  | none =>
      rw [there] at member
      cases member
  | some present =>
      rw [there] at member
      exact wellFormed.within scope present there binding member

theorem get (wellFormed : forest.WellFormed) {scope : ScopeId} {name : Text} {value : Value}
    (found : forest.get? scope name = some value) : value.Within forest.scopes.size := by
  obtain ⟨owner, -, bound⟩ := Option.bind_eq_some_iff.mp found
  obtain ⟨binding, member, rfl⟩ := Bindings.mem_of_get bound
  exact wellFormed.bound member

theorem parent (wellFormed : forest.WellFormed) {scope : ScopeId} (inner : scope ≠ 0)
    (there : scope < forest.scopes.size) : (forest.parent? scope).isSome := by
  have found := Array.getElem?_eq_getElem there
  cases inside : forest.scopes[scope].parent with
  | none => exact absurd ((wellFormed.root scope _ found).mp inside) inner
  | some parent =>
      have older := wellFormed.older scope _ found parent inside
      unfold parent?
      rw [found, Option.bind_some, inside]
      simp [older]

theorem root_eq_zero (wellFormed : forest.WellFormed) {scope : ScopeId}
    (there : scope < forest.scopes.size) : forest.root scope = 0 := by
  obtain ⟨outside, le⟩ := root_spec forest scope
  refine Classical.byContradiction fun inner => ?_
  have inside := wellFormed.parent inner (Nat.lt_of_le_of_lt le there)
  rw [outside] at inside
  cases inside

end WellFormed

end Forest

def Policy.wellFormed : Policy where
  world world := world.forest.WellFormed
  later before after := before.forest.Grows after.forest
  scope world scope := scope < world.forest.scopes.size
  contents world := Contents.within world.forest.scopes.size

theorem Policy.wellFormed_lawful : Policy.wellFormed.Lawful where
  refl world := Forest.Grows.refl world.forest
  trans before after := before.trans after
  scope_later later there := Nat.lt_of_lt_of_le there later.size_le
  value_later later fine := fine.mono later.size_le
  source_later _ _ := trivial
  failure_later _ fresh := fresh
  contents world := Contents.within_lawful world.forest.scopes.size
  bound wellFormed _ found := wellFormed.get found
  closure _ there _ _ fine := ⟨there, (Value.allWithin_iff _ _).mpr fine⟩
  define name wellFormed _ fine := ⟨wellFormed.define _ name fine, Forest.grows_define _ _ name _⟩
  openScope wellFormed fine :=
    ⟨⟨wellFormed.openScope fine.1, Forest.grows_openScope _ _⟩, by
      simp [Policy.wellFormed, Forest.openScope]⟩
  print text wellFormed := ⟨wellFormed, Forest.Grows.refl _⟩

end Lisplet
