import Lisplet.Proofs.Scopes

/-!
Looking up names. A scope sees another one under a name if that one lies on its chain and no nearer
scope binds the name; what it finds is the binding of the scope that it sees. A new binding changes
what is found under its own name only, and only from where its scope is seen.
-/

namespace Lisplet

namespace Bindings

theorem get_cons (name : Text) (binding : Text × Value) (bindings : Bindings) :
    Bindings.get? name (binding :: bindings) =
      if binding.1 = name then some binding.2 else bindings.get? name := by
  rw [get?, get?, List.find?_cons]
  by_cases same : binding.1 = name <;> simp [same]

theorem get_set (name other : Text) (value : Value) (bindings : Bindings) :
    (bindings.set name value).get? other =
      if name = other then some value else bindings.get? other := by
  induction bindings with
  | nil => exact get_cons other (name, value) []
  | cons binding rest ih =>
      obtain ⟨label, present⟩ := binding
      rw [Bindings.set]
      by_cases bound : label = name
      · rw [if_pos bound, get_cons, get_cons, bound]
        by_cases same : name = other <;> simp [same]
      · rw [if_neg bound, get_cons, get_cons, ih]
        by_cases same : name = other
        · simp [same ▸ bound, same]
        · simp [same]

end Bindings

namespace Forest

variable {forest : Forest} {name : Text} {owner scope : ScopeId}

/-! ### Chains -/

/-- From the scope outwards, the owner is reached before any scope that binds the name. -/
inductive Sees (forest : Forest) (name : Text) (owner : ScopeId) : ScopeId → Prop
  | itself : Sees forest name owner owner
  | outwards {scope : ScopeId} {parent : {parent // parent < scope}}
      (unbound : forest.binds name scope = false) (inside : forest.parent? scope = some parent)
      (sees : Sees forest name owner parent.1) : Sees forest name owner scope

/-- What is seen from a scope that is not the owner is seen from its parent. -/
theorem sees_iff (other : owner ≠ scope) :
    forest.Sees name owner scope ↔ forest.binds name scope = false ∧
      ∃ parent, forest.parent? scope = some parent ∧ forest.Sees name owner parent.1 := by
  constructor
  · intro sees
    cases sees with
    | itself => exact absurd rfl other
    | outwards unbound inside sees => exact ⟨unbound, _, inside, sees⟩
  · rintro ⟨unbound, parent, inside, sees⟩
    exact .outwards unbound inside sees

/-! ### What is found -/

/-- A name is looked up in the scope itself, and from its parent if it is not bound there. -/
theorem find_eq (forest : Forest) (scope : ScopeId) (name : Text) :
    forest.find? scope name =
      if forest.binds name scope then some scope
      else (forest.parent? scope).bind fun parent => forest.find? parent.1 name := by
  rw [find?, chain, List.find?_cons]
  cases forest.binds name scope with
  | true => rfl
  | false =>
      rw [ancestors]
      cases forest.parent? scope with
      | none => rfl
      | some parent => rfl

theorem find_eq_some_iff :
    forest.find? scope name = some owner ↔
      forest.Sees name owner scope ∧ forest.binds name owner = true := by
  induction scope using Nat.strongRecOn with
  | ind scope ih =>
      rw [find_eq]
      cases bound : forest.binds name scope with
      | true =>
          rw [if_pos rfl, Option.some.injEq]
          constructor
          · rintro rfl
            exact ⟨.itself, bound⟩
          · rintro ⟨sees, -⟩
            cases sees with
            | itself => rfl
            | outwards unbound _ _ => cases bound.symm.trans unbound
      | false =>
          rw [if_neg Bool.false_ne_true, Option.bind_eq_some_iff]
          constructor
          · rintro ⟨parent, inside, found⟩
            obtain ⟨sees, binds⟩ := (ih parent.1 parent.2).mp found
            exact ⟨.outwards bound inside sees, binds⟩
          · rintro ⟨sees, binds⟩
            have other : owner ≠ scope := by
              rintro rfl
              rw [bound] at binds
              cases binds
            obtain ⟨-, parent, inside, further⟩ := (sees_iff other).mp sees
            exact ⟨parent, inside, (ih parent.1 parent.2).mpr ⟨further, binds⟩⟩

theorem get_eq (forest : Forest) (scope : ScopeId) (name : Text) :
    forest.get? scope name = ((forest.bindings scope).get? name).or
      ((forest.parent? scope).bind fun parent => forest.get? parent.1 name) := by
  rw [get?, find_eq, binds]
  cases bound : (forest.bindings scope).get? name with
  | some value => simpa using bound
  | none =>
      cases forest.parent? scope with
      | none => rfl
      | some parent => rfl

theorem isSome_get (forest : Forest) (scope : ScopeId) (name : Text) :
    (forest.get? scope name).isSome = forest.contains scope name := by
  rw [get?, contains]
  cases found : forest.find? scope name with
  | none => rfl
  | some owner => exact (find_eq_some_iff.mp found).2

/-! ### New bindings -/

variable {value : Value}

theorem parent_define (forest : Forest) (owner : ScopeId) (name : Text) (value : Value)
    (scope : ScopeId) : (forest.define owner name value).parent? scope = forest.parent? scope :=
  parent_congr (parents_define forest owner name value scope)

/-- Other names are found as before, from everywhere. -/
theorem get_define_other (forest : Forest) (owner : ScopeId) {bound name : Text}
    (other : name ≠ bound) (value : Value) (scope : ScopeId) :
    (forest.define owner bound value).get? scope name = forest.get? scope name := by
  induction scope using Nat.strongRecOn with
  | ind scope ih =>
      have here : ((forest.define owner bound value).bindings scope).get? name =
          (forest.bindings scope).get? name := by
        rw [bindings_define]
        split
        · rw [Bindings.get_set, if_neg (Ne.symm other)]
        · rfl
      rw [get_eq, get_eq, here, parent_define]
      congr 1
      exact Option.bind_congr fun parent _ => ih parent.1 parent.2

/-- The name itself is found in the owner from where the owner is seen, and as before from
everywhere else. -/
theorem get_define_self (there : owner < forest.scopes.size) (value : Value) (scope : ScopeId) :
    (forest.Sees name owner scope →
        (forest.define owner name value).get? scope name = some value) ∧
      (¬forest.Sees name owner scope →
        (forest.define owner name value).get? scope name = forest.get? scope name) := by
  induction scope using Nat.strongRecOn with
  | ind scope ih =>
      rw [get_eq, get_eq forest, bindings_define, parent_define]
      by_cases same : owner = scope
      · subst same
        rw [if_pos ⟨rfl, there⟩, Bindings.get_set, if_pos rfl]
        exact ⟨fun _ => rfl, fun unseen => absurd .itself unseen⟩
      rw [if_neg fun both => same both.1, sees_iff same, binds]
      -- A binding that is nearer hides the owner, so nothing changes behind it.
      cases (forest.bindings scope).get? name with
      | some nearer => exact ⟨fun ⟨unbound, _⟩ => (nomatch unbound), fun _ => rfl⟩
      | none =>
          cases inside : forest.parent? scope with
          | none => exact ⟨fun ⟨_, _, around, _⟩ => (nomatch around), fun _ => rfl⟩
          | some parent =>
              obtain ⟨seen, unseen⟩ := ih parent.1 parent.2
              constructor
              · rintro ⟨-, other, around, sees⟩
                cases around
                exact seen sees
              · intro hidden
                exact unseen fun sees => hidden ⟨rfl, parent, rfl, sees⟩

end Forest

/-! ### Runs -/

namespace Run

theorem lookUp_eq (scope : ScopeId) (name : Identifier) (world : World) :
    lookUp scope name world =
      (match world.forest.get? scope name.name with
        | some value => .ok value
        | none => .error (.ofCause (.unboundName name.name) name.ref), world) := by
  have forests : Run.forest world = (.ok world.forest, world) := rfl
  rw [lookUp, bind_of_ok forests]
  cases world.forest.get? scope name.name <;> rfl

theorem lookUp_eq_ok_iff {scope : ScopeId} {name : Identifier} {world : World} {value : Value} :
    lookUp scope name world = (.ok value, world) ↔
      world.forest.get? scope name.name = some value := by
  rw [lookUp_eq]
  cases world.forest.get? scope name.name <;> simp

theorem lookUp_congr {scope : ScopeId} {name : Identifier} {world other : World}
    (same : world.forest.get? scope name.name = other.forest.get? scope name.name) :
    (lookUp scope name world).1 = (lookUp scope name other).1 := by
  rw [lookUp_eq, lookUp_eq, same]

/-- A lookup gives what the nearest scope binds that has the name, and fails at the place of the
name if none has it. A new binding is what lookups of its name give from where its scope is seen,
and all other lookups stay as they were. -/
theorem lookUp_scoped (world : World) :
    (∀ (scope : ScopeId) (name : Identifier),
      ((∃ value, lookUp scope name world = (.ok value, world)) ↔
        world.forest.contains scope name.name = true) ∧
      (world.forest.contains scope name.name = true ↔
        ∃ owner, world.forest.find? scope name.name = some owner) ∧
      (∀ owner, world.forest.find? scope name.name = some owner ↔
        world.forest.Sees name.name owner scope ∧
          world.forest.binds name.name owner = true) ∧
      (∀ value, lookUp scope name world = (.ok value, world) ↔
        ∃ owner, world.forest.find? scope name.name = some owner ∧
          (world.forest.bindings owner).get? name.name = some value) ∧
      (world.forest.contains scope name.name = false →
        lookUp scope name world =
            (.error (.error ⟨.unboundName name.name, name.ref, []⟩), world) ∧
          (Cause.unboundName name.name).kind = .unknownVariable)) ∧
    ∀ owner < world.forest.scopes.size, ∀ (bound : Text) (value : Value), ∃ later,
      define owner bound value world = (.ok (), later) ∧
        ∀ (scope : ScopeId) (name : Identifier),
          (name.name = bound → world.forest.Sees bound owner scope →
            (lookUp scope name later).1 = .ok value) ∧
          (¬(name.name = bound ∧ world.forest.Sees bound owner scope) →
            (lookUp scope name later).1 = (lookUp scope name world).1) := by
  refine ⟨fun scope name => ⟨?_, Option.isSome_iff_exists, fun owner => ?_, fun value => ?_, ?_⟩,
    fun owner there bound value => ⟨_, rfl, fun scope name => ⟨?_, ?_⟩⟩⟩
  · simp only [lookUp_eq_ok_iff]
    rw [← Option.isSome_iff_exists, Forest.isSome_get]
  · exact Forest.find_eq_some_iff
  · rw [lookUp_eq_ok_iff]
    exact Option.bind_eq_some_iff
  · intro missing
    rw [← Forest.isSome_get, Option.isSome_eq_false_iff, Option.isNone_iff_eq_none] at missing
    rw [lookUp_eq, missing]
    exact ⟨rfl, rfl⟩
  · rintro rfl sees
    rw [lookUp_eq, (Forest.get_define_self there value scope).1 sees]
  · intro apart
    refine lookUp_congr ?_
    by_cases same : name.name = bound
    · subst same
      exact (Forest.get_define_self there value scope).2 fun sees => apart ⟨rfl, sees⟩
    · exact Forest.get_define_other world.forest owner same value scope

end Run

/-- A root that binds `a`, a scope in it, one in that which binds `a` too, and a second one in the
root. -/
def World.nested : World :=
  ⟨⟨#[⟨none, [("a", .integer 1 none)]⟩, ⟨some 0, []⟩, ⟨some 1, [("a", .integer 2 none)]⟩,
    ⟨some 0, []⟩]⟩, #[]⟩

/-- A new binding of the scope in the middle is found there; further in there is a nearer one, and
next to it that of the root. -/
theorem Run.lookUp_scoped_nested :
    ∃ later, define 1 "a" (.integer 5 none) .nested = (.ok (), later) ∧
      (lookUp 1 ⟨"a", none⟩ later).1 = .ok (.integer 5 none) ∧
      (lookUp 2 ⟨"a", none⟩ later).1 = .ok (.integer 2 none) ∧
      (lookUp 3 ⟨"a", none⟩ later).1 = .ok (.integer 1 none) := by
  obtain ⟨before, after⟩ := lookUp_scoped .nested
  obtain ⟨later, defined, found⟩ := after 1 (by decide) "a" (.integer 5 none)
  have unseenInside : ¬World.nested.forest.Sees "a" 1 2 := by
    rintro (_ | ⟨unbound, -, -⟩)
    exact absurd unbound (by decide)
  have unseenBeside : ¬World.nested.forest.Sees "a" 1 3 := by
    rintro (_ | ⟨unbound, inside, sees⟩)
    cases inside
    rcases sees with _ | ⟨_, outside, _⟩
    cases outside
  have two : lookUp 2 ⟨"a", none⟩ .nested = (.ok (.integer 2 none), .nested) :=
    ((before 2 ⟨"a", none⟩).2.2.2.1 _).mpr
      ⟨2, ((before 2 ⟨"a", none⟩).2.2.1 2).mpr ⟨.itself, by decide⟩, rfl⟩
  have inside : World.nested.forest.parent? 3 = some ⟨0, by decide⟩ := rfl
  have one : lookUp 3 ⟨"a", none⟩ .nested = (.ok (.integer 1 none), .nested) :=
    ((before 3 ⟨"a", none⟩).2.2.2.1 _).mpr
      ⟨0, ((before 3 ⟨"a", none⟩).2.2.1 0).mpr
        ⟨.outwards (by decide) inside .itself, by decide⟩, rfl⟩
  refine ⟨later, defined, (found 1 ⟨"a", none⟩).1 rfl .itself, ?_, ?_⟩
  · rw [(found 2 ⟨"a", none⟩).2 fun both => unseenInside both.2, two]
  · rw [(found 3 ⟨"a", none⟩).2 fun both => unseenBeside both.2, one]

end Lisplet
