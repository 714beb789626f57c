import Lisplet.Proofs.Lookups

/-!
Libraries that are installed in a scope. If no entry is refused and their names differ, every entry is
found under its name, and all other names are found as before.
-/

namespace Lisplet

/-- What the entry of a library binds its name to, unless it is refused as a function. -/
def LibraryEntry.bound (name : Text) : LibraryEntry → Except Fault Value
  | constant value => .ok value
  | function registrant adapters unwrap =>
    (registrant.toFunction name adapters unwrap).map .function

namespace Run

variable {scope : ScopeId}

theorem install_of_bound {name : Text} {entry : LibraryEntry} {value : Value}
    (binds : entry.bound name = .ok value) : install scope name entry = define scope name value := by
  cases entry with
  | constant given =>
      cases binds
      rfl
  | function registrant adapters unwrap =>
      rw [LibraryEntry.bound] at binds
      cases becomes : registrant.toFunction name adapters unwrap with
      | error fault =>
          rw [becomes] at binds
          cases binds
      | ok host =>
          rw [becomes] at binds
          cases binds
          rw [install, register, becomes]
          rfl

/-- A library whose entries all bind their names, which differ, is found under these names, and
nothing else changes. -/
theorem installAll_finds {entries : List (Text × LibraryEntry)}
    (distinct : (entries.map Prod.fst).Nodup)
    (binds : ∀ item ∈ entries, ∃ value, item.2.bound item.1 = .ok value) {world : World}
    (there : scope < world.forest.scopes.size) :
    ∃ later, installAll scope entries world = (.ok (), later) ∧
      (∀ item ∈ entries, ∀ value, item.2.bound item.1 = .ok value →
        later.forest.get? scope item.1 = some value) ∧
      ∀ name ∉ entries.map Prod.fst, ∀ inner,
        later.forest.get? inner name = world.forest.get? inner name := by
  induction entries generalizing world with
  | nil => exact ⟨world, rfl, nofun, fun _ _ _ => rfl⟩
  | cons item rest ih =>
      obtain ⟨name, entry⟩ := item
      obtain ⟨absent, others⟩ := List.nodup_cons.mp distinct
      obtain ⟨⟨value, first⟩, behind⟩ := List.forall_mem_cons.mp binds
      let bound : World :=
        { world with forest := world.forest.define scope name value }
      have still : scope < bound.forest.scopes.size :=
        Nat.lt_of_lt_of_le there (Forest.grows_define world.forest scope name value).size_le
      obtain ⟨later, installs, finds, keeps⟩ := ih others behind still
      refine ⟨later, ?_, List.forall_mem_cons.mpr ⟨fun given again => ?_, finds⟩,
        fun other missing inner => ?_⟩
      · change (install scope name entry >>= fun _ => installAll scope rest) world = _
        rw [install_of_bound first]
        exact installs
      · cases first.symm.trans again
        exact (keeps name absent scope).trans ((Forest.get_define_self there value scope).1 .itself)
      · have different := List.ne_of_not_mem_cons missing
        exact (keeps other (List.not_mem_of_not_mem_cons missing) inner).trans
          (Forest.get_define_other world.forest scope different value inner)

end Run

end Lisplet
