import Lisplet.Proofs.AdapterChains
import Mathlib.Data.List.Forall2
import Mathlib.Data.List.Nodup

/-!
Chains of adapters that turn every argument into the same kind of number. Such a chain fails as one
of its conversions does on the arguments it was given, and it succeeds if all arguments convert, each
on its own.
-/

namespace Lisplet

namespace Adapter

variable {adapter : Adapter} {kind : NumberKind} {place : Nat}
  {arguments adapted : List HostObject} {failure : Failure}

/-- An adapter looks at the number of arguments and at the one that it names. -/
theorem Refuses.congr {others : List HostObject} (refuses : adapter.Refuses arguments failure)
    (length : others.length = arguments.length)
    (same : ∀ kind place, adapter = Adapter.conversion kind place →
      others[place]? = arguments[place]?) :
    adapter.Refuses others failure := by
  cases refuses with
  | count counts other =>
      rw [← length] at other ⊢
      exact .count counts other
  | place names missing =>
      rw [← length] at missing ⊢
      exact .place names missing
  | type names found other =>
      exact .type names ((same _ _ (kindAt?_eq_some_iff.mp names)).trans found) other
  | conversion names found unconvertible =>
      exact .conversion names ((same _ _ (kindAt?_eq_some_iff.mp names)).trans found) unconvertible

theorem place_of_conversion {other : NumberKind} {apart : Nat}
    (same : conversion kind place = conversion other apart) : place = apart := by
  cases kind <;> cases other
  case float.float => exact Int.natCast_inj.mp (Adapter.toFloat.inj same)
  case integer.integer => exact Int.natCast_inj.mp (Adapter.toInteger.inj same)
  all_goals cases same

/-- Conversions of different arguments fail as one of them does on its own. -/
theorem refuses_of_conversions {places : List Nat} (distinct : places.Nodup)
    (fails : applyAll (places.map (conversion kind)) arguments = .error failure) :
    ∃ place ∈ places, (conversion kind place).Refuses arguments failure := by
  induction places generalizing arguments with
  | nil => cases fails
  | cons place rest ih =>
      obtain ⟨absent, others⟩ := List.nodup_cons.mp distinct
      rw [List.map_cons, applyAll_cons] at fails
      rcases conversion_cases kind place arguments with
        ⟨other, refuses⟩ | ⟨number, converted, found, -, sets⟩
      · rw [refuses.apply_eq] at fails
        cases fails
        exact ⟨place, List.mem_cons_self, refuses⟩
      · rw [sets] at fails
        obtain ⟨named, member, refuses⟩ := ih others fails
        refine ⟨named, List.mem_cons_of_mem place member, ?_⟩
        refine refuses.congr List.length_set.symm fun other apart same => ?_
        obtain rfl := place_of_conversion same
        exact (List.getElem?_set_ne (ne_of_mem_of_not_mem member absent).symm).symm

theorem kindsAt_conversions (places : List Nat) :
    kindsAt place (places.map (conversion kind)) = List.replicate (places.count place) kind := by
  induction places with
  | nil => rfl
  | cons named rest ih =>
      rw [List.map_cons, kindsAt, List.filterMap_cons]
      by_cases same : named = place
      · subst same
        rw [kindAt?_eq_some_iff.mpr rfl, List.count_cons_self, List.replicate_succ]
        exact congrArg (kind :: ·) ih
      · rw [kindAt?_conversion_of_ne kind same, List.count_cons_of_ne same]
        exact ih

theorem Converts.unique {kinds : List NumberKind} {first last other : Option HostObject}
    (converts : Converts kinds first last) (again : Converts kinds first other) : other = last := by
  induction converts with
  | nil => exact again.same
  | cons head tail ih =>
      generalize start : some (HostNumber.toObject _) = first at again
      cases again with
      | @cons _ _ number converted _ turns rest =>
          have same := HostNumber.ofObject_eq_some_iff.mpr (Option.some.inj start)
          rw [HostNumber.ofObject_eq_some_iff.mpr rfl] at same
          cases same
          cases head.symm.trans turns
          exact ih rest

/-- Every one of several arguments is turned into the same kind of number, or none is touched. -/
def conversions (count : Nat) : Option NumberKind → List Adapter
  | none => []
  | some kind => (List.range count).map (conversion kind)

theorem natural_conversions (count : Nat) (kind? : Option NumberKind) :
    ∀ adapter ∈ conversions count kind?, adapter.Natural := by
  cases kind? with
  | none => exact nofun
  | some kind =>
      refine List.forall_mem_map.mpr fun place _ => ?_
      cases kind <;> exact Int.natCast_nonneg place

theorem applyAll_conversions {kind? : Option NumberKind}
    (adapts : applyAll (conversions arguments.length kind?) arguments = .ok adapted) :
    List.Forall₂ (fun object result => Converts kind?.toList (some object) (some result))
      arguments adapted := by
  have length := (applyAll_counts adapts).1
  refine List.forall₂_iff_get.mpr ⟨length.symm, fun place below within => ?_⟩
  have kinds : kindsAt place (conversions arguments.length kind?) = kind?.toList := by
    cases kind? with
    | none => rfl
    | some kind =>
        have once := List.count_eq_one_of_mem List.nodup_range (List.mem_range.mpr below)
        rw [conversions, kindsAt_conversions, once]
        rfl
  have converts := converts_of_applyAll (natural_conversions _ kind?) adapts place
  rw [kinds, List.getElem?_eq_getElem below, List.getElem?_eq_getElem within] at converts
  exact converts

theorem Refuses.not_converts {last : Option HostObject}
    (refuses : (Adapter.conversion kind place).Refuses arguments failure) :
    ¬Converts [kind] arguments[place]? last := by
  intro converts
  obtain ⟨number, converted, found, folds, -⟩ := converts.number (List.cons_ne_nil kind [])
  rw [List.foldlM_cons] at folds
  cases turns : number.convert kind with
  | error fault =>
      rw [turns] at folds
      cases folds
  | ok result =>
      have adapts := apply_conversion_eq_ok_iff.mpr ⟨number, result, found, turns, rfl⟩
      cases adapts.symm.trans refuses.apply_eq

theorem applyAll_conversions_eq_ok_iff {kind? : Option NumberKind} :
    applyAll (conversions arguments.length kind?) arguments = .ok adapted ↔
      List.Forall₂ (fun object result => Converts kind?.toList (some object) (some result))
        arguments adapted := by
  refine ⟨applyAll_conversions, fun all => ?_⟩
  obtain ⟨length, each⟩ := List.forall₂_iff_get.mp all
  cases adapts : applyAll (conversions arguments.length kind?) arguments with
  | error failure =>
      cases kind? with
      | none => cases adapts
      | some kind =>
          obtain ⟨place, member, refuses⟩ := refuses_of_conversions List.nodup_range adapts
          have below := List.mem_range.mp member
          have converts := each place below (length ▸ below)
          rw [List.get_eq_getElem, ← List.getElem?_eq_getElem below] at converts
          exact absurd converts refuses.not_converts
  | ok other =>
      obtain ⟨same, others⟩ := List.forall₂_iff_get.mp (applyAll_conversions adapts)
      refine congrArg Except.ok (List.ext_getElem (same.symm.trans length) fun place _ within => ?_)
      have below : place < arguments.length := length ▸ within
      exact Option.some.inj ((each place below within).unique (others place below _))

/-- An argument that is no number fails a chain of conversions, unless another one fails it for a
number that cannot be converted. -/
theorem applyAll_conversions_mistyped {object : HostObject} (member : object ∈ arguments)
    (other : ∀ number : HostNumber, object ≠ number.toObject)
    (convertible : ∀ number : HostNumber, number.toObject ∈ arguments →
      ∀ fault, ¬number.Unconvertible kind fault) :
    ∃ place found, applyAll (conversions arguments.length (some kind)) arguments =
      .error (.ofCause (.argumentNotNumber place found) none) := by
  cases adapts : applyAll (conversions arguments.length (some kind)) arguments with
  | ok adapted =>
      obtain ⟨place, below, rfl⟩ := List.getElem_of_mem member
      obtain ⟨length, each⟩ := List.forall₂_iff_get.mp (applyAll_conversions adapts)
      obtain ⟨number, _, same, -⟩ := (each place below (length ▸ below)).number (by simp)
      exact absurd (Option.some.inj same) (other number)
  | error failure =>
      obtain ⟨place, within, refuses⟩ := refuses_of_conversions List.nodup_range adapts
      have below := List.mem_range.mp within
      cases refuses with
      | count counts => cases kind <;> cases counts
      | place names missing =>
          obtain rfl := place_of_conversion (kindAt?_eq_some_iff.mp names)
          exact absurd below (Nat.not_lt.mpr missing)
      | type => exact ⟨_, _, rfl⟩
      | @conversion turned _ number _ names found unconvertible =>
          obtain rfl : kind = turned := by
            cases kind <;> cases turned <;> first | rfl | cases kindAt?_eq_some_iff.mp names
          exact absurd unconvertible (convertible number (List.mem_of_getElem? found) _)

end Adapter

end Lisplet
