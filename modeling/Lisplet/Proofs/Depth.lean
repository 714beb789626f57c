import Lisplet.Proofs.Procedures

/-!
The depth of evaluations. A run that does not exhaust the depth that it may nest to is the same where
it may nest deeper.
-/

namespace Lisplet

variable {α β ι : Type}

/-- Does the failure say that evaluations nested too deep? -/
def Failure.exhausts : Failure → Bool
  | .fault .depthExceeded _ | .panic .depthExceeded _ => true
  | _ => false

namespace Run

/-- The run does not exhaust the depth of evaluations. -/
def Settles (run : Run α) (world : World) : Prop :=
  ∀ failure last, run world = (.error failure, last) → failure.exhausts = false

instance (run : Run α) (world : World) : Decidable (run.Settles world) :=
  match happens : run world with
  | (.ok _, _) => .isTrue fun _ _ fails => by cases happens.symm.trans fails
  | (.error failure, last) =>
    if settled : failure.exhausts = false then
      .isTrue fun _ _ fails => by cases happens.symm.trans fails; exact settled
    else .isFalse fun settles => settled (settles failure last happens)

/-- Wherever the first run does not exhaust the depth of evaluations, the second one does the same. -/
def Deepens (first second : Run α) : Prop :=
  ∀ world, first.Settles world → second world = first world

theorem Deepens.refl (run : Run α) : run.Deepens run :=
  fun _ _ => rfl

theorem Deepens.bind {first second : Run α} {next later : α → Run β}
    (deepens : first.Deepens second) (continues : ∀ result, (next result).Deepens (later result)) :
    (first >>= next).Deepens (second >>= later) := by
  intro world settles
  rcases happens : first world with ⟨failure | result, middle⟩
  · have same : second world = (.error failure, middle) := by
      rw [← happens]
      refine deepens world fun other last fails => settles other last ?_
      exact bind_of_error fails
    rw [bind_of_error same, bind_of_error happens]
  · have same : second world = (.ok result, middle) := by
      rw [← happens]
      refine deepens world fun other last fails => ?_
      rw [happens] at fails
      cases fails
    rw [bind_of_ok same, bind_of_ok happens]
    refine continues result middle fun other last fails => settles other last ?_
    rw [bind_of_ok happens, fails]

theorem Deepens.foldlM {first second : β → ι → Run β}
    (deepens : ∀ state item, (first state item).Deepens (second state item)) (items : List ι)
    (start : β) : (items.foldlM first start).Deepens (items.foldlM second start) := by
  induction items generalizing start with
  | nil => exact .refl _
  | cons item rest ih =>
      rw [List.foldlM_cons, List.foldlM_cons]
      exact (deepens start item).bind ih

theorem Settles.of_failing {change : Failure → Failure}
    (keeps : ∀ failure, (change failure).exhausts = failure.exhausts) {run : Run α} {world : World}
    (settles : (run.failing change).Settles world) : run.Settles world := by
  intro failure last fails
  rw [← keeps]
  exact settles _ last (failing_of_error fails)

theorem Deepens.failing {change : Failure → Failure}
    (keeps : ∀ failure, (change failure).exhausts = failure.exhausts) {first second : Run α}
    (deepens : first.Deepens second) : (first.failing change).Deepens (second.failing change) := by
  intro world settles
  rw [Run.failing, deepens world (settles.of_failing keeps), Run.failing]

end Run

end Lisplet
