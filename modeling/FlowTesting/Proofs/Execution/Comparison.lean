import FlowTesting.Proofs.Execution.Procedure
import FlowTesting.Proofs.Execution.Undisturbed

set_option autoImplicit false

/-!
# Comparison of runs

A procedure that is run in two surroundings comes to the same in both, as long as they agree in
whatever it asks for.
-/

namespace FlowTesting

variable {related : Surroundings → Surroundings → Prop}

/-- Whether related surroundings answer a request alike and stay related. -/
def ControllerRequest.Respects (related : Surroundings → Surroundings → Prop) :
    ControllerRequest → Prop
  | .call made => ∀ left right, related left right →
      (left.answer made).1 = (right.answer made).1 ∧
        related (left.answer made).2 (right.answer made).2
  | .publish _ => True

namespace Procedure

variable {α β : Type}

/-- Whether a procedure comes to the same in related surroundings and leaves them related. -/
def Respects (related : Surroundings → Surroundings → Prop) (procedure : Procedure α) : Prop :=
  ∀ left right, related left right →
    (left.run procedure).1 = (right.run procedure).1 ∧
      related (left.run procedure).2 (right.run procedure).2

theorem Makes.respects {procedure : Procedure α}
    (makes : procedure.Makes (ControllerRequest.Respects related)) :
    procedure.Respects related := by
  unfold Respects Surroundings.run
  unfold Makes at makes
  generalize procedure.run = program at makes
  induction program with
  | done value => exact fun left right alike => ⟨rfl, alike⟩
  | request asked next ih =>
    intro left right alike
    obtain ⟨respected, makesRest⟩ := makes
    cases asked with
    | publish event => exact ih () (makesRest ()) left right alike
    | call call =>
      obtain ⟨sameAnswer, alikeAfter⟩ := respected left right alike
      have rest := ih (left.answer call).1 (makesRest _) _ _ alikeAfter
      change (Program.run Surroundings.handle (next (left.answer call).1) (left.answer call).2 :
          Except Failure α × Surroundings).1 =
        (Program.run Surroundings.handle (next (right.answer call).1) (right.answer call).2 :
          Except Failure α × Surroundings).1 ∧ related
        (Program.run Surroundings.handle (next (left.answer call).1) (left.answer call).2 :
          Except Failure α × Surroundings).2
        (Program.run Surroundings.handle (next (right.answer call).1) (right.answer call).2 :
          Except Failure α × Surroundings).2
      rw [← sameAnswer]
      exact rest

theorem respects_pure (value : α) : Respects related (pure value : Procedure α) :=
  fun _ _ alike => ⟨rfl, alike⟩

theorem respects_throw (failure : Failure) : Respects related (throw failure : Procedure α) :=
  fun _ _ alike => ⟨rfl, alike⟩

/-- What comes second has to respect only what the first can come to. -/
theorem Respects.bind_answered {first : Procedure α} {next : α → Procedure β}
    (respects : first.Respects related)
    (rest : ∀ value left right, related left right → (left.run first).1 = .ok value →
      (next value).Respects related) : (first >>= next).Respects related := by
  intro left right alike
  obtain ⟨sameOutcome, alikeAfter⟩ := respects left right alike
  rw [Surroundings.run_bind, Surroundings.run_bind]
  rcases ranLeft : left.run first with ⟨outcome, leftAfter⟩
  rcases ranRight : right.run first with ⟨otherOutcome, rightAfter⟩
  rw [ranLeft, ranRight] at sameOutcome alikeAfter
  obtain rfl : outcome = otherOutcome := sameOutcome
  cases outcome with
  | error failure => exact ⟨rfl, alikeAfter⟩
  | ok value => exact rest value left right alike (by rw [ranLeft]) leftAfter rightAfter alikeAfter

theorem Respects.bind {first : Procedure α} {next : α → Procedure β}
    (respects : first.Respects related) (rest : ∀ value, (next value).Respects related) :
    (first >>= next).Respects related :=
  respects.bind_answered (fun value _ _ _ _ => rest value)

theorem respects_outcome_bind {outcome : Except Failure α} {next : α → Procedure β}
    (rest : ∀ value, outcome = .ok value → (next value).Respects related) :
    Respects related (ExceptT.mk (pure outcome) >>= next) := by
  cases outcome with
  | ok value => exact rest value rfl
  | error failure => exact fun _ _ alike => ⟨rfl, alike⟩

theorem respects_make {call : Call} (respected : ControllerRequest.Respects related (.call call)) :
    call.make.Respects related :=
  (makes_make respected).respects

/-- Whether a procedure succeeds with the same value in related surroundings and leaves them
related. -/
def Accords (related : Surroundings → Surroundings → Prop) (procedure : Procedure α) : Prop :=
  ∀ left right, related left right → ∃ value,
    (left.run procedure).1 = .ok value ∧ (right.run procedure).1 = .ok value ∧
      related (left.run procedure).2 (right.run procedure).2

theorem accords_pure (value : α) : Accords related (pure value : Procedure α) :=
  fun _ _ alike => ⟨value, rfl, rfl, alike⟩

theorem accords_publish (event : Event) : event.publish.Accords related :=
  fun _ _ alike => ⟨(), rfl, rfl, alike⟩

theorem Accords.respects {procedure : Procedure α} (accords : procedure.Accords related) :
    procedure.Respects related := by
  intro left right alike
  obtain ⟨value, succeededLeft, succeededRight, alikeAfter⟩ := accords left right alike
  exact ⟨succeededLeft.trans succeededRight.symm, alikeAfter⟩

/-- A procedure that is run for its outcome succeeds, whatever that is. -/
theorem Respects.accords_lift {procedure : Procedure α} (respects : procedure.Respects related) :
    Accords related (ExceptT.lift procedure.run : Procedure (Except Failure α)) := by
  intro left right alike
  obtain ⟨sameOutcome, alikeAfter⟩ := respects left right alike
  rw [Surroundings.run_lift, Surroundings.run_lift, sameOutcome]
  exact ⟨_, rfl, rfl, alikeAfter⟩

theorem Accords.bind {first : Procedure α} {next : α → Procedure β}
    (accords : first.Accords related) (rest : ∀ value, (next value).Accords related) :
    (first >>= next).Accords related := by
  intro left right alike
  obtain ⟨value, succeededLeft, succeededRight, alikeAfter⟩ := accords left right alike
  rw [Surroundings.run_bind_of_ok _ (Prod.ext succeededLeft rfl),
    Surroundings.run_bind_of_ok _ (Prod.ext succeededRight rfl)]
  exact rest value _ _ alikeAfter

end Procedure

end FlowTesting
