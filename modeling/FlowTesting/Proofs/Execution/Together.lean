import FlowTesting.Proofs.Execution.Undisturbed

set_option autoImplicit false

/-!
# Programs that run together

Two programs use the same surroundings, and a schedule says whose turn it is to make the next
request. Every order in which their requests can reach the cluster has a schedule.
-/

namespace FlowTesting

/-- One of two programs that run together. -/
inductive Side where
  | left
  | right
  deriving DecidableEq, Repr

namespace Surroundings

variable {α β : Type}

/-- What a request comes to. -/
def respond (surroundings : Surroundings) (asked : ControllerRequest) :
    controllerInterface.Reply asked × Surroundings :=
  handle asked surroundings

/-- Lets a program make its next request, if there is one left. -/
def step (surroundings : Surroundings) :
    Program controllerInterface α → Program controllerInterface α × Surroundings
  | .done value => (.done value, surroundings)
  | .request asked next =>
    (next (surroundings.respond asked).1, (surroundings.respond asked).2)

/-- Runs two programs together. A turn of a program that is done passes, and once the schedule
is used up the left program runs to its end and then the right one. -/
def runTogether (surroundings : Surroundings) :
    List Side → Program controllerInterface (Except Failure α) →
      Program controllerInterface (Except Failure β) →
        (Except Failure α × Except Failure β) × Surroundings
  | [], left, right =>
    let first := surroundings.run (ExceptT.mk left)
    let second := first.2.run (ExceptT.mk right)
    ((first.1, second.1), second.2)
  | .left :: schedule, left, right =>
    let stepped := surroundings.step left
    runTogether stepped.2 schedule stepped.1 right
  | .right :: schedule, left, right =>
    let stepped := surroundings.step right
    runTogether stepped.2 schedule left stepped.1

theorem run_request (surroundings : Surroundings) (asked : ControllerRequest)
    (next : controllerInterface.Reply asked → Program controllerInterface (Except Failure α)) :
    surroundings.run (ExceptT.mk (.request asked next)) =
      (surroundings.respond asked).2.run (ExceptT.mk (next (surroundings.respond asked).1)) := rfl

/-- A program comes to the same when it makes its next request beforehand. -/
theorem run_step (surroundings : Surroundings)
    (program : Program controllerInterface (Except Failure α)) :
    (surroundings.step program).2.run (ExceptT.mk (surroundings.step program).1) =
      surroundings.run (ExceptT.mk program) := by
  cases program with
  | done outcome => rfl
  | request asked next => rfl

end Surroundings

end FlowTesting
