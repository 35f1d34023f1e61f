import FlowTesting.Proofs.Execution.Procedure

set_option autoImplicit false

/-!
# Monitors

A monitor watches the requests of a program and the replies to them, and says how each of them
moves it. A program follows a monitor if none of its requests leaves the monitor without a move,
whatever others do to the cluster in between.
-/

namespace FlowTesting

/-- What is watched: which replies are possible, and how a request with its reply moves on. -/
structure Monitor (σ : Type) where
  possible : (asked : ControllerRequest) → controllerInterface.Reply asked → Prop
  moves : σ → (asked : ControllerRequest) → controllerInterface.Reply asked → σ → Prop

variable {α β σ : Type} {monitor : Monitor σ} {state : σ}

namespace Program

/-- Whatever it is replied, each request of a program is a move, and the program is done with the
monitor as wanted. -/
def Follows (monitor : Monitor σ) (wanted : α → σ → Prop) :
    Program controllerInterface α → σ → Prop
  | .done value, state => wanted value state
  | .request asked next, state => ∀ reply, monitor.possible asked reply →
      ∃ later, monitor.moves state asked reply later ∧ Follows monitor wanted (next reply) later

theorem follows_bind {wanted : β → σ → Prop} (program : Program controllerInterface α)
    (next : α → Program controllerInterface β) (state : σ) :
    (program.bind next).Follows monitor wanted state ↔
      program.Follows monitor (fun value later => (next value).Follows monitor wanted later)
        state := by
  induction program generalizing state with
  | done value => rfl
  | request asked reply ih => simp only [Program.bind, Follows, ih]

theorem Follows.mono {wanted wished : α → σ → Prop} {program : Program controllerInterface α}
    (follows : program.Follows monitor wanted state)
    (wants : ∀ value later, wanted value later → wished value later) :
    program.Follows monitor wished state := by
  induction program generalizing state with
  | done value => exact wants value state follows
  | request asked next ih =>
    intro reply possible
    obtain ⟨later, moves, rest⟩ := follows reply possible
    exact ⟨later, moves, ih reply rest⟩

/-- Requests that never move the monitor leave it as it is. -/
theorem Makes.follows {made : ControllerRequest → Prop} {program : Program controllerInterface α}
    (makes : program.Makes made)
    (stays : ∀ asked reply, made asked → monitor.moves state asked reply state) :
    program.Follows monitor (fun _ later => later = state) state := by
  induction program with
  | done value => rfl
  | request asked next ih =>
    exact fun reply _ => ⟨state, stays asked reply makes.1, ih reply (makes.2 reply)⟩

end Program

namespace Procedure

def Follows (monitor : Monitor σ) (wanted : Except Failure α → σ → Prop)
    (procedure : Procedure α) (state : σ) : Prop :=
  Program.Follows monitor wanted procedure.run state

variable {wanted : Except Failure α → σ → Prop}

theorem Follows.mono {wished : Except Failure α → σ → Prop} {procedure : Procedure α}
    (follows : procedure.Follows monitor wanted state)
    (wants : ∀ outcome later, wanted outcome later → wished outcome later) :
    procedure.Follows monitor wished state :=
  Program.Follows.mono follows wants

theorem Follows.bind {wished : Except Failure β → σ → Prop} {first : Procedure α}
    {next : α → Procedure β} (follows : first.Follows monitor wanted state)
    (goesOn : ∀ value later, wanted (.ok value) later →
      (next value).Follows monitor wished later)
    (fails : ∀ failure later, wanted (.error failure) later → wished (.error failure) later) :
    (first >>= next).Follows monitor wished state := by
  have unfolded : (first >>= next).run = first.run.bind (ExceptT.bindCont next) := rfl
  unfold Follows
  rw [unfolded, Program.follows_bind]
  refine Program.Follows.mono follows (fun outcome later reached => ?_)
  cases outcome with
  | ok value => exact goesOn value later reached
  | error failure => exact fails failure later reached

theorem follows_outcome_bind {wished : Except Failure β → σ → Prop} {outcome : Except Failure α}
    {next : α → Procedure β}
    (goesOn : ∀ value, outcome = .ok value → (next value).Follows monitor wished state)
    (fails : ∀ failure, wished (.error failure) state) :
    (ExceptT.mk (pure outcome) >>= next).Follows monitor wished state := by
  cases outcome with
  | ok value => exact goesOn value rfl
  | error failure => exact fails failure

/-- A procedure that is run for its outcome goes on with that, whatever it is. -/
theorem Follows.lift_bind {wished : Except Failure β → σ → Prop} {procedure : Procedure α}
    {next : Except Failure α → Procedure β} (follows : procedure.Follows monitor wanted state)
    (goesOn : ∀ outcome later, wanted outcome later →
      (next outcome).Follows monitor wished later) :
    Follows monitor wished (ExceptT.lift procedure.run >>= next) state := by
  have unfolded : (ExceptT.lift procedure.run >>= next : Procedure β).run =
      (procedure.run.bind (fun outcome => .done (.ok outcome))).bind (ExceptT.bindCont next) := rfl
  unfold Follows
  rw [unfolded, Program.bind_assoc, Program.follows_bind]
  exact Program.Follows.mono follows goesOn

/-- A call moves the monitor by what it is replied. -/
theorem follows_make {call : Call} {wished : Except Failure call.Answer → σ → Prop}
    (moves : ∀ outcome, monitor.possible (.call call) outcome →
      ∃ later, monitor.moves state (.call call) outcome later ∧ wished outcome later) :
    call.make.Follows monitor wished state := moves

theorem Makes.follows {made : ControllerRequest → Prop} {procedure : Procedure α}
    (makes : procedure.Makes made)
    (stays : ∀ asked reply, made asked → monitor.moves state asked reply state) :
    procedure.Follows monitor (fun _ later => later = state) state :=
  Program.Makes.follows makes stays

end Procedure

end FlowTesting
