import FlowTesting.Failure

set_option autoImplicit false

/-!
# Programs

A program is data: it is done with a value, or it makes a request and goes on with
the reply. What a request does is left to whoever runs the program, so one program can
run against a store, against a server or together with other programs.
-/

namespace FlowTesting

/-- The requests that a program can make, and the replies to each of them. -/
structure Interface where
  Request : Type
  Reply : Request → Type

/-- A program over an interface with a result of type `α`. -/
inductive Program (interface : Interface) (α : Type) : Type where
  | done (value : α)
  | request (request : interface.Request) (next : interface.Reply request → Program interface α)

namespace Program

variable {interface : Interface} {α β γ : Type}

def bind : Program interface α → (α → Program interface β) → Program interface β
  | .done value, next => next value
  | .request made reply, next => .request made (fun answer => bind (reply answer) next)

instance : Monad (Program interface) where
  pure := .done
  bind := bind

def perform (request : interface.Request) : Program interface (interface.Reply request) :=
  .request request .done

/-- Runs a program, with every request answered by the handler. -/
def run {m : Type → Type} [Monad m]
    (handle : (request : interface.Request) → m (interface.Reply request)) :
    Program interface α → m α
  | .done value => Pure.pure value
  | .request made next => handle made >>= fun answer => run handle (next answer)

@[simp]
theorem done_bind (value : α) (next : α → Program interface β) :
    (Program.done value).bind next = next value := rfl

@[simp]
theorem bind_done (program : Program interface α) : program.bind .done = program := by
  induction program with
  | done value => rfl
  | request made next ih => simp [bind, ih]

theorem bind_assoc (program : Program interface α) (first : α → Program interface β)
    (second : β → Program interface γ) :
    (program.bind first).bind second = program.bind (fun value => (first value).bind second) := by
  induction program with
  | done value => rfl
  | request made next ih => simp [bind, ih]

instance : LawfulMonad (Program interface) :=
  LawfulMonad.mk' (Program interface) bind_done (fun _ _ => rfl) bind_assoc

/-- Running what goes on with a program is running the program first. -/
theorem run_bind {m : Type → Type} [Monad m] [LawfulMonad m]
    (handle : (request : interface.Request) → m (interface.Reply request))
    (program : Program interface α) (next : α → Program interface β) :
    run handle (program.bind next) =
      run handle program >>= fun value => run handle (next value) := by
  induction program with
  | done value => simp [bind, run]
  | request made reply ih => simp [bind, run, ih]

end Program

abbrev Attempt (interface : Interface) (α : Type) : Type := ExceptT Failure (Program interface) α

namespace Attempt

variable {interface : Interface} {σ α β : Type}

/-- What comes second runs in what the first has left, if that has succeeded. -/
theorem run_bind_apply
    (handle : (request : interface.Request) → StateM σ (interface.Reply request))
    (first : Attempt interface α) (next : α → Attempt interface β) (state : σ) :
    (Program.run handle (first >>= next).run : StateM σ (Except Failure β)) state =
      match (Program.run handle first.run : StateM σ (Except Failure α)) state with
      | (.ok value, after) =>
        (Program.run handle (next value).run : StateM σ (Except Failure β)) after
      | (.error failure, after) => (.error failure, after) := by
  have unfolded : (first >>= next).run = first.run.bind (ExceptT.bindCont next) := rfl
  rw [unfolded, Program.run_bind]
  change (Program.run handle (ExceptT.bindCont next
    (Program.run handle first.run state : Except Failure α × σ).1) :
      StateM σ (Except Failure β)) (Program.run handle first.run state : Except Failure α × σ).2 = _
  rcases (Program.run handle first.run state : Except Failure α × σ) with
    ⟨failure | value, after⟩ <;> rfl

theorem run_bind_apply_of_ok
    {handle : (request : interface.Request) → StateM σ (interface.Reply request)}
    {first : Attempt interface α} {value : α} {state after : σ} (next : α → Attempt interface β)
    (succeeded : (Program.run handle first.run : StateM σ (Except Failure α)) state =
      (.ok value, after)) :
    (Program.run handle (first >>= next).run : StateM σ (Except Failure β)) state =
      (Program.run handle (next value).run : StateM σ (Except Failure β)) after := by
  rw [run_bind_apply, succeeded]

end Attempt

end FlowTesting
