import FlowTesting.Proofs.Execution.Procedure

set_option autoImplicit false

/-!
# Conduct

What a program asks for while others use the cluster as well. Between two of its requests
anything may become of the cluster, so a request can be justified by nothing but the replies
to those before it.
-/

namespace FlowTesting

namespace Program

variable {α β : Type} {permitted : List Occurrence → ControllerRequest → Prop}

/-- Whatever becomes of the cluster in between, each request is permitted after the occurrences
before it. -/
def Conducts (permitted : List Occurrence → ControllerRequest → Prop) :
    Program controllerInterface α → List Occurrence → Prop
  | .done _, _ => True
  | .request asked next, past => permitted past asked ∧ ∀ before reply after,
      before.Answers asked reply after →
        Conducts permitted (next reply) (past ++ [⟨before, asked, reply, after⟩])

theorem Conducts.bind {program : Program controllerInterface α}
    {next : α → Program controllerInterface β} {past : List Occurrence}
    (conducts : program.Conducts permitted past)
    (nextConducts : ∀ value later, past ⊆ later → (next value).Conducts permitted later) :
    (program.bind next).Conducts permitted past := by
  induction program generalizing past with
  | done value => exact nextConducts value past (List.Subset.refl past)
  | request asked reply ih =>
    refine ⟨conducts.1, fun before answer after answers => ?_⟩
    refine ih answer (conducts.2 before answer after answers) (fun value later kept => ?_)
    exact nextConducts value later (fun _ member => kept (List.mem_append_left _ member))

/-- Requests that are permitted from here on may be made in any order. -/
theorem Makes.conducts {program : Program controllerInterface α} {past : List Occurrence}
    (makes : program.Makes (fun asked => ∀ later, past ⊆ later → permitted later asked)) :
    program.Conducts permitted past := by
  induction program generalizing past with
  | done value => trivial
  | request asked next ih =>
    refine ⟨makes.1 past (List.Subset.refl past), fun before reply after _ => ih reply ?_⟩
    refine (makes.2 reply).mono (fun asked permitted later kept => permitted later ?_)
    exact fun _ member => kept (List.mem_append_left _ member)

end Program

namespace Procedure

variable {α β : Type} {permitted : List Occurrence → ControllerRequest → Prop}
  {past : List Occurrence}

def Conducts (permitted : List Occurrence → ControllerRequest → Prop) (procedure : Procedure α)
    (past : List Occurrence) : Prop :=
  Program.Conducts permitted procedure.run past

theorem conducts_pure (value : α) : Conducts permitted (pure value) past := trivial

theorem Conducts.bind {first : Procedure α} {next : α → Procedure β}
    (conducts : Conducts permitted first past)
    (nextConducts : ∀ value later, past ⊆ later → Conducts permitted (next value) later) :
    Conducts permitted (first >>= next) past := by
  refine Program.Conducts.bind conducts (fun outcome later kept => ?_)
  cases outcome with
  | ok value => exact nextConducts value later kept
  | error failure => trivial

theorem Conducts.lift {procedure : Procedure α} (conducts : Conducts permitted procedure past) :
    Conducts permitted (ExceptT.lift procedure.run) past :=
  Program.Conducts.bind conducts (fun _ _ _ => trivial)

theorem conducts_outcome_bind {outcome : Except Failure α} {next : α → Procedure β}
    (conducts : ∀ value, outcome = .ok value → Conducts permitted (next value) past) :
    Conducts permitted (ExceptT.mk (pure outcome) >>= next) past := by
  cases outcome with
  | ok value => exact conducts value rfl
  | error failure => trivial

/-- What comes after a call may rely on its having been answered. -/
theorem conducts_make_bind {call : Call} {next : call.Answer → Procedure β}
    (permittedHere : permitted past (.call call))
    (nextConducts : ∀ answer later, past ⊆ later → Answered later call answer →
      Conducts permitted (next answer) later) :
    Conducts permitted (call.make >>= next) past := by
  refine ⟨permittedHere, fun before outcome after _ => ?_⟩
  cases outcome with
  | ok answer =>
    exact nextConducts answer _ (List.subset_append_left _ _) (.last past before after answer)
  | error failure => trivial

theorem Makes.conducts {procedure : Procedure α}
    (makes : Makes (fun asked => ∀ later, past ⊆ later → permitted later asked) procedure) :
    Conducts permitted procedure past :=
  Program.Makes.conducts makes

end Procedure

end FlowTesting
