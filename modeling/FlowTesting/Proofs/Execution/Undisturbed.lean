import FlowTesting.Cluster.Trial
import FlowTesting.Proofs.Execution.Procedure

set_option autoImplicit false

/-!
# Undisturbed runs

Runs in which every call reaches the cluster. They are executions, and they are what a trial
without faults comes to. A trial with faults is an execution as well.
-/

namespace FlowTesting

namespace Cluster

variable {cluster : Cluster}

theorem create_of_taken {resource stored : Resource}
    (taken : cluster.resources.get? resource.key = some stored) :
    cluster.create resource = cluster.refuse (.alreadyExists (existingMessage resource)) :=
  if_pos (by simp [OrderedMap.contains, taken])

theorem create_of_free {resource : Resource}
    (free : cluster.resources.get? resource.key = none) :
    cluster.create resource = (.ok (), cluster.addResource resource) :=
  if_neg (by simp [OrderedMap.contains, free])

theorem deleteFlow_of_fails {flow : PipelineFlow} (fails : cluster.deletesFail = true) :
    cluster.deleteFlow flow = cluster.refuse injected :=
  if_pos fails

theorem deleteFlow_of_works {flow : PipelineFlow} (works : cluster.deletesFail = false) :
    cluster.deleteFlow flow =
      (.ok (), { cluster with resources := cluster.resources.erase (Resource.flow flow).key }) :=
  if_neg (works ▸ Bool.false_ne_true)

theorem deactivateFlow_of_stored {flow stored : PipelineFlow}
    (found : cluster.resources.get? (Resource.flow flow).key = some (.flow stored)) :
    cluster.deactivateFlow flow = (.ok (), { cluster with
      resources := cluster.resources.insert (Resource.flow flow).key
        (.flow (stored.withStatus { active? := some false })) }) := by
  simp only [deactivateFlow, found]

theorem deactivateFlow_of_missing {flow : PipelineFlow}
    (missing : ¬ ∃ stored : PipelineFlow,
      cluster.resources.get? (Resource.flow flow).key = some (.flow stored)) :
    cluster.deactivateFlow flow = cluster.refuse (.notFound flow.name) := by
  simp only [deactivateFlow]
  split
  next stored found => exact absurd ⟨stored, found⟩ missing
  next => rfl

end Cluster

namespace Surroundings

variable {α β : Type}

def handle (request : ControllerRequest) :
    StateM Surroundings (controllerInterface.Reply request) :=
  match request with
  | .call call => fun surroundings => surroundings.answer call
  | .publish _ => fun surroundings => ((), surroundings)

/-- Runs a procedure with every call answered. -/
def run (surroundings : Surroundings) (procedure : Procedure α) :
    Except Failure α × Surroundings :=
  (Program.run handle procedure.run : StateM Surroundings (Except Failure α)) surroundings

@[simp]
theorem run_pure (surroundings : Surroundings) (value : α) :
    surroundings.run (pure value) = (.ok value, surroundings) := rfl

@[simp]
theorem run_outcome (surroundings : Surroundings) (outcome : Except Failure α) :
    surroundings.run (ExceptT.mk (pure outcome)) = (outcome, surroundings) := rfl

theorem run_make (surroundings : Surroundings) (call : Call) :
    surroundings.run call.make = surroundings.answer call := rfl

theorem run_attempt (surroundings : Surroundings) (call : Call) :
    surroundings.run call.attempt =
      (.ok (surroundings.answer call).1, (surroundings.answer call).2) := rfl

theorem run_bind (surroundings : Surroundings) (first : Procedure α) (next : α → Procedure β) :
    surroundings.run (first >>= next) =
      match surroundings.run first with
      | (.ok value, after) => after.run (next value)
      | (.error failure, after) => (.error failure, after) := by
  unfold run
  rw [Attempt.run_bind_apply]
  rcases (Program.run handle first.run surroundings : Except Failure α × Surroundings) with
    ⟨failure | value, after⟩ <;> rfl

theorem run_bind_of_ok {surroundings after : Surroundings} {first : Procedure α} {value : α}
    (next : α → Procedure β) (succeeded : surroundings.run first = (.ok value, after)) :
    surroundings.run (first >>= next) = after.run (next value) := by
  rw [run_bind, succeeded]

theorem eq_ok_of_run_bind {surroundings after : Surroundings} {first : Procedure α}
    {next : α → Procedure β} {result : β}
    (succeeded : surroundings.run (first >>= next) = (.ok result, after)) :
    ∃ value middle, surroundings.run first = (.ok value, middle) ∧
      middle.run (next value) = (.ok result, after) := by
  rw [run_bind] at succeeded
  split at succeeded
  next value middle here => exact ⟨value, middle, here, succeeded⟩
  next => cases succeeded

theorem run_lift (surroundings : Surroundings) (procedure : Procedure α) :
    surroundings.run (ExceptT.lift procedure.run : Procedure (Except Failure α)) =
      (.ok (surroundings.run procedure).1, (surroundings.run procedure).2) := by
  have unfolded : (ExceptT.lift procedure.run : Procedure (Except Failure α)).run =
      procedure.run.bind (fun outcome => .done (.ok outcome)) := rfl
  unfold run
  rw [unfolded, Program.run_bind]
  rfl

theorem run_patchStatus {surroundings : Surroundings} {flowTest stored : FlowTest}
    (found : surroundings.cluster.flowTests.get? flowTest.name = some stored)
    (status : FlowTestStatus) :
    surroundings.run (Call.make (.patchStatus flowTest status)) =
      (.ok (), { surroundings with
        cluster := surroundings.cluster.putFlowTest flowTest.name
          { stored with status? := some (stored.status.merge status) } }) := by
  rw [run_make]
  simp only [answer, onCluster, Cluster.patchStatus, found]

theorem listing_answer (surroundings : Surroundings) (call : Call) :
    (surroundings.answer call).2.listing = surroundings.listing := by
  cases call <;> rfl

theorem answer_eq (surroundings : Surroundings) (call : Call) :
    surroundings.answer call = ((surroundings.answer call).1,
      ⟨(surroundings.answer call).2.cluster, surroundings.listing⟩) :=
  Prod.ext rfl (congrArg (Surroundings.mk _) (surroundings.listing_answer call))

theorem answers_answer (surroundings : Surroundings) (call : Call) :
    surroundings.cluster.Answers (.call call) (surroundings.answer call).1
      (surroundings.answer call).2.cluster :=
  .inr ⟨surroundings.listing, surroundings.answer_eq call⟩

theorem listing_run (surroundings : Surroundings) (procedure : Procedure α) :
    (surroundings.run procedure).2.listing = surroundings.listing := by
  unfold run
  generalize procedure.run = program
  induction program generalizing surroundings with
  | done value => rfl
  | request asked next ih =>
    cases asked with
    | publish event => exact ih () surroundings
    | call call => exact (ih _ _).trans (surroundings.listing_answer call)

end Surroundings

/-- Whether the cluster itself has answered, if this is a call. -/
def Occurrence.IsAnswered (occurrence : Occurrence) : Prop :=
  ∀ before call outcome after, occurrence = ⟨before, .call call, outcome, after⟩ →
    ∃ listing, (⟨before, listing⟩ : Surroundings).answer call = (outcome, ⟨after, listing⟩)

/-- An undisturbed run is an execution in which the cluster answers every call. -/
theorem Execution.of_run_answered {α : Type} (surroundings : Surroundings)
    (procedure : Procedure α) :
    ∃ occurrences, Execution procedure.run surroundings.cluster occurrences
      (.done (surroundings.run procedure).1) (surroundings.run procedure).2.cluster ∧
        ∀ occurrence ∈ occurrences, occurrence.IsAnswered := by
  unfold Surroundings.run
  generalize procedure.run = program
  induction program generalizing surroundings with
  | done value => exact ⟨[], .idle _ _, by simp⟩
  | request asked next ih =>
    cases asked with
    | publish event =>
      obtain ⟨occurrences, execution, answered⟩ := ih () surroundings
      have ignored : surroundings.cluster.Answers (.publish event) () surroundings.cluster := rfl
      refine ⟨_, .request ignored execution, List.forall_mem_cons.mpr ⟨?_, answered⟩⟩
      intro _ _ _ _ impossible
      cases impossible
    | call call =>
      obtain ⟨occurrences, execution, answered⟩ :=
        ih (surroundings.answer call).1 (surroundings.answer call).2
      refine ⟨_, .request (surroundings.answers_answer call) execution,
        List.forall_mem_cons.mpr ⟨?_, answered⟩⟩
      intro _ _ _ _ same
      cases same
      exact ⟨surroundings.listing, surroundings.answer_eq call⟩

theorem Execution.of_run {α : Type} (surroundings : Surroundings) (procedure : Procedure α) :
    ∃ occurrences, Execution procedure.run surroundings.cluster occurrences
      (.done (surroundings.run procedure).1) (surroundings.run procedure).2.cluster := by
  obtain ⟨occurrences, execution, -⟩ := Execution.of_run_answered surroundings procedure
  exact ⟨occurrences, execution⟩

theorem Procedure.Assures.of_run {α : Type} {surroundings after : Surroundings}
    {procedure : Procedure α} {outcome : Except Failure α}
    {permitted : List Occurrence → Occurrence → Prop}
    {wanted : Except Failure α → List Occurrence → Cluster → Prop}
    (assures : Procedure.Assures permitted wanted procedure [] surroundings.cluster)
    (ran : surroundings.run procedure = (outcome, after)) :
    ∃ past, wanted outcome past after.cluster := by
  obtain ⟨occurrences, execution⟩ := Execution.of_run surroundings procedure
  rw [ran] at execution
  exact ⟨_, (execution.assured assures).2⟩

theorem Procedure.Yields.of_run {α : Type} {surroundings after : Surroundings}
    {procedure : Procedure α} {value : α} {wanted : α → List Occurrence → Cluster → Prop}
    (yields : Procedure.Yields wanted procedure [] surroundings.cluster)
    (succeeded : surroundings.run procedure = (.ok value, after)) :
    ∃ past, wanted value past after.cluster := by
  obtain ⟨occurrences, execution⟩ := Execution.of_run surroundings procedure
  rw [succeeded] at execution
  exact ⟨_, yields.of_execution execution⟩

/-- Without faults, a trial is an undisturbed run. -/
theorem Trial.run_of_unarmed {α : Type} (trial : Trial) (unarmed : trial.faults = [])
    (procedure : Procedure α) :
    (trial.run procedure).1 = (trial.surroundings.run procedure).1 ∧
      (trial.run procedure).2.surroundings = (trial.surroundings.run procedure).2 := by
  unfold Trial.run Surroundings.run
  generalize procedure.run = program
  induction program generalizing trial with
  | done value => exact ⟨rfl, rfl⟩
  | request asked next ih =>
    cases asked with
    | publish event => exact ih () _ unarmed
    | call call =>
      have answered : (trial.answer call).1 = (trial.surroundings.answer call).1 ∧
          (trial.answer call).2.surroundings = (trial.surroundings.answer call).2 ∧
          (trial.answer call).2.faults = [] := by
        simp [Trial.answer, unarmed, Fault.meetAll]
      obtain ⟨sameOutcome, sameSurroundings, stillUnarmed⟩ := answered
      have rest := ih (trial.surroundings.answer call).1 (trial.answer call).2 stillUnarmed
      rw [sameSurroundings] at rest
      change (Program.run handle (next (trial.answer call).1) (trial.answer call).2 :
          Except Failure α × Trial).1 = _ ∧
        (Program.run handle (next (trial.answer call).1) (trial.answer call).2 :
          Except Failure α × Trial).2.surroundings = _
      rw [sameOutcome]
      exact rest

theorem Trial.answers_answer (trial : Trial) (call : Call) :
    trial.surroundings.cluster.Answers (.call call) (trial.answer call).1
        (trial.answer call).2.surroundings.cluster ∧
      (trial.answer call).2.surroundings.listing = trial.surroundings.listing := by
  unfold Trial.answer
  rcases Fault.meetAll call trial.faults with ⟨faults, _ | failure⟩
  · simp only []
    exact ⟨trial.surroundings.answers_answer call, trial.surroundings.listing_answer call⟩
  · exact ⟨.inl ⟨⟨_, rfl⟩, rfl⟩, rfl⟩

theorem Trial.listing_of_answer {trial : Trial} {listed : List Index}
    (answered : (trial.answer .listIndexes).1 = .ok listed) :
    trial.surroundings.listing = .ok listed := by
  unfold Trial.answer at answered
  generalize Fault.meetAll .listIndexes trial.faults = met at answered
  obtain ⟨faults, _ | failure⟩ := met
  · exact answered
  · cases answered

/-- What happens when a program runs in a trial. -/
def Trial.trace {α : Type} : Program controllerInterface α → Trial → List Occurrence
  | .done _, _ => []
  | .request asked next, trial =>
    let answered : controllerInterface.Reply asked × Trial := handle asked trial
    ⟨trial.surroundings.cluster, asked, answered.1, answered.2.surroundings.cluster⟩ ::
      trace (next answered.1) answered.2

/-- A trial is an execution, in which the log aggregator lists the same whenever it answers. -/
theorem Execution.of_trace {α : Type} (trial : Trial) (procedure : Procedure α) :
    Execution procedure.run trial.surroundings.cluster (Trial.trace procedure.run trial)
        (.done (trial.run procedure).1) (trial.run procedure).2.surroundings.cluster ∧
      ∀ listed, Answered (Trial.trace procedure.run trial) .listIndexes listed →
        trial.surroundings.listing = .ok listed := by
  unfold Trial.run
  generalize procedure.run = program
  induction program generalizing trial with
  | done value => exact ⟨.idle _ _, fun _ answered => by simp [Trial.trace, Answered] at answered⟩
  | request asked next ih =>
    cases asked with
    | publish event =>
      obtain ⟨execution, listing⟩ := ih () { trial with events := trial.events ++ [event] }
      have ignored : trial.surroundings.cluster.Answers (.publish event) ()
          trial.surroundings.cluster := rfl
      refine ⟨.request ignored execution, fun listed answered => ?_⟩
      rcases answered.of_cons with later | ⟨_, _, here⟩
      · exact listing listed later
      · cases here
    | call call =>
      obtain ⟨answers, sameListing⟩ := trial.answers_answer call
      obtain ⟨execution, listing⟩ := ih (trial.answer call).1 (trial.answer call).2
      refine ⟨.request answers execution, fun listed answered => ?_⟩
      rcases answered.of_cons with later | ⟨_, _, here⟩
      · exact sameListing ▸ listing listed later
      · injection here with _ sameRequest sameReply _
        injection sameRequest with sameCall
        subst sameCall
        exact Trial.listing_of_answer (eq_of_heq sameReply)

theorem Execution.of_trial {α : Type} (trial : Trial) (procedure : Procedure α) :
    ∃ occurrences, Execution procedure.run trial.surroundings.cluster occurrences
        (.done (trial.run procedure).1) (trial.run procedure).2.surroundings.cluster ∧
      ∀ listed, Answered occurrences .listIndexes listed →
        trial.surroundings.listing = .ok listed :=
  ⟨_, Execution.of_trace trial procedure⟩

end FlowTesting
