import FlowTesting.Proofs.Execution.Together
import FlowTesting.Proofs.Interleaving

set_option autoImplicit false

/-!
# Activity

Reconciliations share a cluster with each other and with users. A regime says which of them may
begin, what their requests can come to, and what users may do; the rest is left to chance.
-/

namespace FlowTesting

structure Regime where
  /-- Whether a flow test may be reconciled next to the tasks that there have been. -/
  begins : List Task → Cluster → FlowTest → Prop
  answers : Cluster → (asked : ControllerRequest) → controllerInterface.Reply asked → Cluster →
    Prop
  /-- What users may make of a cluster. -/
  acts : Cluster → Cluster → Prop

/-- What may go on from a cluster: the tasks that have begun, the last one first, and the cluster
that they share. Any of them may make its next request at any time. -/
inductive Activity (regime : Regime) (initial : Cluster) : List Task → Cluster → Prop where
  | start : Activity regime initial [] initial
  | began {tasks : List Task} {cluster : Cluster} {flowTest : FlowTest}
      (configuration : Configuration) (now : Timestamp) :
      Activity regime initial tasks cluster → regime.begins tasks cluster flowTest →
      Activity regime initial (.ofReconciliation configuration now flowTest :: tasks) cluster
  | requested {earlier later : List Task} {task : Task} {before after : Cluster}
      {asked : ControllerRequest}
      {next : controllerInterface.Reply asked →
        Program controllerInterface (Except Failure Action)}
      {reply : controllerInterface.Reply asked} :
      Activity regime initial (earlier ++ task :: later) before →
      task.rest = .request asked next → regime.answers before asked reply after →
      Activity regime initial
        (earlier ++ task.advance ⟨before, asked, reply, after⟩ (next reply) :: later) after
  | acted {tasks : List Task} {before after : Cluster} :
      Activity regime initial tasks before → regime.acts before after →
      Activity regime initial tasks after

theorem Surroundings.answers_respond (surroundings : Surroundings) (asked : ControllerRequest) :
    surroundings.cluster.Answers asked (surroundings.respond asked).1
      (surroundings.respond asked).2.cluster := by
  cases asked with
  | publish event => rfl
  | call call => exact surroundings.answers_answer call

/-- The last task may run to its end while the others stand still. -/
theorem Activity.finished {regime : Regime} {initial : Cluster} {tasks : List Task}
    {surroundings : Surroundings} {task : Task}
    (activity : Activity regime initial (task :: tasks) surroundings.cluster)
    (reaches : ∀ (surroundings : Surroundings) (asked : ControllerRequest),
      regime.answers surroundings.cluster asked (surroundings.respond asked).1
        (surroundings.respond asked).2.cluster) :
    ∃ outcome past, Activity regime initial ({ task with past, rest := .done outcome } :: tasks)
      (surroundings.run (ExceptT.mk task.rest)).2.cluster := by
  obtain ⟨flowTest, past, rest⟩ := task
  induction rest generalizing surroundings past with
  | done outcome => exact ⟨outcome, past, activity⟩
  | request asked next ih =>
    rw [Surroundings.run_request]
    exact ih _ _ (@Activity.requested regime initial [] tasks _ _ _ asked next _ activity rfl
      (reaches surroundings asked))

end FlowTesting
