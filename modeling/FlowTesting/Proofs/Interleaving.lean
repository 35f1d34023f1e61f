import FlowTesting.Controller.Reconcile
import FlowTesting.Proofs.Execution.Effects
import FlowTesting.Proofs.Execution.Undisturbed

set_option autoImplicit false

/-!
# Interleavings

Reconciliations of different flow tests share a cluster, and their calls reach it in any
order. Those of one flow test do not overlap: the next one begins when the last has ended,
which may be anywhere, and is handed the flow test as it is stored then.
-/

namespace FlowTesting

/-- A reconciliation under way: what has occurred in it, and what is left of it. -/
structure Task where
  flowTest : FlowTest
  past : List Occurrence
  rest : Program controllerInterface (Except Failure Action)

namespace Task

def ofReconciliation (configuration : Configuration) (now : Timestamp) (flowTest : FlowTest) :
    Task :=
  { flowTest, past := [], rest := (Controller.reconcile configuration now flowTest).run }

/-- The task after its next request has come to something. -/
def advance (task : Task) (occurrence : Occurrence)
    (rest : Program controllerInterface (Except Failure Action)) : Task :=
  { task with past := task.past ++ [occurrence], rest }

end Task

/-- Whether no flow test is stored under a name with a comma in it. -/
def Cluster.HasPlainNames (cluster : Cluster) : Prop :=
  ∀ name stored, cluster.flowTests.get? name = some stored → ',' ∉ name.toList

theorem Cluster.Answers.hasPlainNames {before after : Cluster} {asked : ControllerRequest}
    {reply : controllerInterface.Reply asked} (answers : before.Answers asked reply after)
    (plain : before.HasPlainNames) : after.HasPlainNames := by
  intro name next found
  obtain ⟨stored, foundBefore, -⟩ := answers.becomes_to_stored found
  exact plain name stored foundBefore

/-- The interleavings from a cluster: the tasks under way, by the names of their flow tests, and
the cluster that they share. In between, users put objects of their own there and change the
flow tests at will. -/
inductive Interleaving (initial : Cluster) : OrderedMap String Task → Cluster → Prop where
  | start : Interleaving initial ∅ initial
  | began {tasks : OrderedMap String Task} {cluster : Cluster} {flowTest : FlowTest}
      (configuration : Configuration) (now : Timestamp) :
      Interleaving initial tasks cluster →
      cluster.flowTests.get? flowTest.name = some flowTest → tasks.get? flowTest.name = none →
      Interleaving initial
        (tasks.insert flowTest.name (.ofReconciliation configuration now flowTest)) cluster
  | requested {tasks : OrderedMap String Task} {before after : Cluster} {name : String}
      {task : Task} {asked : ControllerRequest}
      {next : controllerInterface.Reply asked →
        Program controllerInterface (Except Failure Action)}
      {reply : controllerInterface.Reply asked} :
      Interleaving initial tasks before →
      tasks.get? name = some task → task.rest = .request asked next →
      before.Answers asked reply after →
      Interleaving initial
        (tasks.insert name (task.advance ⟨before, asked, reply, after⟩ (next reply))) after
  | ended {tasks : OrderedMap String Task} {cluster : Cluster} (name : String) :
      Interleaving initial tasks cluster → Interleaving initial (tasks.erase name) cluster
  | putResource {tasks : OrderedMap String Task} {cluster : Cluster} {resource : Resource} :
      Interleaving initial tasks cluster → resource.IsForeign →
      Interleaving initial tasks (cluster.addResource resource)
  | setFlowTests {tasks : OrderedMap String Task} {cluster : Cluster}
      {flowTests : OrderedMap String FlowTest} :
      Interleaving initial tasks cluster →
      ({ cluster with flowTests } : Cluster).HasPlainNames →
      Interleaving initial tasks { cluster with flowTests }
  | failDeletes {tasks : OrderedMap String Task} {cluster : Cluster} (fails : Bool) :
      Interleaving initial tasks cluster →
      Interleaving initial tasks { cluster with deletesFail := fails }

/-- A task may run to its end while the others stand still. -/
theorem Interleaving.finished {initial : Cluster} {tasks : OrderedMap String Task}
    {surroundings : Surroundings} {name : String} {task : Task}
    (interleaving : Interleaving initial tasks surroundings.cluster)
    (found : tasks.get? name = some task) :
    ∃ later, Interleaving initial later (surroundings.run (ExceptT.mk task.rest)).2.cluster ∧
      ∀ other, other ≠ name → later.get? other = tasks.get? other := by
  obtain ⟨flowTest, past, rest⟩ := task
  induction rest generalizing tasks surroundings past with
  | done value => exact ⟨tasks, interleaving, fun _ _ => rfl⟩
  | request asked next ih =>
    have advanced : ∀ reply (after : Surroundings),
        surroundings.cluster.Answers asked reply after.cluster → ∃ later,
          Interleaving initial later (after.run (ExceptT.mk (next reply))).2.cluster ∧
            ∀ other, other ≠ name → later.get? other = tasks.get? other := by
      intro reply after answers
      obtain ⟨later, runs, sameOthers⟩ :=
        ih reply (interleaving.requested found rfl answers) _ (OrderedMap.get?_insert_self _ _ _)
      refine ⟨later, runs, fun other differs => ?_⟩
      rw [sameOthers other differs, OrderedMap.get?_insert_of_ne differs]
    cases asked with
    | publish event => exact advanced () surroundings rfl
    | call call => exact advanced _ _ (surroundings.answers_answer call)

end FlowTesting
