import FlowTesting.Controller.Reconcile
import FlowTesting.Proofs.Execution.Undisturbed
import FlowTesting.Proofs.Ownership

set_option autoImplicit false

/-!
# Runs

A run is made of reconciliations and of what users do in between. A reconciliation is
handed the flow test as it is stored, and it may stop anywhere, as it does when the
controller is restarted; so every state between two of its requests is reached by a run.
-/

namespace FlowTesting

/-- A reconciliation, as far as it has come. -/
structure Reconciliation where
  configuration : Configuration
  now : Timestamp
  flowTest : FlowTest
  start : Cluster
  occurrences : List Occurrence
  finish : Cluster

namespace Reconciliation

def procedure (reconciliation : Reconciliation) : Procedure Action :=
  Controller.reconcile reconciliation.configuration reconciliation.now reconciliation.flowTest

/-- Whether the flow test was handed over as it is stored, and the requests can have come
about. -/
def Lawful (reconciliation : Reconciliation) : Prop :=
  reconciliation.start.flowTests.get? reconciliation.flowTest.name =
      some reconciliation.flowTest ∧
    ∃ rest, Execution reconciliation.procedure.run reconciliation.start
      reconciliation.occurrences rest reconciliation.finish

end Reconciliation

/-- Whether a flow test has not been seen by the controller and can be selected by name. -/
def FlowTest.IsNew (flowTest : FlowTest) : Prop :=
  flowTest.status? = none ∧ ',' ∉ flowTest.name.toList

/-- Whether a cluster holds only what users have put there: new flow tests under their names
and objects that no flow test owns. -/
structure Cluster.IsUntouched (cluster : Cluster) : Prop where
  flowTests : ∀ name stored, cluster.flowTests.get? name = some stored →
    stored.name = name ∧ stored.IsNew
  resources : ∀ key resource, cluster.resources.get? key = some resource → resource.IsForeign

/-- What users do to a cluster. -/
inductive UserAction where
  | addFlowTest (flowTest : FlowTest)
  | requestDeletion (name : String) (instant : Timestamp)
  | putPod (pod : Pod)
  | putFlow (flow : PipelineFlow)

namespace UserAction

/-- Whether users may do this: they add new flow tests under free names, and objects of
their own. -/
def IsAllowed (cluster : Cluster) : UserAction → Prop
  | .addFlowTest flowTest => flowTest.IsNew ∧ cluster.flowTests.get? flowTest.name = none
  | .requestDeletion _ _ => True
  | .putPod pod => (Resource.pod pod).IsForeign
  | .putFlow flow => (Resource.flow flow).IsForeign

def apply (cluster : Cluster) : UserAction → Cluster
  | .addFlowTest flowTest => cluster.addFlowTest flowTest
  | .requestDeletion name instant =>
    match cluster.flowTests.get? name with
    | none => cluster
    | some stored => cluster.putFlowTest name
        { stored with metadata := { stored.metadata with deletionTimestamp? := some instant } }
  | .putPod pod => cluster.addResource (.pod pod)
  | .putFlow flow => cluster.addResource (.flow flow)

end UserAction

/-- The runs from a cluster: their reconciliations, and the cluster after them. -/
inductive Run (initial : Cluster) : List Reconciliation → Cluster → Prop where
  | start : Run initial [] initial
  | reconciled {reconciliations : List Reconciliation} {reconciliation : Reconciliation} :
      Run initial reconciliations reconciliation.start → reconciliation.Lawful →
      Run initial (reconciliations ++ [reconciliation]) reconciliation.finish
  | acted {reconciliations : List Reconciliation} {cluster : Cluster} {action : UserAction} :
      Run initial reconciliations cluster → action.IsAllowed cluster →
      Run initial reconciliations (action.apply cluster)

namespace Run

variable {initial final : Cluster} {reconciliations : List Reconciliation}

/-- What every reconciliation and every action of users keeps holds after every run, and
every reconciliation of it has started from where it holds. -/
theorem invariant (run : Run initial reconciliations final) (holds : Cluster → Prop)
    (atStart : holds initial)
    (reconciled : ∀ reconciliation : Reconciliation, reconciliation.Lawful →
      holds reconciliation.start → holds reconciliation.finish)
    (acted : ∀ (cluster : Cluster) (action : UserAction), action.IsAllowed cluster →
      holds cluster → holds (action.apply cluster)) :
    holds final ∧ ∀ reconciliation ∈ reconciliations,
      reconciliation.Lawful ∧ holds reconciliation.start := by
  induction run with
  | start => exact ⟨atStart, by simp⟩
  | @reconciled _ reconciliation _ lawful ih =>
    obtain ⟨before, all⟩ := ih
    refine ⟨reconciled reconciliation lawful before, fun other member => ?_⟩
    rcases List.mem_append.mp member with earlier | last
    · exact all other earlier
    · rw [List.mem_singleton.mp last]
      exact ⟨lawful, before⟩
  | acted _ allowed ih => exact ⟨acted _ _ allowed ih.1, ih.2⟩

/-- An undisturbed reconciliation goes on with a run. -/
theorem undisturbed {surroundings : Surroundings}
    (run : Run initial reconciliations surroundings.cluster)
    (configuration : Configuration) (now : Timestamp) (flowTest : FlowTest)
    (stored : surroundings.cluster.flowTests.get? flowTest.name = some flowTest) :
    ∃ more, Run initial more
      (surroundings.run (Controller.reconcile configuration now flowTest)).2.cluster := by
  obtain ⟨occurrences, execution⟩ :=
    Execution.of_run surroundings (Controller.reconcile configuration now flowTest)
  let reconciliation : Reconciliation :=
    { configuration, now, flowTest, occurrences
      start := surroundings.cluster
      finish := (surroundings.run (Controller.reconcile configuration now flowTest)).2.cluster }
  have lawful : reconciliation.Lawful := ⟨stored, _, execution⟩
  exact ⟨_, @Run.reconciled initial reconciliations reconciliation run lawful⟩

end Run

/-! A cluster with one flow test, and what becomes of it. -/

namespace Sample

def flowTest : FlowTest where
  metadata := { name? := some "test", namespaceName? := some "default", uid? := some "uid" }
  spec :=
    { referencePod := { kind := "Pod", name := "pod", namespaceName := "default" }
      referenceFlow := { kind := "Flow", name := "flow", namespaceName := "default" } }

def pod : Pod where
  metadata := .ofNew "pod" "default" ∅
  spec? := some { containers := [{ name := "main" }] }

/-- A reference flow with one match rule for each text. -/
def flow (texts : List String) : PipelineFlow :=
  .flow
    { metadata := .ofNew "flow" "default" ∅
      spec := { matchRules := texts.map (fun text => ⟨.text text⟩) } }

def cluster : Cluster :=
  (Cluster.addResource {} (.pod pod)).addResource (.flow (flow ["first", "second"]))
    |>.addFlowTest flowTest

def inPhase (phase : FlowTestPhase) : FlowTest :=
  { flowTest with
    metadata := { flowTest.metadata with finalizers? := some [Controller.finalizer] }
    status? := some (.ofPhase phase) }

/-- The flow test in a phase, with a cleared flag for each match rule. -/
def watching (phase : FlowTestPhase) (matchRules : Nat) : FlowTest :=
  { inPhase phase with
    metadata := { (inPhase phase).metadata with creationTimestamp? := some ⟨0, 0⟩ }
    status? := some (.allocated phase matchRules 0) }

def template (namespaceName : String) (owner : Owner) : SliceTemplate where
  kind := .flow
  namespaceName
  referenceName := "flow"
  filters := [SliceTemplate.uidFilter owner.uid]
  endpointBase := "http://aggregator"
  buffer := SliceTemplate.fastBuffer

def slice (namespaceName : String) (owner : Owner) : PipelineFlow :=
  (Slice.build (template namespaceName owner) owner 0 .matchRule [⟨.text "first"⟩] []).flow

theorem isUntouched_cluster : cluster.IsUntouched where
  flowTests name stored found := by
    have entries : cluster.flowTests.entries = [("test", flowTest)] := rfl
    rw [OrderedMap.get?_eq_some_iff, entries, List.mem_singleton, Prod.mk.injEq] at found
    obtain ⟨rfl, rfl⟩ := found
    exact ⟨rfl, rfl, by decide⟩
  resources key resource found := by
    have entries : cluster.resources.entries =
        [((Resource.pod pod).key, .pod pod),
          ((Resource.flow (flow ["first", "second"])).key, .flow (flow ["first", "second"]))] := rfl
    rw [OrderedMap.get?_eq_some_iff, entries] at found
    simp only [List.mem_cons, Prod.mk.injEq, List.not_mem_nil, or_false] at found
    obtain ⟨-, rfl⟩ | ⟨-, rfl⟩ := found <;> rfl

end Sample

end FlowTesting
