import FlowTesting.Proofs.Execution.Effects
import FlowTesting.Proofs.Execution.Undisturbed

set_option autoImplicit false

/-!
# Reachable clusters

The clusters that come about from the empty one. Whatever has been done to them, every object in
them is stored under its own key.
-/

namespace FlowTesting

/-- Whether a cluster comes about from the empty one by what is put into it, by what is changed in
its flow tests, by letting deletions fail or not, and by calls. -/
inductive Cluster.IsReachable : Cluster → Prop where
  | empty : IsReachable {}
  | addFlowTest {cluster : Cluster} (flowTest : FlowTest) :
      IsReachable cluster → IsReachable (cluster.addFlowTest flowTest)
  | updateFlowTest {cluster : Cluster} (name : String) (flowTest : FlowTest) :
      IsReachable cluster → IsReachable (cluster.putFlowTest name flowTest)
  | addPod {cluster : Cluster} (pod : Pod) :
      IsReachable cluster → IsReachable (cluster.addResource (.pod pod))
  | addFlow {cluster : Cluster} (flow : PipelineFlow) :
      IsReachable cluster → IsReachable (cluster.addResource (.flow flow))
  | letDeletesFail {cluster : Cluster} (deletesFail : Bool) :
      IsReachable cluster → IsReachable { cluster with deletesFail }
  | answer {surroundings : Surroundings} (call : Call) :
      IsReachable surroundings.cluster → IsReachable (surroundings.answer call).2.cluster

namespace Cluster.IsReachable

theorem isCoherent {cluster : Cluster} (reachable : cluster.IsReachable) : cluster.IsCoherent := by
  induction reachable with
  | empty => exact fun _ _ stored => nomatch stored
  | addFlowTest _ _ ih => exact ih
  | updateFlowTest _ _ _ ih => exact ih
  | addPod pod _ ih => exact ih.addResource (.pod pod)
  | addFlow flow _ ih => exact ih.addResource (.flow flow)
  | letDeletesFail _ _ ih => exact ih
  | @answer surroundings call _ ih => exact (surroundings.answers_answer call).isCoherent ih

/-- Whatever runs on a cluster leaves one that is reachable. -/
theorem run {α : Type} {surroundings : Surroundings} (reachable : surroundings.cluster.IsReachable)
    (procedure : Procedure α) : (surroundings.run procedure).2.cluster.IsReachable := by
  unfold Surroundings.run
  generalize procedure.run = program
  induction program generalizing surroundings with
  | done value => exact reachable
  | request asked next ih =>
    cases asked with
    | publish event => exact ih () reachable
    | call call => exact ih _ (reachable.answer call)

end Cluster.IsReachable

end FlowTesting
