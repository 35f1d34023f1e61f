import FlowTesting.Proofs.Execution.Reachable

set_option autoImplicit false

/-!
# The cluster as a keyed store

What is done to a reachable cluster reaches the objects that it is about and no others: objects
are created under free keys only, a deletion by labels takes all objects of its kind that have
them, and a flow that has been listed is found again under its key.
-/

namespace FlowTesting

/-- Whether an object is of a kind and has the labels that a selector asks for. -/
def Resource.isChosen (kind : Kind) (selector : String) (resource : Resource) : Bool :=
  resource.kind == kind && Selector.selects selector resource.labels

namespace Cluster

/-- Whether a cluster has lost some of its objects and is the same otherwise. -/
structure Loses (before : Cluster) (isLost : Resource → Bool) (after : Cluster) : Prop where
  resources : ∀ key, after.resources.get? key =
    (before.resources.get? key).filter (fun resource => !isLost resource)
  flowTests : after.flowTests = before.flowTests
  deletesFail : after.deletesFail = before.deletesFail

/-- Whether the objects of a cluster are kept under their own keys, and creations and deletions
by labels reach just what they are about: a creation stores its object under a free key and
refuses a taken one, and a deletion takes and counts the objects that it chooses. -/
structure IsKeyedStore (cluster : Cluster) : Prop where
  keyed : ∀ key resource, cluster.resources.get? key = some resource →
    key = ⟨resource.kind, resource.namespaceName?.getD "", resource.name⟩
  createsNew : ∀ resource : Resource, cluster.resources.get? resource.key = none →
    ∃ after, cluster.create resource = (.ok (), after) ∧
      cluster.Sets resource.key (some resource) after
  refusesTaken : ∀ resource : Resource, cluster.resources.get? resource.key ≠ none →
    ∃ failure, cluster.create resource = (.error failure, cluster) ∧
      failure.isAlreadyExists = true
  deletesLabeled : cluster.deletesFail = false → ∀ kind selector,
    ∃ after, cluster.deleteLabeled kind selector =
        (.ok (cluster.resources.values.countP (Resource.isChosen kind selector)), after) ∧
      cluster.Loses (Resource.isChosen kind selector) after
  deletesNone : cluster.deletesFail = true → ∀ kind selector,
    ∃ failure, cluster.deleteLabeled kind selector = (.error failure, cluster)

/-- What retiring a flow comes to: only what is stored under its key changes. -/
structure Retires (cluster : Cluster) (flow : PipelineFlow) : Prop where
  deletes : cluster.deletesFail = false →
    ∃ after, cluster.deleteFlow flow = (.ok (), after) ∧
      cluster.Sets (Resource.flow flow).key none after
  deletesNone : cluster.deletesFail = true →
    ∃ failure, cluster.deleteFlow flow = (.error failure, cluster)
  deactivates : ∀ resource, cluster.resources.get? (Resource.flow flow).key = some resource →
    ∃ stored after, resource = .flow stored ∧ cluster.deactivateFlow flow = (.ok (), after) ∧
      cluster.Sets (Resource.flow flow).key
        (some (.flow (stored.withStatus { active? := some false }))) after
  deactivatesNone : cluster.resources.get? (Resource.flow flow).key = none →
    ∃ failure, cluster.deactivateFlow flow = (.error failure, cluster) ∧
      failure.isNotFound = true

variable {cluster : Cluster}

namespace IsCoherent

/-- Choosing by keys and choosing by objects come to the same. -/
theorem isSelected_eq (coherent : cluster.IsCoherent) {key : ResourceKey} {resource : Resource}
    (stored : cluster.resources.get? key = some resource) (kind : Kind) (selector : String) :
    isSelected kind selector key resource = resource.isChosen kind selector := by
  obtain rfl := coherent key resource stored
  rfl

theorem countP_values (coherent : cluster.IsCoherent) (kind : Kind) (selector : String) :
    cluster.resources.values.countP (Resource.isChosen kind selector) =
      cluster.resources.entries.countP (fun entry => isSelected kind selector entry.1 entry.2) := by
  rw [OrderedMap.values, List.countP_map]
  apply List.countP_congr
  intro entry member
  rw [coherent.isSelected_eq (OrderedMap.get?_eq_some_iff.mpr member)]
  rfl

theorem deleteLabeled_of_works (coherent : cluster.IsCoherent)
    (works : cluster.deletesFail = false) (kind : Kind) (selector : String) :
    ∃ after, cluster.deleteLabeled kind selector =
        (.ok (cluster.resources.values.countP (Resource.isChosen kind selector)), after) ∧
      cluster.Loses (Resource.isChosen kind selector) after := by
  let kept := cluster.resources.filter (fun key resource => !isSelected kind selector key resource)
  have deleted : cluster.deleteLabeled kind selector =
      (.ok (cluster.resources.size - kept.size), { cluster with resources := kept }) :=
    if_neg (works ▸ Bool.false_ne_true)
  have counted : cluster.resources.size - kept.size =
      cluster.resources.values.countP (Resource.isChosen kind selector) := by
    have parted := cluster.resources.countP_add_size_filter (isSelected kind selector)
    rw [coherent.countP_values, ← parted]
    exact Nat.add_sub_cancel _ _
  have loses : cluster.Loses (Resource.isChosen kind selector) { cluster with resources := kept } :=
    { resources := by
        intro key
        rw [OrderedMap.get?_filter]
        cases stored : cluster.resources.get? key with
        | none => rfl
        | some resource =>
          rw [Option.filter_some, Option.filter_some, coherent.isSelected_eq stored]
      flowTests := rfl
      deletesFail := rfl }
  exact ⟨_, counted ▸ deleted, loses⟩

/-- Where a flow belongs, nothing but a flow is stored. -/
theorem exists_flow_eq (coherent : cluster.IsCoherent) {flow : PipelineFlow} {resource : Resource}
    (stored : cluster.resources.get? (Resource.flow flow).key = some resource) :
    ∃ other, resource = .flow other := by
  have sameKind : resource.kind = flow.kind.flowKind :=
    congrArg ResourceKey.kind (coherent _ resource stored)
  cases resource with
  | flow other => exact ⟨other, rfl⟩
  | pod | configMap | service => cases flow <;> cases sameKind
  | output output => cases output <;> cases flow <;> cases sameKind

theorem isKeyedStore (coherent : cluster.IsCoherent) : cluster.IsKeyedStore where
  keyed key resource stored := (coherent key resource stored).symm
  createsNew resource free :=
    ⟨_, create_of_free free, cluster.sets_insert resource.key resource⟩
  refusesTaken resource taken := by
    obtain ⟨stored, found⟩ := Option.ne_none_iff_exists'.mp taken
    exact ⟨_, create_of_taken found, rfl⟩
  deletesLabeled works := coherent.deleteLabeled_of_works works
  deletesNone fails _ _ := ⟨_, if_pos fails⟩

theorem retires (coherent : cluster.IsCoherent) (flow : PipelineFlow) : cluster.Retires flow where
  deletes works := ⟨_, deleteFlow_of_works works, cluster.sets_erase _⟩
  deletesNone fails := ⟨_, deleteFlow_of_fails fails⟩
  deactivates resource found := by
    obtain ⟨stored, rfl⟩ := coherent.exists_flow_eq found
    exact ⟨stored, _, rfl, deactivateFlow_of_stored found, cluster.sets_insert _ _⟩
  deactivatesNone absent := by
    have missing : ¬ ∃ stored : PipelineFlow,
        cluster.resources.get? (Resource.flow flow).key = some (.flow stored) := by
      simp [absent]
    exact ⟨_, deactivateFlow_of_missing missing, rfl⟩

end IsCoherent

/-- Every reachable cluster is a keyed store. A flow that any reachable cluster has listed was
stored there under its own key and is of the kind that was asked for. Retiring it in a reachable
cluster, be it the same or another one, deletes or deactivates what is stored under that key, or
fails, and leaves everything else as it is. -/
theorem reachable_keyed_store {listed cluster : Cluster} (listedThen : listed.IsReachable)
    (reachable : cluster.IsReachable) :
    cluster.IsKeyedStore ∧
      ∀ kind selector, ∀ flow ∈ listed.listFlows kind selector,
        listed.resources.get? (Resource.flow flow).key = some (.flow flow) ∧ flow.kind = kind ∧
          cluster.Retires flow := by
  have coherent := reachable.isCoherent
  have found : ∀ kind selector, ∀ flow ∈ listed.listFlows kind selector,
      listed.resources.get? (Resource.flow flow).key = some (.flow flow) ∧ flow.kind = kind ∧
        cluster.Retires flow := by
    intro kind selector flow member
    obtain ⟨key, sameKind, stored, -⟩ := mem_listFlows_iff.mp member
    obtain rfl := listedThen.isCoherent key _ stored
    exact ⟨stored, PipelineKind.flowKind_injective sameKind, coherent.retires flow⟩
  exact ⟨coherent.isKeyedStore, found⟩

end Cluster

namespace Sample

def checkout : PipelineFlow :=
  .flow { metadata := .ofNew "checkout" "shop" (.ofList [("app", "shop")]), spec := {} }

/-- A flow of the cluster as a whole that cannot be told from the other one by its metadata. -/
def clusterCheckout : PipelineFlow :=
  .clusterFlow { metadata := .ofNew "checkout" "shop" (.ofList [("app", "shop")]), spec := {} }

end Sample

/-- Flows of the same name and the same labels are kept apart by their kinds. -/
theorem reachable_keyed_store_of_twins :
    let listed := (Cluster.addResource {} (.flow Sample.checkout)).addResource
      (.flow Sample.clusterCheckout)
    let cluster :=
      ((⟨listed, .ok []⟩ : Surroundings).answer (.deactivateFlow Sample.checkout)).2.cluster
    cluster.IsKeyedStore ∧ cluster.Retires Sample.checkout ∧
      ∃ after, cluster.deleteLabeled .flow "app=shop" = (.ok 1, after) ∧
        after.getFlow .flow "shop" "checkout" = none ∧
          after.getFlow .clusterFlow "shop" "checkout" = some Sample.clusterCheckout := by
  intro listed cluster
  have listedThen : listed.IsReachable := .addFlow _ (.addFlow _ .empty)
  have reachable : cluster.IsReachable := .answer (.deactivateFlow Sample.checkout) listedThen
  have member : Sample.checkout ∈ listed.listFlows .flow "app=shop" :=
    Cluster.mem_listFlows_iff.mpr ⟨⟨.flow, "shop", "checkout"⟩, rfl, rfl, by decide⟩
  obtain ⟨store, found⟩ := Cluster.reachable_keyed_store listedThen reachable
  obtain ⟨-, -, retires⟩ := found .flow "app=shop" Sample.checkout member
  obtain ⟨after, deleted, loses⟩ := store.deletesLabeled rfl .flow "app=shop"
  have gone : after.resources.get? ⟨.flow, "shop", "checkout"⟩ = none := by
    rw [loses.resources]
    rfl
  have kept : after.resources.get? ⟨.clusterFlow, "shop", "checkout"⟩ =
      some (.flow Sample.clusterCheckout) := by
    rw [loses.resources]
    rfl
  refine ⟨store, retires, after, deleted, ?_, Cluster.getFlow_eq_some_iff.mpr kept⟩
  simp only [Cluster.getFlow, PipelineKind.flowKind, gone]

end FlowTesting
