import FlowTesting.Call
import FlowTesting.Selector

set_option autoImplicit false

/-!
# Clusters

A cluster in memory, which answers the calls of the controller. Flow tests are kept by
name and resources by their keys; creation refuses keys that are taken, listings and
labelled deletion honour selectors, and statuses are merged.
-/

namespace FlowTesting

structure Cluster where
  flowTests : OrderedMap String FlowTest := ∅
  resources : OrderedMap ResourceKey Resource := ∅
  deletesFail : Bool := false

namespace Cluster

instance : Inhabited Cluster := ⟨{}⟩

/-- Puts a flow test into the cluster, in the place of one of its name. -/
def addFlowTest (cluster : Cluster) (flowTest : FlowTest) : Cluster :=
  { cluster with flowTests := cluster.flowTests.insert flowTest.name flowTest }

def addResource (cluster : Cluster) (resource : Resource) : Cluster :=
  { cluster with resources := cluster.resources.insert resource.key resource }

def putFlowTest (cluster : Cluster) (name : String) (flowTest : FlowTest) : Cluster :=
  { cluster with flowTests := cluster.flowTests.insert name flowTest }

def refuse {α : Type} (cluster : Cluster) (refusal : Refusal) : Except Failure α × Cluster :=
  (.error (.refused refusal), cluster)

def patchStatus (cluster : Cluster) (flowTest : FlowTest) (status : FlowTestStatus) :
    Except Failure Unit × Cluster :=
  match cluster.flowTests.get? flowTest.name with
  | none => cluster.refuse (.notFound flowTest.name)
  | some stored =>
    (.ok (), cluster.putFlowTest flowTest.name
      { stored with status? := some (stored.status.merge status) })

/-- The finalizers of an object with one more, unless they have it. -/
def withFinalizer (finalizers : List String) (finalizer : String) : List String :=
  if finalizers.contains finalizer then finalizers else finalizers ++ [finalizer]

def addFinalizer (cluster : Cluster) (flowTest : FlowTest) (finalizer : String) :
    Except Failure Unit × Cluster :=
  match cluster.flowTests.get? flowTest.name with
  | none => cluster.refuse (.notFound flowTest.name)
  | some stored =>
    let finalizers := withFinalizer stored.metadata.finalizers finalizer
    (.ok (), cluster.putFlowTest flowTest.name
      { stored with metadata := { stored.metadata with finalizers? := some finalizers } })

/-- Removes a finalizer. A flow test that is gone needs none removed, and a list that
becomes empty stays. -/
def removeFinalizer (cluster : Cluster) (flowTest : FlowTest) (finalizer : String) :
    Except Failure Unit × Cluster :=
  match cluster.flowTests.get? flowTest.name with
  | none => (.ok (), cluster)
  | some stored =>
    let finalizers? := stored.metadata.finalizers?.map (·.filter (· != finalizer))
    (.ok (), cluster.putFlowTest flowTest.name
      { stored with metadata := { stored.metadata with finalizers? } })

def getPod (cluster : Cluster) (namespaceName name : String) : Option Pod :=
  match cluster.resources.get? ⟨.pod, namespaceName, name⟩ with
  | some (.pod pod) => some pod
  | _ => none

def getFlow (cluster : Cluster) (kind : PipelineKind) (namespaceName name : String) :
    Option PipelineFlow :=
  match cluster.resources.get? ⟨kind.flowKind, namespaceName, name⟩ with
  | some (.flow flow) => some flow
  | _ => none

def existingMessage (resource : Resource) : String :=
  match resource with
  | .flow _ => resource.name
  | .output _ => resource.name
  | _ => resource.name ++ " already exists"

def create (cluster : Cluster) (resource : Resource) : Except Failure Unit × Cluster :=
  if cluster.resources.contains resource.key then
    cluster.refuse (.alreadyExists (existingMessage resource))
  else (.ok (), cluster.addResource resource)

def isSelected (kind : Kind) (selector : String) (key : ResourceKey) (resource : Resource) : Bool :=
  key.kind == kind && Selector.selects selector resource.labels

def listFlows (cluster : Cluster) (kind : PipelineKind) (selector : String) : List PipelineFlow :=
  (cluster.resources.filter (isSelected kind.flowKind selector)).values.filterMap
    (fun resource => match resource with
      | .flow flow => some flow
      | _ => none)

/-- What every deletion answers while deletions fail. -/
def injected : Refusal := .internalError "injected"

def deleteFlow (cluster : Cluster) (flow : PipelineFlow) : Except Failure Unit × Cluster :=
  if cluster.deletesFail then cluster.refuse injected
  else (.ok (), { cluster with resources := cluster.resources.erase (Resource.flow flow).key })

def deactivateFlow (cluster : Cluster) (flow : PipelineFlow) : Except Failure Unit × Cluster :=
  let key := (Resource.flow flow).key
  match cluster.resources.get? key with
  | some (.flow stored) =>
    let changed := Resource.flow (stored.withStatus { active? := some false })
    (.ok (), { cluster with resources := cluster.resources.insert key changed })
  | _ => cluster.refuse (.notFound flow.name)

def deleteLabeled (cluster : Cluster) (kind : Kind) (selector : String) :
    Except Failure Nat × Cluster :=
  if cluster.deletesFail then cluster.refuse injected
  else
    let kept := cluster.resources.filter (fun key resource =>
      !isSelected kind selector key resource)
    (.ok (cluster.resources.size - kept.size), { cluster with resources := kept })

end Cluster

/-- A cluster and what its log aggregator lists. -/
structure Surroundings where
  cluster : Cluster := {}
  listing : Except Failure (List Index) := .ok []

namespace Surroundings

instance : Inhabited Surroundings := ⟨{}⟩

def onCluster {α : Type} (surroundings : Surroundings) (outcome : Except Failure α × Cluster) :
    Except Failure α × Surroundings :=
  (outcome.1, { surroundings with cluster := outcome.2 })

def answer (surroundings : Surroundings) :
    (call : Call) → Except Failure call.Answer × Surroundings
  | .patchStatus flowTest status =>
    surroundings.onCluster (surroundings.cluster.patchStatus flowTest status)
  | .addFinalizer flowTest finalizer =>
    surroundings.onCluster (surroundings.cluster.addFinalizer flowTest finalizer)
  | .removeFinalizer flowTest finalizer =>
    surroundings.onCluster (surroundings.cluster.removeFinalizer flowTest finalizer)
  | .listFlowTests => (.ok surroundings.cluster.flowTests.values, surroundings)
  | .getPod namespaceName name =>
    (.ok (surroundings.cluster.getPod namespaceName name), surroundings)
  | .getFlow kind namespaceName name =>
    (.ok (surroundings.cluster.getFlow kind namespaceName name), surroundings)
  | .create resource => surroundings.onCluster (surroundings.cluster.create resource)
  | .listFlows kind selector => (.ok (surroundings.cluster.listFlows kind selector), surroundings)
  | .deleteFlow flow => surroundings.onCluster (surroundings.cluster.deleteFlow flow)
  | .deactivateFlow flow => surroundings.onCluster (surroundings.cluster.deactivateFlow flow)
  | .deleteLabeled kind selector =>
    surroundings.onCluster (surroundings.cluster.deleteLabeled kind selector)
  | .listIndexes => (surroundings.listing, surroundings)

end Surroundings

end FlowTesting
