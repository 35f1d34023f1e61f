import FlowTesting.Pipeline.Rule
import FlowTesting.Resource.Type

set_option autoImplicit false

/-!
# Flows

A flow routes the records that its match rules select through its filters to its
outputs. Flows of one namespace and flows of the whole cluster differ in where their
outputs may be; a pipeline flow is either of them.
-/

namespace FlowTesting

inductive PipelineKind where
  | flow
  | clusterFlow
  deriving DecidableEq, Repr

namespace PipelineKind

def text : PipelineKind → String
  | .flow => "Flow"
  | .clusterFlow => "ClusterFlow"

def ofText? : String → Option PipelineKind
  | "Flow" => some .flow
  | "ClusterFlow" => some .clusterFlow
  | _ => none

def resourceType : PipelineKind → ResourceType
  | .flow => .flow
  | .clusterFlow => .clusterFlow

end PipelineKind

structure FlowStatus where
  active? : Option Bool := none
  deriving DecidableEq

structure FlowSpec where
  matchRules : List Rule := []
  filters : List Rule := []
  localOutputRefs : List String := []
  globalOutputRefs : List String := []

structure ClusterFlowSpec where
  matchRules : List Rule := []
  filters : List Rule := []
  globalOutputRefs : List String := []

structure Flow where
  metadata : Metadata
  spec : FlowSpec
  status? : Option FlowStatus := none

structure ClusterFlow where
  metadata : Metadata
  spec : ClusterFlowSpec
  status? : Option FlowStatus := none

namespace FlowStatus

open Decode.Fields in
def decode : Decode.Reader FlowStatus :=
  record (FlowStatus.mk <$> defaulted "active" (Decode.nullable Decode.boolean) none) "FlowStatus"

def encode (status : FlowStatus) : Json := .ofFields [("active", status.active?.map .boolean)]

end FlowStatus

namespace FlowSpec

open Decode.Fields in
def decode : Decode.Reader FlowSpec :=
  record
    (FlowSpec.mk <$> defaulted "match" (Decode.list Rule.decode) []
      <*> defaulted "filters" (Decode.list Rule.decode) []
      <*> defaulted "localOutputRefs" (Decode.list Decode.text) []
      <*> defaulted "globalOutputRefs" (Decode.list Decode.text) [])
    "FlowSpec"

def encode (spec : FlowSpec) : Json :=
  .ofFields [
    ("match", Json.unlessEmpty Rule.encode spec.matchRules),
    ("filters", Json.unlessEmpty Rule.encode spec.filters),
    ("localOutputRefs", Json.unlessEmpty .text spec.localOutputRefs),
    ("globalOutputRefs", Json.unlessEmpty .text spec.globalOutputRefs)]

end FlowSpec

namespace ClusterFlowSpec

open Decode.Fields in
def decode : Decode.Reader ClusterFlowSpec :=
  record
    (ClusterFlowSpec.mk <$> defaulted "match" (Decode.list Rule.decode) []
      <*> defaulted "filters" (Decode.list Rule.decode) []
      <*> defaulted "globalOutputRefs" (Decode.list Decode.text) [])
    "ClusterFlowSpec"

def encode (spec : ClusterFlowSpec) : Json :=
  .ofFields [
    ("match", Json.unlessEmpty Rule.encode spec.matchRules),
    ("filters", Json.unlessEmpty Rule.encode spec.filters),
    ("globalOutputRefs", Json.unlessEmpty .text spec.globalOutputRefs)]

end ClusterFlowSpec

namespace Flow

open Decode.Fields in
def decode : Decode.Reader Flow :=
  record
    (Flow.mk <$> required "metadata" Metadata.decode <*> required "spec" FlowSpec.decode
      <*> optional "status" FlowStatus.decode)
    "Flow"

def encode (flow : Flow) : Json :=
  .ofObject .flow flow.metadata [
    ("spec", some flow.spec.encode), ("status", flow.status?.map FlowStatus.encode)]

end Flow

namespace ClusterFlow

open Decode.Fields in
def decode : Decode.Reader ClusterFlow :=
  record
    (ClusterFlow.mk <$> required "metadata" Metadata.decode
      <*> required "spec" ClusterFlowSpec.decode <*> optional "status" FlowStatus.decode)
    "ClusterFlow"

def encode (flow : ClusterFlow) : Json :=
  .ofObject .clusterFlow flow.metadata [
    ("spec", some flow.spec.encode), ("status", flow.status?.map FlowStatus.encode)]

end ClusterFlow

inductive PipelineFlow where
  | flow (flow : Flow)
  | clusterFlow (flow : ClusterFlow)

namespace PipelineFlow

def kind : PipelineFlow → PipelineKind
  | .flow _ => .flow
  | .clusterFlow _ => .clusterFlow

def metadata : PipelineFlow → Metadata
  | .flow object => object.metadata
  | .clusterFlow object => object.metadata

def name (flow : PipelineFlow) : String := flow.metadata.name

def namespaceName? (flow : PipelineFlow) : Option String := flow.metadata.namespaceName?

def labels (flow : PipelineFlow) : Labels := flow.metadata.labels

def matchRules : PipelineFlow → List Rule
  | .flow object => object.spec.matchRules
  | .clusterFlow object => object.spec.matchRules

def filters : PipelineFlow → List Rule
  | .flow object => object.spec.filters
  | .clusterFlow object => object.spec.filters

/-- The outputs next to the flow: of its namespace, or of the cluster. -/
def outputRefs : PipelineFlow → List String
  | .flow object => object.spec.localOutputRefs
  | .clusterFlow object => object.spec.globalOutputRefs

def status? : PipelineFlow → Option FlowStatus
  | .flow object => object.status?
  | .clusterFlow object => object.status?

def withStatus (status : FlowStatus) : PipelineFlow → PipelineFlow
  | .flow object => .flow { object with status? := some status }
  | .clusterFlow object => .clusterFlow { object with status? := some status }

/-- A flow is active until its status says otherwise. -/
def isActive (flow : PipelineFlow) : Bool :=
  (flow.status?.bind (·.active?)) != some false

/-- What a slice exercises, by its label; none for a flow that is no slice. -/
def testType? (flow : PipelineFlow) : Option TestType :=
  (flow.labels.get? Labels.testTypeKey).bind TestType.ofText?

def decode (kind : PipelineKind) : Decode.Reader PipelineFlow :=
  match kind with
  | .flow => fun document => (Flow.decode document).map .flow
  | .clusterFlow => fun document => (ClusterFlow.decode document).map .clusterFlow

def encode : PipelineFlow → Json
  | .flow object => object.encode
  | .clusterFlow object => object.encode

end PipelineFlow

end FlowTesting
