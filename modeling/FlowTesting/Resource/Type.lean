import FlowTesting.Resource.Metadata

set_option autoImplicit false

/-!
# Resource types

How the API names the types of objects that take part in a flow test.
-/

namespace FlowTesting

/-- A type of objects as the API serves it. The core group has no name. -/
structure ResourceType where
  group : String
  version : String
  kind : String
  plural : String
  deriving DecidableEq, Repr

namespace ResourceType

/-- The group and version that objects of the type carry. -/
def apiVersion (type : ResourceType) : String :=
  if type.group = "" then type.version else type.group ++ "/" ++ type.version

def core (kind plural : String) : ResourceType := ⟨"", "v1", kind, plural⟩

def logging (kind plural : String) : ResourceType :=
  ⟨"logging.banzaicloud.io", "v1beta1", kind, plural⟩

def pod : ResourceType := core "Pod" "pods"
def configMap : ResourceType := core "ConfigMap" "configmaps"
def service : ResourceType := core "Service" "services"
def flow : ResourceType := logging "Flow" "flows"
def clusterFlow : ResourceType := logging "ClusterFlow" "clusterflows"
def output : ResourceType := logging "Output" "outputs"
def clusterOutput : ResourceType := logging "ClusterOutput" "clusteroutputs"
def flowTest : ResourceType := ⟨Labels.domain, "v1beta1", "FlowTest", "flowtests"⟩

end ResourceType

def Json.ofObject (type : ResourceType) (metadata : Metadata)
    (parts : List (String × Option Json)) : Json :=
  .ofFields ([
    ("apiVersion", some (.text type.apiVersion)),
    ("kind", some (.text type.kind)),
    ("metadata", some metadata.encode)] ++ parts)

end FlowTesting
