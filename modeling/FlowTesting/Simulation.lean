import FlowTesting.Configuration
import FlowTesting.Failure
import FlowTesting.FlowTest.Basic
import FlowTesting.Resource.ConfigMap
import FlowTesting.Resource.Pod
import FlowTesting.Resource.Service

set_option autoImplicit false

/-!
# Simulation

The objects that replay the messages of a flow test, and the log aggregator that all
flow tests share. Names of the first kind are made from the identifier of the test, so
a second attempt to make them for the same test collides with the first.
-/

namespace FlowTesting.Simulation

/-- The entry of the config map that holds the replayed lines. -/
def logKey : String := "simulation.log"

def logPath : String := "/simulation.log"

def volumeName : String := "config-volume"

def componentName : String := "pod-simulation"

def configMapName (uid : String) : String := uid ++ "-configmap"

def podName (uid : String) : String := uid ++ "-simulation"

/-- The replayed lines: every message with a line end after it. -/
def log (messages : List String) : String :=
  messages.foldl (fun text message => text ++ (message ++ "\n")) ""

/-- The labels by which filter slices select the simulation. -/
def selectorLabels (owner : Owner) : Labels := Labels.ownership componentName (some owner) []

/-- The config map with the messages of a flow test, which cannot be changed. -/
def configMap (flowTest : FlowTest) (owner : Owner) : ConfigMap :=
  { metadata := .ofNew (configMapName owner.uid) flowTest.spec.referencePod.namespaceName
      (Labels.ownership componentName (some owner) [])
    binaryData? := some (.ofList [(logKey, (log flowTest.spec.sentMessages).toUTF8.toList)])
    immutable? := some true }

/-- The container that replays the messages in the name of another one. -/
def container (name : String) (image : Image) : Container :=
  { name
    image? := some image.reference
    imagePullPolicy? := some image.pullPolicy
    command? := some ["pod-simulator"]
    args? := some ["-log-dir", logPath]
    volumeMounts? := some [{ name := volumeName, mountPath := logPath, subPath? := some logKey }] }

/-- The pod that takes the place of the reference pod. Its labels, its node selector and
the name of its first container are copied, so that the pipeline sees the records as it
would see those of the reference pod. -/
def pod (flowTest : FlowTest) (owner : Owner) (reference : Pod) (image : Image) :
    Except Failure Pod :=
  match reference.containers with
  | [] => .error (.validation owner.name
      s!"reference pod {reference.metadata.name} has no containers")
  | first :: _ => .ok
      { metadata := .ofNew (podName owner.uid) flowTest.spec.referencePod.namespaceName
          (Labels.ownership componentName (some owner) [reference.metadata.labels])
        spec? := some
          { containers := [container first.name image]
            nodeSelector? := reference.spec?.bind (·.nodeSelector?)
            volumes? := some
              [{ name := volumeName, configMap? := some { name := configMapName owner.uid } }] } }

end FlowTesting.Simulation

namespace FlowTesting.SharedAggregator

def containerName : String := "log-output"

def port : Int := 80

def portName : String := "http"

def protocol : String := "TCP"

def metadata (configuration : Configuration) : Metadata :=
  .ofNew Configuration.aggregatorName configuration.aggregatorNamespace
    (Labels.aggregator Configuration.aggregatorName)

def pod (configuration : Configuration) : Pod :=
  { metadata := metadata configuration
    spec? := some
      { containers := [
          { name := containerName
            image? := some configuration.aggregatorImage.reference
            imagePullPolicy? := some configuration.aggregatorImage.pullPolicy
            ports? := some
              [{ name? := some portName, containerPort := port, protocol? := some protocol }] }] } }

def service (configuration : Configuration) : Service :=
  { metadata := metadata configuration
    spec? := some
      { selector? := some (Labels.aggregator Configuration.aggregatorName)
        ports? := some [
          { name? := some portName
            port := port
            targetPort? := some (.name portName)
            protocol? := some protocol }] } }

end FlowTesting.SharedAggregator
