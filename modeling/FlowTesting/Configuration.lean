import FlowTesting.Time.Timestamp

set_option autoImplicit false

/-!
# Configuration

The images, timings and policies of the controller.
-/

namespace FlowTesting

structure Image where
  repository : String
  tag : String
  pullPolicy : String := "IfNotPresent"
  deriving DecidableEq, Repr

def Image.reference (image : Image) : String := image.repository ++ ":" ++ image.tag

/-- What becomes of a slice once it has delivered records: its flow is deleted, or kept
and marked inactive. -/
inductive PassPolicy where
  | delete
  | deactivate
  deriving DecidableEq, Repr

namespace PassPolicy

def text : PassPolicy → String
  | .delete => "delete"
  | .deactivate => "deactivate"

def parse (written : String) : Except String PassPolicy :=
  let lowered := written.map Char.toLower
  if lowered = PassPolicy.delete.text then .ok .delete
  else if lowered = PassPolicy.deactivate.text then .ok .deactivate
  else .error s!"unknown slice pass policy '{lowered}', expected 'delete' or 'deactivate'"

end PassPolicy

structure Configuration where
  aggregatorNamespace : String := "default"
  logOutputEndpoint? : Option String := none
  simulatorImage : Image :=
    { repository := "ghcr.io/mrsupiri/logging-pipeline-plumber/pod-simulator", tag := "latest" }
  aggregatorImage : Image := { repository := "paynejacob/log-output", tag := "latest" }
  warmup : Duration := .ofSeconds 60
  timeout : Duration := .ofSeconds 300
  pollInterval : Duration := .ofSeconds 30
  passPolicy : PassPolicy := .delete
  deriving DecidableEq, Repr

namespace Configuration

def aggregatorName : String := "logging-plumber-log-aggregator"

/-- The address of the log aggregator within the cluster, without a slash at its end. -/
def aggregatorBaseUrl (configuration : Configuration) : String :=
  "http://" ++ aggregatorName ++ "." ++ configuration.aggregatorNamespace ++ ".svc"

def indexEndpoint (configuration : Configuration) : String :=
  configuration.logOutputEndpoint?.getD (configuration.aggregatorBaseUrl ++ "/")

end Configuration

end FlowTesting
