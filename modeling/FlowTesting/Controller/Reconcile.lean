import FlowTesting.Cleanup
import FlowTesting.Controller.Schedule
import FlowTesting.Provisioning

set_option autoImplicit false

/-!
# Reconciliation

Each reconciliation takes a flow test at most one step further: a new test is accepted,
an accepted one is provisioned, a running one is verified until it is completed, and a
completed one is cleaned up. Deletion comes before every phase, and the finalizer keeps
a test until its objects are gone.
-/

namespace FlowTesting

inductive Action where
  | awaitChange
  | requeue (delay : Duration)
  deriving DecidableEq, Repr

namespace Controller

/-- The finalizer that keeps a flow test until it is cleaned up. -/
def finalizer : String := "loggingpipelineplumber.isala.me/finalizer"

def name : String := "flowtest-controller"

/-- The delay after a reconciliation that has failed. -/
def errorDelay : Duration := .ofSeconds 30

def afterFailure : Action := .requeue errorDelay

def publish (flowTest : FlowTest) (type : EventType) (reason : EventReason) (action : EventAction)
    (note : String) : Procedure Unit :=
  Event.publish { type, reason, action, note, regarding := flowTest.reference }

/-- Accepts a new flow test: its finalizer is attached before its phase is set. -/
def markCreated (flowTest : FlowTest) : Procedure Action := do
  if !flowTest.hasFinalizer finalizer then
    Call.make (.addFinalizer flowTest finalizer)
  Call.make (.patchStatus flowTest (.ofPhase .created))
  publish flowTest .normal .created .reconcile "flow test accepted"
  return .requeue .zero

/-- The wait after provisioning: none, unless the slices have to warm up. -/
def waitAfterProvisioning : RunningStep → Duration
  | .warmUp wait => wait
  | .complete => .zero
  | .verify _ => .zero

/-- Provisions an accepted flow test, which then runs or is in error. -/
def provision (configuration : Configuration) (now : Timestamp) (flowTest : FlowTest) :
    Procedure Action := do
  match ← ExceptT.lift (Provisioning.run flowTest configuration).run with
  | .ok status =>
    Call.make (.patchStatus flowTest (.ofPhase .running))
    publish flowTest .normal .provisioned .provision
      s!"deployed {status.matchStatus.length} match and {status.filterStatus.length} filter slices"
    return .requeue (waitAfterProvisioning
      (runningStep (flowTest.createdAt now) now status configuration))
  | .error failure =>
    publish flowTest .warning .provisionFailed .provision failure.message
    Call.make (.patchStatus flowTest (.ofPhase .error))
    return .awaitChange

def complete (flowTest : FlowTest) : Procedure Action := do
  Call.make (.patchStatus flowTest (.ofPhase .completed))
  publish flowTest .normal .completed .reconcile "verification finished"
  return .requeue .zero

def announcePassed (flowTest : FlowTest) : List String → Procedure Unit
  | [] => return ()
  | slice :: rest => do
    publish flowTest .normal .slicePassed .verify s!"slice {slice} delivered logs"
    announcePassed flowTest rest

/-- Verifies a running flow test and completes it when everything has passed. A pass
that fails is reported and tried again. -/
def verify (configuration : Configuration) (flowTest : FlowTest) (next : Duration) :
    Procedure Action := do
  match ← ExceptT.lift (Verification.run flowTest configuration.passPolicy).run with
  | .ok verification =>
    announcePassed flowTest verification.passed
    if verification.allPassed then complete flowTest else return .requeue next
  | .error failure =>
    publish flowTest .warning .verificationFailed .verify failure.message
    return .requeue next

def checkRunning (configuration : Configuration) (now : Timestamp) (flowTest : FlowTest) :
    Procedure Action :=
  match runningStep (flowTest.createdAt now) now flowTest.status configuration with
  | .complete => complete flowTest
  | .warmUp wait => return .requeue wait
  | .verify next => verify configuration flowTest next

def cleanupNote (report : Cleanup.Report) : String :=
  s!"removed {report.testResources} test resources" ++
    if report.aggregatorRemoved then " and the shared log aggregator" else ""

/-- Cleans up after a flow test, reports what was removed, and tells whether it worked. -/
def cleanUp (flowTest : FlowTest) : Procedure Bool := do
  match ← ExceptT.lift (Cleanup.run flowTest).run with
  | .ok report =>
    if report.changed then
      publish flowTest .normal .cleanedUp .cleanup (cleanupNote report)
    return true
  | .error failure =>
    publish flowTest .warning .cleanupFailed .cleanup failure.message
    return false

/-- Cleans up after a completed flow test, again and again until it works. -/
def cleanUpCompleted (configuration : Configuration) (flowTest : FlowTest) :
    Procedure Action := do
  if ← cleanUp flowTest then return .awaitChange
  else return .requeue configuration.pollInterval

/-- Cleans up after a flow test that is being deleted, and then lets go of it. -/
def handleDeletion (configuration : Configuration) (flowTest : FlowTest) : Procedure Action := do
  if !flowTest.hasFinalizer finalizer then return .awaitChange
  if ← cleanUp flowTest then
    Call.make (.removeFinalizer flowTest finalizer)
    return .awaitChange
  else return .requeue configuration.pollInterval

def reconcile (configuration : Configuration) (now : Timestamp) (flowTest : FlowTest) :
    Procedure Action :=
  if flowTest.isDeleting then handleDeletion configuration flowTest
  else
    match flowTest.phase? with
    | none => markCreated flowTest
    | some .created => provision configuration now flowTest
    | some .running => checkRunning configuration now flowTest
    | some .completed => cleanUpCompleted configuration flowTest
    | some .error => return .awaitChange

end Controller

end FlowTesting
