import FlowTesting.Aggregator.Index
import FlowTesting.FlowTest.Basic
import FlowTesting.Program
import FlowTesting.Resource.Basic

set_option autoImplicit false

/-!
# Calls

The calls that the controller makes to the cluster and to the log aggregator. Any of
them may fail; publishing an event never does, since the controller pays no heed to
what becomes of it.
-/

namespace FlowTesting

inductive Call where
  /-- Merges a status into the one of a flow test. Empty flag lists stay as they are. -/
  | patchStatus (flowTest : FlowTest) (status : FlowTestStatus)
  | addFinalizer (flowTest : FlowTest) (finalizer : String)
  | removeFinalizer (flowTest : FlowTest) (finalizer : String)
  | listFlowTests
  | getPod (namespaceName name : String)
  | getFlow (kind : PipelineKind) (namespaceName name : String)
  | create (resource : Resource)
  /-- Lists the flows of a kind in all namespaces. -/
  | listFlows (kind : PipelineKind) (selector : String)
  /-- Deletes a flow, which may be gone already. -/
  | deleteFlow (flow : PipelineFlow)
  | deactivateFlow (flow : PipelineFlow)
  /-- Deletes the objects of a kind in all namespaces and counts them. -/
  | deleteLabeled (kind : Kind) (selector : String)
  | listIndexes

/-- What a call that succeeds answers. -/
@[reducible]
def Call.Answer : Call → Type
  | .patchStatus .. => Unit
  | .addFinalizer .. => Unit
  | .removeFinalizer .. => Unit
  | .listFlowTests => List FlowTest
  | .getPod .. => Option Pod
  | .getFlow .. => Option PipelineFlow
  | .create .. => Unit
  | .listFlows .. => List PipelineFlow
  | .deleteFlow .. => Unit
  | .deactivateFlow .. => Unit
  | .deleteLabeled .. => Nat
  | .listIndexes => List Index

inductive EventType where
  | normal
  | warning
  deriving DecidableEq, Repr

def EventType.text : EventType → String
  | .normal => "Normal"
  | .warning => "Warning"

inductive EventReason where
  | created
  | provisioned
  | provisionFailed
  | slicePassed
  | verificationFailed
  | completed
  | cleanedUp
  | cleanupFailed
  deriving DecidableEq, Repr

def EventReason.text : EventReason → String
  | .created => "Created"
  | .provisioned => "Provisioned"
  | .provisionFailed => "ProvisionFailed"
  | .slicePassed => "SlicePassed"
  | .verificationFailed => "VerificationFailed"
  | .completed => "Completed"
  | .cleanedUp => "CleanedUp"
  | .cleanupFailed => "CleanupFailed"

inductive EventAction where
  | reconcile
  | provision
  | verify
  | cleanup
  deriving DecidableEq, Repr

def EventAction.text : EventAction → String
  | .reconcile => "Reconcile"
  | .provision => "Provision"
  | .verify => "Verify"
  | .cleanup => "Cleanup"

structure Event where
  type : EventType
  reason : EventReason
  action : EventAction
  note : String
  regarding : ObjectReference
  deriving DecidableEq, Repr

inductive ControllerRequest where
  | call (call : Call)
  | publish (event : Event)

@[reducible]
def controllerInterface : Interface where
  Request := ControllerRequest
  Reply
    | .call call => Except Failure call.Answer
    | .publish _ => Unit

/-- A program of the controller that may fail. -/
abbrev Procedure (α : Type) : Type := Attempt controllerInterface α

namespace Call

def perform (call : Call) : Program controllerInterface (Except Failure call.Answer) :=
  .request (.call call) .done

def make (call : Call) : Procedure call.Answer := ExceptT.mk call.perform

/-- Makes a call and goes on with its outcome. -/
def attempt (call : Call) : Procedure (Except Failure call.Answer) := ExceptT.lift call.perform

end Call

def Event.perform (event : Event) : Program controllerInterface Unit :=
  .request (.publish event) .done

def Event.publish (event : Event) : Procedure Unit := ExceptT.lift event.perform

end FlowTesting
