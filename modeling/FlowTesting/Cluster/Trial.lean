import FlowTesting.Cluster.Basic
import FlowTesting.Json.Printer

set_option autoImplicit false

/-!
# Trials

A trial runs the controller against a cluster in memory. It keeps the calls and the
events in order, and it can be armed with faults that let calls fail before they reach
the cluster.
-/

namespace FlowTesting

inductive Operation where
  | patchStatus
  | addFinalizer
  | removeFinalizer
  | listFlowTests
  | getPod
  | getFlow
  | createConfigMap
  | createPod
  | createService
  | createFlow
  | createOutput
  | listFlows
  | deleteFlow
  | deactivateFlow
  | deleteLabeled
  | listIndexes
  deriving DecidableEq, Repr

namespace Call

def operation : Call → Operation
  | .patchStatus .. => .patchStatus
  | .addFinalizer .. => .addFinalizer
  | .removeFinalizer .. => .removeFinalizer
  | .listFlowTests => .listFlowTests
  | .getPod .. => .getPod
  | .getFlow .. => .getFlow
  | .create (.configMap _) => .createConfigMap
  | .create (.pod _) => .createPod
  | .create (.service _) => .createService
  | .create (.flow _) => .createFlow
  | .create (.output _) => .createOutput
  | .listFlows .. => .listFlows
  | .deleteFlow .. => .deleteFlow
  | .deactivateFlow .. => .deactivateFlow
  | .deleteLabeled .. => .deleteLabeled
  | .listIndexes => .listIndexes

def flowArguments (flow : PipelineFlow) : List Json :=
  [.text flow.kind.text, (flow.namespaceName?.map Json.text).getD .null, .text flow.name]

def arguments : Call → List Json
  | .patchStatus flowTest status => [.text flowTest.name, status.encode]
  | .addFinalizer flowTest finalizer => [.text flowTest.name, .text finalizer]
  | .removeFinalizer flowTest finalizer => [.text flowTest.name, .text finalizer]
  | .listFlowTests => []
  | .getPod namespaceName name => [.text namespaceName, .text name]
  | .getFlow kind namespaceName name => [.text kind.text, .text namespaceName, .text name]
  | .create resource => [resource.encode]
  | .listFlows kind selector => [.text kind.text, .text selector]
  | .deleteFlow flow => flowArguments flow
  | .deactivateFlow flow => flowArguments flow
  | .deleteLabeled kind selector => [.text kind.text, .text selector]
  | .listIndexes => []

end Call

/-- Whether a text occurs within another one. -/
def occursIn (wanted : List Char) : List Char → Bool
  | [] => wanted.isEmpty
  | character :: rest => wanted.isPrefixOf (character :: rest) || occursIn wanted rest

/-- A failure that waits for calls: after some that it lets pass, it meets others. -/
structure Fault where
  operation : Operation
  failure : Failure
  skip : Nat := 0
  times : Nat := 1
  contains? : Option String := none

namespace Fault

def concerns (fault : Fault) (call : Call) : Bool :=
  fault.operation == call.operation &&
    match fault.contains? with
    | none => true
    | some wanted => occursIn wanted.toList (Json.array call.arguments).compact.toList

def meet (fault : Fault) (call : Call) : Fault × Option Failure :=
  if !fault.concerns call then (fault, none)
  else if 0 < fault.skip then ({ fault with skip := fault.skip - 1 }, none)
  else if 0 < fault.times then ({ fault with times := fault.times - 1 }, some fault.failure)
  else (fault, none)

/-- Lets the faults meet a call in the order in which they were armed, up to the first
that it fails with. -/
def meetAll (call : Call) : List Fault → List Fault × Option Failure
  | [] => ([], none)
  | fault :: rest =>
    match fault.meet call with
    | (changed, some failure) => (changed :: rest, some failure)
    | (changed, none) =>
      let (others, failure?) := meetAll call rest
      (changed :: others, failure?)

end Fault

structure CallRecord where
  call : Call
  failure? : Option Failure

structure Trial where
  surroundings : Surroundings := {}
  faults : List Fault := []
  calls : List CallRecord := []
  events : List Event := []

namespace Trial

instance : Inhabited Trial := ⟨{}⟩

def answer (trial : Trial) (call : Call) : Except Failure call.Answer × Trial :=
  let (faults, failure?) := Fault.meetAll call trial.faults
  match failure? with
  | some failure =>
    (.error failure, { trial with faults, calls := trial.calls ++ [⟨call, some failure⟩] })
  | none =>
    let (outcome, surroundings) := trial.surroundings.answer call
    let failure? := match outcome with
      | .ok _ => none
      | .error failure => some failure
    (outcome, { trial with surroundings, faults, calls := trial.calls ++ [⟨call, failure?⟩] })

def handle (request : ControllerRequest) : StateM Trial (controllerInterface.Reply request) :=
  match request with
  | .call call => fun trial => trial.answer call
  | .publish event => fun trial => ((), { trial with events := trial.events ++ [event] })

def run {α : Type} (trial : Trial) (procedure : Procedure α) : Except Failure α × Trial :=
  (Program.run handle procedure.run : StateM Trial (Except Failure α)) trial

def withoutRecords (trial : Trial) : Trial := { trial with calls := [], events := [] }

end Trial

/-- The flow test whose metadata and specification have some members replaced, and its
status as a whole. It is read again from its written form. -/
def FlowTest.amend (flowTest : FlowTest) (metadata spec : List (String × Json))
    (status? : Option Json) : Except DecodeFault FlowTest :=
  let merge (value : Json) (changes : List (String × Json)) : Json :=
    changes.foldl (fun changed change => changed.withMember change.1 change.2) value
  let written := flowTest.encode
    |>.withMember "metadata" (merge flowTest.metadata.encode metadata)
    |>.withMember "spec" (merge flowTest.spec.encode spec)
  FlowTest.decode (match status? with
    | some status => written.withMember "status" status
    | none => written)

end FlowTesting
