import FlowTesting.Configuration
import FlowTesting.Call
import FlowTesting.Marking
import FlowTesting.Selector

set_option autoImplicit false

/-!
# Verification

A pass looks up which slices have delivered, retires them and marks what they
exercised. The flags are stored once, at the end of the pass, and only when one has
changed. When a slice cannot be retired the pass ends there, and what it has marked so
far is stored all the same.
-/

namespace FlowTesting

structure Verification where
  matchStatus : List Bool
  filterStatus : List Bool
  passed : List String
  deriving DecidableEq, Repr

def FlowTest.pipelineKind (flowTest : FlowTest) : Except Failure PipelineKind :=
  let kind := flowTest.spec.referenceFlow.kind
  match PipelineKind.ofText? kind with
  | some kind => .ok kind
  | none => .error (.validation flowTest.name
      s!"unsupported referenceFlow.kind '{kind}', expected Flow or ClusterFlow")

/-- The reference flow of a flow test, which has to exist. -/
def FlowTest.getReference (flowTest : FlowTest) (kind : PipelineKind) : Procedure PipelineFlow := do
  let reference := flowTest.spec.referenceFlow
  match ← Call.make (.getFlow kind reference.namespaceName reference.name) with
  | some flow => return flow
  | none => throw (.validation flowTest.name s!"reference {kind.text} {reference.path} not found")

namespace Verification

def allPassed (verification : Verification) : Bool :=
  (verification.matchStatus ++ verification.filterStatus).all id

def retire (policy : PassPolicy) (slice : PipelineFlow) : Procedure (Except Failure Unit) :=
  match policy with
  | .delete => Call.attempt (.deleteFlow slice)
  | .deactivate => Call.attempt (.deactivateFlow slice)

/-- A flow that is to be retired: an active slice of known type that has delivered. -/
def delivered? (indexes : List Index) (flow : PipelineFlow) : Option TestType :=
  if flow.isActive && Index.haveLogs indexes flow.name then flow.testType? else none

/-- Records that a slice has passed, and counts the flags it has set. -/
def record (reference slice : PipelineFlow) (testType : TestType) (verification : Verification) :
    Verification × Nat :=
  match testType with
  | .matchRule =>
    let (matchStatus, flipped) :=
      Marking.markPassed verification.matchStatus reference.matchRules slice.matchRules
    ({ verification with matchStatus, passed := verification.passed ++ [slice.name] }, flipped)
  | .filterStage =>
    let (filterStatus, flipped) :=
      Marking.markPassed verification.filterStatus reference.filters slice.filters
    ({ verification with filterStatus, passed := verification.passed ++ [slice.name] }, flipped)

/-- Where a pass stands: what it has found, the flags it has set, and the failure that
has ended it. -/
structure Progress where
  verification : Verification
  flipped : Nat
  failure? : Option Failure

/-- Retires the slices that have delivered, up to the first failure. -/
def retireDelivered (policy : PassPolicy) (reference : PipelineFlow) (indexes : List Index)
    (progress : Progress) : List PipelineFlow → Procedure Progress
  | [] => return progress
  | slice :: rest =>
    match delivered? indexes slice with
    | none => retireDelivered policy reference indexes progress rest
    | some testType => do
      match ← retire policy slice with
      | .error failure => return { progress with failure? := some failure }
      | .ok () =>
        let (verification, flipped) := record reference slice testType progress.verification
        retireDelivered policy reference indexes
          { progress with verification, flipped := progress.flipped + flipped } rest

def updatedStatus (flowTest : FlowTest) (verification : Verification) : FlowTestStatus :=
  { flowTest.status with
    matchStatus := verification.matchStatus, filterStatus := verification.filterStatus }

def run (flowTest : FlowTest) (policy : PassPolicy) : Procedure Verification := do
  let kind ← ExceptT.mk (pure flowTest.pipelineKind)
  let reference ← flowTest.getReference kind
  let slices ← Call.make (.listFlows kind (Selector.flowTest flowTest.name))
  let indexes ← Call.make .listIndexes
  let start : Verification :=
    { matchStatus := flowTest.status.matchStatus
      filterStatus := flowTest.status.filterStatus
      passed := [] }
  let progress ← retireDelivered policy reference indexes ⟨start, 0, none⟩ slices
  if 0 < progress.flipped then
    Call.make (.patchStatus flowTest (updatedStatus flowTest progress.verification))
  match progress.failure? with
  | some failure => throw failure
  | none => return progress.verification

end Verification

end FlowTesting
