import FlowTesting.Call
import FlowTesting.Selector

set_option autoImplicit false

/-!
# Cleanup

The objects of a flow test are found by its name label and deleted kind by kind, flows
before the outputs that they deliver to. The shared log aggregator goes only when every
flow test is completed and none is being deleted.
-/

namespace FlowTesting.Cleanup

/-- The kinds of the objects made for one flow test, in the order of deletion. -/
def testKinds : List Kind := [.flow, .clusterFlow, .output, .clusterOutput, .pod, .configMap]

def aggregatorKinds : List Kind := [.pod, .service]

structure Report where
  testResources : Nat
  aggregatorRemoved : Bool
  deriving DecidableEq, Repr

def Report.changed (report : Report) : Bool := 0 < report.testResources || report.aggregatorRemoved

def deleteKinds (selector : String) : List Kind → Procedure Nat
  | [] => return 0
  | kind :: rest => do
    let deleted : Nat ← Call.make (.deleteLabeled kind selector)
    let others ← deleteKinds selector rest
    return deleted + others

def testResources (flowTest : String) : Procedure Nat :=
  deleteKinds (Selector.flowTest flowTest) testKinds

/-- Whether a flow test may still need the log aggregator. -/
def needsAggregator (flowTest : FlowTest) : Bool :=
  flowTest.phase? != some .completed || flowTest.isDeleting

def aggregatorInUse (flowTests : List FlowTest) : Bool := flowTests.any needsAggregator

/-- Deletes the log aggregator unless it is in use, and tells whether it did. -/
def teardownAggregator : Procedure Bool := do
  let flowTests : List FlowTest ← Call.make .listFlowTests
  if aggregatorInUse flowTests then return false
  let _ ← deleteKinds Selector.aggregator aggregatorKinds
  return true

def run (flowTest : FlowTest) : Procedure Report := do
  let testResources ← testResources flowTest.name
  let aggregatorRemoved ← teardownAggregator
  return { testResources, aggregatorRemoved }

end FlowTesting.Cleanup
