import FlowTesting.Simulation
import FlowTesting.Slice.Plan
import FlowTesting.Verification

set_option autoImplicit false

/-!
# Provisioning

Makes everything that a flow test needs: the simulation, the shared log aggregator
where it is missing, and the slices. The flags are allocated from the reference flow as
it is then, and stored before the first slice is made.
-/

namespace FlowTesting.Provisioning

/-- Takes an object that exists already for success. -/
def tolerateExisting (outcome : Except Failure Unit) : Except Failure Unit :=
  match outcome with
  | .error failure => if failure.isAlreadyExists then .ok () else .error failure
  | .ok () => .ok ()

/-- Creates a shared object unless it is there. Creation is always tried, since another
flow test may win the race for it. -/
def ensure (resource : Resource) : Procedure Unit := do
  let outcome ← Call.attempt (.create resource)
  ExceptT.mk (pure (tolerateExisting outcome))

def ensureAggregator (configuration : Configuration) : Procedure Unit := do
  ensure (.pod (SharedAggregator.pod configuration))
  ensure (.service (SharedAggregator.service configuration))

/-- The identity of a flow test, which it needs before anything is made for it. -/
def requireOwner (flowTest : FlowTest) : Except Failure Owner :=
  match flowTest.owner? with
  | some owner => .ok owner
  | none => .error (.validation flowTest.name "FlowTest has no UID yet")

def getReferencePod (flowTest : FlowTest) : Procedure Pod := do
  let reference := flowTest.spec.referencePod
  match ← Call.make (.getPod reference.namespaceName reference.name) with
  | some pod => return pod
  | none => throw (.validation flowTest.name s!"reference pod {reference.path} not found")

/-- Provisions a flow test and returns its freshly allocated status. -/
def run (flowTest : FlowTest) (configuration : Configuration) : Procedure FlowTestStatus := do
  let owner ← ExceptT.mk (pure (requireOwner flowTest))
  let kind ← ExceptT.mk (pure flowTest.pipelineKind)
  let referencePod ← getReferencePod flowTest
  let pod ← ExceptT.mk (pure
    (Simulation.pod flowTest owner referencePod configuration.simulatorImage))
  Call.make (.create (.configMap (Simulation.configMap flowTest owner)))
  Call.make (.create (.pod pod))
  ensureAggregator configuration
  let reference ← flowTest.getReference kind
  let status := FlowTestStatus.allocated .created reference.matchRules.length
    reference.filters.length
  Call.make (.patchStatus flowTest status)
  let slices ← ExceptT.mk (pure
    (Slice.plan reference owner (Simulation.selectorLabels owner) configuration.aggregatorBaseUrl))
  Slice.deploy slices
  return status

end FlowTesting.Provisioning
