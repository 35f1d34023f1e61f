import FlowTesting.Configuration
import FlowTesting.FlowTest.Basic

set_option autoImplicit false

/-!
# The schedule of a running test

A running test is warmed up, verified again and again, and completed at its deadline
or as soon as everything has passed. No wait for a verification reaches past the deadline.
-/

namespace FlowTesting

inductive RunningStep where
  | complete
  /-- The slices may not be active yet. -/
  | warmUp (wait : Duration)
  /-- A verification pass is due, and the next one at most that much later. -/
  | verify (wait : Duration)
  deriving DecidableEq, Repr

/-- The next step of a test that was created at one instant, at another one. A creation
in the future counts as now. -/
def runningStep (created now : Timestamp) (status : FlowTestStatus)
    (configuration : Configuration) : RunningStep :=
  let elapsed := now.since created
  if configuration.timeout.nanoseconds ≤ elapsed.nanoseconds || status.allPassed then .complete
  else if elapsed.nanoseconds < configuration.warmup.nanoseconds then
    .warmUp (configuration.warmup.minus elapsed)
  else .verify (configuration.pollInterval.shorter (configuration.timeout.minus elapsed))

/-- When a flow test was created; now if it does not tell. -/
def FlowTest.createdAt (flowTest : FlowTest) (now : Timestamp) : Timestamp :=
  flowTest.metadata.creationTimestamp?.getD now

end FlowTesting
