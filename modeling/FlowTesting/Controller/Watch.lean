import FlowTesting.ApiServer.Request
import FlowTesting.Controller.Reconcile

set_option autoImplicit false

/-!
# Watching flow tests

The controller lists the flow tests, watches them from there on, and reconciles each of
them again whenever its last reconciliation asked for that.
-/

namespace FlowTesting.Controller

def pageLimit : Nat := 500

/-- After how many seconds a watch ends when nothing happens. -/
def watchTimeout : Nat := 25

def listRequest : Except RequestFault Http.Request :=
  ApiServer.reading (ApiServer.path .flowTest none) (some [("limit", toString pageLimit)])

/-- The request that watches the flow tests from a version of the list on. -/
def watchRequest (resourceVersion : String) : Except RequestFault Http.Request :=
  ApiServer.reading (ApiServer.path .flowTest none) (some [
    ("watch", "true"),
    ("timeoutSeconds", toString watchTimeout),
    ("allowWatchBookmarks", "true"),
    ("resourceVersion", resourceVersion)])

def following (outcome : Except Failure Action) : Action :=
  match outcome with
  | .ok action => action
  | .error _ => afterFailure

/-- Reconciles a flow test of which no change is heard, up to a number of times. -/
def watch (configuration : Configuration) (flowTest : FlowTest) :
    (times : Nat) → (now : Timestamp) → Program controllerInterface Unit
  | 0, _ => .done ()
  | times + 1, now => do
    let outcome ← (reconcile configuration now flowTest).run
    match following outcome with
    | .awaitChange => .done ()
    | .requeue delay => watch configuration flowTest times (now.after delay)

end FlowTesting.Controller
