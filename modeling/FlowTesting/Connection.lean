import FlowTesting.ApiServer.Client
import FlowTesting.ApiServer.Recorder

set_option autoImplicit false

/-!
# Connections

A connection runs the controller over the network. Between requests it remembers the
events that it has recorded.
-/

namespace FlowTesting.Connection

def handle (endpoint : String) (request : ControllerRequest) :
    StateT Recorder (Program network) (controllerInterface.Reply request) :=
  match request with
  | .call call => fun recorder => do
    let outcome ← (ApiServer.answer endpoint call).run
    return (outcome, recorder)
  | .publish event => fun recorder => do
    return ((), ← recorder.publish event)

def run {α : Type} (endpoint : String) (recorder : Recorder)
    (program : Program controllerInterface α) : Program network (α × Recorder) :=
  (Program.run (handle endpoint) program : StateT Recorder (Program network) α) recorder

end FlowTesting.Connection
