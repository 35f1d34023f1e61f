import FlowTesting.Http.Message
import FlowTesting.Http.Url
import FlowTesting.Program

set_option autoImplicit false

/-!
# The network

The exchanges by which calls and events get out of the controller: with the API server,
which always answers, and with the log aggregator, which may be out of reach.
-/

namespace FlowTesting

inductive NetworkRequest where
  /-- A request to the API server on behalf of a call. -/
  | apiServer (request : Http.Request)
  /-- A request to the API server on behalf of an event. -/
  | events (request : Http.Request)
  | aggregator (address : Http.Url)

def network : Interface where
  Request := NetworkRequest
  Reply
    | .apiServer _ => Http.Reply
    | .events _ => Http.Reply
    | .aggregator _ => Option Http.Reply

/-- A program over the network that may fail. -/
abbrev Exchange (α : Type) : Type := Attempt network α

end FlowTesting
