import FlowTesting.Aggregator.Index
import FlowTesting.Http.Status
import FlowTesting.Json.Parser
import FlowTesting.Network

set_option autoImplicit false

/-!
# Listing indexes

The log aggregator lists its indexes at one address.
-/

namespace FlowTesting

inductive ListingFault where
  | noAddress
  | notHttp (address : Http.Url)
  | unreachable (address : Http.Url)
  | refused (status : Nat)
  | undecodable
  deriving DecidableEq, Repr

def ListingFault.message : ListingFault → String
  | .noAddress => "request failed: builder error"
  | .notHttp address => s!"request failed: builder error for url ({address.text})"
  | .unreachable address => s!"request failed: error sending request for url ({address.text})"
  | .refused status => "HTTP " ++ Http.Status.text status
  | .undecodable => "invalid JSON: error decoding response body"

namespace Aggregator

/-- The address that is asked for the indexes. -/
def address (endpoint : String) : Except ListingFault Http.Url :=
  match Http.Url.parse endpoint with
  | .error _ => .error .noAddress
  | .ok address =>
    let address := address.withoutReadableCredentials
    if address.isHttp then .ok address else .error (.notHttp address)

def readListing (address : Http.Url) (reply? : Option Http.Reply) :
    Except ListingFault (List Index) :=
  match reply? with
  | none => .error (.unreachable address)
  | some reply =>
    if !Http.Status.isSuccess reply.status then .error (.refused reply.status)
    else
      match (Document.parse? reply.body).bind (fun body =>
          (Decode.list Index.decode body).toOption) with
      | some indexes => .ok indexes
      | none => .error .undecodable

def listIndexes (endpoint : String) : Exchange (List Index) :=
  let failing {α : Type} (outcome : Except ListingFault α) : Except Failure α :=
    outcome.mapError (fun fault => .aggregator endpoint fault.message)
  match failing (address endpoint) with
  | .error failure => throw failure
  | .ok address => ExceptT.mk
      (.request (.aggregator address) (fun reply? => .done (failing (readListing address reply?))))

end Aggregator

end FlowTesting
