import FlowTesting.Json.Basic

set_option autoImplicit false

/-!
# Messages

What goes out to a server over HTTP, and what comes back. Bodies go out as JSON values
and come back as text, since a server may answer anything.
-/

namespace FlowTesting.Http

inductive Method where
  | get
  | post
  | patch
  | delete
  deriving DecidableEq, Repr

def Method.text : Method → String
  | .get => "GET"
  | .post => "POST"
  | .patch => "PATCH"
  | .delete => "DELETE"

/-- A request with the parameters of its query in order. -/
structure Request where
  method : Method
  path : String
  query : List (String × String) := []
  contentType? : Option String := none
  body? : Option Json := none

structure Reply where
  status : Nat
  body : String
  deriving DecidableEq, Repr

def jsonType : String := "application/json"

def mergePatchType : String := "application/merge-patch+json"

end FlowTesting.Http
