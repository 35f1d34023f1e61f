import FlowTesting.Text.Quoted

set_option autoImplicit false

/-!
# Failures

What can go wrong in a flow test, told apart by who reported it: the API server, the
client before sending or after receiving, the flow test itself, the log aggregator, or
the controller.
-/

namespace FlowTesting

structure Refusal where
  status : String := "Failure"
  message : String
  reason : String
  code : Nat
  deriving DecidableEq, Repr

inductive RequestFault where
  | emptyName
  | invalidCharacter
  | tooLong
  deriving DecidableEq, Repr

inductive Failure where
  | refused (refusal : Refusal)
  | unbuildable (fault : RequestFault)
  | undecodable
  | validation (flowTest message : String)
  | aggregator (endpoint message : String)
  | internal (context message : String)
  deriving DecidableEq, Repr

namespace Refusal

def notFoundCode : Nat := 404
def conflictCode : Nat := 409
def internalErrorCode : Nat := 500

def alreadyExistsReason : String := "AlreadyExists"

def notFoundReason : String := "NotFound"

def notFound (message : String) : Refusal :=
  { message, reason := notFoundReason, code := notFoundCode }

def alreadyExists (message : String) : Refusal :=
  { message, reason := alreadyExistsReason, code := conflictCode }

def internalError (message : String) : Refusal :=
  { message, reason := "InternalError", code := internalErrorCode }

def text (refusal : Refusal) : String :=
  "ApiError: " ++ refusal.message ++ ": " ++ refusal.reason ++ " (ErrorResponse \x7b status: " ++
    Text.quoted refusal.status ++ ", message: " ++ Text.quoted refusal.message ++ ", reason: " ++
    Text.quoted refusal.reason ++ ", code: " ++ toString refusal.code ++ " \x7d)"

end Refusal

def RequestFault.text : RequestFault → String
  | .emptyName => "failed to validate request: A non-empty name is required"
  | .invalidCharacter => "failed to build request: invalid uri character"
  | .tooLong => "failed to build request: uri too long"

namespace Failure

/-- The context of an internal failure that names none. -/
def unknownContext : String := "unknown"

def message : Failure → String
  | .refused refusal => "kubernetes error: " ++ refusal.text
  | .unbuildable fault => "kubernetes error: Failed to build request: " ++ fault.text
  | .undecodable => "Error deserializing response"
  | .validation flowTest message => s!"validation error for {flowTest}: {message}"
  | .aggregator endpoint message => s!"log aggregator error at {endpoint}: {message}"
  | .internal context message => s!"internal error [{context}]: {message}"

def isNotFound : Failure → Bool
  | .refused refusal => refusal.code == Refusal.notFoundCode
  | _ => false

/-- Whether the API server has the object already. A conflict for any other reason is no
sign of that. -/
def isAlreadyExists : Failure → Bool
  | .refused refusal =>
    refusal.code == Refusal.conflictCode && refusal.reason == Refusal.alreadyExistsReason
  | _ => false

end Failure

end FlowTesting
