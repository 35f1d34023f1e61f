import FlowTesting.Failure
import FlowTesting.Http.Message
import FlowTesting.Http.Status
import FlowTesting.Json.Parser
import FlowTesting.Json.Record

set_option autoImplicit false

/-!
# Replies of the API server

A reply with an error code is a refusal, which its body describes; a body that does not
is quoted instead. Every other reply has to hold what was asked for. What a deletion
answers is a report, or the deleted object.
-/

namespace FlowTesting

namespace Refusal

open Decode.Fields in
def decode : Decode.Reader Refusal :=
  record
    (Refusal.mk <$> required "status" Decode.text <*> defaulted "message" Decode.text ""
      <*> defaulted "reason" Decode.text "" <*> required "code" Decode.natural16)
    "ErrorResponse"

/-- The reason of a refusal that does not describe itself. -/
def unreadableReason : String := "Failed to parse error data"

def ofReply (reply : Http.Reply) : Refusal :=
  match (Document.parse? reply.body).bind (fun body => (decode body).toOption) with
  | some refusal => refusal
  | none =>
    { status := Http.Status.text reply.status
      message := Text.quoted reply.body
      reason := unreadableReason
      code := reply.status }

end Refusal

namespace ApiServer

/-- Reads the body of a reply that is no refusal. -/
def readReply {α : Type} (read : Decode.Reader α) (reply : Http.Reply) : Except Failure α :=
  if Http.Status.isError reply.status then .error (.refused (Refusal.ofReply reply))
  else
    match (Document.parse? reply.body).bind (fun body => (read body).toOption) with
    | some value => .ok value
    | none => .error .undecodable

open Decode.Fields in
/-- Reads what a list tells about itself, of which nothing is kept. -/
def listMetadata : Decode.Reader Unit :=
  fromObject
    ((fun _ _ _ _ => ()) <$> optional "continue" Decode.text
      <*> optional "remainingItemCount" Decode.integer64
      <*> optional "resourceVersion" Decode.text <*> optional "selfLink" Decode.text)
    "ListMeta"

open Decode.Fields in
/-- The fields of a list of objects; null stands for no objects. -/
def listFields {α : Type} (read : Decode.Reader α) : Decode.Fields (List α) :=
  (fun _ items => items.getD []) <$> defaulted "metadata" listMetadata ()
    <*> required "items" (Decode.nullable (Decode.list read))

open Decode.Fields in
/-- Reads a list of objects. Its other members may name a type, whatever they are, and so
have to stand for values. -/
def listOf {α : Type} (read : Decode.Reader α) : Decode.Reader (List α) := fun document => do
  let objects ← recordFromObject (listFields read) "ObjectList" document
  if document.others (listFields read).keys |>.all Document.isReadable then return objects
  else throw .unreadable

def outcomes : List String := ["Success", "Failure"]

def knownOutcome (name : String) : Except DecodeFault Unit :=
  if outcomes.contains name then .ok () else .error (.unknownVariant name outcomes)

/-- Reads the outcome of a report: its name, or an object with the name as its only key. -/
def outcome : Decode.Reader Unit := fun document =>
  match document.form with
  | .text name => knownOutcome name
  | .object [(name, content)] => do
    knownOutcome name
    match content.form with
    | .null => return ()
    | _ => throw (.wrongType content "unit")
  | _ => .error (.wrongType document "string or map")

open Decode.Fields in
def reportCause : Decode.Reader Unit :=
  record
    ((fun _ _ _ => ()) <$> defaulted "reason" Decode.text "" <*> defaulted "message" Decode.text ""
      <*> defaulted "field" Decode.text "")
    "StatusCause"

open Decode.Fields in
def reportDetails : Decode.Reader Unit :=
  record
    ((fun _ _ _ _ _ _ => ()) <$> defaulted "name" Decode.text ""
      <*> defaulted "group" Decode.text "" <*> defaulted "kind" Decode.text ""
      <*> defaulted "uid" Decode.text "" <*> defaulted "causes" (Decode.list reportCause) []
      <*> defaulted "retryAfterSeconds" (Decode.natural "u32" (Nat.pow 2 32)) 0)
    "StatusDetails"

open Decode.Fields in
/-- Reads what the server reports about a deletion, of which nothing is kept. -/
def report : Decode.Reader Unit :=
  record
    ((fun _ _ _ _ _ => ()) <$> defaulted "status" (Decode.nullable outcome) none
      <*> defaulted "code" Decode.natural16 0 <*> defaulted "message" Decode.text ""
      <*> defaulted "reason" Decode.text ""
      <*> defaulted "details" (Decode.nullable reportDetails) none)
    "Status"

def isReport : Json → Bool
  | .object members => Json.member? members "kind" == some (.text "Status")
  | _ => false

/-- Reads what a deletion answers, which tells no more than that it has happened. All of
it has to stand for a value, by which a report is told from an object. -/
def removal {α : Type} (read : Decode.Reader α) : Decode.Reader Unit := fun document => do
  if isReport (← Decode.json document) then report document
  else (read document).map (fun _ => ())

def orIfMissing {α : Type} (absent : α) (outcome : Except Failure α) : Except Failure α :=
  match outcome with
  | .ok value => .ok value
  | .error failure => if failure.isNotFound then .ok absent else .error failure

/-- Takes a refusal by the reason of a missing object for none. -/
def orNone {α : Type} (outcome : Except Failure α) : Except Failure (Option α) :=
  match outcome with
  | .ok value => .ok (some value)
  | .error (.refused refusal) =>
    if refusal.reason = Refusal.notFoundReason then .ok none else .error (.refused refusal)
  | .error failure => .error failure

end ApiServer

end FlowTesting
