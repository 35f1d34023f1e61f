import FlowTesting.Resource.Type

set_option autoImplicit false

/-!
# Flow tests

A flow test asks for messages to be replayed as if a reference pod had sent them, and
its status tells which match rules and filter stages of a reference flow let them
through. A test without a phase has not been seen yet.
-/

namespace FlowTesting

inductive FlowTestPhase where
  | created
  | running
  | completed
  | error
  deriving DecidableEq, Repr

namespace FlowTestPhase

def text : FlowTestPhase → String
  | .created => "Created"
  | .running => "Running"
  | .completed => "Completed"
  | .error => "Error"

def all : List FlowTestPhase := [.created, .running, .completed, .error]

def ofText? (text : String) : Option FlowTestPhase := all.find? (·.text == text)

theorem ofText?_text (phase : FlowTestPhase) : ofText? phase.text = some phase := by
  cases phase <;> rfl

def named (text : String) : Except DecodeFault FlowTestPhase :=
  match ofText? text with
  | some phase => .ok phase
  | none => .error (.unknownVariant text (all.map FlowTestPhase.text))

/-- A phase is its name, or an object with the name as its only key and no value. -/
def decode : Decode.Reader FlowTestPhase := fun document =>
  match document.form with
  | .text name => named name
  | .object [(name, content)] => do
    let phase ← named name
    match content.form with
    | .null => return phase
    | _ => throw (.wrongType content "unit")
  | .object _ => .error (.invalidValue .map "map with a single key")
  | _ => .error (.wrongType document "string or map")

def encode (phase : FlowTestPhase) : Json := .text phase.text

end FlowTestPhase

structure ReferenceObject where
  kind : String := ""
  name : String
  namespaceName : String
  deriving DecidableEq, Repr

structure FlowTestSpec where
  referencePod : ReferenceObject
  referenceFlow : ReferenceObject
  sentMessages : List String := []
  deriving DecidableEq, Repr

/-- The phase of a test and one flag for each match rule and filter stage of the
reference flow as it was when the test was provisioned. -/
structure FlowTestStatus where
  phase? : Option FlowTestPhase := none
  matchStatus : List Bool := []
  filterStatus : List Bool := []
  deriving DecidableEq, Repr

structure FlowTest where
  metadata : Metadata
  spec : FlowTestSpec
  status? : Option FlowTestStatus := none

namespace ReferenceObject

open Decode.Fields in
def decode : Decode.Reader ReferenceObject :=
  record
    (ReferenceObject.mk <$> defaulted "kind" Decode.text "" <*> required "name" Decode.text
      <*> required "namespace" Decode.text)
    "ReferenceObject"

def encode (reference : ReferenceObject) : Json :=
  .ofFields [
    ("kind", some (.text reference.kind)),
    ("name", some (.text reference.name)),
    ("namespace", some (.text reference.namespaceName))]

def path (reference : ReferenceObject) : String := reference.namespaceName ++ "/" ++ reference.name

end ReferenceObject

namespace FlowTestSpec

open Decode.Fields in
def decode : Decode.Reader FlowTestSpec :=
  record
    (FlowTestSpec.mk <$> required "referencePod" ReferenceObject.decode
      <*> required "referenceFlow" ReferenceObject.decode
      <*> defaulted "sentMessages" (Decode.list Decode.text) [])
    "FlowTestSpec"

def encode (spec : FlowTestSpec) : Json :=
  .ofFields [
    ("referencePod", some spec.referencePod.encode),
    ("referenceFlow", some spec.referenceFlow.encode),
    ("sentMessages", some (.texts spec.sentMessages))]

end FlowTestSpec

namespace FlowTestStatus

instance : Inhabited FlowTestStatus := ⟨{}⟩

/-- A status of which only the phase is known. -/
def ofPhase (phase : FlowTestPhase) : FlowTestStatus := { phase? := some phase }

/-- A status with a cleared flag for each match rule and filter stage. -/
def allocated (phase : FlowTestPhase) (matchRules filters : Nat) : FlowTestStatus :=
  { phase? := some phase
    matchStatus := List.replicate matchRules false
    filterStatus := List.replicate filters false }

/-- Whether every flag is set, as it is when there is none. -/
def allPassed (status : FlowTestStatus) : Bool :=
  (status.matchStatus ++ status.filterStatus).all id

/-- The status after a patch: what the patch leaves out stays. -/
def merge (status patch : FlowTestStatus) : FlowTestStatus :=
  { phase? := patch.phase?.or status.phase?
    matchStatus := if patch.matchStatus.isEmpty then status.matchStatus else patch.matchStatus
    filterStatus := if patch.filterStatus.isEmpty then status.filterStatus else patch.filterStatus }

open Decode.Fields in
def decode : Decode.Reader FlowTestStatus :=
  record
    (FlowTestStatus.mk <$> defaulted "status" (Decode.nullable FlowTestPhase.decode) none
      <*> defaulted "matchStatus" (Decode.list Decode.boolean) []
      <*> defaulted "filterStatus" (Decode.list Decode.boolean) [])
    "FlowTestStatus"

def encode (status : FlowTestStatus) : Json :=
  .ofFields [
    ("status", status.phase?.map FlowTestPhase.encode),
    ("matchStatus", Json.unlessEmpty .boolean status.matchStatus),
    ("filterStatus", Json.unlessEmpty .boolean status.filterStatus)]

end FlowTestStatus

structure ObjectReference where
  apiVersion : String
  kind : String
  name? : Option String
  namespaceName? : Option String
  resourceVersion? : Option String
  uid? : Option String
  deriving DecidableEq, Repr

def ObjectReference.encode (reference : ObjectReference) : Json :=
  .ofFields [
    ("apiVersion", some (.text reference.apiVersion)),
    ("kind", some (.text reference.kind)),
    ("name", reference.name?.map .text),
    ("namespace", reference.namespaceName?.map .text),
    ("resourceVersion", reference.resourceVersion?.map .text),
    ("uid", reference.uid?.map .text)]

namespace FlowTest

def name (flowTest : FlowTest) : String := flowTest.metadata.name

def namespaceName? (flowTest : FlowTest) : Option String := flowTest.metadata.namespaceName?

def phase? (flowTest : FlowTest) : Option FlowTestPhase :=
  flowTest.status?.bind (·.phase?)

def status (flowTest : FlowTest) : FlowTestStatus := flowTest.status?.getD {}

/-- The identity of a test, which it has once it has a name and an identifier. -/
def owner? (flowTest : FlowTest) : Option Owner := do
  let name ← flowTest.metadata.name?
  let uid ← flowTest.metadata.uid?
  return { name, uid }

def isDeleting (flowTest : FlowTest) : Bool := flowTest.metadata.deletionTimestamp?.isSome

def hasFinalizer (flowTest : FlowTest) (finalizer : String) : Bool :=
  flowTest.metadata.finalizers.contains finalizer

/-- The reference by which events name the test. -/
def reference (flowTest : FlowTest) : ObjectReference :=
  { apiVersion := ResourceType.flowTest.apiVersion
    kind := ResourceType.flowTest.kind
    name? := flowTest.metadata.name?
    namespaceName? := flowTest.metadata.namespaceName?
    resourceVersion? := flowTest.metadata.resourceVersion?
    uid? := flowTest.metadata.uid? }

open Decode.Fields in
def decode : Decode.Reader FlowTest :=
  record
    (FlowTest.mk <$> required "metadata" Metadata.decode <*> required "spec" FlowTestSpec.decode
      <*> optional "status" FlowTestStatus.decode)
    "FlowTest"

def encode (flowTest : FlowTest) : Json :=
  .ofObject .flowTest flowTest.metadata [
    ("spec", some flowTest.spec.encode), ("status", flowTest.status?.map FlowTestStatus.encode)]

end FlowTest

end FlowTesting
