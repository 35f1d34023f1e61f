import FlowTesting.Aggregator.Listing
import FlowTesting.ApiServer.Reply
import FlowTesting.ApiServer.Request
import FlowTesting.Call

set_option autoImplicit false

/-!
# Calls over the network

Each call of the controller as the requests that carry it out. Finalizers are read
before they are written, and labelled deletion lists the objects before it deletes them
one by one.
-/

namespace FlowTesting.ApiServer

/-- Objects of a type, with the way in which they are read. -/
structure Served (α : Type) where
  type : ResourceType
  read : Decode.Reader α

namespace Served

def flowTest : Served FlowTest := ⟨.flowTest, FlowTest.decode⟩

def pod : Served Pod := ⟨.pod, Pod.decode⟩

def flow (kind : PipelineKind) : Served PipelineFlow :=
  ⟨kind.resourceType, PipelineFlow.decode kind⟩

def resource (kind : Kind) : Served Resource := ⟨kind.resourceType, Resource.decode kind⟩

end Served

/-- Makes a request and reads the reply. A request that cannot be built is not made. -/
def exchange {α : Type} (request : Except RequestFault Http.Request)
    (read : Http.Reply → Except Failure α) : Exchange α :=
  match request with
  | .error fault => throw (.unbuildable fault)
  | .ok request => ExceptT.mk (.request (.apiServer request) (fun reply => .done (read reply)))

section Objects

variable {α : Type} (served : Served α)

def getObject (namespaceName name : String) : Exchange α :=
  exchange (getRequest served.type namespaceName name) (readReply served.read)

def findObject (namespaceName name : String) : Exchange (Option α) :=
  exchange (getRequest served.type namespaceName name) (fun reply =>
    orNone (readReply served.read reply))

def listObjects (selector? : Option String) : Exchange (List α) :=
  exchange (listRequest served.type selector?) (readReply (listOf served.read))

/-- Lists the objects that a selector selects. A type that is not served has none. -/
def listSelected (selector : String) : Exchange (List α) :=
  exchange (listRequest served.type (some selector)) (fun reply =>
    orIfMissing [] (readReply (listOf served.read) reply))

/-- Deletes an object and tells whether it was there. Nothing without a namespace is
ever deleted. -/
def deleteObject (namespaceName? : Option String) (name : String) : Exchange Bool :=
  match namespaceName? with
  | none => return false
  | some namespaceName =>
    exchange (deleteRequest served.type namespaceName name) (fun reply =>
      orIfMissing false ((readReply (removal served.read) reply).map (fun _ => true)))

end Objects

def requireNamespace (namespaceName? : Option String) (failure : Failure) : Exchange String :=
  match namespaceName? with
  | some namespaceName => return namespaceName
  | none => throw failure

def requireFlowTestNamespace (flowTest : FlowTest) : Exchange String :=
  requireNamespace flowTest.namespaceName?
    (.validation flowTest.name "FlowTest has no namespace")

def statusPatch (status : Json) : Json := .ofMembers [("status", status)]

def patchStatus (flowTest : FlowTest) (status : FlowTestStatus) : Exchange Unit := do
  let namespaceName ← requireFlowTestNamespace flowTest
  let _ ← exchange
    (patchStatusRequest .flowTest namespaceName flowTest.name (statusPatch status.encode))
    (readReply FlowTest.decode)

def finalizersPatch (finalizers : List String) : Json :=
  .ofMembers [("metadata", .ofMembers [("finalizers", .texts finalizers)])]

def setFinalizers (namespaceName : String) (flowTest : FlowTest) (finalizers : List String) :
    Exchange Unit := do
  let _ ← exchange
    (patchRequest .flowTest namespaceName flowTest.name (finalizersPatch finalizers))
    (readReply FlowTest.decode)

/-- Adds a finalizer to those that a flow test has by now, unless it is among them. -/
def addFinalizer (flowTest : FlowTest) (finalizer : String) : Exchange Unit := do
  let namespaceName ← requireFlowTestNamespace flowTest
  let current ← getObject .flowTest namespaceName flowTest.name
  if !current.hasFinalizer finalizer then
    setFinalizers namespaceName flowTest (current.metadata.finalizers ++ [finalizer])

/-- Removes a finalizer from those that a flow test has by now, if it is among them. A
flow test that is gone has none. -/
def removeFinalizer (flowTest : FlowTest) (finalizer : String) : Exchange Unit := do
  let namespaceName ← requireFlowTestNamespace flowTest
  let current? ← exchange (getRequest .flowTest namespaceName flowTest.name) (fun reply =>
    orIfMissing none ((readReply FlowTest.decode reply).map some))
  match current? with
  | none => return ()
  | some current =>
    if current.hasFinalizer finalizer then
      setFinalizers namespaceName flowTest
        (current.metadata.finalizers.filter (· != finalizer))

def create (resource : Resource) : Exchange Unit := do
  let namespaceName ← requireNamespace resource.namespaceName?
    (.internal "create" "object has no namespace")
  let _ ← exchange
    (createRequest resource.kind.resourceType namespaceName resource.encode)
    (readReply (Resource.decode resource.kind))

def deactivateFlow (flow : PipelineFlow) : Exchange Unit := do
  let namespaceName ← requireNamespace flow.namespaceName?
    (.internal "deactivate" "flow has no namespace")
  let served := Served.flow flow.kind
  let _ ← exchange
    (patchStatusRequest served.type namespaceName flow.name
      (statusPatch (.ofMembers [("active", .boolean false)])))
    (readReply served.read)

def deleteFlow (flow : PipelineFlow) : Exchange Unit := do
  let _ ← deleteObject (.flow flow.kind) flow.namespaceName? flow.name

def deleteEach (served : Served Resource) : List Resource → Exchange Nat
  | [] => return 0
  | resource :: rest => do
    let deleted ← deleteObject served resource.namespaceName? resource.name
    let others ← deleteEach served rest
    return (if deleted then 1 else 0) + others

def deleteLabeled (kind : Kind) (selector : String) : Exchange Nat := do
  let served := Served.resource kind
  deleteEach served (← listSelected served selector)

/-- Answers a call over the network. The endpoint is the one of the log aggregator. -/
def answer (endpoint : String) : (call : Call) → Exchange call.Answer
  | .patchStatus flowTest status => patchStatus flowTest status
  | .addFinalizer flowTest finalizer => addFinalizer flowTest finalizer
  | .removeFinalizer flowTest finalizer => removeFinalizer flowTest finalizer
  | .listFlowTests => listObjects .flowTest none
  | .getPod namespaceName name => findObject .pod namespaceName name
  | .getFlow kind namespaceName name => findObject (.flow kind) namespaceName name
  | .create resource => create resource
  | .listFlows kind selector => listSelected (.flow kind) selector
  | .deleteFlow flow => deleteFlow flow
  | .deactivateFlow flow => deactivateFlow flow
  | .deleteLabeled kind selector => deleteLabeled kind selector
  | .listIndexes => Aggregator.listIndexes endpoint

end FlowTesting.ApiServer
