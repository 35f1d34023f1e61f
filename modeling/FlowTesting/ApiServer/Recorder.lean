import FlowTesting.ApiServer.Request
import FlowTesting.Call
import FlowTesting.Http.Status
import FlowTesting.Network

set_option autoImplicit false

/-!
# Recording events

Events that differ in no more than their notes are one event to the API server: the
first is created, and each later one counts it up, with the note of the first. An event
that does not get through is forgotten.
-/

namespace FlowTesting

structure RecordedEvent where
  event : Event
  count : Nat
  deriving DecidableEq, Repr

structure Recorder where
  controller : String
  instanceName? : Option String := none
  recorded : List (Event × RecordedEvent) := []

/-- What events are told apart by: all but their notes. -/
def Event.identity (event : Event) : Event := { event with note := "" }

namespace Recorder

def eventType : ResourceType := ⟨"events.k8s.io", "v1", "Event", "events"⟩

def defaultNamespace : String := "default"

def next (recorder : Recorder) (event : Event) : RecordedEvent :=
  match recorder.recorded.lookup event.identity with
  | some earlier => { earlier with count := earlier.count + 1 }
  | none => { event, count := 1 }

def encode (recorder : Recorder) (recorded : RecordedEvent) : Json :=
  let event := recorded.event
  .ofFields [
    ("action", some (.text event.action.text)),
    ("apiVersion", some (.text eventType.apiVersion)),
    ("kind", some (.text eventType.kind)),
    ("metadata", some (.ofFields [("namespace", event.regarding.namespaceName?.map .text)])),
    ("note", some (.text event.note)),
    ("reason", some (.text event.reason.text)),
    ("regarding", some event.regarding.encode),
    ("reportingController", some (.text recorder.controller)),
    ("reportingInstance", some (.text (recorder.instanceName?.getD recorder.controller))),
    ("series", if recorded.count = 1 then none
      else some (.ofMembers [("count", .ofNat recorded.count)])),
    ("type", some (.text event.type.text))]

/-- How the names of events begin: with the name of what they are about. -/
def nameStem (recorder : Recorder) (recorded : RecordedEvent) : String :=
  recorded.event.regarding.name?.getD recorder.controller

/-- The request that records an event: the first creates it, the others change it. What
follows the stem of its name is left to whoever sends it, and so the path stops short of
the name, which has to fit into a path all the same. -/
def request (recorder : Recorder) (recorded : RecordedEvent) : Except RequestFault Http.Request :=
  let namespaceName := recorded.event.regarding.namespaceName?.getD defaultNamespace
  let path := ApiServer.path eventType (some namespaceName)
  let body := recorder.encode recorded
  if recorded.count = 1 then ApiServer.writing .post path [] Http.jsonType body
  else do
    let _ ← Http.Target.parse (path ++ "/" ++ recorder.nameStem recorded) none
    ApiServer.writing .patch path [] Http.mergePatchType body

def remember (recorder : Recorder) (recorded : RecordedEvent) : Recorder :=
  let identity := recorded.event.identity
  let others := recorder.recorded.filter (fun entry => entry.1 != identity)
  { recorder with recorded := (identity, recorded) :: others }

/-- Publishes an event. Nobody is told when it does not get through. -/
def publish (recorder : Recorder) (event : Event) : Program network Recorder :=
  let recorded := recorder.next event
  match recorder.request recorded with
  | .error _ => .done recorder
  | .ok request => .request (.events request) (fun reply =>
      .done (if Http.Status.isError reply.status then recorder else recorder.remember recorded))

end Recorder

end FlowTesting
