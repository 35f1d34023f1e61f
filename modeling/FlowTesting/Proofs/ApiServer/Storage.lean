import FlowTesting.Proofs.ApiServer.Conversation
import FlowTesting.Proofs.ApiServer.Fidelity

set_option autoImplicit false

/-!
# A server that stores one object

The server stores an object at a location, or none. It merges the patches that it is sent for
the object or for its status, and replies to every request with what it stores from then on.
-/

namespace FlowTesting.ApiServer

/-- What a request to a location does to what is stored there. -/
inductive Handles (location : String) : Http.Request → (Json → Json) → Prop where
  | shown {request} (method : request.method = .get) (located : request.path = location) :
      Handles location request id
  | merged {request patch} (method : request.method = .patch)
      (located : request.path = location ∨ request.path = location ++ "/status")
      (contentType : request.contentType? = some Http.mergePatchType)
      (body : request.body? = some patch) : Handles location request (·.mergePatch patch)

/-- The reply writes the object that is stored, in any way it can be written. -/
structure Presents (reply : Http.Reply) (object : Json) : Prop where
  succeeds : Http.Status.isSuccess reply.status = true
  writes : ∃ document, Document.parse? reply.body = some document ∧ document.Writes object

/-- The reply says that nothing is stored. -/
structure Misses (reply : Http.Reply) : Prop where
  status : reply.status = Refusal.notFoundCode
  absent : (Failure.refused (Refusal.ofReply reply)).isNotFound = true

/-- What the server replies when it stores an object, or none. -/
def Replies (reply : Http.Reply) : Option Json → Prop
  | some object => Presents reply object
  | none => Misses reply

section Readings

variable {α : Type} {read : Decode.Reader α} {reply : Http.Reply}

/-- What is read of the reply is what is read of the object itself. -/
theorem Presents.readReply_eq {object : Json} {value : α} (presents : Presents reply object)
    (faithful : Decode.Faithful read) (reads : read (.known object) = .ok value) :
    readReply read reply = .ok value := by
  obtain ⟨document, parsed, writes⟩ := presents.writes
  have same : (read document).toOption = some value :=
    (faithful document (.known object) ⟨object, writes, rfl⟩).trans (by rw [reads]; rfl)
  simp [readReply, Http.Status.isError_eq_false presents.succeeds, parsed, same]

theorem Misses.readReply_eq (misses : Misses reply) :
    readReply read reply = .error (.refused (Refusal.ofReply reply)) := by
  have fails : Http.Status.isError reply.status = true := by
    rw [misses.status]
    rfl
  simp [readReply, fails]

end Readings

section Runs

variable {α β : Type} {location : String} {wanted : α → Option Json → Prop}

/-- Whatever the server replies, the program ends with a result and an object that are wanted. -/
def Settles (location : String) (wanted : α → Option Json → Prop) :
    Program network α → Option Json → Prop
  | .done value, stored? => wanted value stored?
  | .request (.apiServer request) next, stored? =>
    ∃ change, Handles location request change ∧
      ∀ reply, Replies reply (stored?.map change) →
        Settles location wanted (next reply) (stored?.map change)
  | .request _ _, _ => False

section Exchanges

variable {built : Except RequestFault Http.Request} {request : Http.Request}
  {read : Http.Reply → Except Failure α} {next : α → Exchange β}
  {wanted : Except Failure β → Option Json → Prop} {change : Json → Json}

/-- If an object is stored, a program goes on with what it reads of the changed object. -/
theorem settles_of_presents {object : Json} {value : α} (builds : built = .ok request)
    (handles : Handles location request change)
    (reads : ∀ reply, Presents reply (change object) → read reply = .ok value)
    (goesOn : Settles location wanted (next value).run (some (change object))) :
    Settles location wanted ((exchange built read >>= next).run) (some object) := by
  obtain rfl := builds
  refine ⟨change, handles, fun reply presents => ?_⟩
  show Settles location wanted (ExceptT.bindCont next (read reply)) (some (change object))
  rw [reads reply presents]
  exact goesOn

/-- If no object is stored, a program goes on with what it makes of that. -/
theorem settles_of_misses (builds : built = .ok request) (handles : Handles location request change)
    (goesOn : ∀ reply, Misses reply →
      Settles location wanted (ExceptT.bindCont next (read reply)) none) :
    Settles location wanted ((exchange built read >>= next).run) none := by
  obtain rfl := builds
  exact ⟨change, handles, goesOn⟩

theorem settles_of_absent {read : Decode.Reader α} (builds : built = .ok request)
    (handles : Handles location request change)
    (ends : ∀ failure, wanted (.error failure) none) :
    Settles location wanted ((exchange built (readReply read) >>= next).run) none :=
  settles_of_misses builds handles (fun reply misses => by
    rw [misses.readReply_eq]
    exact ends _)

end Exchanges

end Runs

/-- The path of an object is the location, and neither it nor the path of the status needs care. -/
structure Addresses (type : ResourceType) (namespaceName name location : String) : Prop where
  path : objectPath type namespaceName name = .ok location
  allowed : location.toList.all (Http.Target.isAllowed Http.Target.forbiddenInPath) = true
  short : Http.Target.isTooLong (location ++ "/status") (some [("fieldManager", fieldManager)]) =
    false

namespace Addresses

variable {type : ResourceType} {namespaceName name location : String}

theorem isTooLong_eq_false (addresses : Addresses type namespaceName name location)
    {query? : Option (List (String × String))} (fewer : (Http.Target.queryText query?).length ≤ 1) :
    Http.Target.isTooLong location query? = false := by
  have bounded := of_decide_eq_false addresses.short
  have suffix : "/status".utf8ByteSize = 7 := rfl
  refine decide_eq_false (fun exceeds => bounded ?_)
  rw [String.utf8ByteSize_append]
  omega

theorem getRequest (addresses : Addresses type namespaceName name location) :
    ApiServer.getRequest type namespaceName name =
      .ok { method := .get, path := location, query := [] } :=
  getRequest_of_plain addresses.path addresses.allowed (addresses.isTooLong_eq_false (by decide))

theorem patchRequest (addresses : Addresses type namespaceName name location) (patch : Json) :
    ApiServer.patchRequest type namespaceName name patch =
      .ok
        { method := .patch, path := location, query := []
          contentType? := some Http.mergePatchType, body? := some patch } :=
  patchRequest_of_plain addresses.path addresses.allowed
    (addresses.isTooLong_eq_false (by decide)) patch

theorem patchStatusRequest (addresses : Addresses type namespaceName name location)
    (patch : Json) :
    ApiServer.patchStatusRequest type namespaceName name patch =
      .ok
        { method := .patch, path := location ++ "/status"
          query := [("fieldManager", fieldManager)]
          contentType? := some Http.mergePatchType, body? := some patch } := by
  have allowed : (location ++ "/status").toList.all
      (Http.Target.isAllowed Http.Target.forbiddenInPath) = true := by
    rw [String.toList_append, List.all_append, addresses.allowed]
    decide
  simp [ApiServer.patchStatusRequest, addresses.path, writing,
    Http.Target.parse_of_plain allowed addresses.short, bind, Except.bind, Except.map]

end Addresses

end FlowTesting.ApiServer
