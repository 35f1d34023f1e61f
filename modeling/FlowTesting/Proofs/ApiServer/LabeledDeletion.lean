import FlowTesting.Proofs.ApiServer.Conversation
import Mathlib.Data.List.Forall2

set_option autoImplicit false

/-!
# Labelled deletion over the network

The objects that a selector selects are listed and then deleted one by one, each at its
namespace and name. The server may reply anything: an object that is gone by then counts for
nothing, and the first reply that is a failure ends the deletion. So a deletion that ends
well has left none of the listed objects behind.
-/

namespace FlowTesting.ApiServer

/-- A request to the API server, and the reply to it. -/
abbrev Turn : Type := Http.Request × Http.Reply

/-- A server that may reply anything, whatever has been said before. -/
abbrev Server : Type := List Turn → Http.Request → Http.Reply

namespace Server

variable {α β : Type}

/-- Replies to a request and keeps both. Nobody else is within reach. -/
def handle (server : Server) :
    (asked : network.Request) → StateM (List Turn) (network.Reply asked)
  | .apiServer request => fun past =>
    (server past request, past ++ [(request, server past request)])
  | .events request => fun past => (server past request, past ++ [(request, server past request)])
  | .aggregator _ => fun past => (none, past)

/-- What an exchange with the server comes to, and all that has been said by then. -/
def run (server : Server) (exchange : Exchange α) (past : List Turn) :
    Except Failure α × List Turn :=
  (Program.run server.handle exchange.run : StateM (List Turn) (Except Failure α)) past

@[simp]
theorem run_pure (server : Server) (value : α) (past : List Turn) :
    server.run (pure value) past = (.ok value, past) := rfl

theorem run_bind (server : Server) (first : Exchange α) (next : α → Exchange β)
    (past : List Turn) :
    server.run (first >>= next) past =
      match server.run first past with
      | (.ok value, later) => server.run (next value) later
      | (.error failure, later) => (.error failure, later) := by
  unfold run
  rw [Attempt.run_bind_apply]
  rcases (Program.run server.handle first.run past : Except Failure α × List Turn) with
    ⟨failure | value, later⟩ <;> rfl

theorem run_exchange (server : Server) (built : Except RequestFault Http.Request)
    (read : Http.Reply → Except Failure α) (past : List Turn) :
    server.run (exchange built read) past =
      match built with
      | .error fault => (.error (.unbuildable fault), past)
      | .ok request =>
        (read (server past request), past ++ [(request, server past request)]) := by
  cases built <;> rfl

end Server

/-- Whether a reply is an error by the code of a missing object, as its body has it, or its own
where the body does not describe an error. -/
def isMissing (reply : Http.Reply) : Bool :=
  Http.Status.isError reply.status && (Refusal.ofReply reply).code == Refusal.notFoundCode

/-- Whether a reply tells that an object has been deleted. -/
def isDeleted (served : Served Resource) (reply : Http.Reply) : Bool :=
  (readReply (removal served.read) reply).toBool

/-- Whether a reply to a deletion is a failure. -/
def isFailure (served : Served Resource) (reply : Http.Reply) : Bool :=
  !isDeleted served reply && !isMissing reply

section Replies

variable {α : Type} {read : Decode.Reader α} {reply : Http.Reply} {served : Served Resource}

theorem isFailure_eq_false_iff :
    isFailure served reply = false ↔ isDeleted served reply = true ∨ isMissing reply = true := by
  unfold isFailure
  cases isDeleted served reply <;> simp

theorem isNotFound_of_readReply {failure : Failure} (fails : readReply read reply = .error failure) :
    failure.isNotFound = isMissing reply := by
  unfold readReply at fails
  split at fails
  next refused =>
    obtain rfl := Except.error.inj fails
    simp [Failure.isNotFound, isMissing, refused]
  next accepted =>
    split at fails <;> cases fails
    simp [Failure.isNotFound, isMissing, accepted]

/-- What a deletion takes a reply for. -/
def told (served : Served Resource) (reply : Http.Reply) : Except Failure Bool :=
  orIfMissing false ((readReply (removal served.read) reply).map (fun _ => true))

/-- Unless it is a failure, a reply says whether the object has been deleted. -/
theorem told_cases (served : Served Resource) (reply : Http.Reply) :
    (told served reply = .ok (isDeleted served reply) ∧ isFailure served reply = false) ∨
    ∃ failure, told served reply = .error failure ∧ isFailure served reply = true := by
  cases reads : readReply (removal served.read) reply with
  | ok deleted =>
    have deleted : isDeleted served reply = true := by rw [isDeleted, reads]; rfl
    exact .inl ⟨by rw [told, reads, deleted]; rfl, isFailure_eq_false_iff.mpr (.inl deleted)⟩
  | error failure =>
    have kept : isDeleted served reply = false := by rw [isDeleted, reads]; rfl
    have tells : told served reply = orIfMissing false (.error failure) := by rw [told, reads]; rfl
    rw [orIfMissing, isNotFound_of_readReply reads] at tells
    cases missing : isMissing reply with
    | true =>
      rw [missing] at tells
      exact .inl ⟨kept ▸ tells, isFailure_eq_false_iff.mpr (.inr missing)⟩
    | false =>
      rw [missing] at tells
      exact .inr ⟨failure, tells, by simp [isFailure, kept, missing]⟩

end Replies

section Paths

variable {type : ResourceType} {namespaceName name : String}

/-- Whether a namespace and a name make up the path of a request as they stand. -/
structure IsPlain (type : ResourceType) (namespaceName name : String) : Prop where
  named : name ≠ ""
  allowed : (path type (some namespaceName) ++ "/" ++ name).toList.all
    (Http.Target.isAllowed Http.Target.forbiddenInPath) = true
  short : Http.Target.isTooLong (path type (some namespaceName) ++ "/" ++ name) (some []) = false

theorem deleteRequest_of_isPlain (plain : IsPlain type namespaceName name) :
    deleteRequest type namespaceName name =
      .ok
        { method := .delete, path := path type (some namespaceName) ++ "/" ++ name, query := []
          contentType? := some Http.jsonType, body? := some (.ofMembers []) } := by
  simp [deleteRequest, objectPath, plain.named, writing,
    Http.Target.parse_of_plain plain.allowed plain.short, bind, Except.bind, Except.map]

/-- What a request that deletes an object is, if one can be made. It goes to the path of the
namespace and the name if they make up one. -/
structure Deletes (type : ResourceType) (target : String × String) (request : Http.Request) :
    Prop where
  built : deleteRequest type target.1 target.2 = .ok request
  method : request.method = .delete
  path : IsPlain type target.1 target.2 →
    request.path = ApiServer.path type (some target.1) ++ "/" ++ target.2

theorem deletes_of_built {target : String × String} {request : Http.Request}
    (built : deleteRequest type target.1 target.2 = .ok request) : Deletes type target request := by
  refine ⟨built, ?_, fun plain => ?_⟩
  · unfold deleteRequest at built
    cases located : objectPath type target.1 target.2 with
    | error fault => simp [located, bind, Except.bind] at built
    | ok location =>
      cases parsed : Http.Target.parse location (some []) with
      | error fault => simp [located, writing, parsed, bind, Except.bind, Except.map] at built
      | ok proper =>
        simp only [located, writing, parsed, bind, Except.bind, Except.map] at built
        exact Except.ok.inj built ▸ rfl
  · rw [deleteRequest_of_isPlain plain] at built
    exact Except.ok.inj built ▸ rfl

end Paths

section Sweeping

variable {served : Served Resource}

/-- The namespaces and names of the objects that have a namespace. -/
def targets (resources : List Resource) : List (String × String) :=
  resources.filterMap (fun resource =>
    resource.namespaceName?.map (fun namespaceName => (namespaceName, resource.name)))

/-- What becomes of a list of objects that are deleted one by one: some are asked for in turn,
and others are left. -/
structure Sweeps (served : Served Resource) (asked left : List (String × String))
    (turns : List Turn) (outcome : Except Failure Nat) : Prop where
  sent : List.Forall₂ (fun target turn => Deletes served.type target turn.1) asked turns
  goesOn : ∀ turn ∈ turns.dropLast, isFailure served turn.2 = false
  fails_iff : (∃ failure, outcome = .error failure) ↔
    (∃ turn ∈ turns, isFailure served turn.2 = true) ∨
      ∃ target rest fault, left = target :: rest ∧
        deleteRequest served.type target.1 target.2 = .error fault
  completes : ∀ count, outcome = .ok count → left = [] ∧
    count = turns.countP (fun turn => isDeleted served turn.2) ∧
      ∀ turn ∈ turns, isDeleted served turn.2 = true ∨ isMissing turn.2 = true

namespace Sweeps

variable {asked left : List (String × String)} {turns : List Turn}
  {outcome : Except Failure Nat} {target : String × String} {turn : Turn}

theorem nothing : Sweeps served [] [] [] (.ok 0) where
  sent := .nil
  goesOn := by simp
  fails_iff := by simp
  completes := by simp

theorem unbuildable {fault : RequestFault} (rest : List (String × String))
    (refused : deleteRequest served.type target.1 target.2 = .error fault) :
    Sweeps served [] (target :: rest) [] (.error (.unbuildable fault)) where
  sent := .nil
  goesOn := by simp
  fails_iff := by simp [refused]
  completes := nofun

theorem failed {failure : Failure} (rest : List (String × String))
    (deletes : Deletes served.type target turn.1) (fails : isFailure served turn.2 = true) :
    Sweeps served [target] rest [turn] (.error failure) where
  sent := .cons deletes .nil
  goesOn := by simp
  fails_iff := by simp [fails]
  completes := nofun

theorem cons (deletes : Deletes served.type target turn.1)
    (passes : isFailure served turn.2 = false) (sweeps : Sweeps served asked left turns outcome) :
    Sweeps served (target :: asked) left (turn :: turns)
      (outcome.map ((if isDeleted served turn.2 then 1 else 0) + ·)) where
  sent := .cons deletes sweeps.sent
  goesOn := by
    intro other member
    cases turns with
    | nil => simp at member
    | cons next others =>
      rcases List.mem_cons.mp member with rfl | later
      · exact passes
      · exact sweeps.goesOn other later
  fails_iff := by
    have mapped : (∃ failure, outcome.map ((if isDeleted served turn.2 then 1 else 0) + ·) =
        .error failure) ↔ ∃ failure, outcome = .error failure := by
      cases outcome <;> simp [Except.map]
    rw [mapped, sweeps.fails_iff]
    simp [passes]
  completes := by
    intro count counted
    cases outcome with
    | error failure => cases counted
    | ok others =>
      obtain ⟨done, same, settled⟩ := sweeps.completes others rfl
      refine ⟨done, ?_, List.forall_mem_cons.mpr ⟨?_, settled⟩⟩
      · rw [List.countP_cons, ← same, Nat.add_comm]
        exact (Except.ok.inj counted).symm
      · exact isFailure_eq_false_iff.mp passes

end Sweeps

section Steps

variable (server : Server) {resource : Resource} (rest : List Resource) (past : List Turn)
  {namespaceName : String} {request : Http.Request}

/-- What is counted before the rest has no influence on whether the rest succeeds. -/
theorem run_count (deleteRest : Exchange Nat) (count : Nat) :
    server.run (do
      let others ← deleteRest
      return count + others) past =
    ((server.run deleteRest past).1.map (count + ·), (server.run deleteRest past).2) := by
  rw [Server.run_bind]
  rcases server.run deleteRest past with ⟨failure | others, later⟩ <;> rfl

theorem run_deleteEach_of_unplaced (unplaced : resource.namespaceName? = none) :
    server.run (deleteEach served (resource :: rest)) past =
      server.run (deleteEach served rest) past := by
  have nothing : server.run (deleteObject served resource.namespaceName? resource.name) past =
      (.ok false, past) := by
    rw [unplaced]
    rfl
  rw [deleteEach, Server.run_bind, nothing]
  refine (run_count server past (deleteEach served rest) 0).trans ?_
  rcases server.run (deleteEach served rest) past with ⟨failure | others, later⟩ <;>
    simp [Except.map]

theorem run_deleteEach_of_unbuildable {fault : RequestFault}
    (placed : resource.namespaceName? = some namespaceName)
    (refused : deleteRequest served.type namespaceName resource.name = .error fault) :
    server.run (deleteEach served (resource :: rest)) past = (.error (.unbuildable fault), past) := by
  rw [deleteEach, Server.run_bind, placed, deleteObject, Server.run_exchange, refused]

/-- The reply to the first deletion ends the deletions or goes into the count. -/
theorem run_deleteEach_of_built (placed : resource.namespaceName? = some namespaceName)
    (built : deleteRequest served.type namespaceName resource.name = .ok request) :
    server.run (deleteEach served (resource :: rest)) past =
      let later := past ++ [(request, server past request)]
      match told served (server past request) with
      | .error failure => (.error failure, later)
      | .ok deleted =>
        ((server.run (deleteEach served rest) later).1.map ((if deleted then 1 else 0) + ·),
          (server.run (deleteEach served rest) later).2) := by
  have said : server.run (deleteObject served resource.namespaceName? resource.name) past =
      (told served (server past request), past ++ [(request, server past request)]) := by
    rw [placed, deleteObject, Server.run_exchange, built]
    rfl
  rw [deleteEach, Server.run_bind, said]
  cases told served (server past request) with
  | error failure => rfl
  | ok deleted => exact run_count server _ (deleteEach served rest) _

end Steps

theorem run_deleteEach (server : Server) (resources : List Resource) (past : List Turn) :
    ∃ asked left turns,
      (server.run (deleteEach served resources) past).2 = past ++ turns ∧
      targets resources = asked ++ left ∧
      Sweeps served asked left turns (server.run (deleteEach served resources) past).1 := by
  -- The server replies by all that has been said before, so this holds for every past.
  induction resources generalizing past with
  | nil => exact ⟨[], [], [], by simp [deleteEach], rfl, .nothing⟩
  | cons resource rest ih =>
    cases placed : resource.namespaceName? with
    | none =>
      obtain ⟨asked, left, turns, said, split, sweeps⟩ := ih past
      rw [run_deleteEach_of_unplaced server rest past placed]
      exact ⟨asked, left, turns, said, by simpa [targets, placed] using split, sweeps⟩
    | some namespaceName =>
      have first : targets (resource :: rest) = (namespaceName, resource.name) :: targets rest := by
        simp [targets, placed]
      rw [first]
      cases built : deleteRequest served.type namespaceName resource.name with
      | error fault =>
        rw [run_deleteEach_of_unbuildable server rest past placed built]
        exact ⟨[], _, [], by simp, rfl, .unbuildable (targets rest) built⟩
      | ok request =>
        have deletes : Deletes served.type (namespaceName, resource.name) request :=
          deletes_of_built built
        rw [run_deleteEach_of_built server rest past placed built]
        rcases told_cases served (server past request) with
          ⟨tells, passes⟩ | ⟨failure, tells, fails⟩
        · obtain ⟨asked, left, turns, said, split, sweeps⟩ :=
            ih (past ++ [(request, server past request)])
          simp only [tells, said, split]
          exact ⟨_, left, _, List.append_assoc _ _ _, rfl, sweeps.cons deletes passes⟩
        · simp only [tells]
          exact ⟨[_], targets rest, [_], rfl, rfl, .failed (targets rest) deletes fails⟩

end Sweeping

section Listing

variable (server : Server) {kind : Kind} {selector : String}

theorem run_deleteLabeled_of_unbuildable {fault : RequestFault}
    (refused : listRequest (Served.resource kind).type (some selector) = .error fault) :
    server.run (deleteLabeled kind selector) [] = (.error (.unbuildable fault), []) := by
  rw [deleteLabeled, Server.run_bind, listSelected, Server.run_exchange, refused]

theorem run_deleteLabeled_of_refused {request : Http.Request} {failure : Failure}
    (built : listRequest (Served.resource kind).type (some selector) = .ok request)
    (refused : readReply (listOf (Served.resource kind).read) (server [] request) =
      .error failure) :
    server.run (deleteLabeled kind selector) [] =
      (if isMissing (server [] request) then .ok 0 else .error failure,
        [(request, server [] request)]) := by
  rw [deleteLabeled, Server.run_bind, listSelected, Server.run_exchange, built]
  simp only [refused, orIfMissing, isNotFound_of_readReply refused, List.nil_append]
  cases isMissing (server [] request) <;> rfl

theorem run_deleteLabeled_of_listed {request : Http.Request} {listed : List Resource}
    (built : listRequest (Served.resource kind).type (some selector) = .ok request)
    (lists : readReply (listOf (Served.resource kind).read) (server [] request) = .ok listed) :
    server.run (deleteLabeled kind selector) [] =
      server.run (deleteEach (Served.resource kind) listed) [(request, server [] request)] := by
  rw [deleteLabeled, Server.run_bind, listSelected, Server.run_exchange, built]
  simp only [lists, orIfMissing, List.nil_append]

end Listing

/-- A labelled deletion against a server that may reply anything. Where the list is answered as
missing, nothing is selected; any other failure of the list is that of the whole. Otherwise the
listed objects with a namespace are deleted in order, each at its namespace and name, up to the
first reply that is a failure or up to an object for which no request can be made. Just then the
whole fails. If it does not, it tells how many have been deleted, and all others were missing. -/
theorem labeled_deletion_complete (server : Server) (kind : Kind) (selector : String) :
    let served := Served.resource kind
    let outcome := (server.run (deleteLabeled kind selector) []).1
    let said := (server.run (deleteLabeled kind selector) []).2
    (∃ fault, listRequest served.type (some selector) = .error fault ∧ said = [] ∧
      outcome = .error (.unbuildable fault)) ∨
    ∃ request, listRequest served.type (some selector) = .ok request ∧
      let reply := server [] request
      (isMissing reply = true ∧ said = [(request, reply)] ∧ outcome = .ok 0) ∨
      (isMissing reply = false ∧ said = [(request, reply)] ∧
        ∃ failure, readReply (listOf served.read) reply = .error failure ∧
          outcome = .error failure) ∨
      ∃ listed asked left deletions, readReply (listOf served.read) reply = .ok listed ∧
        said = (request, reply) :: deletions ∧ targets listed = asked ++ left ∧
          Sweeps served asked left deletions outcome := by
  intro served
  cases built : listRequest served.type (some selector) with
  | error fault =>
    rw [run_deleteLabeled_of_unbuildable server built]
    exact .inl ⟨fault, rfl, rfl, rfl⟩
  | ok request =>
    refine .inr ⟨request, rfl, ?_⟩
    cases reads : readReply (listOf served.read) (server [] request) with
    | error failure =>
      rw [run_deleteLabeled_of_refused server built reads]
      cases missing : isMissing (server [] request) with
      | true => exact .inl ⟨missing, rfl, by simp⟩
      | false => exact .inr (.inl ⟨missing, rfl, failure, reads, by simp⟩)
    | ok listed =>
      rw [run_deleteLabeled_of_listed server built reads]
      obtain ⟨asked, left, deletions, said, split, sweeps⟩ :=
        @run_deleteEach served server listed [(request, server [] request)]
      exact .inr (.inr ⟨listed, asked, left, deletions, reads, said, split, sweeps⟩)

namespace Sample

/-- A server that lists a config map without a name. -/
def unnamed : Server := fun _ _ =>
  ⟨200, "\x7b\"items\":[\x7b\"metadata\":\x7b\"namespace\":\"default\"\x7d\x7d]\x7d"⟩

/-- A server that lists a config map whose name has a hash mark, and deletes anything. -/
def hashed : Server
  | [], _ => ⟨200, "\x7b\"items\":[\x7b\"metadata\":\x7b\"name\":\"a#b\"," ++
      "\"namespace\":\"default\"\x7d\x7d]\x7d"⟩
  | _ :: _, _ => ⟨200, "\x7b\"kind\":\"Status\",\"status\":\"Success\"\x7d"⟩

/-- A server that answers as missing what its bodies call a failure of its own. -/
def ambiguous : Server := fun _ _ =>
  ⟨404, "\x7b\"status\":\"Failure\",\"reason\":\"InternalError\",\"code\":500\x7d"⟩

end Sample

/-- Without a name there is no request, though nothing has been answered by an error; a name with
a hash mark leads to another object; and a list that is answered as missing fails if the body says
something else. -/
theorem labeled_deletion_strays :
    (Sample.unnamed.run (deleteLabeled .configMap "a=b") []).1 =
        .error (.unbuildable .emptyName) ∧
      (Sample.unnamed.run (deleteLabeled .configMap "a=b") []).2.map (·.2.status) = [200] ∧
    (Sample.hashed.run (deleteLabeled .configMap "a=b") []).1 = .ok 1 ∧
      (Sample.hashed.run (deleteLabeled .configMap "a=b") []).2.map (·.1.path) =
        ["/api/v1/configmaps", "/api/v1/namespaces/default/configmaps/a"] ∧
    (Sample.ambiguous.run (deleteLabeled .configMap "a=b") []).1.toBool = false ∧
      (Sample.ambiguous.run (deleteLabeled .configMap "a=b") []).2.map (·.2.status) = [404] := by
  decide +kernel

end FlowTesting.ApiServer
