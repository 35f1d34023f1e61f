import FlowTesting.ApiServer.Client
import FlowTesting.Proofs.ApiServer.MergePatch

set_option autoImplicit false

/-!
# Conversations with the API server

The server keeps an object at a location, shows it to those who ask and merges the patches
that it is sent. While a program talks to it, other clients may change the object between any
two requests.
-/

namespace FlowTesting

namespace Text

theorem cut_of_notMem {separator : Char} {characters : List Char}
    (absent : separator ∉ characters) : cut separator characters = (characters, none) := by
  have whole : splitOnce? separator characters = none := by
    induction characters with
    | nil => rfl
    | cons character characters ih =>
      obtain ⟨differs, absentRest⟩ := List.ne_and_not_mem_of_not_mem_cons absent
      simp [splitOnce?, ih absentRest, differs.symm]
  simp [cut, whole]

end Text

namespace Http.Target

/-- A path that needs no care is the path of its target, and the query is what is given. -/
theorem parse_of_plain {path : String} {query? : Option (List (String × String))}
    (allowed : path.toList.all (isAllowed forbiddenInPath) = true)
    (short : isTooLong path query? = false) :
    parse path query? = .ok ⟨path, query?.getD []⟩ := by
  have absent : ∀ character ∈ forbiddenInPath, character ∉ path.toList := by
    intro character forbidden member
    have stands := List.all_eq_true.mp allowed character member
    simp [isAllowed, forbidden] at stands
  unfold parse
  simp only [Text.cut_of_notMem (absent '#' (by decide)),
    Text.cut_of_notMem (absent '?' (by decide)), short, allowed]
  simp

end Http.Target

namespace Http.Status

theorem isError_eq_false {code : Nat} (succeeds : isSuccess code = true) :
    isError code = false := by
  simp only [isSuccess, isError, Bool.and_eq_true, decide_eq_true_eq, Bool.and_eq_false_iff,
    decide_eq_false_iff_not] at succeeds ⊢
  omega

end Http.Status

namespace ApiServer

section Paths

variable {type : ResourceType} {namespaceName name location : String}

theorem getRequest_of_plain (path : objectPath type namespaceName name = .ok location)
    (allowed : location.toList.all (Http.Target.isAllowed Http.Target.forbiddenInPath) = true)
    (short : Http.Target.isTooLong location none = false) :
    getRequest type namespaceName name = .ok { method := .get, path := location, query := [] } := by
  simp [getRequest, path, reading, Http.Target.parse_of_plain allowed short, bind, Except.bind,
    Except.map]

theorem patchRequest_of_plain (path : objectPath type namespaceName name = .ok location)
    (allowed : location.toList.all (Http.Target.isAllowed Http.Target.forbiddenInPath) = true)
    (short : Http.Target.isTooLong location (some []) = false) (patch : Json) :
    patchRequest type namespaceName name patch =
      .ok
        { method := .patch, path := location, query := []
          contentType? := some Http.mergePatchType, body? := some patch } := by
  simp [patchRequest, path, writing, Http.Target.parse_of_plain allowed short, bind, Except.bind,
    Except.map]

end Paths

/-- The reply says what the object is. -/
structure Shows (reply : Http.Reply) (object : Json) : Prop where
  succeeds : Http.Status.isSuccess reply.status = true
  parsed : Json.parse? reply.body = some object
  isObject : object.isObject = true

/-- The reply refuses the request, and not because the object is missing. -/
structure Refuses (reply : Http.Reply) : Prop where
  fails : Http.Status.isError reply.status = true
  present : (Failure.refused (Refusal.ofReply reply)).isNotFound = false

/-- What a server that keeps an object at a location replies to a request, and what it keeps
from then on. What it says of a patch that it has merged is left open. -/
inductive Answers (location : String) :
    Json → Http.Request → Http.Reply → Json → Prop where
  | read {stored request reply} (method : request.method = .get)
      (located : request.path = location) (shows : Shows reply stored) :
      Answers location stored request reply stored
  | patched {stored request reply patch} (method : request.method = .patch)
      (located : request.path = location)
      (contentType : request.contentType? = some Http.mergePatchType)
      (body : request.body? = some patch)
      (succeeds : Http.Status.isSuccess reply.status = true) :
      Answers location stored request reply (stored.mergePatch patch)
  | refused {stored request reply} (refuses : Refuses reply) :
      Answers location stored request reply stored
  | elsewhere {stored request reply} (away : request.path ≠ location) :
      Answers location stored request reply stored

/-- What happens to the object: another client changes it, or a request is answered. -/
inductive Moment (Change : Type) where
  | changed (change : Change)
  | answered (method : Http.Method)

/-- The changes that other clients make. -/
def Moment.changes {Change : Type} (moments : List (Moment Change)) : List Change :=
  moments.filterMap fun
    | .changed change => some change
    | .answered _ => none

section Conversations

namespace Moment

variable {Change : Type}

theorem changes_append (earlier later : List (Moment Change)) :
    changes (earlier ++ later) = changes earlier ++ changes later :=
  List.filterMap_append

@[simp]
theorem changes_answered (method : Http.Method) (rest : List (Moment Change)) :
    changes (.answered method :: rest) = changes rest := rfl

@[simp]
theorem changes_map_changed (edits : List Change) : changes (edits.map .changed) = edits := by
  rw [changes, List.filterMap_map]
  exact List.filterMap_some

theorem answered_notMem_map_changed (method : Http.Method) (edits : List Change) :
    Moment.answered method ∉ edits.map Moment.changed := by
  simp

end Moment

variable {Change α β : Type} {changes : Change → Json → Json → Prop} {location : String}

/-- Other clients turn one object into another by their changes. -/
inductive Changed (changes : Change → Json → Json → Prop) : Json → List Change → Json → Prop where
  | refl {stored} : Changed changes stored [] stored
  | step {stored next final change rest} (made : changes change stored next)
      (further : Changed changes next rest final) : Changed changes stored (change :: rest) final

/-- A program talks to the server until it is done, while other clients change the object. -/
inductive Conversation (changes : Change → Json → Json → Prop) (location : String) :
    Program network α → Json → List (Moment Change) → α → Json → Prop where
  | done {value stored} : Conversation changes location (.done value) stored [] value stored
  | changed {program stored next final change rest value} (made : changes change stored next)
      (further : Conversation changes location program next rest value final) :
      Conversation changes location program stored (.changed change :: rest) value final
  | answered {request reply stored next final rest value}
      {continuation : Http.Reply → Program network α}
      (answers : Answers location stored request reply next)
      (further : Conversation changes location (continuation reply) next rest value final) :
      Conversation changes location (.request (.apiServer request) continuation) stored
        (.answered request.method :: rest) value final

/-- A program that is done leaves the object to the others. -/
theorem Conversation.of_done {value result : α} {stored final : Json}
    {moments : List (Moment Change)}
    (conversation : Conversation changes location (.done value) stored moments result final) :
    result = value ∧ ∃ edits, moments = edits.map .changed ∧
      Changed changes stored edits final := by
  generalize asked : Program.done value = program at conversation
  induction conversation with
  | done =>
    cases asked
    exact ⟨rfl, [], rfl, .refl⟩
  | changed made _ ih =>
    obtain ⟨same, edits, rfl, changed⟩ := ih asked
    exact ⟨same, _ :: edits, rfl, .step made changed⟩
  | answered => cases asked

/-- A request is answered after some changes, and the program goes on with the reply. -/
theorem Conversation.of_request {request : Http.Request}
    {continuation : Http.Reply → Program network α} {result : α} {stored final : Json}
    {moments : List (Moment Change)}
    (conversation : Conversation changes location (.request (.apiServer request) continuation)
      stored moments result final) :
    ∃ edits found reply next rest,
      moments = edits.map .changed ++ .answered request.method :: rest ∧
      Changed changes stored edits found ∧ Answers location found request reply next ∧
      Conversation changes location (continuation reply) next rest result final := by
  generalize asked : @Program.request network α (.apiServer request) continuation = program
    at conversation
  induction conversation with
  | done => cases asked
  | changed made _ ih =>
    obtain ⟨edits, found, reply, next, rest, rfl, changed, goesOn⟩ := ih asked
    exact ⟨_ :: edits, found, reply, next, rest, rfl, .step made changed, goesOn⟩
  | answered answers further =>
    cases asked
    exact ⟨[], _, _, _, _, rfl, .refl, answers, further⟩

/-- An exchange that ends well is answered after some changes, and the program goes on with
what has been read. -/
theorem Conversation.of_exchange {request : Http.Request} {read : Http.Reply → Except Failure α}
    {next : α → Exchange β} {result : β} {stored final : Json} {moments : List (Moment Change)}
    (conversation : Conversation changes location ((exchange (.ok request) read >>= next).run)
      stored moments (.ok result) final) :
    ∃ edits found reply kept rest value,
      moments = edits.map .changed ++ .answered request.method :: rest ∧
      Changed changes stored edits found ∧ Answers location found request reply kept ∧
      read reply = .ok value ∧
      Conversation changes location (next value).run kept rest (.ok result) final := by
  obtain ⟨edits, found, reply, kept, rest, split, changed, answers, further⟩ :=
    conversation.of_request
  have goesOn : Conversation changes location (ExceptT.bindCont next (read reply)) kept rest
    (.ok result) final := further
  cases outcome : read reply with
  | error failure =>
    rw [outcome] at goesOn
    cases goesOn.of_done.1
  | ok value =>
    rw [outcome] at goesOn
    exact ⟨edits, found, reply, kept, rest, value, split, changed, answers, outcome, goesOn⟩

/-- A program that makes an exchange goes on with what it reads of the reply. -/
theorem Conversation.exchange {request : Http.Request} {read : Http.Reply → Except Failure α}
    {next : α → Exchange β} {value : α} {result : Except Failure β} {reply : Http.Reply}
    {stored kept final : Json} {rest : List (Moment Change)}
    (answers : Answers location stored request reply kept) (outcome : read reply = .ok value)
    (further : Conversation changes location (next value).run kept rest result final) :
    Conversation changes location ((ApiServer.exchange (.ok request) read >>= next).run) stored
      (.answered request.method :: rest) result final := by
  refine .answered answers ?_
  show Conversation changes location (ExceptT.bindCont next (read reply)) kept rest result final
  rw [outcome]
  exact further

theorem Conversation.of_changed {program : Program network α} {edits : List Change}
    {stored next final : Json} {rest : List (Moment Change)} {result : α}
    (changed : Changed changes stored edits next)
    (further : Conversation changes location program next rest result final) :
    Conversation changes location program stored (edits.map .changed ++ rest) result final := by
  induction changed with
  | refl => exact further
  | step made _ ih => exact .changed made (ih further)

end Conversations

end ApiServer

end FlowTesting
