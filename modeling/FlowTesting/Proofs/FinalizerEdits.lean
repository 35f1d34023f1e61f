import FlowTesting.Proofs.ApiServer.Conversation
import FlowTesting.Proofs.ApiServer.Reading
import FlowTesting.Proofs.Run
import Mathlib.Data.List.Basic

set_option autoImplicit false

/-!
# Edits of the finalizers

A finalizer is added or removed by reading the whole list and writing the whole list, and
nothing keeps other clients from changing it in between. What they do before the list is read
or after it is written stays; what they do in between is overtaken.
-/

namespace FlowTesting

open ApiServer

/-- An addition or a removal of one finalizer, which does nothing when it has been done. -/
inductive FinalizerEdit where
  | add (finalizer : String)
  | remove (finalizer : String)

namespace FinalizerEdit

def finalizer : FinalizerEdit → String
  | .add finalizer => finalizer
  | .remove finalizer => finalizer

def isAddition : FinalizerEdit → Bool
  | .add _ => true
  | .remove _ => false

def apply : FinalizerEdit → List String → List String
  | .add finalizer, finalizers =>
    if finalizers.contains finalizer then finalizers else finalizers ++ [finalizer]
  | .remove finalizer, finalizers => finalizers.filter (· != finalizer)

/-- The edit as it is made over the network. -/
def call : FinalizerEdit → FlowTest → Exchange Unit
  | .add finalizer, flowTest => addFinalizer flowTest finalizer
  | .remove finalizer, flowTest => removeFinalizer flowTest finalizer

theorem mem_apply (edit : FinalizerEdit) (finalizers : List String) (other : String) :
    other ∈ edit.apply finalizers ↔
      if edit.finalizer = other then edit.isAddition = true else other ∈ finalizers := by
  cases edit with
  | add finalizer =>
    by_cases same : finalizer = other
    · subst same
      by_cases present : finalizer ∈ finalizers <;>
        simp [apply, FinalizerEdit.finalizer, isAddition, present]
    · by_cases present : finalizer ∈ finalizers <;>
        simp [apply, FinalizerEdit.finalizer, same, present, Ne.symm same]
  | remove finalizer =>
    by_cases same : finalizer = other
    · simp [apply, FinalizerEdit.finalizer, isAddition, same]
    · simp [apply, FinalizerEdit.finalizer, same, Ne.symm same]

/-- The list that edits leave behind. -/
def replay (edits : List FinalizerEdit) (finalizers : List String) : List String :=
  edits.foldl (fun current edit => edit.apply current) finalizers

theorem replay_append (earlier later : List FinalizerEdit) (finalizers : List String) :
    replay (earlier ++ later) finalizers = replay later (replay earlier finalizers) := by
  simp [replay]

theorem mem_replay_congr (edits : List FinalizerEdit) {left right : List String} {other : String}
    (same : other ∈ left ↔ other ∈ right) :
    other ∈ replay edits left ↔ other ∈ replay edits right := by
  induction edits generalizing left right with
  | nil => exact same
  | cons edit rest ih =>
    refine ih ?_
    rw [mem_apply, mem_apply, same]

theorem mem_replay_of_unedited {edits : List FinalizerEdit} {finalizers : List String}
    {other : String} (unedited : ∀ edit ∈ edits, edit.finalizer ≠ other) :
    other ∈ replay edits finalizers ↔ other ∈ finalizers := by
  induction edits generalizing finalizers with
  | nil => rfl
  | cons edit rest ih =>
    obtain ⟨differs, uneditedRest⟩ := List.forall_mem_cons.mp unedited
    exact (ih uneditedRest).trans (by rw [mem_apply, if_neg differs])

/-- Whether an edited finalizer is left in the list does not depend on what was there. -/
theorem mem_replay_of_edited {edits : List FinalizerEdit} {edit : FinalizerEdit}
    (member : edit ∈ edits) (left right : List String) :
    edit.finalizer ∈ replay edits left ↔ edit.finalizer ∈ replay edits right := by
  obtain ⟨earlier, later, rfl⟩ := List.append_of_mem member
  rw [replay_append, replay_append]
  refine mem_replay_congr later ?_
  rw [mem_apply, mem_apply, if_pos rfl, if_pos rfl]

/-- Two lists are left alike at a finalizer just if they were, or it is edited. -/
theorem mem_replay_iff_iff {edits : List FinalizerEdit} {left right : List String}
    {other : String} :
    (other ∈ replay edits left ↔ other ∈ replay edits right) ↔
      (other ∈ left ↔ other ∈ right) ∨ ∃ edit ∈ edits, edit.finalizer = other := by
  by_cases edited : ∃ edit ∈ edits, edit.finalizer = other
  · obtain ⟨edit, member, rfl⟩ := edited
    exact iff_of_true (mem_replay_of_edited member left right) (.inr ⟨edit, member, rfl⟩)
  · have unedited : ∀ edit ∈ edits, edit.finalizer ≠ other :=
      fun edit member same => edited ⟨edit, member, same⟩
    rw [mem_replay_of_unedited unedited, mem_replay_of_unedited unedited, or_iff_left edited]

/-- Another client makes the edit on the object, of which it may change other parts as well. -/
structure Makes (own : String) (edit : FinalizerEdit) (before after : Json) : Prop where
  spares : edit.finalizer ≠ own
  lists : ∀ other, other ∈ after.finalizers ↔ other ∈ edit.apply before.finalizers

theorem mem_finalizers_of_changed {own : String} {edits : List FinalizerEdit} {stored final : Json}
    (changed : Changed (Makes own) stored edits final) (other : String) :
    other ∈ final.finalizers ↔ other ∈ replay edits stored.finalizers := by
  induction changed with
  | refl => rfl
  | step made _ ih => exact ih.trans (mem_replay_congr _ (made.lists other))

theorem spares_of_changed {own : String} {edits : List FinalizerEdit} {stored final : Json}
    (changed : Changed (Makes own) stored edits final) : ∀ edit ∈ edits, edit.finalizer ≠ own := by
  induction changed with
  | refl => simp
  | step made _ ih => exact List.forall_mem_cons.mpr ⟨made.spares, ih⟩

end FinalizerEdit

/-- The path at which the object of a flow test is read and written is the location. -/
structure FlowTest.IsLocatedAt (flowTest : FlowTest) (namespaceName location : String) : Prop where
  namespaced : flowTest.namespaceName? = some namespaceName
  path : objectPath .flowTest namespaceName flowTest.name = .ok location
  allowed : location.toList.all (Http.Target.isAllowed Http.Target.forbiddenInPath) = true
  short : Http.Target.isTooLong location (some []) = false

namespace FlowTest.IsLocatedAt

variable {flowTest : FlowTest} {namespaceName location : String}

theorem getRequest (located : flowTest.IsLocatedAt namespaceName location) :
    ApiServer.getRequest .flowTest namespaceName flowTest.name =
      .ok { method := .get, path := location, query := [] } := by
  have short : Http.Target.isTooLong location none = false := by
    have bounded := of_decide_eq_false located.short
    exact decide_eq_false (fun exceeds => bounded (Nat.lt_succ_of_lt exceeds))
  exact getRequest_of_plain located.path located.allowed short

theorem patchRequest (located : flowTest.IsLocatedAt namespaceName location) (patch : Json) :
    ApiServer.patchRequest .flowTest namespaceName flowTest.name patch =
      .ok
        { method := .patch, path := location, query := []
          contentType? := some Http.mergePatchType, body? := some patch } :=
  patchRequest_of_plain located.path located.allowed located.short patch

end FlowTest.IsLocatedAt

namespace ApiServer

/-- What is shown is read or does not fit, but it is never missed. -/
theorem Shows.readReply_eq {α : Type} {read : Decode.Reader α} {reply : Http.Reply}
    {stored : Json} (shows : Shows reply stored) :
    readReply read reply = .error .undecodable ∨ ∃ value, readReply read reply = .ok value := by
  unfold readReply
  rw [Http.Status.isError_eq_false shows.succeeds]
  cases (Document.parse? reply.body).bind (fun body => (read body).toOption) <;> simp

/-- Finalizers are read as they are shown. -/
theorem Shows.finalizers_eq {reply : Http.Reply} {stored : Json} {current : FlowTest}
    (shows : Shows reply stored) (read : readReply FlowTest.decode reply = .ok current) :
    current.metadata.finalizers = stored.finalizers := by
  unfold readReply at read
  split at read
  next => cases read
  next =>
    obtain ⟨document, parsed, stands⟩ := Option.bind_eq_some_iff.mp shows.parsed
    rw [parsed] at read
    cases decoded : FlowTest.decode document with
    | error fault => simp [decoded, Except.toOption] at read
    | ok flowTest =>
      obtain rfl : flowTest = current := by simpa [decoded, Except.toOption] using read
      cases stored with
      | object members => exact FlowTest.finalizers_of_decode decoded stands
      | _ => cases shows.isObject

theorem Refuses.readReply_eq {α : Type} {read : Decode.Reader α} {reply : Http.Reply}
    (refuses : Refuses reply) :
    readReply read reply = .error (.refused (Refusal.ofReply reply)) := by
  simp [readReply, refuses.fails]

variable {location : String} {stored kept : Json} {request : Http.Request} {reply : Http.Reply}

/-- A request to read changes nothing, and is answered with the object or refused. -/
theorem Answers.of_get (answers : Answers location stored request reply kept)
    (method : request.method = .get) (located : request.path = location) :
    kept = stored ∧ (Shows reply stored ∨ Refuses reply) := by
  cases answers with
  | read _ _ shows => exact ⟨rfl, .inl shows⟩
  | patched patch => simp [method] at patch
  | refused refuses => exact ⟨rfl, .inr refuses⟩
  | elsewhere away => exact absurd located away

/-- A patch is merged or refused. -/
theorem Answers.of_patch {patch : Json} (answers : Answers location stored request reply kept)
    (method : request.method = .patch) (located : request.path = location)
    (body : request.body? = some patch) : kept = stored.mergePatch patch ∨ Refuses reply := by
  cases answers with
  | read get => simp [method] at get
  | patched _ _ _ sent =>
    obtain rfl := Option.some.inj (body.symm.trans sent)
    exact .inl rfl
  | refused refuses => exact .inr refuses
  | elsewhere away => exact absurd located away

end ApiServer

namespace FinalizerEdit

variable {own : FinalizerEdit} {flowTest : FlowTest} {namespaceName location : String}
  {stored final : Json} {moments : List (Moment FinalizerEdit)}

/-- What a list is read for: whether the edit has been made. -/
def IsMade (own : FinalizerEdit) (finalizers : List String) : Prop :=
  own.finalizer ∈ finalizers ↔ own.isAddition = true

/-- What the object goes through while an edit is made. The list that is written is the one
that was read, edited. -/
inductive Course (own : FinalizerEdit) (stored : Json) :
    List (Moment FinalizerEdit) → Json → Prop where
  | spared {before found after final} (first : Changed (Makes own.finalizer) stored before found)
      (made : own.IsMade found.finalizers)
      (last : Changed (Makes own.finalizer) found after final) :
      Course own stored (before.map .changed ++ .answered .get :: after.map .changed) final
  | written {before found between overtaken after final}
      (first : Changed (Makes own.finalizer) stored before found)
      (next : Changed (Makes own.finalizer) found between overtaken)
      (last : Changed (Makes own.finalizer)
        (overtaken.mergePatch (finalizersPatch (own.apply found.finalizers))) after final) :
      Course own stored
        (before.map .changed ++ .answered .get ::
          (between.map .changed ++ .answered .patch :: after.map .changed)) final

/-- Writing the list ends well only if the patch has been merged. -/
theorem of_setFinalizers (located : flowTest.IsLocatedAt namespaceName location)
    {finalizers : List String} {found : Json}
    (conversation : Conversation (Makes own.finalizer) location
      (setFinalizers namespaceName flowTest finalizers).run found moments (.ok ()) final) :
    ∃ between overtaken after,
      moments = between.map .changed ++ .answered .patch :: after.map .changed ∧
      Changed (Makes own.finalizer) found between overtaken ∧
      Changed (Makes own.finalizer) (overtaken.mergePatch (finalizersPatch finalizers)) after
        final := by
  unfold setFinalizers at conversation
  rw [located.patchRequest] at conversation
  obtain ⟨between, overtaken, reply, kept, rest, _, rfl, changed, answers, outcome, further⟩ :=
    conversation.of_exchange
  rcases answers.of_patch rfl rfl rfl with rfl | refuses
  · obtain ⟨-, after, rfl, last⟩ := further.of_done
    exact ⟨between, overtaken, after, rfl, changed, last⟩
  · cases refuses.readReply_eq.symm.trans outcome

/-- How an edit goes on with what it reads of the object: it writes the edited list unless the
edit is made. -/
structure Follows (own : FinalizerEdit) (namespaceName : String) (flowTest : FlowTest) {α : Type}
    (read : Http.Reply → Except Failure α) (next : α → Exchange Unit) : Prop where
  fails : ∀ {reply}, Refuses reply → ∃ failure, read reply = .error failure
  reads : ∀ {reply current}, readReply FlowTest.decode reply = .ok current →
    ∃ value, read reply = .ok value
  goesOn : ∀ {reply found value}, Shows reply found → read reply = .ok value →
    own.IsMade found.finalizers ∧ next value = pure () ∨
      next value = setFinalizers namespaceName flowTest (own.apply found.finalizers)

/-- Both edits read the object first, at its own path. -/
theorem exists_call_eq (own : FinalizerEdit)
    (located : flowTest.IsLocatedAt namespaceName location) :
    ∃ (α : Type) (read : Http.Reply → Except Failure α) (next : α → Exchange Unit),
      own.Follows namespaceName flowTest read next ∧
      own.call flowTest =
        exchange (.ok { method := .get, path := location, query := [] }) read >>= next := by
  have named : requireFlowTestNamespace flowTest = pure namespaceName := by
    simp [requireFlowTestNamespace, requireNamespace, located.namespaced]
  cases own with
  | add finalizer =>
    refine ⟨FlowTest, readReply FlowTest.decode, fun current =>
      if !current.hasFinalizer finalizer then
        setFinalizers namespaceName flowTest (current.metadata.finalizers ++ [finalizer])
      else pure (), ⟨?_, ?_, ?_⟩, ?_⟩
    · exact fun refuses => ⟨_, refuses.readReply_eq⟩
    · exact fun readable => ⟨_, readable⟩
    · intro reply found current shows outcome
      have same := shows.finalizers_eq outcome
      by_cases present : finalizer ∈ found.finalizers
      · refine .inl ⟨by simp [IsMade, FinalizerEdit.finalizer, isAddition, present], ?_⟩
        simp [FlowTest.hasFinalizer, same, present]
      · refine .inr ?_
        simp [FlowTest.hasFinalizer, same, present, apply]
    · show addFinalizer flowTest finalizer = _
      unfold addFinalizer
      rw [named, ← located.getRequest]
      rfl
  | remove finalizer =>
    refine ⟨Option FlowTest, fun reply =>
      orIfMissing none ((readReply FlowTest.decode reply).map some), fun current? =>
      current?.elim (pure ()) (fun current =>
        if current.hasFinalizer finalizer then
          setFinalizers namespaceName flowTest
            (current.metadata.finalizers.filter (· != finalizer))
        else pure ()), ⟨?_, ?_, ?_⟩, ?_⟩
    · intro reply refuses
      simp [refuses.readReply_eq, orIfMissing, Except.map, refuses.present]
    · intro reply current readable
      exact ⟨some current, by simp [readable, orIfMissing, Except.map]⟩
    · intro reply found current? shows outcome
      rcases shows.readReply_eq with unreadable | ⟨current, readable⟩
      · rw [unreadable] at outcome
        cases outcome
      · have same := shows.finalizers_eq readable
        rw [readable] at outcome
        obtain rfl := Except.ok.inj outcome
        by_cases present : finalizer ∈ found.finalizers
        · refine .inr ?_
          simp [FlowTest.hasFinalizer, same, present, apply]
        · refine .inl ⟨by simp [IsMade, FinalizerEdit.finalizer, isAddition, present], ?_⟩
          simp [FlowTest.hasFinalizer, same, present]
    · show removeFinalizer flowTest finalizer = _
      unfold removeFinalizer
      rw [named, ← located.getRequest]
      refine congrArg (exchange _ _ >>= ·) (funext fun current? => ?_)
      cases current? <;> rfl

theorem course_of_call (located : flowTest.IsLocatedAt namespaceName location)
    (conversation : Conversation (Makes own.finalizer) location (own.call flowTest).run stored
      moments (.ok ()) final) : Course own stored moments final := by
  obtain ⟨_, read, next, follows, asked⟩ := own.exists_call_eq located
  rw [asked] at conversation
  obtain ⟨before, found, reply, kept, rest, value, rfl, first, answers, outcome, further⟩ :=
    conversation.of_exchange
  obtain ⟨rfl, shows | refuses⟩ := answers.of_get rfl rfl
  · rcases follows.goesOn shows outcome with ⟨made, done⟩ | writes
    · rw [done] at further
      obtain ⟨-, after, rfl, last⟩ := further.of_done
      exact .spared first made last
    · rw [writes] at further
      obtain ⟨between, overtaken, after, rfl, changed, last⟩ := of_setFinalizers located further
      exact .written first changed last
  · obtain ⟨failure, failed⟩ := follows.fails refuses
    cases failed.symm.trans outcome

/-- Nothing keeps other clients from changing the object between the reading and the writing of
the list, and whatever they do the call ends well. -/
theorem exists_conversation (located : flowTest.IsLocatedAt namespaceName location)
    {found overtaken : Json} {between : List FinalizerEdit} {shown written : Http.Reply}
    {current patched : FlowTest} (unmade : ¬ own.IsMade found.finalizers)
    (shows : Shows shown found) (readable : readReply FlowTest.decode shown = .ok current)
    (changed : Changed (Makes own.finalizer) found between overtaken)
    (succeeds : Http.Status.isSuccess written.status = true)
    (acknowledged : readReply FlowTest.decode written = .ok patched) :
    Conversation (Makes own.finalizer) location (own.call flowTest).run found
      (.answered .get :: (between.map .changed ++ [.answered .patch])) (.ok ())
      (overtaken.mergePatch (finalizersPatch (own.apply found.finalizers))) := by
  obtain ⟨_, read, next, follows, asked⟩ := own.exists_call_eq located
  obtain ⟨value, outcome⟩ := follows.reads readable
  obtain ⟨made, -⟩ | writes := follows.goesOn shows outcome
  · exact absurd made unmade
  rw [asked]
  refine .exchange (.read rfl rfl shows) outcome (.of_changed changed ?_)
  rw [writes]
  unfold setFinalizers
  rw [located.patchRequest]
  exact .exchange (.patched rfl rfl rfl rfl succeeds) acknowledged .done

/-- Between the reading and the writing of the list others have put the finalizer in or taken it
out, and they do not edit it any more. -/
def Overtakes (moments : List (Moment FinalizerEdit)) (initial : List String) (other : String) :
    Prop :=
  ∃ before between after,
    moments = before ++ .answered .get :: (between ++ .answered .patch :: after) ∧
    ¬ (other ∈ replay (Moment.changes before) initial ↔
      other ∈ replay (Moment.changes (before ++ between)) initial) ∧
    ∀ edit ∈ Moment.changes after, edit.finalizer ≠ other

theorem overtakes_iff (before between after : List FinalizerEdit) (initial : List String)
    (other : String) :
    Overtakes (before.map .changed ++ .answered .get ::
        (between.map .changed ++ .answered .patch :: after.map .changed)) initial other ↔
      ¬ (other ∈ replay before initial ↔ other ∈ replay (before ++ between) initial) ∧
        ∀ edit ∈ after, edit.finalizer ≠ other := by
  constructor
  · rintro ⟨earlier, amid, later, split, differs, unedited⟩
    obtain ⟨rfl, -, rest⟩ := (List.append_cons_inj_of_notMem
      (Moment.answered_notMem_map_changed _ _) (by simp)).mp split
    obtain ⟨rfl, -, rfl⟩ := (List.append_cons_inj_of_notMem
      (Moment.answered_notMem_map_changed _ _) (Moment.answered_notMem_map_changed _ _)).mp rest
    simp only [Moment.changes_append, Moment.changes_map_changed] at differs unedited
    exact ⟨differs, unedited⟩
  · rintro ⟨differs, unedited⟩
    refine ⟨_, _, _, rfl, ?_, ?_⟩
    · simpa only [Moment.changes_append, Moment.changes_map_changed] using differs
    · simpa only [Moment.changes_map_changed] using unedited

theorem Course.mem_own {own : FinalizerEdit} (course : Course own stored moments final) :
    own.finalizer ∈ final.finalizers ↔ own.isAddition = true := by
  cases course with
  | spared _ made last =>
    rw [mem_finalizers_of_changed last, mem_replay_of_unedited (spares_of_changed last)]
    exact made
  | written _ _ last =>
    rw [mem_finalizers_of_changed last, mem_replay_of_unedited (spares_of_changed last),
      Json.finalizers_mergePatch, mem_apply, if_pos rfl]

theorem Course.mem_other_iff {own : FinalizerEdit} (course : Course own stored moments final)
    {other : String} (differs : other ≠ own.finalizer) :
    (other ∈ final.finalizers ↔ other ∈ replay (Moment.changes moments) stored.finalizers) ↔
      ¬ Overtakes moments stored.finalizers other := by
  cases course with
  | @spared before found after _ first _ last =>
    have kept : other ∈ final.finalizers ↔ other ∈ replay (before ++ after) stored.finalizers := by
      rw [mem_finalizers_of_changed last, replay_append]
      exact mem_replay_congr after (mem_finalizers_of_changed first other)
    refine iff_of_true (by simpa [Moment.changes_append] using kept) ?_
    rintro ⟨earlier, amid, later, split, -⟩
    have sent : Moment.answered .patch ∈
        before.map Moment.changed ++ .answered .get :: after.map .changed := by
      rw [split]
      simp
    simp at sent
  | @written before found between overtaken after _ first next last =>
    have left : other ∈ final.finalizers ↔
        other ∈ replay after (replay before stored.finalizers) := by
      rw [mem_finalizers_of_changed last, Json.finalizers_mergePatch]
      refine mem_replay_congr after ?_
      rw [mem_apply, if_neg differs.symm]
      exact mem_finalizers_of_changed first other
    rw [overtakes_iff]
    simp only [Moment.changes_append, Moment.changes_answered, Moment.changes_map_changed,
      replay_append, left]
    rw [mem_replay_iff_iff]
    simp only [not_and_or, not_not, not_forall, exists_prop]

end FinalizerEdit

open FinalizerEdit

/-- After a finalizer has been added or removed it is in the list just if it was added, and every
other one is left as the other clients left it unless it has been overtaken. -/
theorem finalizer_kept_iff_not_overtaken {own : FinalizerEdit} {flowTest : FlowTest}
    {namespaceName location : String} {stored final : Json}
    {moments : List (Moment FinalizerEdit)}
    (located : flowTest.IsLocatedAt namespaceName location)
    (conversation : Conversation (Makes own.finalizer) location (own.call flowTest).run stored
      moments (.ok ()) final) :
    (own.finalizer ∈ final.finalizers ↔ own.isAddition = true) ∧
    ∀ other, other ≠ own.finalizer →
      ((other ∈ final.finalizers ↔ other ∈ replay (Moment.changes moments) stored.finalizers) ↔
        ¬ Overtakes moments stored.finalizers other) :=
  have course := course_of_call located conversation
  ⟨course.mem_own, fun _ differs => course.mem_other_iff differs⟩

namespace Sample

def location : String := path .flowTest (some "default") ++ "/" ++ "test"

theorem isLocatedAt_flowTest : flowTest.IsLocatedAt "default" location where
  namespaced := rfl
  path := rfl
  allowed := by decide +kernel
  short := by decide +kernel

/-- A reply that says what the flow test is, with its finalizers as they are written. -/
def showing (finalizers : String) : Http.Reply where
  status := 200
  body := "\x7b\"metadata\":\x7b\"name\":\"test\",\"finalizers\":[" ++ finalizers ++
    "]\x7d,\"spec\":\x7b\"referencePod\":\x7b\"name\":\"pod\",\"namespace\":\"default\"\x7d," ++
    "\"referenceFlow\":\x7b\"name\":\"flow\",\"namespace\":\"default\"\x7d\x7d\x7d"

/-- The flow test as another client has marked it. -/
def marked : Http.Reply := showing "\"example.com/a\""

def markedTwice : Http.Reply :=
  showing "\"example.com/a\",\"loggingpipelineplumber.isala.me/finalizer\""

theorem exists_shown_marked :
    ∃ stored, Shows marked stored ∧ stored.finalizers = ["example.com/a"] := by
  have read : (Json.parse? marked.body).map (fun stored => (stored.isObject, stored.finalizers)) =
      some (true, ["example.com/a"]) := by
    decide +kernel
  obtain ⟨stored, parsed, same⟩ := Option.map_eq_some_iff.mp read
  obtain ⟨isObject, finalizers⟩ := Prod.mk.inj same
  exact ⟨stored, ⟨rfl, parsed, isObject⟩, finalizers⟩

theorem exists_of_toBool {outcome : Except Failure FlowTest}
    (succeeds : outcome.toBool = true) : ∃ flowTest, outcome = .ok flowTest := by
  cases outcome with
  | error failure => cases succeeds
  | ok flowTest => exact ⟨flowTest, rfl⟩

/-- While the finalizer of the controller is added, another client adds one more. -/
theorem exists_conversation_overtaking :
    ∃ stored final, stored.finalizers = ["example.com/a"] ∧
      final.finalizers = ["example.com/a", Controller.finalizer] ∧
      Conversation (FinalizerEdit.Makes Controller.finalizer) location
        (addFinalizer flowTest Controller.finalizer).run stored
        [.answered .get, .changed (.add "example.com/b"), .answered .patch] (.ok ()) final := by
  obtain ⟨stored, shows, finalizers⟩ := exists_shown_marked
  obtain ⟨_, readable⟩ := exists_of_toBool
    (show (readReply FlowTest.decode marked).toBool = true by decide +kernel)
  obtain ⟨_, acknowledged⟩ := exists_of_toBool
    (show (readReply FlowTest.decode markedTwice).toBool = true by decide +kernel)
  let overtaken := stored.mergePatch (finalizersPatch ["example.com/a", "example.com/b"])
  have added :
      FinalizerEdit.Makes Controller.finalizer (.add "example.com/b") stored overtaken := by
    refine ⟨by decide, fun other => ?_⟩
    rw [Json.finalizers_mergePatch, finalizers]
    rfl
  have unmade : ¬ (FinalizerEdit.add Controller.finalizer).IsMade stored.finalizers := by
    rw [finalizers]
    unfold FinalizerEdit.IsMade
    decide
  refine ⟨stored, _, finalizers, ?_, FinalizerEdit.exists_conversation isLocatedAt_flowTest
    unmade shows readable (.step added .refl) rfl acknowledged⟩
  rw [Json.finalizers_mergePatch, finalizers]
  decide

end Sample

/-- A finalizer that is added between the reading and the writing of the list is overtaken. -/
theorem finalizer_overtaken_by_addition :
    ∃ stored moments final,
      Sample.flowTest.IsLocatedAt "default" Sample.location ∧
      Conversation (Makes Controller.finalizer) Sample.location
        ((FinalizerEdit.add Controller.finalizer).call Sample.flowTest).run stored moments (.ok ())
        final ∧
      Controller.finalizer ∈ final.finalizers ∧
      Overtakes moments stored.finalizers "example.com/b" ∧
      ∀ other, other ≠ Controller.finalizer →
        ((other ∈ final.finalizers ↔
            other ∈ replay (Moment.changes moments) stored.finalizers) ↔
          ¬ Overtakes moments stored.finalizers other) := by
  obtain ⟨stored, final, finalizers, -, conversation⟩ := Sample.exists_conversation_overtaking
  obtain ⟨own, others⟩ := @finalizer_kept_iff_not_overtaken (.add Controller.finalizer) _ _ _ _ _ _
    Sample.isLocatedAt_flowTest conversation
  refine ⟨stored, _, final, Sample.isLocatedAt_flowTest, conversation, own.mpr rfl, ?_, others⟩
  refine (overtakes_iff [] [.add "example.com/b"] [] stored.finalizers "example.com/b").mpr ?_
  rw [finalizers]
  decide

/-- The finalizer that another client adds while the controller adds its own is gone. -/
theorem finalizer_lost_between_requests :
    ∃ stored moments final,
      Conversation (Makes Controller.finalizer) Sample.location
        (addFinalizer Sample.flowTest Controller.finalizer).run stored moments (.ok ()) final ∧
      "example.com/b" ∈ replay (Moment.changes moments) stored.finalizers ∧
      "example.com/b" ∉ final.finalizers := by
  obtain ⟨stored, final, finalizers, written, conversation⟩ := Sample.exists_conversation_overtaking
  refine ⟨stored, _, final, conversation, ?_, ?_⟩
  · rw [finalizers]
    decide
  · rw [written]
    decide

end FlowTesting
