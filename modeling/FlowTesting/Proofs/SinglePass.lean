import FlowTesting.Proofs.GreedyMarking
import FlowTesting.Proofs.Retirement

set_option autoImplicit false

/-!
# A single pass

A pass whose replies are fixed beforehand, one of its retirements being refused or none. It reads
the reference, the slices and the indexes, retires the slices that have delivered in the order of
the list up to the one that is refused, and stores the flags once if one is new.
-/

namespace FlowTesting

/-- The replies to a pass: the reference, the slices and the indexes that it reads, and how many
retirements succeed before one is refused, if one is. -/
structure Replies where
  reference : PipelineFlow
  slices : List PipelineFlow
  indexes : List Index
  refusal? : Option (Nat × Failure) := none

namespace Replies

def retire (replies : Replies) : Except Failure Unit × Replies :=
  match replies.refusal? with
  | none => (.ok (), replies)
  | some (0, failure) => (.error failure, replies)
  | some (granted + 1, failure) => (.ok (), { replies with refusal? := some (granted, failure) })

/-- Every call but a retirement succeeds. -/
def answer (replies : Replies) : (call : Call) → Except Failure call.Answer × Replies
  | .patchStatus .. => (.ok (), replies)
  | .addFinalizer .. => (.ok (), replies)
  | .removeFinalizer .. => (.ok (), replies)
  | .listFlowTests => (.ok [], replies)
  | .getPod .. => (.ok none, replies)
  | .getFlow .. => (.ok (some replies.reference), replies)
  | .create .. => (.ok (), replies)
  | .listFlows .. => (.ok replies.slices, replies)
  | .deleteFlow .. => replies.retire
  | .deactivateFlow .. => replies.retire
  | .deleteLabeled .. => (.ok 0, replies)
  | .listIndexes => (.ok replies.indexes, replies)

end Replies

/-- The replies that are left, and the requests that have been made. -/
structure Transcript where
  replies : Replies
  made : List ControllerRequest := []

namespace Transcript

variable {α β : Type}

def handle (request : ControllerRequest) :
    StateM Transcript (controllerInterface.Reply request) := fun transcript =>
  let made := transcript.made ++ [request]
  match request with
  | .call call =>
    ((transcript.replies.answer call).1, ⟨(transcript.replies.answer call).2, made⟩)
  | .publish _ => ((), { transcript with made })

/-- Runs a procedure with every request answered and noted. -/
def run (transcript : Transcript) (procedure : Procedure α) : Except Failure α × Transcript :=
  (Program.run handle procedure.run : StateM Transcript (Except Failure α)) transcript

@[simp]
theorem run_pure (transcript : Transcript) (value : α) :
    transcript.run (pure value) = (.ok value, transcript) := rfl

theorem run_bind_of_ok {transcript after : Transcript} {first : Procedure α} {value : α}
    (next : α → Procedure β) (succeeded : transcript.run first = (.ok value, after)) :
    transcript.run (first >>= next) = after.run (next value) :=
  Attempt.run_bind_apply_of_ok next succeeded

end Transcript

/-- The call that retires a slice. -/
def PassPolicy.retirement (policy : PassPolicy) (slice : PipelineFlow) : Call :=
  match policy with
  | .delete => .deleteFlow slice
  | .deactivate => .deactivateFlow slice

/-- Whether a slice is to be retired: it is active, of a known type, and an index of its name holds
a record. -/
def PipelineFlow.IsDue (indexes : List Index) (slice : PipelineFlow) : Prop :=
  slice.isActive = true ∧ slice.testType?.isSome = true ∧
    ∃ index ∈ indexes, index.name = slice.name ∧ 0 < index.logCount

instance (indexes : List Index) (slice : PipelineFlow) : Decidable (slice.IsDue indexes) :=
  inferInstanceAs (Decidable (_ ∧ _ ∧ _))

/-- The flags of a flow test after some slices have passed: those that were set before, and those
that a slice sets by itself in the flags of its own type. -/
structure Verification.Marks (reference : PipelineFlow) (status : FlowTestStatus)
    (retired : List PipelineFlow) (verification : Verification) : Prop where
  length : ∀ testType, (verification.flags testType).length = (status.flags testType).length
  set_iff : ∀ (testType : TestType) (place : Nat),
    (verification.flags testType)[place]? = some true ↔
    (status.flags testType)[place]? = some true ∨ ∃ slice ∈ retired,
      slice.testType? = some testType ∧
        (Marking.markPassed (List.replicate (status.flags testType).length false)
          (reference.entries testType) (slice.entries testType)).1[place]? = some true
  passed : verification.passed = retired.map (·.name)

namespace Replies

/-- The slices that the pass is to retire. -/
def due (replies : Replies) : List PipelineFlow :=
  replies.slices.filter (·.IsDue replies.indexes)

/-- The slices whose retirement is asked for: none after the one that is refused. -/
def attempted (replies : Replies) : List PipelineFlow :=
  match replies.refusal? with
  | none => replies.due
  | some (granted, _) => replies.due.take (granted + 1)

def retired (replies : Replies) : List PipelineFlow :=
  match replies.refusal? with
  | none => replies.due
  | some (granted, _) => replies.due.take granted

/-- The failure of the retirement that is refused, if the pass comes to it. -/
def failure? (replies : Replies) : Option Failure :=
  match replies.refusal? with
  | none => none
  | some (granted, failure) => if granted < replies.due.length then some failure else none

end Replies

namespace Verification

variable {reference : PipelineFlow} {indexes : List Index} {policy : PassPolicy}

theorem delivered?_eq_some_iff {slice : PipelineFlow} {testType : TestType} :
    delivered? indexes slice = some testType ↔
      slice.IsDue indexes ∧ slice.testType? = some testType := by
  rw [delivered?, Option.ite_none_right_eq_some, Bool.and_eq_true, Index.haveLogs, List.any_eq_true]
  simp only [PipelineFlow.IsDue, Bool.and_eq_true, beq_iff_eq, decide_eq_true_eq]
  constructor
  · intro delivered
    obtain ⟨⟨active, logs⟩, known⟩ := delivered
    exact ⟨⟨active, by rw [known]; rfl, logs⟩, known⟩
  · intro due
    obtain ⟨⟨active, -, logs⟩, known⟩ := due
    exact ⟨⟨active, logs⟩, known⟩

theorem delivered?_eq_none_iff {slice : PipelineFlow} :
    delivered? indexes slice = none ↔ ¬ slice.IsDue indexes := by
  rw [Option.eq_none_iff_forall_ne_some]
  simp only [ne_eq, delivered?_eq_some_iff, not_and]
  constructor
  · intro silent due
    obtain ⟨testType, known⟩ := Option.isSome_iff_exists.mp due.2.1
    exact silent testType due known
  · exact fun silent _ due _ => silent due

end Verification

namespace Replies

variable {replies left : Replies} {slice : PipelineFlow}

theorem due_cons (rest : List PipelineFlow) (isDue : slice.IsDue replies.indexes) :
    due { replies with slices := slice :: rest } = slice :: due { replies with slices := rest } :=
  List.filter_cons_of_pos (by simpa using isDue)

/-- After a retirement that has succeeded, the rest of the slices goes on with the replies that are
left. -/
theorem cons_of_granted (rest : List PipelineFlow) (isDue : slice.IsDue replies.indexes)
    (granted : replies.retire = (.ok (), left)) :
    left.indexes = replies.indexes ∧
      retired { replies with slices := slice :: rest } =
        slice :: retired { left with slices := rest } ∧
      attempted { replies with slices := slice :: rest } =
        slice :: attempted { left with slices := rest } ∧
      failure? { replies with slices := slice :: rest } =
        failure? { left with slices := rest } := by
  obtain ⟨reference, slices, indexes, refusal?⟩ := replies
  rcases refusal? with _ | ⟨_ | granted, failure⟩
  · cases granted
    exact ⟨rfl, due_cons rest isDue, due_cons rest isDue, rfl⟩
  · cases granted
  · cases granted
    have sameDue := due_cons rest isDue
    refine ⟨rfl, ?_, ?_, ?_⟩
    · simp only [retired, sameDue]
      rfl
    · simp only [attempted, sameDue]
      rfl
    · simp only [failure?, sameDue, List.length_cons, Nat.add_lt_add_iff_right]
      rfl

/-- A retirement that is refused is the last that is asked for. -/
theorem cons_of_refused {failure : Failure} (rest : List PipelineFlow)
    (isDue : slice.IsDue replies.indexes) (refused : replies.retire = (.error failure, left)) :
    retired { replies with slices := slice :: rest } = [] ∧
      attempted { replies with slices := slice :: rest } = [slice] ∧
      failure? { replies with slices := slice :: rest } = some failure := by
  obtain ⟨reference, slices, indexes, refusal?⟩ := replies
  rcases refusal? with _ | ⟨_ | granted, reason⟩
  · cases refused
  · cases refused
    have sameDue := due_cons rest isDue
    simp [retired, attempted, failure?, sameDue]
  · cases refused

end Replies

namespace Verification

theorem run_transcript_retire (policy : PassPolicy) (replies : Replies)
    (made : List ControllerRequest) (slice : PipelineFlow) :
    Transcript.run ⟨replies, made⟩ (retire policy slice) =
      (.ok replies.retire.1, ⟨replies.retire.2, made ++ [.call (policy.retirement slice)]⟩) := by
  cases policy <;> rfl

/-- The slices that are due are retired and recorded up to the one that is refused. -/
theorem run_transcript_retireDelivered (policy : PassPolicy) (reference : PipelineFlow)
    (slices : List PipelineFlow) (replies : Replies) (made : List ControllerRequest)
    (progress : Progress) (unfailed : progress.failure? = none) :
    ∃ left, Transcript.run ⟨replies, made⟩
        (retireDelivered policy reference replies.indexes progress slices) =
      (.ok { recordDelivered reference replies.indexes progress
            (Replies.retired { replies with slices }) with
          failure? := Replies.failure? { replies with slices } },
        ⟨left, made ++ (Replies.attempted { replies with slices }).map
          (fun slice => .call (policy.retirement slice))⟩) := by
  induction slices generalizing replies made progress with
  | nil =>
    obtain ⟨verification, flipped, failure?⟩ := progress
    obtain rfl := unfailed
    refine ⟨replies, ?_⟩
    rcases replies.refusal? with _ | ⟨granted, failure⟩ <;>
      simp [Replies.retired, Replies.attempted, Replies.failure?, Replies.due, recordDelivered,
        retireDelivered]
  | cons slice rest ih =>
    cases delivered : delivered? replies.indexes slice with
    | none =>
      have notDue := delivered?_eq_none_iff.mp delivered
      have sameDue : Replies.due { replies with slices := slice :: rest } =
          Replies.due { replies with slices := rest } :=
        List.filter_cons_of_neg (by simpa using notDue)
      simp only [retireDelivered, delivered]
      simpa only [Replies.retired, Replies.attempted, Replies.failure?, sameDue]
        using ih replies made progress unfailed
    | some testType =>
      have isDue := (delivered?_eq_some_iff.mp delivered).1
      simp only [retireDelivered, delivered]
      rw [Transcript.run_bind_of_ok _ (run_transcript_retire policy replies made slice)]
      rcases retires : replies.retire with ⟨outcome, left⟩
      cases outcome with
      | error failure =>
        obtain ⟨noneRetired, attempts, fails⟩ := Replies.cons_of_refused rest isDue retires
        rw [noneRetired, attempts, fails]
        exact ⟨left, rfl⟩
      | ok _ =>
        obtain ⟨sameIndexes, retired, attempts, fails⟩ :=
          Replies.cons_of_granted rest isDue retires
        rw [retired, attempts, fails, recordDelivered_cons delivered, ← sameIndexes]
        obtain ⟨final, ran⟩ := ih left (made ++ [.call (policy.retirement slice)])
          { progress with
            verification := (record reference slice testType progress.verification).1
            flipped := progress.flipped +
              (record reference slice testType progress.verification).2 } unfailed
        refine ⟨final, ran.trans ?_⟩
        rw [List.map_cons, List.append_assoc, List.singleton_append]

theorem run_transcript_finish (replies : Replies) (made : List ControllerRequest)
    (flowTest : FlowTest) (progress : Progress) :
    Transcript.run ⟨replies, made⟩ (finish flowTest progress) =
      (match progress.failure? with
        | some failure => .error failure
        | none => .ok progress.verification,
       ⟨replies, made ++
          if 0 < progress.flipped then
            [.call (.patchStatus flowTest (updatedStatus flowTest progress.verification))]
          else []⟩) := by
  obtain ⟨verification, flipped, failure?⟩ := progress
  unfold finish
  by_cases new : 0 < flipped
  · simp only [new, ↓reduceIte]
    cases failure? <;> rfl
  · simp only [new, ↓reduceIte, List.append_nil]
    cases failure? <;> rfl

section Recorded

variable {reference : PipelineFlow} {indexes : List Index} {slices : List PipelineFlow}

/-- How many flags are set. -/
def setCount (verification : Verification) : Nat :=
  verification.matchStatus.count true + verification.filterStatus.count true

theorem setCount_record (slice : PipelineFlow) (testType : TestType)
    (verification : Verification) :
    (record reference slice testType verification).1.setCount =
      verification.setCount + (record reference slice testType verification).2 := by
  cases testType <;>
    simp only [record, setCount, Marking.count_markPassed, Marking.snd_markPassed] <;> omega

/-- The flags that a pass has set are those that it counts. -/
theorem setCount_recordDelivered (progress : Progress) :
    (recordDelivered reference indexes progress slices).verification.setCount + progress.flipped =
      progress.verification.setCount +
        (recordDelivered reference indexes progress slices).flipped := by
  induction slices generalizing progress with
  | nil => rfl
  | cons slice rest ih =>
    cases delivered : delivered? indexes slice with
    | none => simpa only [recordDelivered, delivered] using ih progress
    | some testType =>
      rw [recordDelivered_cons delivered]
      have later := ih
        { progress with
          verification := (record reference slice testType progress.verification).1
          flipped := progress.flipped +
            (record reference slice testType progress.verification).2 }
      have here := @setCount_record reference slice testType progress.verification
      simp only at later
      omega

/-- The count is zero just when no flag has changed. -/
theorem flipped_recordDelivered_eq_zero_iff (status : FlowTestStatus) :
    (recordDelivered reference indexes (.start status) slices).flipped = 0 ↔
      (recordDelivered reference indexes (.start status) slices).verification.matchStatus =
          status.matchStatus ∧
        (recordDelivered reference indexes (.start status) slices).verification.filterStatus =
          status.filterStatus := by
  refine ⟨((tracks_start status).recordDelivered slices).unchanged, fun same => ?_⟩
  obtain ⟨sameMatch, sameFilter⟩ := same
  have counted := @setCount_recordDelivered reference indexes slices (.start status)
  simp only [setCount, sameMatch, sameFilter] at counted
  change status.matchStatus.count true + status.filterStatus.count true + 0 =
    status.matchStatus.count true + status.filterStatus.count true + _ at counted
  omega

theorem passed_recordDelivered (due : ∀ slice ∈ slices, slice.IsDue indexes)
    (progress : Progress) :
    (recordDelivered reference indexes progress slices).verification.passed =
      progress.verification.passed ++ slices.map (·.name) := by
  induction slices generalizing progress with
  | nil => exact (List.append_nil _).symm
  | cons slice rest ih =>
    obtain ⟨dueHere, dueRest⟩ := List.forall_mem_cons.mp due
    obtain ⟨testType, known⟩ := Option.isSome_iff_exists.mp dueHere.2.1
    rw [recordDelivered_cons (delivered?_eq_some_iff.mpr ⟨dueHere, known⟩), ih dueRest]
    cases testType <;> simp [record]

theorem marks_recordDelivered (due : ∀ slice ∈ slices, slice.IsDue indexes)
    (status : FlowTestStatus) :
    Marks reference status slices
      (recordDelivered reference indexes (.start status) slices).verification where
  length testType := by
    rw [length_flags_recordDelivered, flags_start]
  set_iff testType place := by
    rw [getElem?_flags_recordDelivered_iff, flags_start]
    refine or_congr_right ?_
    constructor
    · intro marked
      obtain ⟨within, slice, member, delivered, claimed⟩ := marked
      refine ⟨slice, member, (delivered?_eq_some_iff.mp delivered).2, ?_⟩
      exact Marking.getElem?_markPassed_iff.mpr (.inr ⟨by simpa using within, claimed⟩)
    · intro marked
      obtain ⟨slice, member, known, set⟩ := marked
      rcases Marking.getElem?_markPassed_iff.mp set with already | ⟨within, claimed⟩
      · simp [List.getElem?_replicate] at already
      · exact ⟨by simpa using within, slice, member,
          delivered?_eq_some_iff.mpr ⟨due slice member, known⟩, claimed⟩
  passed := passed_recordDelivered due _

end Recorded

end Verification

namespace Replies

variable {replies : Replies}

theorem isDue_of_mem_retired {slice : PipelineFlow} (member : slice ∈ replies.retired) :
    slice.IsDue replies.indexes := by
  have listed : slice ∈ replies.due := by
    unfold retired at member
    split at member
    · exact member
    · exact List.mem_of_mem_take member
  simpa using (List.mem_filter.mp listed).2

end Replies

/-- A pass reads the reference, the slices and the indexes, asks for the retirement of the slices
that are due, in their order and up to the one that is refused, and stores the flags once if one
has changed and not at all else. The flags are those that were set before and those of the slices
that have been retired, and the pass fails just when a retirement has been refused. -/
theorem single_pass_exact {flowTest : FlowTest} {kind : PipelineKind}
    (ofKind : flowTest.pipelineKind = .ok kind) (policy : PassPolicy) (replies : Replies) :
    ∃ verification left,
      verification.Marks replies.reference flowTest.status replies.retired ∧
      Transcript.run { replies } (Verification.run flowTest policy) =
        (match replies.failure? with
          | some failure => .error failure
          | none => .ok verification,
        { replies := left
          made :=
            [.call (.getFlow kind flowTest.spec.referenceFlow.namespaceName
                flowTest.spec.referenceFlow.name),
              .call (.listFlows kind (Selector.flowTest flowTest.name)), .call .listIndexes] ++
            replies.attempted.map (fun slice => .call (policy.retirement slice)) ++
            if verification.matchStatus = flowTest.status.matchStatus ∧
                verification.filterStatus = flowTest.status.filterStatus then []
            else [.call (.patchStatus flowTest
              { flowTest.status with
                matchStatus := verification.matchStatus
                filterStatus := verification.filterStatus })] }) := by
  have kindKnown (transcript : Transcript) :
      transcript.run (ExceptT.mk (pure flowTest.pipelineKind)) = (.ok kind, transcript) := by
    rw [ofKind]
    rfl
  have referenceRead : Transcript.run { replies } (flowTest.getReference kind) =
      (.ok replies.reference, { replies, made := [.call (.getFlow kind
        flowTest.spec.referenceFlow.namespaceName flowTest.spec.referenceFlow.name)] }) := rfl
  obtain ⟨left, retires⟩ := Verification.run_transcript_retireDelivered policy replies.reference
    replies.slices replies
    [.call (.getFlow kind flowTest.spec.referenceFlow.namespaceName
        flowTest.spec.referenceFlow.name),
      .call (.listFlows kind (Selector.flowTest flowTest.name)), .call .listIndexes]
    (.start flowTest.status) rfl
  refine ⟨_, left, Verification.marks_recordDelivered
    (fun slice member => replies.isDue_of_mem_retired member) flowTest.status, ?_⟩
  rw [Verification.run, Transcript.run_bind_of_ok _ (kindKnown _),
    Transcript.run_bind_of_ok _ referenceRead, Transcript.run_bind_of_ok _ rfl,
    Transcript.run_bind_of_ok _ rfl]
  refine (Transcript.run_bind_of_ok _ retires).trans
    ((Verification.run_transcript_finish left _ flowTest _).trans ?_)
  simp only [Nat.pos_iff_ne_zero, ne_eq, Verification.flipped_recordDelivered_eq_zero_iff, ite_not]
  rfl

namespace Sample

def refused : Failure := .internal "delete" "uid-1-match"

/-- Both slices have delivered, and the second cannot be retired. -/
def refusing : Replies where
  reference := flow ["first", "second"]
  slices := (slices ["first", "second"]).map (·.flow)
  indexes := counting 1 1
  refusal? := some (1, refused)

end Sample

/-- The retirement of the second of two slices is refused: the first is marked and stored all the
same, and the pass fails. -/
theorem single_pass_refused_second :
    (Sample.watching .running 2).pipelineKind = .ok .flow ∧
    Sample.refusing.attempted.map (·.name) = ["uid-0-match", "uid-1-match"] ∧
    ∃ (verification : Verification) (left : Replies), verification.matchStatus = [true, false] ∧
      verification.passed = ["uid-0-match"] ∧
      Transcript.run { replies := Sample.refusing }
          (Verification.run (Sample.watching .running 2) .delete) =
        (.error Sample.refused, { replies := left
                                  made := [.call (.getFlow .flow "default" "flow"),
            .call (.listFlows .flow (Selector.flowTest "test")), .call .listIndexes] ++
            Sample.refusing.attempted.map (fun slice => .call (.deleteFlow slice)) ++
            [.call (.patchStatus (Sample.watching .running 2)
              { phase? := some .running
                matchStatus := [true, false]
                filterStatus := [] })] }) := by
  obtain ⟨verification, left, marks, ran⟩ :=
    @single_pass_exact (Sample.watching .running 2) .flow rfl .delete Sample.refusing
  obtain ⟨slice, retired, known, marked⟩ : ∃ slice, Sample.refusing.retired = [slice] ∧
      slice.testType? = some .matchRule ∧
      (Marking.markPassed [false, false] Sample.refusing.reference.matchRules
        slice.matchRules).1 = [true, false] := ⟨_, rfl, rfl, rfl⟩
  have sameMatch : verification.matchStatus = [true, false] := by
    refine Marking.flags_ext (marks.length .matchRule) (fun place =>
      (marks.set_iff .matchRule place).trans ?_)
    have unset : ¬ ([false, false] : List Bool)[place]? = some true := by
      rcases place with _ | _ | place <;> simp
    have start : (Sample.watching .running 2).status.flags .matchRule = [false, false] := rfl
    rw [retired, start]
    simp only [unset, List.mem_singleton, exists_eq_left, known, true_and, false_or]
    exact marked ▸ Iff.rfl
  have sameFilter : verification.filterStatus = [] :=
    List.eq_nil_of_length_eq_zero (marks.length .filterStage)
  refine ⟨rfl, rfl, verification, left, sameMatch, marks.passed, ran.trans ?_⟩
  rw [sameMatch, sameFilter]
  rfl

end FlowTesting
