import FlowTesting.Proofs.Lifecycle
import FlowTesting.Proofs.Retention

set_option autoImplicit false

/-!
# Runs with lagging versions

A reconciliation may be handed a running flow test as it was some time ago. The flags that its pass
finds replace those that are stored by then, so a flag stays set as long as each pass that stores
flags finds it once more.
-/

namespace FlowTesting

/-- A reconciliation, with what the aggregator lists while it lasts. -/
structure Turn extends Reconciliation where
  indexes : List Index

/-- Whether a turn can have come about, whichever version of the flow test it was handed. -/
structure Turn.Lawful (turn : Turn) : Prop where
  execution : ∃ rest,
    Execution turn.procedure.run turn.start turn.occurrences rest turn.finish
  listing : ∀ listed, Answered turn.occurrences .listIndexes listed → listed = turn.indexes

/-- Whether a version of a flow test was stored when some turns began, or in one of them. -/
def FlowTest.WasStored (initial : Cluster) (turns : List Turn) (flowTest : FlowTest) : Prop :=
  initial.flowTests.get? flowTest.name = some flowTest ∨
    ∃ turn ∈ turns, ∃ occurrence ∈ turn.occurrences,
      occurrence.after.flowTests.get? flowTest.name = some flowTest

/-- Turns from a cluster on, each of which is handed the stored flow test or an earlier version that
was running. -/
inductive LaggingRun (initial : Cluster) : List Turn → Cluster → Prop where
  | start : LaggingRun initial [] initial
  | turn {turns : List Turn} {turn : Turn} :
      LaggingRun initial turns turn.start → turn.Lawful →
      turn.start.flowTests.get? turn.flowTest.name = some turn.flowTest ∨
        turn.flowTest.phase? = some .running ∧ turn.flowTest.WasStored initial turns →
      LaggingRun initial (turns ++ [turn]) turn.finish

def Cluster.IsSet (cluster : Cluster) (name : String) (testType : TestType) (place : Nat) : Prop :=
  ∃ stored, cluster.flowTests.get? name = some stored ∧
    (stored.status.flags testType)[place]? = some true

namespace Occurrence

def KeepsFlags (occurrence : Occurrence) : Prop :=
  ∀ name testType place, occurrence.before.IsSet name testType place →
    occurrence.after.IsSet name testType place

def Stores (flowTest : FlowTest) (status : FlowTestStatus) (occurrence : Occurrence) : Prop :=
  ∃ before after,
    occurrence = ⟨before, .call (.patchStatus flowTest status), Except.ok (), after⟩

end Occurrence

/-- Whether the pass of a turn has found a flag to be set by the time of some cluster: the flag is
set in the version that was handed over, or a slice claims it that is retired by then. -/
def Turn.Finds (turn : Turn) (current : Cluster) (testType : TestType) (place : Nat) : Prop :=
  (turn.flowTest.status.flags testType)[place]? = some true ∨
    place < (turn.flowTest.status.flags testType).length ∧
      ∃ kind reference slice, turn.flowTest.pipelineKind = .ok kind ∧
        turn.start.getFlow kind turn.flowTest.spec.referenceFlow.namespaceName
          turn.flowTest.spec.referenceFlow.name = some reference ∧
        slice ∈ turn.start.listFlows kind (Selector.flowTest turn.flowTest.name) ∧
        slice ∉ current.listFlows kind (Selector.flowTest turn.flowTest.name) ∧
        (⟨reference, turn.indexes⟩ : Evidence).Claims testType place slice

/-- Whether all flags that a request replaces are found once more. -/
def Turn.Refinds (turn : Turn) (occurrence : Occurrence) : Prop :=
  ∀ status testType place, occurrence.Stores turn.flowTest status → status.flags testType ≠ [] →
    occurrence.before.IsSet turn.flowTest.name testType place →
      turn.Finds occurrence.before testType place

def FlowTest.IsUpcoming (flowTest : FlowTest) : Prop :=
  flowTest.phase? = none ∨ flowTest.phase? = some .created

/-- Whether no flag is set of a flow test that has not been running yet. -/
def Cluster.IsUnmarked (cluster : Cluster) : Prop :=
  ∀ name stored, cluster.flowTests.get? name = some stored → stored.IsUpcoming →
    ∀ testType (place : Nat), (stored.status.flags testType)[place]? ≠ some true

theorem FlowTest.IsUpcoming.phase?_ne {flowTest : FlowTest} {phase : FlowTestPhase}
    (upcoming : flowTest.IsUpcoming) (later : phase = .running ∨ phase = .completed) :
    flowTest.phase? ≠ some phase := by
  rcases upcoming with new | created <;> rcases later with rfl | rfl <;> simp [*]

theorem FlowTestStatus.flags_merge (status patch : FlowTestStatus) (testType : TestType) :
    (status.merge patch).flags testType =
      if (patch.flags testType).isEmpty then status.flags testType else patch.flags testType := by
  cases testType <;> rfl

theorem FlowTestStatus.flags_ofPhase (phase : FlowTestPhase) (testType : TestType) :
    (ofPhase phase).flags testType = [] := by
  cases testType <;> rfl

theorem FlowTestStatus.flags_allocated_ne (phase : FlowTestPhase) (matchRules filters : Nat)
    (testType : TestType) (place : Nat) :
    ((allocated phase matchRules filters).flags testType)[place]? ≠ some true := by
  cases testType <;> simp [allocated, flags, List.getElem?_replicate]

section Storing

variable {before after : Cluster} {asked : ControllerRequest}
  {reply : controllerInterface.Reply asked} {name : String} {testType : TestType} {place : Nat}

/-- A flag that is set after a request was set before, or its status was stored with the request. -/
theorem Cluster.Answers.isSet_before (answers : before.Answers asked reply after)
    (set : after.IsSet name testType place) :
    before.IsSet name testType place ∨ ∃ flowTest status,
      asked = .call (.patchStatus flowTest status) ∧ flowTest.name = name ∧
        (status.flags testType)[place]? = some true := by
  obtain ⟨next, found, set⟩ := set
  obtain ⟨stored, foundBefore, becomes⟩ := answers.becomes_to_stored found
  rcases becomes.status with same | ⟨flowTest, status, asked, named, merged⟩
  · exact .inl ⟨stored, foundBefore, same ▸ set⟩
  · rw [merged, FlowTestStatus.flags_merge] at set
    split at set
    next => exact .inl ⟨stored, foundBefore, set⟩
    next => exact .inr ⟨flowTest, status, asked, named, set⟩

/-- Only the flags that a status brings along replace what is stored. -/
theorem Cluster.Answers.keepsFlags_iff (answers : before.Answers asked reply after) :
    Occurrence.KeepsFlags ⟨before, asked, reply, after⟩ ↔ ∀ flowTest status testType place,
      Occurrence.Stores flowTest status ⟨before, asked, reply, after⟩ →
        status.flags testType ≠ [] → before.IsSet flowTest.name testType place →
          (status.flags testType)[place]? = some true := by
  constructor
  · intro keeps flowTest status testType place stores carried set
    obtain ⟨_, _, same⟩ := stores
    cases same
    obtain ⟨⟨_, impossible⟩, -⟩ | ⟨-, stored, found, rfl⟩ := answers.patchStatus
    · cases impossible
    · obtain ⟨next, foundAfter, setAfter⟩ := keeps flowTest.name testType place set
      simp only [putFlowTest, OrderedMap.get?_insert_self, Option.some.injEq] at foundAfter
      rw [← foundAfter] at setAfter
      change ((stored.status.merge status).flags testType)[place]? = some true at setAfter
      rwa [FlowTestStatus.flags_merge, if_neg (by simpa using carried)] at setAfter
  · intro replaced name testType place set
    obtain ⟨stored, found, setBefore⟩ := set
    obtain ⟨next, foundAfter, becomes⟩ := answers.becomes_of_stored found
    rcases becomes.status with same | ⟨flowTest, status, rfl, rfl, merged⟩
    · exact ⟨next, foundAfter, same ▸ setBefore⟩
    · obtain ⟨-, rfl⟩ | ⟨rfl, -⟩ := answers.patchStatus
      · exact ⟨stored, found, setBefore⟩
      · refine ⟨next, foundAfter, ?_⟩
        rw [merged, FlowTestStatus.flags_merge]
        split
        next => exact setBefore
        next carried =>
          exact replaced flowTest status testType place ⟨_, _, rfl⟩ (by simpa using carried)
            ⟨stored, found, setBefore⟩

end Storing

theorem Execution.isSet_after {α : Type} {program rest : Program controllerInterface α}
    {before after : Cluster} {occurrences : List Occurrence}
    (execution : Execution program before occurrences rest after)
    (keep : ∀ occurrence ∈ occurrences, occurrence.KeepsFlags) {name : String}
    {testType : TestType} {place : Nat} (set : before.IsSet name testType place) :
    after.IsSet name testType place := by
  induction execution with
  | idle => exact set
  | request _ _ ih =>
    obtain ⟨keepsHere, keepLater⟩ := List.forall_mem_cons.mp keep
    exact ih keepLater (keepsHere name testType place set)

namespace Verification

/-- Whether a status has the flags that a pass has found by the time of some cluster. -/
def HasFound (flowTest : FlowTest) (indexes : List Index) (start current : Cluster)
    (status : FlowTestStatus) : Prop :=
  ∃ past kind reference retired result,
    Reaches flowTest start past kind reference indexes retired result current ∧
      status = updatedStatus flowTest result.verification

theorem HasFound.getElem?_flags_iff {flowTest : FlowTest} {indexes : List Index}
    {start current : Cluster} {status : FlowTestStatus} (coherent : start.IsCoherent)
    (found : HasFound flowTest indexes start current status) (testType : TestType) (place : Nat) :
    (status.flags testType)[place]? = some true ↔
      (flowTest.status.flags testType)[place]? = some true ∨
        place < (flowTest.status.flags testType).length ∧
          ∃ kind reference slice, flowTest.pipelineKind = .ok kind ∧
            start.getFlow kind flowTest.spec.referenceFlow.namespaceName
              flowTest.spec.referenceFlow.name = some reference ∧
            slice ∈ start.listFlows kind (Selector.flowTest flowTest.name) ∧
            slice ∉ current.listFlows kind (Selector.flowTest flowTest.name) ∧
            (⟨reference, indexes⟩ : Evidence).Claims testType place slice := by
  obtain ⟨past, kind, reference, retired, result, reached, rfl⟩ := found
  have listed := fun slice member => (reached.delivered slice member).1
  -- A slice that claims something is active, so it is off the list just when it is retired.
  have retired_iff : ∀ slice, (⟨reference, indexes⟩ : Evidence).Claims testType place slice →
      (slice ∈ retired ↔ slice ∈ start.listFlows kind (Selector.flowTest flowTest.name) ∧
        slice ∉ current.listFlows kind (Selector.flowTest flowTest.name)) := by
    intro slice claims
    rw [reached.resources.mem_listFlows_iff coherent listed (isActive_of_delivered? claims.1)]
    constructor
    · exact fun member => ⟨listed slice member, fun kept => kept.2 member⟩
    · intro gone
      exact Classical.byContradiction (fun kept => gone.2 ⟨gone.1, kept⟩)
  rw [flags_updatedStatus, reached.verification,
    @Evidence.flags_recordDelivered_iff ⟨reference, indexes⟩]
  refine or_congr_right (and_congr_right (fun within => ?_))
  constructor
  · rintro ⟨slice, member, claims⟩
    obtain ⟨before, after⟩ := (retired_iff slice claims).mp member
    exact ⟨kind, reference, slice, reached.ofKind, reached.found, before, after, claims⟩
  · rintro ⟨otherKind, otherReference, slice, ofKind, found, before, after, claims⟩
    obtain rfl := Except.ok.inj (reached.ofKind.symm.trans ofKind)
    obtain rfl := Option.some.inj (reached.found.symm.trans found)
    exact ⟨slice, (retired_iff slice claims).mpr ⟨before, after⟩, claims⟩

/-- A pass stores nothing but the flags that it has found by then. -/
theorem run_stores (flowTest : FlowTest) (policy : PassPolicy) (indexes : List Index)
    (past : List Occurrence) (start : Cluster) :
    Procedure.Assures (fun past occurrence => ∀ status,
        occurrence.request = .call (.patchStatus flowTest status) →
        (∀ listed, Answered past .listIndexes listed → listed = indexes) →
          HasFound flowTest indexes start occurrence.before status)
      (fun _ _ _ => True) (run flowTest policy) past start := by
  refine assures_run (fun _ _ quiet status same => absurd same (quiet status))
    (fun _ _ => trivial) ?_ past
  intro kind reference listed retired result later middle reached
  refine assures_finish (fun _ => trivial) (fun _ _ _ _ => ⟨fun status same all => ?_, trivial⟩)
  obtain rfl := all listed reached.listing
  cases same
  exact ⟨later, kind, reference, retired, result, reached, rfl⟩

end Verification

namespace Controller

variable {flowTest : FlowTest} {indexes : List Index} {start : Cluster}

/-- Whether a reconciliation of a running flow test completes it, if it stores a status here, or
stores the flags that it has found. -/
def StoresFound (flowTest : FlowTest) (indexes : List Index) (start : Cluster)
    (past : List Occurrence) (occurrence : Occurrence) : Prop :=
  flowTest.isDeleting = false → flowTest.phase? = some .running →
    ∀ status, occurrence.request = .call (.patchStatus flowTest status) →
      (∀ listed, Answered past .listIndexes listed → listed = indexes) →
        status = .ofPhase .completed ∨
          Verification.HasFound flowTest indexes start occurrence.before status

theorem storesFound_of_notes {α : Type} {procedure : Procedure α} {reasons : List EventReason}
    {past : List Occurrence} {cluster : Cluster}
    (notes : procedure.Makes (Notes flowTest [.completed] reasons)) :
    procedure.Assures (StoresFound flowTest indexes start) (fun _ _ _ => True) past cluster := by
  refine (notes.assures past cluster).mono ?_ (fun _ _ _ => id)
  rintro _ ⟨before, asked, reply, after⟩ (notes : Notes flowTest _ _ asked) _ _ status same _
  cases notes with
  | attach => cases same
  | store listed =>
    obtain rfl := List.mem_singleton.mp listed
    cases same
    exact .inl rfl
  | publish => cases same

theorem verify_stores (configuration : Configuration) (flowTest : FlowTest) (next : Duration)
    (indexes : List Index) (past : List Occurrence) (start : Cluster) :
    (verify configuration flowTest next).Assures (StoresFound flowTest indexes start)
      (fun _ _ _ => True) past start := by
  rw [verify, Procedure.assures_bind, Procedure.assures_lift]
  exact (Verification.run_stores flowTest configuration.passPolicy indexes past start).mono
    (fun _ _ found _ _ status same all => .inr (found status same all))
    (fun outcome _ _ _ => storesFound_of_notes (afterPass_makes flowTest next outcome))

theorem reconcile_stores (configuration : Configuration) (now : Timestamp) (flowTest : FlowTest)
    (indexes : List Index) (start : Cluster) :
    (reconcile configuration now flowTest).Assures (StoresFound flowTest indexes start)
      (fun _ _ _ => True) [] start := by
  have elsewhere : ∀ procedure : Procedure Action,
      (flowTest.isDeleting = false → flowTest.phase? ≠ some .running) →
      procedure.Assures (StoresFound flowTest indexes start) (fun _ _ _ => True) [] start := by
    intro procedure other
    exact (Procedure.assures_extended procedure).mono
      (fun _ _ _ undeleted running => absurd running (other undeleted)) (fun _ _ _ _ => trivial)
  unfold reconcile
  split
  next deleting => exact elsewhere _ (by simp [deleting])
  next =>
    split
    next new => exact elsewhere _ (by simp [new])
    next created => exact elsewhere _ (by simp [created])
    next running =>
      unfold checkRunning
      split
      next => exact storesFound_of_notes (complete_makes flowTest)
      next => exact (Procedure.assures_pure _).mpr trivial
      next wait _ => exact verify_stores configuration flowTest wait indexes [] start
    next completed => exact elsewhere _ (by simp [completed])
    next error => exact elsewhere _ (by simp [error])

end Controller

/-- A status that is stored sets no flag of a flow test that has not been running yet, and it keeps
one that has from becoming so. -/
theorem Controller.Asks.status {configuration : Configuration} {now : Timestamp}
    {flowTest : FlowTest} {start before : Cluster} {past : List Occurrence} {status : FlowTestStatus}
    (asks : Asks configuration now flowTest start before past
      (.call (.patchStatus flowTest status))) :
    (flowTest.IsUpcoming ∧ ∀ testType (place : Nat), (status.flags testType)[place]? ≠ some true) ∨
      flowTest.phase? = some .running ∧
        ∃ phase, status.phase? = some phase ∧ (phase = .running ∨ phase = .completed) := by
  have bare : ∀ phase testType (place : Nat),
      ((FlowTestStatus.ofPhase phase).flags testType)[place]? ≠ some true := by
    intro phase testType place
    simp [FlowTestStatus.flags_ofPhase]
  cases asks with
  | accept _ new => exact .inl ⟨.inl new, bare _⟩
  | provision _ created asks =>
    cases asks with
    | allocate => exact .inl ⟨.inr created, FlowTestStatus.flags_allocated_ne _ _ _⟩
  | run _ created => exact .inl ⟨.inr created, bare _⟩
  | fail _ created => exact .inl ⟨.inr created, bare _⟩
  | verify _ running asks =>
    cases asks with
    | store => exact .inr ⟨running, _, flowTest.phase?_status.trans running, .inl rfl⟩
  | complete _ running => exact .inr ⟨running, _, rfl, .inr rfl⟩
  | cleanUp _ asks => cases asks

/-- Where a turn stands: no flag is set of a flow test that has not been running yet, nor of the one
that was handed over if it had not. -/
structure Turn.Stands (flowTest : FlowTest) (cluster : Cluster) : Prop where
  coherent : cluster.IsCoherent
  unmarked : cluster.IsUnmarked
  upcoming : flowTest.IsUpcoming →
    ∀ testType place, ¬ cluster.IsSet flowTest.name testType place

theorem Turn.Stands.next {configuration : Configuration} {now : Timestamp} {flowTest : FlowTest}
    {start before after : Cluster} {past : List Occurrence} {asked : ControllerRequest}
    {reply : controllerInterface.Reply asked} (stands : Turn.Stands flowTest before)
    (asks : Controller.Asks configuration now flowTest start before past asked)
    (answers : before.Answers asked reply after) : Turn.Stands flowTest after := by
  have upcoming : flowTest.IsUpcoming →
      ∀ testType place, ¬ after.IsSet flowTest.name testType place := by
    intro upcoming testType place set
    rcases answers.isSet_before set with setBefore | ⟨other, status, rfl, -, brought⟩
    · exact stands.upcoming upcoming testType place setBefore
    · obtain ⟨rfl, -⟩ := asks.patchStatus
      rcases asks.status with ⟨-, clear⟩ | ⟨running, -⟩
      · exact clear testType place brought
      · exact upcoming.phase?_ne (.inl rfl) running
  refine ⟨answers.isCoherent stands.coherent, fun name next found ahead testType place set => ?_,
    upcoming⟩
  obtain ⟨stored, foundBefore, becomes⟩ := answers.becomes_to_stored found
  rcases becomes.status with same | ⟨other, status, rfl, rfl, merged⟩
  · have aheadBefore : stored.IsUpcoming := by
      rwa [FlowTest.IsUpcoming, ← stored.phase?_status, ← same, next.phase?_status]
    exact stands.unmarked name stored foundBefore aheadBefore testType place (same ▸ set)
  · obtain ⟨rfl, -⟩ := asks.patchStatus
    -- The status keeps an upcoming test without set flags, or takes it beyond that.
    rcases asks.status with ⟨isUpcoming, -⟩ | ⟨-, phase, moved, later⟩
    · exact upcoming isUpcoming testType place ⟨next, found, set⟩
    · refine ahead.phase?_ne later ?_
      rw [← next.phase?_status, merged, FlowTestStatus.merge, moved, Option.some_or]

namespace Turn

structure Permits (turn : Turn) (past : List Occurrence) (occurrence : Occurrence) : Prop where
  before : Stands turn.flowTest occurrence.before
  after : Stands turn.flowTest occurrence.after
  lawful : occurrence.Lawful
  asks : Controller.Asks turn.configuration turn.now turn.flowTest turn.start occurrence.before past
    occurrence.request
  stores : Controller.StoresFound turn.flowTest turn.indexes turn.start past occurrence

variable {turn : Turn}

theorem assures_permitted (stands : Stands turn.flowTest turn.start) :
    turn.procedure.Assures turn.Permits (fun _ _ _ => True) [] turn.start := by
  refine (((Controller.reconcile_permits turn.configuration turn.now turn.flowTest turn.start).and
    (Controller.reconcile_stores _ _ _ turn.indexes _)).keeping
      (fun _ cluster => Stands turn.flowTest cluster) ?_ stands).mono
      (fun _ _ => id) (fun _ _ _ _ => trivial)
  rintro past occurrence stands ⟨⟨asks, -⟩, stores⟩ lawful
  have next := stands.next asks lawful
  exact ⟨⟨stands, next, lawful, asks, stores⟩, next⟩

/-- Of the flags that are replaced, those stay set that the pass of the turn has found. -/
theorem Permits.keepsFlags_iff {past : List Occurrence} {occurrence : Occurrence}
    (permitted : turn.Permits past occurrence) (coherent : turn.start.IsCoherent)
    (listing : ∀ listed, Answered past .listIndexes listed → listed = turn.indexes) :
    occurrence.KeepsFlags ↔ turn.Refinds occurrence := by
  obtain ⟨stands, -, lawful, asks, stores⟩ := permitted
  obtain ⟨before, asked, reply, after⟩ := occurrence
  have replaced_iff : ∀ status testType place,
      Occurrence.Stores turn.flowTest status ⟨before, asked, reply, after⟩ →
        status.flags testType ≠ [] → before.IsSet turn.flowTest.name testType place →
          ((status.flags testType)[place]? = some true ↔ turn.Finds before testType place) := by
    intro status testType place here carried set
    obtain ⟨_, _, same⟩ := here
    cases same
    obtain ⟨-, undeleted, -⟩ := asks.patchStatus
    -- Only a test that has been running has flags to lose, and only its pass brings flags along.
    rcases asks.status with ⟨upcoming, -⟩ | ⟨running, -⟩
    · exact absurd set (stands.upcoming upcoming testType place)
    · rcases stores undeleted running status rfl listing with rfl | found
      · exact absurd (FlowTestStatus.flags_ofPhase _ _) carried
      · exact found.getElem?_flags_iff coherent testType place
  rw [Cluster.Answers.keepsFlags_iff lawful]
  constructor
  · intro replaced status testType place here carried set
    exact (replaced_iff status testType place here carried set).mp
      (replaced turn.flowTest status testType place here carried set)
  · intro finds flowTest status testType place here carried set
    obtain rfl : flowTest = turn.flowTest := by
      obtain ⟨_, _, same⟩ := here
      cases same
      exact asks.patchStatus.1
    exact (replaced_iff status testType place here carried set).mpr
      (finds status testType place here carried set)

theorem Lawful.step (lawful : turn.Lawful) (coherent : turn.start.IsCoherent)
    (unmarked : turn.start.IsUnmarked)
    (handed : turn.start.flowTests.get? turn.flowTest.name = some turn.flowTest ∨
      turn.flowTest.phase? = some .running) :
    turn.finish.IsCoherent ∧ turn.finish.IsUnmarked ∧
      ∀ occurrence ∈ turn.occurrences, occurrence.KeepsFlags ↔ turn.Refinds occurrence := by
  have stands : Stands turn.flowTest turn.start := by
    refine ⟨coherent, unmarked, fun upcoming testType place set => ?_⟩
    rcases handed with stored | running
    · obtain ⟨found, same, set⟩ := set
      obtain rfl := Option.some.inj (stored.symm.trans same)
      exact unmarked _ _ stored upcoming testType place set
    · exact upcoming.phase?_ne (.inl rfl) running
  obtain ⟨rest, execution⟩ := lawful.execution
  have assured := assures_permitted stands
  have finish := execution.preserves (Stands turn.flowTest) assured
    (fun _ _ permitted _ => permitted.after) stands
  refine ⟨finish.coherent, finish.unmarked, fun occurrence member => ?_⟩
  obtain ⟨earlier, later, split⟩ := List.append_of_mem member
  have permitted := (execution.assured assured).1 earlier occurrence later split
  refine permitted.keepsFlags_iff coherent (fun listed answered => ?_)
  refine lawful.listing listed (answered.mono ?_)
  rw [split]
  exact List.subset_append_left _ _

end Turn

/-- A request keeps a flag set unless it replaces it and the pass of the turn has not found it: it
is not set in the version that was handed over, and no slice claims it that the pass has retired.
So flags stay set all along when none is replaced without being found once more. -/
theorem flags_kept_iff {initial final : Cluster} {turns : List Turn}
    (coherent : initial.IsCoherent) (unmarked : initial.IsUnmarked)
    (run : LaggingRun initial turns final) :
    (∀ turn ∈ turns, ∀ occurrence ∈ turn.occurrences,
      occurrence.KeepsFlags ↔ turn.Refinds occurrence) ∧
    ((∀ turn ∈ turns, ∀ occurrence ∈ turn.occurrences, turn.Refinds occurrence) →
      ∀ name testType place, initial.IsSet name testType place →
        final.IsSet name testType place) := by
  -- Each turn starts from a cluster in which no upcoming test has set flags, and leaves one.
  suffices all : (final.IsCoherent ∧ final.IsUnmarked) ∧ _ from all.2
  induction run with
  | start => exact ⟨⟨coherent, unmarked⟩, by simp, fun _ _ _ _ => id⟩
  | @turn _ turn _ lawful handed ih =>
    obtain ⟨⟨coherentHere, unmarkedHere⟩, keep_iff, kept⟩ := ih
    obtain ⟨coherentAfter, unmarkedAfter, keepHere_iff⟩ :=
      lawful.step coherentHere unmarkedHere (handed.imp_right And.left)
    refine ⟨⟨coherentAfter, unmarkedAfter⟩,
      List.forall_mem_append.mpr ⟨keep_iff, List.forall_mem_singleton.mpr keepHere_iff⟩, ?_⟩
    intro refind name testType place set
    obtain ⟨refindEarlier, refindHere⟩ := List.forall_mem_append.mp refind
    obtain ⟨_, execution⟩ := lawful.execution
    exact execution.isSet_after
      (fun occurrence member => (keepHere_iff occurrence member).mpr
        (refindHere turn List.mem_cons_self occurrence member))
      (kept refindEarlier name testType place set)

theorem LaggingRun.lawful {initial final : Cluster} {turns : List Turn}
    (run : LaggingRun initial turns final) : ∀ turn ∈ turns, turn.Lawful := by
  induction run with
  | start => simp
  | turn _ lawful _ ih => exact List.forall_mem_append.mpr ⟨ih, List.forall_mem_singleton.mpr lawful⟩

theorem LaggingRun.undisturbed {initial cluster : Cluster} {turns : List Turn}
    {flowTest : FlowTest} (run : LaggingRun initial turns cluster)
    (handed : cluster.flowTests.get? flowTest.name = some flowTest ∨
      flowTest.phase? = some .running ∧ flowTest.WasStored initial turns)
    (configuration : Configuration) (now : Timestamp) (indexes : List Index) :
    ∃ turn : Turn, turn.start = cluster ∧
      turn.finish = ((⟨cluster, .ok indexes⟩ : Surroundings).run
        (Controller.reconcile configuration now flowTest)).2.cluster ∧
      LaggingRun initial (turns ++ [turn]) turn.finish := by
  let trial : Trial := { surroundings := ⟨cluster, .ok indexes⟩ }
  obtain ⟨occurrences, execution, listedOnly⟩ :=
    Execution.of_trial trial (Controller.reconcile configuration now flowTest)
  obtain ⟨-, sameSurroundings⟩ :=
    trial.run_of_unarmed rfl (Controller.reconcile configuration now flowTest)
  let turn : Turn :=
    { configuration, now, flowTest, occurrences, indexes
      start := cluster
      finish := (trial.run
        (Controller.reconcile configuration now flowTest)).2.surroundings.cluster }
  have lawful : turn.Lawful := by
    refine ⟨⟨_, execution⟩, fun listed answered => ?_⟩
    exact (Except.ok.inj (listedOnly listed answered)).symm
  exact ⟨turn, rfl, congrArg Surroundings.cluster sameSurroundings,
    @LaggingRun.turn initial turns turn run lawful handed⟩

namespace Sample

/-- Two slices are deployed, and the first of them has delivered. -/
@[irreducible]
def afterFirstTurn : Cluster :=
  ((⟨(deployed ["first", "second"] []).cluster, .ok (counting 1 0)⟩ : Surroundings).run
    (Controller.reconcile {} ⟨100, 0⟩ (watching .running 2))).2.cluster

/-- Then the other one has delivered as well. -/
@[irreducible]
def afterSecondTurn : Cluster :=
  ((⟨afterFirstTurn, .ok (counting 1 1)⟩ : Surroundings).run
    (Controller.reconcile {} ⟨130, 0⟩ (watching .running 2))).2.cluster

theorem matchStatus_afterFirstTurn :
    (afterFirstTurn.flowTests.get? "test").map (·.status.matchStatus) = some [true, false] := by
  decide +kernel

theorem matchStatus_afterSecondTurn :
    (afterSecondTurn.flowTests.get? "test").map (·.status.matchStatus) = some [false, true] := by
  decide +kernel

theorem isSet_iff {cluster : Cluster} {flags : List Bool} {place : Nat}
    (stored : (cluster.flowTests.get? "test").map (·.status.matchStatus) = some flags) :
    cluster.IsSet "test" .matchRule place ↔ flags[place]? = some true := by
  obtain ⟨found, atName, rfl⟩ := Option.map_eq_some_iff.mp stored
  simp [Cluster.IsSet, atName, FlowTestStatus.flags]

theorem isUnmarked_deployed : (deployed ["first", "second"] []).cluster.IsUnmarked := by
  intro name stored found upcoming
  have entries : (deploying ["first", "second"] []).cluster.flowTests.entries =
      [("test", watching .running 2)] := rfl
  rw [deployment_two.gains.flowTests, OrderedMap.get?_eq_some_iff, entries, List.mem_singleton,
    Prod.mk.injEq] at found
  obtain ⟨-, rfl⟩ := found
  exact absurd rfl (upcoming.phase?_ne (.inl rfl))

/-- Two turns that are handed the flow test as it was before the first. -/
theorem lagging_turns : ∃ first second : Turn,
    LaggingRun (deployed ["first", "second"] []).cluster [first, second] second.finish ∧
      second.start.IsSet "test" .matchRule 0 ∧ ¬ second.finish.IsSet "test" .matchRule 0 := by
  have stored := deployment_two.stored_after
  obtain ⟨first, -, finishFirst, runFirst⟩ := LaggingRun.start.undisturbed
    (.inl stored) {} ⟨100, 0⟩ (counting 1 0)
  have finishFirst : first.finish = afterFirstTurn := by
    unfold afterFirstTurn
    exact finishFirst
  obtain ⟨second, startSecond, finishSecond, runSecond⟩ := runFirst.undisturbed
    (.inr ⟨rfl, .inl stored⟩) {} ⟨130, 0⟩ (counting 1 1)
  have finishSecond : second.finish = afterSecondTurn := by
    unfold afterSecondTurn
    rw [finishSecond, finishFirst]
  refine ⟨first, second, runSecond, ?_, ?_⟩
  · rw [startSecond, finishFirst]
    exact (isSet_iff matchStatus_afterFirstTurn).mpr rfl
  · rw [finishSecond, isSet_iff matchStatus_afterSecondTurn]
    exact nofun

end Sample

/-- A flag is cleared when a reconciliation is handed the running flow test as it was before the flag
was set, and another slice has delivered since. -/
theorem flag_cleared_by_lagging_version :
    ∃ (turns : List Turn) (final : Cluster),
      LaggingRun (Sample.deployed ["first", "second"] []).cluster turns final ∧
        ∃ turn ∈ turns, turn.start.IsSet "test" .matchRule 0 ∧
          ¬ turn.finish.IsSet "test" .matchRule 0 := by
  obtain ⟨first, second, run, set, cleared⟩ := Sample.lagging_turns
  exact ⟨[first, second], _, run, second, by simp, set, cleared⟩

/-- The request that clears a flag replaces it without its being found once more. -/
theorem cleared_flag_not_refound :
    let start := (Sample.deployed ["first", "second"] []).cluster
    start.IsCoherent ∧ start.IsUnmarked ∧
      ∃ (turns : List Turn) (final : Cluster), LaggingRun start turns final ∧
        ∃ turn ∈ turns, ∃ occurrence ∈ turn.occurrences,
          ¬ occurrence.KeepsFlags ∧ ¬ turn.Refinds occurrence := by
  intro start
  have coherent : start.IsCoherent :=
    (Sample.deployment_two.isVerifiable (Sample.isCoherent_deploying _ _)).coherent
  obtain ⟨first, second, run, set, cleared⟩ := Sample.lagging_turns
  refine ⟨coherent, Sample.isUnmarked_deployed, [first, second], _, run, ?_⟩
  obtain ⟨keep_iff, -⟩ := flags_kept_iff coherent Sample.isUnmarked_deployed run
  obtain ⟨_, execution⟩ := (run.lawful second (by simp)).execution
  obtain ⟨occurrence, member, clears⟩ :
      ∃ occurrence ∈ second.occurrences, ¬ occurrence.KeepsFlags := by
    refine Classical.byContradiction (fun keep => cleared ?_)
    refine execution.isSet_after (fun occurrence member => ?_) set
    exact Classical.byContradiction (fun clears => keep ⟨occurrence, member, clears⟩)
  refine ⟨second, by simp, occurrence, member, clears, ?_⟩
  rwa [← keep_iff second (by simp) occurrence member]

end FlowTesting
