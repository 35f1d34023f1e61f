import FlowTesting.Controller.Reconcile
import FlowTesting.Proofs.Cleanup
import FlowTesting.Proofs.Execution.Effects
import FlowTesting.Proofs.Provisioning

set_option autoImplicit false

/-!
# What a reconciliation asks for

Every request of a reconciliation belongs to the phase that the flow test is in, and comes
only after what it depends on. Once a new phase has been asked for, nothing but events
follow.
-/

namespace FlowTesting

/-- The time since a flow test was created; none if it does not tell when, or if that is
still to come. -/
def FlowTest.elapsed (flowTest : FlowTest) (now : Timestamp) : Duration :=
  match flowTest.metadata.creationTimestamp? with
  | none => .zero
  | some created => now.since created

theorem Timestamp.since_self (instant : Timestamp) : instant.since instant = .zero := by
  simp [Timestamp.since, Timestamp.leapSecondsSince, Duration.zero]

theorem FlowTest.since_createdAt (flowTest : FlowTest) (now : Timestamp) :
    now.since (flowTest.createdAt now) = flowTest.elapsed now := by
  unfold FlowTest.createdAt FlowTest.elapsed
  cases flowTest.metadata.creationTimestamp? with
  | none => exact now.since_self
  | some created => rfl

theorem FlowTest.phase?_status (flowTest : FlowTest) : flowTest.status.phase? = flowTest.phase? := by
  unfold FlowTest.status FlowTest.phase?
  cases flowTest.status? <;> rfl

/-- Whether the deadline of a flow test has come. -/
def FlowTest.IsDue (flowTest : FlowTest) (configuration : Configuration) (now : Timestamp) :
    Prop :=
  configuration.timeout.nanoseconds ≤ (flowTest.elapsed now).nanoseconds

/-- Whether every flag that is stored for a flow test is set. -/
def Cluster.AllPassed (cluster : Cluster) (name : String) : Prop :=
  ∃ stored, cluster.flowTests.get? name = some stored ∧ stored.status.allPassed = true

theorem Verification.StoredIn.allPassed {flowTest : FlowTest} {verification : Verification}
    {cluster : Cluster} (stored : verification.StoredIn flowTest cluster)
    (passed : verification.allPassed = true) : cluster.AllPassed flowTest.name := by
  obtain ⟨found, stored, status⟩ := stored
  refine ⟨found, stored, ?_⟩
  rw [status]
  exact passed

namespace Controller

/-- What a reconciliation of a flow test may ask for, with what has been asked before, in the
cluster as it is then. -/
inductive Asks (configuration : Configuration) (now : Timestamp) (flowTest : FlowTest)
    (start before : Cluster) (past : List Occurrence) : ControllerRequest → Prop where
  | publish (event : Event) :
      Asks configuration now flowTest start before past (.publish event)
  | addFinalizer :
      flowTest.isDeleting = false → flowTest.phase? = none →
      Asks configuration now flowTest start before past (.call (.addFinalizer flowTest finalizer))
  | accept :
      flowTest.isDeleting = false → flowTest.phase? = none →
      flowTest.hasFinalizer finalizer = true ∨ Performed past (.addFinalizer flowTest finalizer) →
      Asks configuration now flowTest start before past
        (.call (.patchStatus flowTest (.ofPhase .created)))
  | provision {asked : ControllerRequest} :
      flowTest.isDeleting = false → flowTest.phase? = some .created →
      Provisioning.Asks flowTest configuration asked →
      Asks configuration now flowTest start before past asked
  | run :
      flowTest.isDeleting = false → flowTest.phase? = some .created →
      Provisioning.Deployed flowTest configuration past →
      Asks configuration now flowTest start before past
        (.call (.patchStatus flowTest (.ofPhase .running)))
  | fail :
      flowTest.isDeleting = false → flowTest.phase? = some .created →
      Asks configuration now flowTest start before past
        (.call (.patchStatus flowTest (.ofPhase .error)))
  | verify {asked : ControllerRequest} :
      flowTest.isDeleting = false → flowTest.phase? = some .running →
      Verification.Asks flowTest past asked →
      Asks configuration now flowTest start before past asked
  | complete :
      flowTest.isDeleting = false → flowTest.phase? = some .running →
      flowTest.IsDue configuration now ∨
        (start.flowTests.get? flowTest.name = some flowTest → before.AllPassed flowTest.name) →
      Asks configuration now flowTest start before past
        (.call (.patchStatus flowTest (.ofPhase .completed)))
  | cleanUp {asked : ControllerRequest} :
      flowTest.isDeleting = true ∨ flowTest.phase? = some .completed →
      Cleanup.Asks flowTest past asked →
      Asks configuration now flowTest start before past asked
  | release :
      flowTest.isDeleting = true → Cleanup.Performed flowTest past →
      (∀ occurrence ∈ past, occurrence.Succeeded) →
      Asks configuration now flowTest start before past
        (.call (.removeFinalizer flowTest finalizer))

namespace Asks

variable {configuration : Configuration} {now : Timestamp} {flowTest other : FlowTest}
  {start before : Cluster} {past : List Occurrence} {asked : ControllerRequest}

/-- A status is stored only for the flow test itself, which is not being deleted and has its
finalizer. -/
theorem patchStatus {status : FlowTestStatus}
    (asks : Asks configuration now flowTest start before past (.call (.patchStatus other status))) :
    other = flowTest ∧ flowTest.isDeleting = false ∧
      (flowTest.phase? ≠ none ∨ flowTest.hasFinalizer finalizer = true ∨
        Performed past (.addFinalizer flowTest finalizer)) := by
  cases asks with
  | accept undeleted _ kept => exact ⟨rfl, undeleted, .inr kept⟩
  | provision undeleted created asks => cases asks; exact ⟨rfl, undeleted, .inl (by simp [created])⟩
  | run undeleted created => exact ⟨rfl, undeleted, .inl (by simp [created])⟩
  | fail undeleted created => exact ⟨rfl, undeleted, .inl (by simp [created])⟩
  | verify undeleted running asks => cases asks; exact ⟨rfl, undeleted, .inl (by simp [running])⟩
  | complete undeleted running => exact ⟨rfl, undeleted, .inl (by simp [running])⟩
  | cleanUp _ asks => cases asks

/-- Objects are made only in the phase before the test runs, for the flow test or for the
shared log aggregator. -/
theorem create {resource : Resource}
    (asks : Asks configuration now flowTest start before past (.call (.create resource))) :
    flowTest.isDeleting = false ∧ flowTest.phase? = some .created ∧
      (SharedAggregator.Part configuration resource ∨
        ∃ owner, flowTest.owner? = some owner ∧ Product flowTest owner resource) := by
  cases asks with
  | provision undeleted created asks =>
    cases asks with
    | createProduct identified product =>
      exact ⟨undeleted, created, .inr ⟨_, identified, product⟩⟩
    | createPart part => exact ⟨undeleted, created, .inl part⟩
  | verify _ _ asks => cases asks
  | cleanUp _ asks => cases asks

theorem removeFinalizer {removed : String}
    (asks : Asks configuration now flowTest start before past
      (.call (.removeFinalizer other removed))) :
    other = flowTest ∧ removed = finalizer ∧ flowTest.isDeleting = true ∧
      Cleanup.Performed flowTest past ∧ ∀ occurrence ∈ past, occurrence.Succeeded := by
  cases asks with
  | provision _ _ asks => cases asks
  | verify _ _ asks => cases asks
  | cleanUp _ asks => cases asks
  | release deleting performed succeeded => exact ⟨rfl, rfl, deleting, performed, succeeded⟩

/-- What is stored changes for no flow test but the reconciled one. -/
theorem edited (asks : Asks configuration now flowTest start before past asked)
    (edited : other.EditedBy asked) : other = flowTest := by
  cases edited with
  | patchStatus => exact asks.patchStatus.1
  | removeFinalizer => exact asks.removeFinalizer.1
  | addFinalizer =>
    cases asks with
    | addFinalizer => rfl
    | provision _ _ asks => cases asks
    | verify _ _ asks => cases asks
    | cleanUp _ asks => cases asks

/-- Only flows that have been listed by the name of the flow test are retired. -/
theorem retire {flow : PipelineFlow}
    (asks : Asks configuration now flowTest start before past asked)
    (retires : asked = .call (.deleteFlow flow) ∨ asked = .call (.deactivateFlow flow)) :
    ∃ (kind : PipelineKind) (flows : List PipelineFlow),
      Answered past (.listFlows kind (Selector.flowTest flowTest.name)) flows ∧ flow ∈ flows := by
  rcases retires with rfl | rfl
  · cases asks with
    | provision _ _ asks => cases asks
    | verify _ _ asks =>
      cases asks with
      | deleteFlow listed member => exact ⟨_, _, listed, member⟩
    | cleanUp _ asks => cases asks
  · cases asks with
    | provision _ _ asks => cases asks
    | verify _ _ asks =>
      cases asks with
      | deactivateFlow listed member => exact ⟨_, _, listed, member⟩
    | cleanUp _ asks => cases asks

/-- What is deleted by its labels is named for the flow test, or belongs to the shared log
aggregator, which nobody needs then. -/
theorem deleteLabeled {kind : Kind} {selector : String}
    (asks : Asks configuration now flowTest start before past
      (.call (.deleteLabeled kind selector))) :
    (flowTest.isDeleting = true ∨ flowTest.phase? = some .completed) ∧
      (selector = Selector.flowTest flowTest.name ∨
        selector = Selector.aggregator ∧ ∃ flowTests : List FlowTest,
          Answered past .listFlowTests flowTests ∧ Cleanup.aggregatorInUse flowTests = false) := by
  cases asks with
  | provision _ _ asks => cases asks
  | verify _ _ asks => cases asks
  | cleanUp cleansUp asks =>
    refine ⟨cleansUp, ?_⟩
    cases asks with
    | deleteProducts member => exact .inl rfl
    | deleteParts member answered unused => exact .inr ⟨rfl, _, answered, unused⟩

/-- An object is taken by a reconciliation as a listed flow, by the name of the flow test, or with
the log aggregator when nobody needs that. -/
theorem takes {key : ResourceKey} {resource : Resource}
    (asks : Asks configuration now flowTest start before past asked)
    (takes : Resource.Takes key resource asked) :
    (∃ (kind : PipelineKind) (flows : List PipelineFlow) (flow : PipelineFlow),
      Answered past (.listFlows kind (Selector.flowTest flowTest.name)) flows ∧ flow ∈ flows ∧
        (Resource.flow flow).key = key) ∨
    Selector.selects (Selector.flowTest flowTest.name) resource.labels = true ∨
    key.kind ∈ Cleanup.aggregatorKinds ∧
      Selector.selects Selector.aggregator resource.labels = true ∧
        ∃ flowTests : List FlowTest, Answered past .listFlowTests flowTests ∧
          Cleanup.aggregatorInUse flowTests = false := by
  cases takes with
  | deleteFlow here =>
    obtain ⟨kind, flows, listed, member⟩ := asks.retire (.inl rfl)
    exact .inl ⟨kind, flows, _, listed, member, here⟩
  | deactivateFlow here =>
    obtain ⟨kind, flows, listed, member⟩ := asks.retire (.inr rfl)
    exact .inl ⟨kind, flows, _, listed, member, here⟩
  | deleteLabeled selected =>
    obtain ⟨sameKind, selected⟩ := (Bool.and_eq_true _ _).mp selected
    cases asks with
    | provision _ _ asks => cases asks
    | verify _ _ asks => cases asks
    | cleanUp _ asks =>
      cases asks with
      | deleteProducts => exact .inr (.inl selected)
      | deleteParts member answered unused =>
        exact .inr (.inr ⟨beq_iff_eq.mp sameKind ▸ member, selected, _, answered, unused⟩)

theorem listIndexes (asks : Asks configuration now flowTest start before past (.call .listIndexes)) :
    flowTest.isDeleting = false ∧ flowTest.phase? = some .running := by
  cases asks with
  | provision _ _ asks => cases asks
  | verify undeleted running => exact ⟨undeleted, running⟩
  | cleanUp _ asks => cases asks

theorem not_cleaningUp {status : FlowTestStatus}
    (asks : Asks configuration now flowTest start before past
      (.call (.patchStatus other status))) :
    ¬ (flowTest.isDeleting = true ∨ flowTest.phase? = some .completed) := by
  cases asks with
  | accept undeleted new => simp [undeleted, new]
  | provision undeleted created => simp [undeleted, created]
  | run undeleted created => simp [undeleted, created]
  | fail undeleted created => simp [undeleted, created]
  | verify undeleted running => simp [undeleted, running]
  | complete undeleted running => simp [undeleted, running]
  | cleanUp _ asks => cases asks

end Asks

/-- Whether a request sets a phase that the flow test was not in. -/
def Concludes (flowTest : FlowTest) (asked : ControllerRequest) : Prop :=
  ∃ phase, asked = .call (.patchStatus flowTest (.ofPhase phase)) ∧ flowTest.phase? ≠ some phase

/-- Whether a new phase has been asked for. -/
def Concluded (flowTest : FlowTest) (past : List Occurrence) : Prop :=
  ∃ occurrence ∈ past, Concludes flowTest occurrence.request

/-- What may occur in a reconciliation. -/
def Permits (configuration : Configuration) (now : Timestamp) (flowTest : FlowTest)
    (start : Cluster) (past : List Occurrence) (occurrence : Occurrence) : Prop :=
  Asks configuration now flowTest start occurrence.before past occurrence.request ∧
    (Concluded flowTest past → ∃ event, occurrence.request = .publish event)

variable {configuration : Configuration} {now : Timestamp} {flowTest : FlowTest}
  {start cluster : Cluster} {past : List Occurrence}

theorem not_concluded_append {occurrence : Occurrence} (undecided : ¬ Concluded flowTest past)
    (inconclusive : ¬ Concludes flowTest occurrence.request) :
    ¬ Concluded flowTest (past ++ [occurrence]) := by
  intro concluded
  obtain ⟨other, member, concludes⟩ := concluded
  rcases List.mem_append.mp member with earlier | last
  · exact undecided ⟨other, earlier, concludes⟩
  · exact inconclusive (List.mem_singleton.mp last ▸ concludes)

theorem not_concludes {asked : ControllerRequest}
    (other : ∀ status, asked ≠ .call (.patchStatus flowTest status)) :
    ¬ Concludes flowTest asked := by
  intro ⟨_, same, _⟩
  exact other _ same

theorem permits_event (event : Event) (undecided : ¬ Concluded flowTest past) :
    Permits configuration now flowTest start past ⟨cluster, .publish event, (), cluster⟩ ∧
      ¬ Concluded flowTest (past ++ [⟨cluster, .publish event, (), cluster⟩]) :=
  ⟨⟨.publish event, fun _ => ⟨event, rfl⟩⟩,
    not_concluded_append undecided (not_concludes (by simp))⟩

theorem permits_announcing {α : Type} {procedure : Procedure α}
    (announces : procedure.Makes (fun asked => ∃ event, asked = .publish event)) :
    procedure.Assures (Permits configuration now flowTest start) (fun _ _ _ => True) past
      cluster := by
  refine (announces.assures past cluster).mono ?_ (fun _ _ _ => id)
  rintro past ⟨before, _, reply, after⟩ ⟨event, rfl⟩
  exact ⟨.publish event, fun _ => ⟨event, rfl⟩⟩

theorem permits_announcing_keeping {α : Type} {procedure : Procedure α}
    (announces : procedure.Makes (fun asked => ∃ event, asked = .publish event))
    (holds : Cluster → Prop)
    (undecided : ¬ Concluded flowTest past) (held : holds cluster) :
    procedure.Assures (Permits configuration now flowTest start)
      (fun _ past cluster => ¬ Concluded flowTest past ∧ holds cluster) past cluster := by
  refine announces.keeping
    (fun past cluster => ¬ Concluded flowTest past ∧ holds cluster) ?_
    ⟨undecided, held⟩
  rintro past ⟨before, _, reply, after⟩ ⟨undecided, held⟩ ⟨event, rfl⟩ (rfl : after = before)
  obtain ⟨permitted, undecidedAfter⟩ := permits_event event undecided
  exact ⟨permitted, undecidedAfter, held⟩

/-- Work that asks for no new phase leaves the phase to be asked for. -/
theorem permits_working {α : Type} {procedure : Procedure α}
    {asks : List Occurrence → ControllerRequest → Prop}
    (assured : procedure.Assures (fun past occurrence => asks past occurrence.request)
      (fun _ _ _ => True) past cluster)
    (permits : ∀ before past asked, asks past asked →
      Asks configuration now flowTest start before past asked)
    (inconclusive : ∀ past asked, asks past asked → ¬ Concludes flowTest asked)
    (undecided : ¬ Concluded flowTest past) :
    procedure.Assures (Permits configuration now flowTest start)
      (fun _ past _ => ¬ Concluded flowTest past) past cluster := by
  refine (assured.keeping (fun past _ => ¬ Concluded flowTest past) ?_ undecided).mono
    (fun _ _ => id) (fun _ _ _ => And.right)
  exact fun past occurrence undecided asked _ =>
    ⟨⟨permits _ _ _ asked, fun concluded => absurd concluded undecided⟩,
      not_concluded_append undecided (inconclusive _ _ asked)⟩

/-- A new phase is asked for last, up to events. -/
theorem permits_concluding {α : Type} {phase : FlowTestPhase} {next : Unit → Procedure α}
    (asks : Asks configuration now flowTest start cluster past
      (.call (.patchStatus flowTest (.ofPhase phase))))
    (undecided : ¬ Concluded flowTest past)
    (announces : ∀ answer, (next answer).Makes (fun asked => ∃ event, asked = .publish event)) :
    (Call.make (.patchStatus flowTest (.ofPhase phase)) >>= next).Assures
      (Permits configuration now flowTest start) (fun _ _ _ => True) past cluster := by
  refine (Procedure.assures_bind _ _).mpr
    ((Procedure.assures_make (.patchStatus flowTest (.ofPhase phase))).mpr
      (fun outcome after _ => ⟨⟨asks, fun concluded => absurd concluded undecided⟩, ?_⟩))
  cases outcome with
  | error failure => trivial
  | ok answer => exact permits_announcing (announces answer)

theorem publish_makes {flowTest : FlowTest} {type : EventType} {reason : EventReason}
    {action : EventAction} {note : String} :
    (publish flowTest type reason action note).Makes (fun asked => ∃ event, asked = .publish event) :=
  Procedure.makes_publish ⟨_, rfl⟩

/-- The requests that note how far a flow test has come: one of some phases is stored for it, its
finalizer is attached along with the first phase, and an event is published for one of some
reasons. -/
inductive Notes (flowTest : FlowTest) (phases : List FlowTestPhase) (reasons : List EventReason) :
    ControllerRequest → Prop where
  | attach : .created ∈ phases →
      Notes flowTest phases reasons (.call (.addFinalizer flowTest finalizer))
  | store {phase : FlowTestPhase} : phase ∈ phases →
      Notes flowTest phases reasons (.call (.patchStatus flowTest (.ofPhase phase)))
  | publish {event : Event} : event.reason ∈ reasons →
      Notes flowTest phases reasons (.publish event)

section Notes

variable {phases morePhases : List FlowTestPhase} {reasons moreReasons : List EventReason}
  {asked : ControllerRequest}

theorem Notes.mono (notes : Notes flowTest phases reasons asked)
    (stores : phases ⊆ morePhases) (announces : reasons ⊆ moreReasons) :
    Notes flowTest morePhases moreReasons asked := by
  cases notes with
  | attach first => exact .attach (stores first)
  | store listed => exact .store (stores listed)
  | publish listed => exact .publish (announces listed)

theorem Notes.exists_event (notes : Notes flowTest [] reasons asked) :
    ∃ event, asked = .publish event := by
  cases notes with
  | attach first => cases first
  | store listed => cases listed
  | publish => exact ⟨_, rfl⟩

theorem publish_notes {type : EventType} {reason : EventReason} {action : EventAction}
    {note : String} (listed : reason ∈ reasons) :
    (publish flowTest type reason action note).Makes (Notes flowTest phases reasons) :=
  Procedure.makes_publish (.publish listed)

theorem announce_notes {α : Type} {value : α} {type : EventType} {reason : EventReason}
    {action : EventAction} {note : String} (listed : reason ∈ reasons) :
    Procedure.Makes (Notes flowTest phases reasons) (do
      publish flowTest type reason action note
      return value) :=
  (publish_notes listed).bind (fun _ => Procedure.makes_pure value)

theorem store_notes {phase : FlowTestPhase} (listed : phase ∈ phases) :
    (Call.make (.patchStatus flowTest (.ofPhase phase))).Makes (Notes flowTest phases reasons) :=
  Procedure.makes_make (.store listed)

end Notes

theorem markCreated_makes (flowTest : FlowTest) :
    (markCreated flowTest).Makes (Notes flowTest [.created] [.created]) := by
  have accepts : Procedure.Makes (Notes flowTest [.created] [.created]) (do
      Call.make (.patchStatus flowTest (.ofPhase .created))
      publish flowTest .normal .created .reconcile "flow test accepted"
      return Action.requeue .zero) :=
    (store_notes (by simp)).bind (fun _ => announce_notes (by simp))
  rw [markCreated]
  split
  next => exact (Procedure.makes_make (.attach (by simp))).bind (fun _ => accepts)
  next => exact accepts

theorem afterProvisioning_makes (configuration : Configuration) (now : Timestamp)
    (flowTest : FlowTest) (outcome : Except Failure FlowTestStatus) :
    Procedure.Makes (Notes flowTest [.running, .error] [.provisioned, .provisionFailed])
      (match outcome with
        | .ok status => do
          Call.make (.patchStatus flowTest (.ofPhase .running))
          publish flowTest .normal .provisioned .provision
            s!"deployed {status.matchStatus.length} match and {status.filterStatus.length} filter slices"
          return .requeue (waitAfterProvisioning
            (runningStep (flowTest.createdAt now) now status configuration))
        | .error failure => do
          publish flowTest .warning .provisionFailed .provision failure.message
          Call.make (.patchStatus flowTest (.ofPhase .error))
          return Action.awaitChange) := by
  cases outcome with
  | ok status =>
    exact (store_notes (by simp)).bind (fun _ => announce_notes (by simp))
  | error failure =>
    exact (publish_notes (by simp)).bind (fun _ =>
      (store_notes (by simp)).bind (fun _ => Procedure.makes_pure _))

theorem complete_makes (flowTest : FlowTest) :
    (complete flowTest).Makes (Notes flowTest [.completed] [.completed]) :=
  (store_notes (by simp)).bind (fun _ => announce_notes (by simp))

theorem announcePassed_makes (flowTest : FlowTest) (slices : List String) :
    (announcePassed flowTest slices).Makes (Notes flowTest [] [.slicePassed]) := by
  induction slices with
  | nil => exact Procedure.makes_pure _
  | cons slice rest ih => exact (publish_notes (by simp)).bind (fun _ => ih)

theorem afterPass_makes (flowTest : FlowTest) (next : Duration)
    (outcome : Except Failure Verification) :
    Procedure.Makes (Notes flowTest [.completed] [.slicePassed, .completed, .verificationFailed])
      (match outcome with
        | .ok verification => do
          announcePassed flowTest verification.passed
          if verification.allPassed then complete flowTest else return .requeue next
        | .error failure => do
          publish flowTest .warning .verificationFailed .verify failure.message
          return .requeue next) := by
  cases outcome with
  | ok verification =>
    refine ((announcePassed_makes flowTest _).mono
      (fun _ notes => notes.mono (by simp) (by simp))).bind (fun _ => ?_)
    split
    next => exact (complete_makes flowTest).mono (fun _ notes => notes.mono (by simp) (by simp))
    next => exact Procedure.makes_pure _
  | error failure => exact announce_notes (by simp)

theorem afterCleanup_makes (flowTest : FlowTest) (outcome : Except Failure Cleanup.Report) :
    Procedure.Makes (Notes flowTest [] [.cleanedUp, .cleanupFailed])
      (match outcome with
        | .ok report => do
          if report.changed then
            publish flowTest .normal .cleanedUp .cleanup (cleanupNote report)
          return true
        | .error failure => do
          publish flowTest .warning .cleanupFailed .cleanup failure.message
          return false) := by
  cases outcome with
  | ok report =>
    simp only []
    split
    next => exact announce_notes (by simp)
    next => exact Procedure.makes_pure _
  | error failure => exact announce_notes (by simp)

theorem markCreated_permits (undeleted : flowTest.isDeleting = false)
    (new : flowTest.phase? = none) (undecided : ¬ Concluded flowTest past) :
    (markCreated flowTest).Assures (Permits configuration now flowTest start) (fun _ _ _ => True)
      past cluster := by
  have announces : ∀ _ : Unit, (do
      publish flowTest .normal .created .reconcile "flow test accepted"
      return Action.requeue .zero : Procedure Action).Makes
        (fun asked => ∃ event, asked = .publish event) :=
    fun _ => publish_makes.bind (fun _ => Procedure.makes_pure _)
  cases kept : flowTest.hasFinalizer finalizer with
  | true =>
    simp only [markCreated, kept]
    exact permits_concluding (.accept undeleted new (.inl kept)) undecided announces
  | false =>
    simp only [markCreated, kept]
    refine (Procedure.assures_bind _ _).mpr
      ((Procedure.assures_make (.addFinalizer flowTest finalizer)).mpr (fun outcome after _ =>
        ⟨⟨.addFinalizer undeleted new, fun concluded => absurd concluded undecided⟩, ?_⟩))
    cases outcome with
    | error failure => trivial
    | ok answer =>
      exact permits_concluding (.accept undeleted new (.inr ⟨answer, .last _ _ _ _⟩))
        (not_concluded_append undecided (not_concludes (by simp))) announces

theorem not_concludes_of_provisioning {asked : ControllerRequest}
    (created : flowTest.phase? = some .created)
    (asks : Provisioning.Asks flowTest configuration asked) : ¬ Concludes flowTest asked := by
  intro concludes
  obtain ⟨phase, rfl, new⟩ := concludes
  generalize same : FlowTestStatus.ofPhase phase = status at asks
  cases asks
  exact new (created.trans (congrArg FlowTestStatus.phase? same).symm)

theorem not_concludes_of_verification {asked : ControllerRequest}
    (asks : Verification.Asks flowTest past asked) : ¬ Concludes flowTest asked := by
  intro concludes
  obtain ⟨phase, rfl, new⟩ := concludes
  generalize same : FlowTestStatus.ofPhase phase = status at asks
  cases asks
  exact new (flowTest.phase?_status.symm.trans (congrArg FlowTestStatus.phase? same).symm)

theorem not_concludes_of_cleanup {asked : ControllerRequest}
    (asks : Cleanup.Asks flowTest past asked) : ¬ Concludes flowTest asked := by
  refine not_concludes ?_
  intro status same
  subst same
  cases asks

theorem provision_permits (undeleted : flowTest.isDeleting = false)
    (created : flowTest.phase? = some .created) (undecided : ¬ Concluded flowTest past) :
    (provision configuration now flowTest).Assures (Permits configuration now flowTest start)
      (fun _ _ _ => True) past cluster := by
  have working : (Provisioning.run flowTest configuration).Assures
      (Permits configuration now flowTest start) (fun _ past _ => ¬ Concluded flowTest past)
      past cluster :=
    permits_working ((Provisioning.run_makes flowTest configuration).assures past cluster)
      (fun _ _ _ asks => .provision undeleted created asks)
      (fun _ _ asks => not_concludes_of_provisioning created asks) undecided
  rw [provision, Procedure.assures_bind, Procedure.assures_lift]
  refine (working.yielding (Provisioning.run_yields flowTest configuration past cluster)).mono
    (fun _ _ => id) ?_
  intro outcome past cluster worked
  obtain ⟨undecided, deployed⟩ := worked
  cases outcome with
  | ok status =>
    exact permits_concluding (.run undeleted created (deployed status rfl)) undecided
      (fun _ => publish_makes.bind (fun _ => Procedure.makes_pure _))
  | error failure =>
    obtain ⟨permitted, undecidedAfter⟩ := permits_event _ undecided
    exact (Procedure.assures_bind _ _).mpr ((Procedure.assures_publish _).mpr ⟨permitted,
      permits_concluding (.fail undeleted created) undecidedAfter
        (fun _ => Procedure.makes_pure _)⟩)

theorem complete_permits (undeleted : flowTest.isDeleting = false)
    (running : flowTest.phase? = some .running) (undecided : ¬ Concluded flowTest past)
    (ready : flowTest.IsDue configuration now ∨
      (start.flowTests.get? flowTest.name = some flowTest → cluster.AllPassed flowTest.name)) :
    (complete flowTest).Assures (Permits configuration now flowTest start) (fun _ _ _ => True)
      past cluster :=
  permits_concluding (.complete undeleted running ready) undecided
    (fun _ => publish_makes.bind (fun _ => Procedure.makes_pure _))

theorem verify_permits (undeleted : flowTest.isDeleting = false)
    (running : flowTest.phase? = some .running) (undecided : ¬ Concluded flowTest past)
    (next : Duration) :
    (verify configuration flowTest next).Assures (Permits configuration now flowTest cluster)
      (fun _ _ _ => True) past cluster := by
  have working : (Verification.run flowTest configuration.passPolicy).Assures
      (Permits configuration now flowTest cluster) (fun _ past _ => ¬ Concluded flowTest past)
      past cluster :=
    permits_working (Verification.run_asks flowTest configuration.passPolicy past cluster)
      (fun _ _ _ asks => .verify undeleted running asks)
      (fun _ _ asks => not_concludes_of_verification asks) undecided
  rw [verify, Procedure.assures_bind, Procedure.assures_lift]
  refine (working.yielding
    (Verification.run_yields flowTest configuration.passPolicy past cluster)).mono
    (fun _ _ => id) ?_
  intro outcome past after worked
  obtain ⟨undecided, stored⟩ := worked
  cases outcome with
  | ok verification =>
    refine (Procedure.assures_bind _ _).mpr ((permits_announcing_keeping
      ((announcePassed_makes flowTest verification.passed).mono (fun _ => Notes.exists_event))
      (fun after => cluster.flowTests.get? flowTest.name = some flowTest →
        verification.StoredIn flowTest after) undecided
      (stored verification rfl)).mono (fun _ _ => id) ?_)
    intro outcome past after announced
    obtain ⟨undecided, stored⟩ := announced
    cases outcome with
    | error failure => trivial
    | ok _ =>
      simp only [Procedure.Between]
      split
      next passed =>
        exact complete_permits undeleted running undecided
          (.inr (fun same => (stored same).allPassed passed))
      next => trivial
  | error failure =>
    exact permits_announcing (publish_makes.bind (fun _ => Procedure.makes_pure _))

theorem checkRunning_permits (undeleted : flowTest.isDeleting = false)
    (running : flowTest.phase? = some .running) (undecided : ¬ Concluded flowTest past) :
    (checkRunning configuration now flowTest).Assures
      (Permits configuration now flowTest cluster) (fun _ _ _ => True) past cluster := by
  unfold checkRunning
  split
  next finished =>
    refine complete_permits undeleted running undecided ?_
    simp only [runningStep, FlowTest.since_createdAt] at finished
    split at finished
    next due =>
      rw [Bool.or_eq_true, decide_eq_true_eq] at due
      exact due.imp id (fun passed stored => ⟨flowTest, stored, passed⟩)
    next => split at finished <;> cases finished
  next wait warmingUp => trivial
  next next verifying => exact verify_permits undeleted running undecided next

/-- Cleaning up asks for no new phase, and it works only if all of the cleanup does. -/
theorem cleanUp_permits (cleansUp : flowTest.isDeleting = true ∨ flowTest.phase? = some .completed)
    (undecided : ¬ Concluded flowTest past) :
    (cleanUp flowTest).Assures (Permits configuration now flowTest start)
      (fun outcome later _ => ¬ Concluded flowTest later ∧ (outcome = .ok true →
        Cleanup.Performed flowTest later ∧
          ∀ occurrence ∈ later, occurrence ∈ past ∨ occurrence.Succeeded)) past cluster := by
  have working : (Cleanup.run flowTest).Assures
      (Permits configuration now flowTest start) (fun _ past _ => ¬ Concluded flowTest past)
      past cluster :=
    permits_working (Cleanup.run_asks flowTest past cluster)
      (fun _ _ _ asks => .cleanUp cleansUp asks)
      (fun _ _ asks => not_concludes_of_cleanup asks) undecided
  rw [cleanUp, Procedure.assures_bind, Procedure.assures_lift]
  refine (working.yielding (Cleanup.run_yields flowTest past cluster)).mono (fun _ _ => id) ?_
  intro outcome later after worked
  obtain ⟨undecided, finishes⟩ := worked
  cases outcome with
  | error failure =>
    obtain ⟨permitted, undecidedAfter⟩ := permits_event _ undecided
    exact (Procedure.assures_bind _ _).mpr ((Procedure.assures_publish _).mpr
      ⟨permitted, undecidedAfter, nofun⟩)
  | ok report =>
    have finished := finishes report rfl
    simp only [Procedure.Between]
    cases changed : report.changed with
    | false =>
      simp only [Bool.false_eq_true, ↓reduceIte]
      exact ⟨undecided, fun _ => ⟨finished.performed, finished.succeeded⟩⟩
    | true =>
      simp only [↓reduceIte]
      obtain ⟨permitted, undecidedAfter⟩ := permits_event _ undecided
      refine (Procedure.assures_bind _ _).mpr ((Procedure.assures_publish _).mpr
        ⟨permitted, undecidedAfter, fun _ => ⟨?_, ?_⟩⟩)
      · exact finished.performed.mono (List.subset_append_left _ _)
      · intro occurrence member
        rcases List.mem_append.mp member with before | last
        · exact finished.succeeded occurrence before
        · exact .inr (List.mem_singleton.mp last ▸ trivial)

theorem cleanUpCompleted_permits (completed : flowTest.phase? = some .completed)
    (undecided : ¬ Concluded flowTest past) :
    (cleanUpCompleted configuration flowTest).Assures
      (Permits configuration now flowTest start) (fun _ _ _ => True) past cluster := by
  rw [cleanUpCompleted, Procedure.assures_bind]
  refine (cleanUp_permits (.inr completed) undecided).mono (fun _ _ => id) ?_
  rintro (failure | works) later after -
  · trivial
  · cases works <;> trivial

theorem handleDeletion_permits (deleting : flowTest.isDeleting = true) :
    (handleDeletion configuration flowTest).Assures (Permits configuration now flowTest start)
      (fun _ _ _ => True) [] cluster := by
  have undecided : ¬ Concluded flowTest [] := by simp [Concluded]
  rw [handleDeletion]
  split
  next => trivial
  next =>
    refine (Procedure.assures_bind _ _).mpr
      ((cleanUp_permits (.inl deleting) undecided).mono (fun _ _ => id) ?_)
    rintro (failure | works) later after ⟨undecided, finished⟩
    · trivial
    · cases works with
      | false => trivial
      | true =>
        obtain ⟨performed, succeeded⟩ := finished rfl
        refine (Procedure.assures_bind _ _).mpr
          ((Procedure.assures_make (.removeFinalizer flowTest finalizer)).mpr
            (fun outcome last _ => ⟨⟨.release deleting performed (fun occurrence member => ?_),
              fun concluded => absurd concluded undecided⟩, ?_⟩))
        · exact (succeeded occurrence member).resolve_left nofun
        · cases outcome <;> trivial

/-- What every reconciliation does, wherever it stops. -/
theorem reconcile_permits (configuration : Configuration) (now : Timestamp) (flowTest : FlowTest)
    (start : Cluster) :
    (reconcile configuration now flowTest).Assures (Permits configuration now flowTest start)
      (fun _ _ _ => True) [] start := by
  have undecided : ¬ Concluded flowTest [] := by simp [Concluded]
  unfold reconcile
  split
  next deleting => exact handleDeletion_permits deleting
  next kept =>
    have undeleted : flowTest.isDeleting = false := by simpa using kept
    split
    next new => exact markCreated_permits undeleted new undecided
    next created => exact provision_permits undeleted created undecided
    next running => exact checkRunning_permits undeleted running undecided
    next completed => exact cleanUpCompleted_permits completed undecided
    next => trivial

end Controller

end FlowTesting
