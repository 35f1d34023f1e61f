import FlowTesting.Proofs.LaggingRuns
import Mathlib.Data.List.Chain

set_option autoImplicit false

/-!
# Runs with outdated versions

A reconciliation decides on the phase of the version that it was handed, and writes to what is
stored. Handed a version from before a flow test was running, it takes the flow test back with the
first status that it stores, or into error; with any other version the flow test stays underway.
-/

namespace FlowTesting

/-- Whether a flow test is stored as running or completed. -/
def Cluster.IsUnderway (cluster : Cluster) (name : String) : Prop :=
  cluster.phase? name = some .running ∨ cluster.phase? name = some .completed

/-- Whether every flow test that is underway in a cluster is so in a later one. -/
def Cluster.StaysUnderway (earlier later : Cluster) : Prop :=
  ∀ name, earlier.IsUnderway name → later.IsUnderway name

instance : Trans Cluster.StaysUnderway Cluster.StaysUnderway Cluster.StaysUnderway where
  trans first second name := second name ∘ first name

/-- Whether a flow test goes back from running or completed to the phase before, or into error. -/
def Occurrence.Regresses (occurrence : Occurrence) (name : String) : Prop :=
  occurrence.before.IsUnderway name ∧
    (occurrence.after.phase? name = some .created ∨ occurrence.after.phase? name = some .error)

namespace Reconciliation

/-- Whether a reconciliation was handed a version from before the flow test was running, which by
then it is, or has been. -/
structure IsOutdated (reconciliation : Reconciliation) : Prop where
  undeleted : reconciliation.flowTest.isDeleting = false
  upcoming : reconciliation.flowTest.IsUpcoming
  underway : reconciliation.start.IsUnderway reconciliation.flowTest.name

def StoresStatus (reconciliation : Reconciliation) : Prop :=
  ∃ occurrence ∈ reconciliation.occurrences, ∃ status,
    occurrence.Stores reconciliation.flowTest status

/-- Whether a reconciliation has come to its end and the cluster has answered all of its calls. -/
structure IsUndisturbed (reconciliation : Reconciliation) : Prop where
  done : ∃ outcome, Execution reconciliation.procedure.run reconciliation.start
    reconciliation.occurrences (.done outcome) reconciliation.finish
  answered : ∀ occurrence ∈ reconciliation.occurrences, occurrence.IsAnswered

end Reconciliation

/-- The runs in which a reconciliation may be handed any version of a flow test that has been held
so far, the stored one included: their reconciliations, the clusters that have been held, and the
last of these. -/
inductive DelayedRun (initial : Cluster) :
    List Reconciliation → List Cluster → Cluster → Prop where
  | start : DelayedRun initial [] [initial] initial
  | reconciled {reconciliations : List Reconciliation} {held : List Cluster}
      {reconciliation : Reconciliation} :
      DelayedRun initial reconciliations held reconciliation.start →
      (∃ cluster ∈ held, cluster.flowTests.get? reconciliation.flowTest.name =
        some reconciliation.flowTest) →
      (∃ rest, Execution reconciliation.procedure.run reconciliation.start
        reconciliation.occurrences rest reconciliation.finish) →
      DelayedRun initial (reconciliations ++ [reconciliation])
        (held ++ reconciliation.occurrences.map (·.after)) reconciliation.finish
  | acted {reconciliations : List Reconciliation} {held : List Cluster} {cluster : Cluster}
      {action : UserAction} :
      DelayedRun initial reconciliations held cluster → action.IsAllowed cluster →
      DelayedRun initial reconciliations (held ++ [action.apply cluster]) (action.apply cluster)

section Phases

variable {configuration : Configuration} {now : Timestamp} {flowTest : FlowTest}
  {start before after : Cluster} {past : List Occurrence} {asked : ControllerRequest}
  {reply : controllerInterface.Reply asked}

theorem Cluster.IsUnderway.not_back {cluster : Cluster} {name : String}
    (underway : cluster.IsUnderway name) :
    ¬ (cluster.phase? name = some .created ∨ cluster.phase? name = some .error) := by
  rcases underway with running | completed <;> simp [*]

theorem Cluster.IsUnderway.stored {cluster : Cluster} {name : String}
    (underway : cluster.IsUnderway name) :
    ∃ stored, cluster.flowTests.get? name = some stored := by
  unfold Cluster.IsUnderway Cluster.phase? at underway
  cases found : cluster.flowTests.get? name with
  | none => simp [found] at underway
  | some stored => exact ⟨stored, rfl⟩

theorem UserAction.staysUnderway_apply {cluster : Cluster} {action : UserAction}
    (allowed : action.IsAllowed cluster) : cluster.StaysUnderway (action.apply cluster) :=
  fun _ underway => underway.imp (phase?_apply allowed) (phase?_apply allowed)

theorem Occurrence.Stores.request_eq {status : FlowTestStatus} {occurrence : Occurrence}
    (stores : occurrence.Stores flowTest status) :
    occurrence.request = .call (.patchStatus flowTest status) := by
  obtain ⟨_, _, rfl⟩ := stores
  rfl

theorem Occurrence.Stores.phase?_after {status : FlowTestStatus} {phase : FlowTestPhase}
    {occurrence : Occurrence} (stores : occurrence.Stores flowTest status)
    (lawful : occurrence.Lawful) (sets : status.phase? = some phase) :
    occurrence.after.phase? flowTest.name = some phase := by
  obtain ⟨before, after, rfl⟩ := stores
  have answers : before.Answers (.call (.patchStatus flowTest status)) (Except.ok ()) after :=
    lawful
  obtain ⟨⟨_, impossible⟩, -⟩ | ⟨-, stored, -, rfl⟩ := answers.patchStatus
  · cases impossible
  · simp only [Cluster.phase?, Cluster.putFlowTest, OrderedMap.get?_insert_self, Option.bind_some]
    change status.phase?.or stored.status.phase? = some phase
    rw [sets, Option.some_or]

namespace Controller.Asks

/-- A phase changes only where a status is stored for the flow test itself. -/
theorem quiet_or_stores (asks : Asks configuration now flowTest start before past asked)
    (answers : before.Answers asked reply after) :
    Occurrence.Quiet ⟨before, asked, reply, after⟩ ∨
      (∃ status, Occurrence.Stores flowTest status ⟨before, asked, reply, after⟩) ∧
        ∀ name, name ≠ flowTest.name → after.phase? name = before.phase? name := by
  by_cases patches : ∃ status, asked = .call (.patchStatus flowTest status)
  · obtain ⟨status, rfl⟩ := patches
    have others : ∀ name, name ≠ flowTest.name → after.phase? name = before.phase? name :=
      fun name other => answers.phase_eq
        (fun _ _ same named => absurd (by cases same; exact named.symm) other)
    obtain ⟨-, rfl⟩ | ⟨rfl, -⟩ := answers.patchStatus
    · exact .inl (fun _ => rfl)
    · exact .inr ⟨⟨status, _, _, rfl⟩, others⟩
  · refine .inl (fun name => answers.phase_eq (fun other status same _ => absurd ?_ patches))
    subst same
    exact ⟨status, by rw [asks.patchStatus.1]⟩

theorem phase_of_upcoming {status : FlowTestStatus}
    (asks : Asks configuration now flowTest start before past
      (.call (.patchStatus flowTest status)))
    (upcoming : flowTest.IsUpcoming) :
    status.phase? = some .created ∨ status = .ofPhase .error ∨
      flowTest.phase? = some .created ∧ status = .ofPhase .running := by
  cases asks with
  | accept => exact .inl rfl
  | provision _ _ asks => cases asks; exact .inl rfl
  | run _ created => exact .inr (.inr ⟨created, rfl⟩)
  | fail => exact .inr (.inl rfl)
  | verify _ running => exact absurd running (upcoming.phase?_ne (.inl rfl))
  | complete _ running => exact absurd running (upcoming.phase?_ne (.inl rfl))
  | cleanUp _ asks => cases asks

theorem of_stores {status : FlowTestStatus}
    (asks : Asks configuration now flowTest start before past asked)
    (stores : Occurrence.Stores flowTest status ⟨before, asked, reply, after⟩) :
    Asks configuration now flowTest start before past (.call (.patchStatus flowTest status)) :=
  stores.request_eq ▸ asks

/-- A flow test whose status has been stored is underway, or back if the version that was handed
over had not been running yet. -/
theorem phase?_after {status : FlowTestStatus}
    (asks : Asks configuration now flowTest start before past asked)
    (answers : before.Answers asked reply after)
    (stores : Occurrence.Stores flowTest status ⟨before, asked, reply, after⟩) :
    after.IsUnderway flowTest.name ∨ flowTest.IsUpcoming ∧
      (after.phase? flowTest.name = some .created ∨
        after.phase? flowTest.name = some .error) := by
  have reaches : ∀ phase, status.phase? = some phase → after.phase? flowTest.name = some phase :=
    fun _ sets => stores.phase?_after answers sets
  have patches := asks.of_stores stores
  rcases patches.status with ⟨upcoming, -⟩ | ⟨-, phase, sets, rfl | rfl⟩
  · rcases patches.phase_of_upcoming upcoming with created | rfl | ⟨-, rfl⟩
    · exact .inr ⟨upcoming, .inl (reaches _ created)⟩
    · exact .inr ⟨upcoming, .inr (reaches _ rfl)⟩
    · exact .inl (.inl (reaches _ rfl))
  · exact .inl (.inl (reaches _ sets))
  · exact .inl (.inr (reaches _ sets))

theorem staysUnderway_iff (asks : Asks configuration now flowTest start before past asked)
    (answers : before.Answers asked reply after) :
    before.StaysUnderway after ↔
      ∀ name, ¬ Occurrence.Regresses ⟨before, asked, reply, after⟩ name := by
  constructor
  · exact fun stays name regresses => (stays name regresses.1).not_back regresses.2
  · intro none name underway
    rcases asks.quiet_or_stores answers with quiet | ⟨⟨status, stores⟩, others⟩
    · rwa [Cluster.IsUnderway, quiet name]
    by_cases same : name = flowTest.name
    · subst same
      exact (asks.phase?_after answers stores).resolve_right
        (fun back => none flowTest.name ⟨underway, back.2⟩)
    · rwa [Cluster.IsUnderway, others name same]

end Controller.Asks

end Phases

/-- Provisioning succeeds only if the flags have been stored. -/
theorem Provisioning.run_allocates (flowTest : FlowTest) (configuration : Configuration)
    (past : List Occurrence) (cluster : Cluster) :
    Procedure.Yields (fun _ later _ => ∃ matchRules filters,
        Performed later (.patchStatus flowTest (.allocated .created matchRules filters)))
      (run flowTest configuration) past cluster := by
  refine Procedure.yields_outcome_bind (fun owner _ => ?_)
  refine Procedure.yields_outcome_bind (fun kind _ => ?_)
  refine Procedure.yields_bind_extended (fun referencePod past cluster _ => ?_)
  refine Procedure.yields_outcome_bind (fun pod _ => ?_)
  refine Procedure.yields_bind_extended (fun _ past cluster _ => ?_)
  refine Procedure.yields_bind_extended (fun _ past cluster _ => ?_)
  refine Procedure.yields_bind_extended (fun _ past cluster _ => ?_)
  refine Procedure.yields_bind_extended (fun reference past cluster _ => ?_)
  refine (Procedure.yields_bind _ _).mpr (Procedure.yields_make (.patchStatus _ _) ?_)
  refine fun answer after _ => (Procedure.yields_extended _).mono (fun _ later _ kept => ?_)
  exact ⟨_, _, answer, cluster, after, kept (by simp)⟩

namespace Controller

variable {flowTest : FlowTest}

/-- Whether the flags of an accepted flow test have been stored by the time that it is set to
running, if it is here. -/
def RunsAllocated (flowTest : FlowTest) (past : List Occurrence) (occurrence : Occurrence) : Prop :=
  flowTest.isDeleting = false → flowTest.phase? = some .created →
    occurrence.request = .call (.patchStatus flowTest (.ofPhase .running)) →
      ∃ matchRules filters,
        Performed past (.patchStatus flowTest (.allocated .created matchRules filters))

theorem runsAllocated_announcing {α : Type} {procedure : Procedure α}
    (announces : procedure.Makes (fun asked => ∃ event, asked = .publish event))
    (past : List Occurrence) (cluster : Cluster) :
    procedure.Assures (RunsAllocated flowTest) (fun _ _ _ => True) past cluster := by
  refine (announces.assures past cluster).mono ?_ (fun _ _ _ => id)
  rintro past ⟨before, _, reply, after⟩ ⟨event, rfl⟩ _ _ same
  cases same

theorem provision_runs_allocated (configuration : Configuration) (now : Timestamp)
    (flowTest : FlowTest) (past : List Occurrence) (cluster : Cluster) :
    (provision configuration now flowTest).Assures (RunsAllocated flowTest) (fun _ _ _ => True)
      past cluster := by
  rw [provision, Procedure.assures_bind, Procedure.assures_lift]
  have working := ((Provisioning.run_makes flowTest configuration).assures past cluster).yielding
    (Provisioning.run_allocates flowTest configuration past cluster)
  refine working.mono ?_ ?_
  · rintro past ⟨before, asked, reply, after⟩ asks _ _ rfl
    generalize same : FlowTestStatus.ofPhase .running = status at asks
    cases asks
    cases congrArg FlowTestStatus.phase? same
  · intro outcome past cluster worked
    cases outcome with
    | ok status =>
      refine (Procedure.assures_bind _ _).mpr ((Procedure.assures_make (.patchStatus _ _)).mpr
        (fun outcome after _ => ⟨fun _ _ _ => worked.2 status rfl, ?_⟩))
      cases outcome with
      | error failure => trivial
      | ok answer =>
        exact runsAllocated_announcing (publish_makes.bind (fun _ => Procedure.makes_pure _)) _ _
    | error failure =>
      refine (runsAllocated_announcing publish_makes past cluster).bind (fun _ past cluster => ?_)
      refine Procedure.Assures.bind ((Procedure.assures_make (.patchStatus _ _)).mpr
        (fun outcome after _ => ⟨fun _ _ same => ?_, trivial⟩)) (fun _ _ _ => trivial)
      cases same

theorem reconcile_runs_allocated (configuration : Configuration) (now : Timestamp)
    (flowTest : FlowTest) (cluster : Cluster) :
    (reconcile configuration now flowTest).Assures (RunsAllocated flowTest) (fun _ _ _ => True)
      [] cluster := by
  by_cases accepted : flowTest.isDeleting = false ∧ flowTest.phase? = some .created
  · obtain ⟨undeleted, created⟩ := accepted
    simpa [reconcile, undeleted, created] using
      provision_runs_allocated configuration now flowTest [] cluster
  · exact (Procedure.assures_extended _).mono
      (fun _ _ _ undeleted created => absurd ⟨undeleted, created⟩ accepted) (fun _ _ _ _ => trivial)

/-- Whether a status has been stored for a flow test, or a request to change it has failed. -/
def Settled (flowTest : FlowTest) (past : List Occurrence) : Prop :=
  ∃ occurrence ∈ past, (∃ status, occurrence.Stores flowTest status) ∨
    flowTest.EditedBy occurrence.request ∧ ¬ occurrence.Succeeded

theorem settled_of_rejected {call : Call} {failure : Failure} {past : List Occurrence}
    {before after : Cluster} (edited : flowTest.EditedBy (.call call)) :
    Settled flowTest (past ++ [⟨before, .call call, Except.error failure, after⟩]) := by
  refine ⟨_, List.mem_append_right _ List.mem_cons_self, .inr ⟨edited, ?_⟩⟩
  rintro ⟨_, impossible⟩
  cases impossible

theorem settles_patching {α : Type} (flowTest : FlowTest) (status : FlowTestStatus)
    (next : Unit → Procedure α) (past : List Occurrence) (cluster : Cluster) :
    (Call.make (.patchStatus flowTest status) >>= next).Assures (fun _ _ => True)
      (fun _ later _ => Settled flowTest later) past cluster := by
  refine (Procedure.assures_bind _ _).mpr ((Procedure.assures_make (.patchStatus _ _)).mpr
    (fun outcome after _ => ⟨trivial, ?_⟩))
  cases outcome with
  | error failure => exact settled_of_rejected (.patchStatus status)
  | ok answer =>
    exact (Procedure.assures_extended _).mono (fun _ _ => id) (fun _ _ _ kept =>
      ⟨_, kept (List.mem_append_right _ List.mem_cons_self), .inl ⟨status, cluster, after, rfl⟩⟩)

/-- A reconciliation of a flow test that has not been running yet does not end without a status
that is stored, unless a request to change the flow test fails. -/
theorem reconcile_settles (configuration : Configuration) (now : Timestamp)
    (undeleted : flowTest.isDeleting = false) (upcoming : flowTest.IsUpcoming) (cluster : Cluster) :
    (reconcile configuration now flowTest).Assures (fun _ _ => True)
      (fun _ later _ => Settled flowTest later) [] cluster := by
  rcases upcoming with unset | created
  · simp only [reconcile, undeleted, unset, Bool.false_eq_true, ↓reduceIte]
    cases kept : flowTest.hasFinalizer finalizer with
    | true =>
      simp only [markCreated, kept]
      exact settles_patching _ _ _ _ _
    | false =>
      simp only [markCreated, kept]
      refine (Procedure.assures_bind _ _).mpr ((Procedure.assures_make (.addFinalizer _ _)).mpr
        (fun outcome after _ => ⟨trivial, ?_⟩))
      cases outcome with
      | error failure => exact settled_of_rejected (.addFinalizer finalizer)
      | ok answer => exact settles_patching _ _ _ _ _
  · simp only [reconcile, undeleted, created, Bool.false_eq_true, ↓reduceIte]
    rw [provision, Procedure.assures_bind, Procedure.assures_lift]
    refine (Procedure.assures_extended _).mono (fun _ _ => id) (fun outcome past cluster _ => ?_)
    cases outcome with
    | ok status => exact settles_patching _ _ _ _ _
    | error failure =>
      exact (Procedure.assures_bind _ _).mpr ((Procedure.assures_publish _).mpr
        ⟨trivial, settles_patching _ _ _ _ _⟩)

end Controller

/-- The cluster makes the changes to a flow test that is stored. -/
theorem Occurrence.IsAnswered.succeeded {occurrence : Occurrence} (answered : occurrence.IsAnswered)
    {flowTest stored : FlowTest} (edited : flowTest.EditedBy occurrence.request)
    (found : occurrence.before.flowTests.get? flowTest.name = some stored) :
    occurrence.Succeeded := by
  obtain ⟨before, asked, reply, after⟩ := occurrence
  cases edited with
  | patchStatus status =>
    obtain ⟨listing, answers⟩ := answered _ _ _ _ rfl
    simp only [Surroundings.answer, Surroundings.onCluster, Cluster.patchStatus, found] at answers
    exact ⟨(), (congrArg Prod.fst answers).symm⟩
  | addFinalizer finalizer =>
    obtain ⟨listing, answers⟩ := answered _ _ _ _ rfl
    simp only [Surroundings.answer, Surroundings.onCluster, Cluster.addFinalizer, found] at answers
    exact ⟨(), (congrArg Prod.fst answers).symm⟩
  | removeFinalizer finalizer =>
    obtain ⟨listing, answers⟩ := answered _ _ _ _ rfl
    simp only [Surroundings.answer, Surroundings.onCluster, Cluster.removeFinalizer, found]
      at answers
    exact ⟨(), (congrArg Prod.fst answers).symm⟩

namespace Reconciliation

/-- Where a reconciliation stands: no phase has changed before a status is stored, and if its
version had not been running yet, the flow test is where it was or accepted until a new phase is
asked for; so if it was underway, the first status that is stored takes it back. -/
structure Stage (flowTest : FlowTest) (start : Cluster) (past : List Occurrence)
    (cluster : Cluster) : Prop where
  unstored : (∀ earlier ∈ past, ∀ status, ¬ earlier.Stores flowTest status) →
    ∀ name, cluster.phase? name = start.phase? name
  behind : flowTest.IsUpcoming → ¬ Controller.Concluded flowTest past →
    cluster.phase? flowTest.name = start.phase? flowTest.name ∨
      cluster.phase? flowTest.name = some .created
  reverts : flowTest.IsUpcoming → start.IsUnderway flowTest.name →
    (∃ earlier ∈ past, ∃ status, earlier.Stores flowTest status) →
      ∃ earlier ∈ past, earlier.Regresses flowTest.name

theorem Stage.start (flowTest : FlowTest) (cluster : Cluster) : Stage flowTest cluster [] cluster :=
  ⟨fun _ _ => rfl, fun _ _ => .inl rfl, by simp⟩

section Step

variable {configuration : Configuration} {now : Timestamp} {flowTest : FlowTest}
  {start before after : Cluster} {past : List Occurrence} {asked : ControllerRequest}
  {reply : controllerInterface.Reply asked}

theorem concluded_append {phase : FlowTestPhase} {occurrence : Occurrence}
    (upcoming : flowTest.IsUpcoming) (stores : occurrence.Stores flowTest (.ofPhase phase))
    (new : phase ≠ .created) : Controller.Concluded flowTest (past ++ [occurrence]) := by
  refine ⟨occurrence, List.mem_append_right _ List.mem_cons_self, phase, stores.request_eq, ?_⟩
  rcases upcoming with unset | created
  · simp [unset]
  · simpa [created] using new.symm

/-- The first status that is stored takes a flow test back that is underway. -/
theorem Stage.regresses (stage : Stage flowTest start past before)
    (asks : Controller.Asks configuration now flowTest start before past asked)
    (runs : Controller.RunsAllocated flowTest past ⟨before, asked, reply, after⟩)
    (answers : before.Answers asked reply after) (upcoming : flowTest.IsUpcoming)
    (underway : start.IsUnderway flowTest.name)
    (none : ∀ earlier ∈ past, ∀ status, ¬ earlier.Stores flowTest status)
    {status : FlowTestStatus}
    (stores : Occurrence.Stores flowTest status ⟨before, asked, reply, after⟩) :
    Occurrence.Regresses ⟨before, asked, reply, after⟩ flowTest.name := by
  have underwayBefore : before.IsUnderway flowTest.name := by
    rwa [Cluster.IsUnderway, stage.unstored none flowTest.name]
  refine ⟨underwayBefore, ?_⟩
  have reaches : ∀ phase, status.phase? = some phase → after.phase? flowTest.name = some phase :=
    fun _ sets => stores.phase?_after answers sets
  have patches := asks.of_stores stores
  rcases patches.phase_of_upcoming upcoming with back | rfl | ⟨created, rfl⟩
  · exact .inl (reaches _ back)
  · exact .inr (reaches _ rfl)
  · -- It is not set to running before its flags have been stored.
    obtain ⟨-, undeleted, -⟩ := patches.patchStatus
    obtain ⟨matchRules, filters, _, earlier, later, performed⟩ :=
      runs undeleted created stores.request_eq
    exact absurd ⟨earlier, later, rfl⟩ (none _ performed _)

theorem Stage.next (stage : Stage flowTest start past before)
    (asks : Controller.Asks configuration now flowTest start before past asked)
    (runs : Controller.RunsAllocated flowTest past ⟨before, asked, reply, after⟩)
    (answers : before.Answers asked reply after) :
    Stage flowTest start (past ++ [⟨before, asked, reply, after⟩]) after := by
  have last : (⟨before, asked, reply, after⟩ : Occurrence) ∈
      past ++ [⟨before, asked, reply, after⟩] := List.mem_append_right _ List.mem_cons_self
  have kept : past ⊆ past ++ [⟨before, asked, reply, after⟩] := List.subset_append_left _ _
  have changes := asks.quiet_or_stores answers
  refine ⟨fun none name => ?_, fun upcoming undecided => ?_, fun upcoming underway stored => ?_⟩
  · rcases changes with quiet | ⟨⟨status, stores⟩, -⟩
    · exact (quiet name).trans
        (stage.unstored (fun earlier member => none earlier (kept member)) name)
    · exact absurd stores (none _ last status)
  · rcases changes with quiet | ⟨⟨status, stores⟩, -⟩
    · rw [show after.phase? flowTest.name = _ from quiet flowTest.name]
      exact stage.behind upcoming
        (fun ⟨earlier, member, concludes⟩ => undecided ⟨earlier, kept member, concludes⟩)
    · refine .inr (stores.phase?_after answers ?_)
      rcases (asks.of_stores stores).phase_of_upcoming upcoming with created | rfl | ⟨-, rfl⟩
      · exact created
      · exact absurd (concluded_append upcoming stores (by decide)) undecided
      · exact absurd (concluded_append upcoming stores (by decide)) undecided
  · by_cases storedBefore : ∃ earlier ∈ past, ∃ status, earlier.Stores flowTest status
    · obtain ⟨earlier, member, regresses⟩ := stage.reverts upcoming underway storedBefore
      exact ⟨earlier, kept member, regresses⟩
    have none : ∀ earlier ∈ past, ∀ status, ¬ earlier.Stores flowTest status :=
      fun earlier member status stores => storedBefore ⟨earlier, member, status, stores⟩
    obtain ⟨occurrence, member, status, stores⟩ := stored
    rcases List.mem_append.mp member with earlier | here
    · exact absurd stores (none occurrence earlier status)
    · obtain rfl := List.mem_singleton.mp here
      exact ⟨_, last, stage.regresses asks runs answers upcoming underway none stores⟩

end Step

variable {reconciliation : Reconciliation}

structure Follows (reconciliation : Reconciliation) (past : List Occurrence)
    (occurrence : Occurrence) : Prop where
  before : Stage reconciliation.flowTest reconciliation.start past occurrence.before
  after : Stage reconciliation.flowTest reconciliation.start (past ++ [occurrence]) occurrence.after
  lawful : occurrence.Lawful
  permits : Controller.Permits reconciliation.configuration reconciliation.now
    reconciliation.flowTest reconciliation.start past occurrence

theorem assures_followed (reconciliation : Reconciliation) :
    reconciliation.procedure.Assures reconciliation.Follows (fun _ _ _ => True) []
      reconciliation.start := by
  refine (((Controller.reconcile_permits reconciliation.configuration reconciliation.now
    reconciliation.flowTest reconciliation.start).and
    (Controller.reconcile_runs_allocated _ _ _ _)).keeping
      (Stage reconciliation.flowTest reconciliation.start) ?_ (.start _ _)).mono
      (fun _ _ => id) (fun _ _ _ _ => trivial)
  rintro past occurrence stage ⟨permits, runs⟩ lawful
  have next := stage.next permits.1 runs lawful
  exact ⟨⟨stage, next, lawful, permits⟩, next⟩

/-- A flow test goes back only in an outdated reconciliation, where a status is stored. -/
theorem Follows.regresses {past : List Occurrence} {occurrence : Occurrence} {name : String}
    (follows : reconciliation.Follows past occurrence) (regresses : occurrence.Regresses name) :
    reconciliation.IsOutdated ∧ ∃ status, occurrence.Stores reconciliation.flowTest status := by
  obtain ⟨stage, -, lawful, asks, onlyEvents⟩ := follows
  obtain ⟨before, asked, reply, after⟩ := occurrence
  obtain ⟨underway, back⟩ := regresses
  have moved : after.phase? name ≠ before.phase? name :=
    fun same => underway.not_back (by rwa [← show after.phase? name = _ from same])
  obtain ⟨⟨status, stores⟩, others⟩ :=
    (asks.quiet_or_stores lawful).resolve_left (fun quiet => moved (quiet name))
  obtain rfl : name = reconciliation.flowTest.name :=
    Classical.byContradiction (fun other => moved (others name other))
  obtain ⟨upcoming, -⟩ :=
    (asks.phase?_after lawful stores).resolve_left (fun ahead => ahead.not_back back)
  obtain ⟨-, undeleted, -⟩ := (asks.of_stores stores).patchStatus
  have undecided : ¬ Controller.Concluded reconciliation.flowTest past := by
    intro concluded
    obtain ⟨_, published⟩ := onlyEvents concluded
    cases stores.request_eq.symm.trans published
  refine ⟨⟨undeleted, upcoming, ?_⟩, status, stores⟩
  rcases stage.behind upcoming undecided with same | created
  · rwa [Cluster.IsUnderway, ← same]
  · exact absurd (.inl created) underway.not_back

theorem regresses_iff {rest : Program controllerInterface (Except Failure Action)}
    (execution : Execution reconciliation.procedure.run reconciliation.start
      reconciliation.occurrences rest reconciliation.finish) :
    (∃ occurrence ∈ reconciliation.occurrences, ∃ name, occurrence.Regresses name) ↔
      reconciliation.IsOutdated ∧ reconciliation.StoresStatus := by
  have assured := assures_followed reconciliation
  constructor
  · intro regresses
    obtain ⟨occurrence, member, name, regresses⟩ := regresses
    obtain ⟨earlier, later, split⟩ := List.append_of_mem member
    have follows := (execution.assured assured).1 earlier occurrence later split
    obtain ⟨outdated, stores⟩ := follows.regresses regresses
    exact ⟨outdated, occurrence, member, stores⟩
  · intro outdated
    obtain ⟨outdated, stored⟩ := outdated
    have stage := execution.invariant (Stage reconciliation.flowTest reconciliation.start) assured
      (fun _ _ follows _ _ => follows.after) (.start _ _)
    obtain ⟨occurrence, member, regresses⟩ :=
      stage.reverts outdated.upcoming outdated.underway stored
    exact ⟨occurrence, member, _, regresses⟩

theorem IsOutdated.storesStatus (outdated : reconciliation.IsOutdated)
    (undisturbed : reconciliation.IsUndisturbed) : reconciliation.StoresStatus := by
  obtain ⟨outcome, execution⟩ := undisturbed.done
  have settled := (execution.assured (Controller.reconcile_settles reconciliation.configuration
    reconciliation.now outdated.undeleted outdated.upcoming reconciliation.start)).2
  rw [List.nil_append] at settled
  obtain ⟨occurrence, member, ⟨status, stores⟩ | ⟨edited, failed⟩⟩ := settled
  · exact ⟨occurrence, member, status, stores⟩
  refine Classical.byContradiction (fun none => failed ?_)
  obtain ⟨earlier, later, split⟩ := List.append_of_mem member
  have follows := (execution.assured (assures_followed reconciliation)).1 _ _ _ split
  -- Nothing has been stored before, so the flow test is still there.
  have underway : occurrence.before.IsUnderway reconciliation.flowTest.name := by
    rw [Cluster.IsUnderway, follows.before.unstored (fun other earlierOne status stores => none
      ⟨other, split ▸ List.mem_append_left _ earlierOne, status, stores⟩)]
    exact outdated.underway
  obtain ⟨stored, found⟩ := underway.stored
  exact (undisturbed.answered occurrence member).succeeded edited found

theorem staysUnderway_iff {rest : Program controllerInterface (Except Failure Action)}
    (execution : Execution reconciliation.procedure.run reconciliation.start
      reconciliation.occurrences rest reconciliation.finish) :
    (∀ occurrence ∈ reconciliation.occurrences,
      occurrence.before.StaysUnderway occurrence.after) ↔
      (reconciliation.IsOutdated → ¬ reconciliation.StoresStatus) := by
  rw [← not_and, ← regresses_iff execution]
  have stays_iff : ∀ occurrence ∈ reconciliation.occurrences,
      occurrence.before.StaysUnderway occurrence.after ↔ ∀ name, ¬ occurrence.Regresses name := by
    intro occurrence member
    obtain ⟨earlier, later, split⟩ := List.append_of_mem member
    have follows := (execution.assured (assures_followed reconciliation)).1 _ _ _ split
    exact follows.permits.1.staysUnderway_iff follows.lawful
  constructor
  · rintro stays ⟨occurrence, member, name, regresses⟩
    exact (stays_iff occurrence member).mp (stays occurrence member) name regresses
  · intro none occurrence member
    exact (stays_iff occurrence member).mpr
      (fun name regresses => none ⟨occurrence, member, name, regresses⟩)

end Reconciliation

section Chains

variable {related : Cluster → Cluster → Prop}

/-- The clusters along an execution are related one by one just when its occurrences relate them. -/
theorem Execution.isChain_iff {α : Type} {program rest : Program controllerInterface α}
    {before after : Cluster} {occurrences : List Occurrence}
    (execution : Execution program before occurrences rest after) :
    (before :: occurrences.map (·.after)).IsChain related ↔
      ∀ occurrence ∈ occurrences, related occurrence.before occurrence.after := by
  induction execution with
  | idle => simp
  | request _ _ ih => rw [List.map_cons, List.isChain_cons_cons, ih, List.forall_mem_cons]

theorem Execution.exists_append {α : Type} {program rest : Program controllerInterface α}
    {before after : Cluster} {occurrences : List Occurrence}
    (execution : Execution program before occurrences rest after) :
    ∃ earlier, before :: occurrences.map (·.after) = earlier ++ [after] := by
  induction execution with
  | idle program cluster => exact ⟨[], rfl⟩
  | @request before _ _ _ _ _ _ _ _ _ ih =>
    obtain ⟨earlier, same⟩ := ih
    exact ⟨before :: earlier, by simp [same]⟩

namespace DelayedRun

variable {initial final : Cluster} {reconciliations : List Reconciliation} {held : List Cluster}

theorem exists_append (run : DelayedRun initial reconciliations held final) :
    ∃ earlier, held = earlier ++ [final] := by
  induction run with
  | start => exact ⟨[], rfl⟩
  | reconciled _ _ execution ih =>
    obtain ⟨_, execution⟩ := execution
    obtain ⟨earlier, rfl⟩ := ih
    obtain ⟨between, same⟩ := execution.exists_append
    exact ⟨earlier ++ between, by simp [← same]⟩
  | acted => exact ⟨_, rfl⟩

theorem final_mem (run : DelayedRun initial reconciliations held final) : final ∈ held := by
  obtain ⟨earlier, rfl⟩ := run.exists_append
  simp

theorem initial_mem (run : DelayedRun initial reconciliations held final) : initial ∈ held := by
  induction run with
  | start => exact List.mem_cons_self
  | reconciled _ _ _ ih => exact List.mem_append_left _ ih
  | acted _ _ ih => exact List.mem_append_left _ ih

/-- The clusters that are held in a run are related one by one just when the occurrences of its
reconciliations relate them, if the actions of users do. -/
theorem isChain_iff (run : DelayedRun initial reconciliations held final)
    (acted : ∀ (cluster : Cluster) (action : UserAction), action.IsAllowed cluster →
      related cluster (action.apply cluster)) :
    held.IsChain related ↔ ∀ reconciliation ∈ reconciliations,
      ∀ occurrence ∈ reconciliation.occurrences, related occurrence.before occurrence.after := by
  induction run with
  | start => simp
  | reconciled run _ execution ih =>
    obtain ⟨_, execution⟩ := execution
    obtain ⟨earlier, rfl⟩ := run.exists_append
    rw [List.append_assoc, List.singleton_append, List.isChain_split, ih, execution.isChain_iff,
      List.forall_mem_append, List.forall_mem_singleton]
  | acted run allowed ih =>
    obtain ⟨earlier, rfl⟩ := run.exists_append
    rw [List.append_assoc, List.singleton_append, List.isChain_split, ih, List.isChain_cons_cons]
    exact and_iff_left ⟨acted _ _ allowed, .singleton _⟩

theorem execution (run : DelayedRun initial reconciliations held final) :
    ∀ reconciliation ∈ reconciliations, ∃ rest,
      Execution reconciliation.procedure.run reconciliation.start reconciliation.occurrences rest
        reconciliation.finish := by
  induction run with
  | start => simp
  | reconciled _ _ execution ih =>
    exact List.forall_mem_append.mpr ⟨ih, List.forall_mem_singleton.mpr execution⟩
  | acted _ _ ih => exact ih

end DelayedRun

end Chains

/-- A flow test goes back from running or completed only in a reconciliation that is handed a
version from before it was running, and there as soon as a status is stored; which it is, unless
the reconciliation is disturbed. In any other run all flow tests stay underway. -/
theorem regresses_iff_outdated {initial final : Cluster} {reconciliations : List Reconciliation}
    {held : List Cluster} (run : DelayedRun initial reconciliations held final) :
    (∀ reconciliation ∈ reconciliations,
      ((∃ occurrence ∈ reconciliation.occurrences, ∃ name, occurrence.Regresses name) ↔
        reconciliation.IsOutdated ∧ reconciliation.StoresStatus) ∧
      (reconciliation.IsUndisturbed → reconciliation.IsOutdated → reconciliation.StoresStatus)) ∧
    (held.Pairwise Cluster.StaysUnderway ↔ ∀ reconciliation ∈ reconciliations,
      reconciliation.IsOutdated → ¬ reconciliation.StoresStatus) := by
  refine ⟨fun reconciliation member => ?_, ?_⟩
  · obtain ⟨_, execution⟩ := run.execution reconciliation member
    exact ⟨Reconciliation.regresses_iff execution,
      fun undisturbed outdated => outdated.storesStatus undisturbed⟩
  · rw [← List.isChain_iff_pairwise,
      run.isChain_iff (fun _ _ allowed => UserAction.staysUnderway_apply allowed)]
    refine forall₂_congr (fun reconciliation member => ?_)
    obtain ⟨_, execution⟩ := run.execution reconciliation member
    exact Reconciliation.staysUnderway_iff execution

theorem DelayedRun.undisturbed {initial cluster : Cluster} {reconciliations : List Reconciliation}
    {held : List Cluster} {flowTest : FlowTest}
    (run : DelayedRun initial reconciliations held cluster)
    (handed : ∃ earlier ∈ held, earlier.flowTests.get? flowTest.name = some flowTest)
    (configuration : Configuration) (now : Timestamp) :
    ∃ reconciliation : Reconciliation,
      reconciliation.flowTest = flowTest ∧ reconciliation.start = cluster ∧
        reconciliation.finish = ((⟨cluster, .ok []⟩ : Surroundings).run
          (Controller.reconcile configuration now flowTest)).2.cluster ∧
        reconciliation.IsUndisturbed ∧
        DelayedRun initial (reconciliations ++ [reconciliation])
          (held ++ reconciliation.occurrences.map (·.after)) reconciliation.finish := by
  obtain ⟨occurrences, execution, answered⟩ := Execution.of_run_answered ⟨cluster, .ok []⟩
    (Controller.reconcile configuration now flowTest)
  let reconciliation : Reconciliation :=
    { configuration, now, flowTest, occurrences
      start := cluster
      finish := ((⟨cluster, .ok []⟩ : Surroundings).run
        (Controller.reconcile configuration now flowTest)).2.cluster }
  exact ⟨reconciliation, rfl, rfl, rfl, ⟨⟨_, execution⟩, answered⟩,
    @DelayedRun.reconciled initial reconciliations held reconciliation run handed ⟨_, execution⟩⟩

namespace Sample

/-- The flow test with a reference flow that has nothing to match, so that it has no flags. -/
def idle : Cluster :=
  (Cluster.addResource {} (.pod pod)).addResource (.flow (flow [])) |>.addFlowTest flowTest

/-- What an undisturbed reconciliation of some version leaves. -/
@[irreducible]
def afterReconciling (cluster : Cluster) (flowTest : FlowTest) : Cluster :=
  ((⟨cluster, .ok []⟩ : Surroundings).run (Controller.reconcile {} ⟨0, 0⟩ flowTest)).2.cluster

def completed : Cluster :=
  afterReconciling (afterReconciling (afterReconciling idle flowTest) (inPhase .created))
    (inPhase .running)

theorem stored_accepted :
    (afterReconciling idle flowTest).flowTests.get? "test" = some (inPhase .created) := by
  unfold afterReconciling
  rfl

theorem stored_provisioned :
    (afterReconciling (afterReconciling idle flowTest) (inPhase .created)).flowTests.get? "test" =
      some (inPhase .running) := by
  unfold afterReconciling
  rfl

theorem phase?_completed : completed.phase? "test" = some .completed := by
  decide +kernel

theorem phase?_reset : (afterReconciling completed flowTest).phase? "test" = some .created := by
  decide +kernel

/-- A run goes on with an undisturbed reconciliation. -/
theorem delayedRun_next {cluster : Cluster} {reconciliations : List Reconciliation}
    {held : List Cluster} (run : DelayedRun idle reconciliations held cluster)
    (flowTest : FlowTest)
    (handed : ∃ earlier ∈ held, earlier.flowTests.get? flowTest.name = some flowTest) :
    ∃ reconciliation : Reconciliation,
      reconciliation.flowTest = flowTest ∧ reconciliation.start = cluster ∧
        reconciliation.IsUndisturbed ∧
        DelayedRun idle (reconciliations ++ [reconciliation])
          (held ++ reconciliation.occurrences.map (·.after))
          (afterReconciling cluster flowTest) := by
  obtain ⟨reconciliation, ofVersion, fromHere, finish, undisturbed, run⟩ :=
    run.undisturbed handed {} ⟨0, 0⟩
  refine ⟨reconciliation, ofVersion, fromHere, undisturbed, ?_⟩
  rwa [afterReconciling, ← finish]

/-- A run that completes the flow test and is then handed the version that was there at first. -/
theorem delayedRun_completed : ∃ (earlier : List Reconciliation) (last : Reconciliation)
    (held : List Cluster),
    DelayedRun idle (earlier ++ [last]) held (afterReconciling completed flowTest) ∧
      completed ∈ held ∧ last.flowTest = flowTest ∧ last.start = completed ∧
        last.IsUndisturbed := by
  have started : DelayedRun idle [] [idle] idle := .start
  obtain ⟨_, -, -, -, accepted⟩ := delayedRun_next started flowTest ⟨_, started.final_mem, rfl⟩
  obtain ⟨_, -, -, -, provisioned⟩ :=
    delayedRun_next accepted (inPhase .created) ⟨_, accepted.final_mem, stored_accepted⟩
  obtain ⟨_, -, -, -, completes⟩ :=
    delayedRun_next provisioned (inPhase .running) ⟨_, provisioned.final_mem, stored_provisioned⟩
  obtain ⟨last, ofVersion, fromHere, undisturbed, run⟩ :=
    delayedRun_next completes flowTest ⟨idle, completes.initial_mem, rfl⟩
  exact ⟨_, last, _, run, List.mem_append_left _ completes.final_mem, ofVersion, fromHere,
    undisturbed⟩

end Sample

/-- A completed flow test is back before it was running when a reconciliation is handed the version
that had no phase yet. -/
theorem phase_reset_by_outdated_version :
    ∃ (reconciliations : List Reconciliation) (held : List Cluster) (final : Cluster),
      DelayedRun Sample.idle reconciliations held final ∧
        ∃ earlier ∈ held, earlier.phase? "test" = some .completed ∧
          final.phase? "test" = some .created := by
  obtain ⟨_, _, held, run, member, -⟩ := Sample.delayedRun_completed
  exact ⟨_, held, _, run, _, member, Sample.phase?_completed, Sample.phase?_reset⟩

/-- The flow test goes back in the reconciliation that is outdated. -/
theorem reset_in_outdated_reconciliation :
    ∃ (reconciliations : List Reconciliation) (held : List Cluster) (final : Cluster),
      DelayedRun Sample.idle reconciliations held final ∧ ∃ reconciliation ∈ reconciliations,
        reconciliation.IsOutdated ∧
          ∃ occurrence ∈ reconciliation.occurrences, ∃ name, occurrence.Regresses name := by
  obtain ⟨earlier, last, held, run, -, ofVersion, fromHere, undisturbed⟩ :=
    Sample.delayedRun_completed
  have outdated : last.IsOutdated :=
    { undeleted := ofVersion ▸ rfl
      upcoming := ofVersion ▸ .inl rfl
      underway := by
        rw [ofVersion, fromHere]
        exact .inr Sample.phase?_completed }
  have member : last ∈ earlier ++ [last] := List.mem_append_right _ List.mem_cons_self
  obtain ⟨regresses_iff, stored⟩ := (regresses_iff_outdated run).1 last member
  exact ⟨_, held, _, run, last, member, outdated,
    regresses_iff.mpr ⟨outdated, stored undisturbed outdated⟩⟩

end FlowTesting
