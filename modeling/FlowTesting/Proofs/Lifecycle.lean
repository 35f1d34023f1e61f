import FlowTesting.Proofs.Reconcile
import FlowTesting.Proofs.Run

set_option autoImplicit false

/-!
# The lifecycle of a flow test

A reconciliation moves the stored phase of its flow test along at most one edge of the
lifecycle, and only when that edge is due.
-/

namespace FlowTesting

/-- The phase that is stored for a flow test, if it has one. -/
def Cluster.phase? (cluster : Cluster) (name : String) : Option FlowTestPhase :=
  (cluster.flowTests.get? name).bind (·.phase?)

/-- Whether no stored phase has changed. -/
def Occurrence.Quiet (occurrence : Occurrence) : Prop :=
  ∀ name, occurrence.after.phase? name = occurrence.before.phase? name

/-- The edges of the lifecycle, with what has to come before each of them. -/
inductive PhaseStep (configuration : Configuration) (now : Timestamp) (flowTest : FlowTest)
    (past : List Occurrence) (before : Cluster) : Option FlowTestPhase → FlowTestPhase → Prop where
  | accepted : PhaseStep configuration now flowTest past before none .created
  | started : Provisioning.Deployed flowTest configuration past →
      PhaseStep configuration now flowTest past before (some .created) .running
  | failed : PhaseStep configuration now flowTest past before (some .created) .error
  | completed : flowTest.IsDue configuration now ∨ before.AllPassed flowTest.name →
      PhaseStep configuration now flowTest past before (some .running) .completed

/-- What it takes for a stored phase to change: it is the one of the flow test that is being
reconciled and not deleted, and it goes along an edge. -/
structure PhaseChange (configuration : Configuration) (now : Timestamp) (flowTest : FlowTest)
    (past : List Occurrence) (occurrence : Occurrence) : Prop where
  alone : ∀ name, name ≠ flowTest.name →
    occurrence.after.phase? name = occurrence.before.phase? name
  undeleted : ∃ stored, occurrence.before.flowTests.get? flowTest.name = some stored ∧
    stored.isDeleting = false
  step : ∃ phase, occurrence.after.phase? flowTest.name = some phase ∧
    PhaseStep configuration now flowTest past occurrence.before
      (occurrence.before.phase? flowTest.name) phase

section Requests

variable {configuration : Configuration} {now : Timestamp} {flowTest : FlowTest}
  {start before after : Cluster} {past : List Occurrence} {asked : ControllerRequest}
  {reply : controllerInterface.Reply asked}

theorem PhaseStep.ne {phase? : Option FlowTestPhase} {phase : FlowTestPhase}
    (step : PhaseStep configuration now flowTest past before phase? phase) :
    phase? ≠ some phase := by
  cases step <;> exact nofun

/-- A status that is stored has the phase that the flow test is in, or the next one. -/
theorem Controller.Asks.phase {status : FlowTestStatus}
    (asks : Controller.Asks configuration now flowTest start before past
      (.call (.patchStatus flowTest status)))
    (stored : start.flowTests.get? flowTest.name = some flowTest) :
    status.phase? = flowTest.phase? ∨ ∃ phase, status = .ofPhase phase ∧
      PhaseStep configuration now flowTest past before flowTest.phase? phase := by
  cases asks with
  | accept _ new => exact .inr ⟨.created, rfl, new ▸ .accepted⟩
  | provision _ created asks => cases asks; exact .inl created.symm
  | run _ created deployed => exact .inr ⟨.running, rfl, created ▸ .started deployed⟩
  | fail _ created => exact .inr ⟨.error, rfl, created ▸ .failed⟩
  | verify _ _ asks => cases asks; exact .inl flowTest.phase?_status
  | complete _ running ready =>
    exact .inr ⟨.completed, rfl, running ▸ .completed (ready.imp_right (· stored))⟩
  | cleanUp _ asks => cases asks

theorem Cluster.Answers.phase_eq (answers : before.Answers asked reply after) {name : String}
    (others : ∀ other status, asked = .call (.patchStatus other status) → other.name = name →
      status.phase? = before.phase? name) :
    after.phase? name = before.phase? name := by
  unfold Cluster.phase? at others ⊢
  cases found : before.flowTests.get? name with
  | none =>
    cases foundAfter : after.flowTests.get? name with
    | none => rfl
    | some next =>
      obtain ⟨stored, foundBefore, -⟩ := answers.becomes_to_stored foundAfter
      rw [found] at foundBefore
      cases foundBefore
  | some stored =>
    obtain ⟨next, foundAfter, becomes⟩ := answers.becomes_of_stored found
    rw [found] at others
    simp only [foundAfter, Option.bind_some] at others ⊢
    rcases becomes.status with same | ⟨other, status, asked, named, merged⟩
    · rw [← next.phase?_status, same, stored.phase?_status]
    · rw [← next.phase?_status, merged, FlowTestStatus.merge, others other status asked named,
        stored.phase?_status, Option.or_self]

end Requests

/-- Where a reconciliation stands that has not asked for a new phase: nothing has changed. -/
structure Unsettled (flowTest : FlowTest) (past : List Occurrence) (cluster : Cluster) : Prop where
  quiet : ∀ earlier ∈ past, earlier.Quiet
  stored : ∃ stored, cluster.flowTests.get? flowTest.name = some stored ∧
    stored.isDeleting = flowTest.isDeleting
  phase : cluster.phase? flowTest.name = flowTest.phase?

/-- What may occur in a reconciliation, as far as the lifecycle is concerned. -/
structure LifecycleKept (configuration : Configuration) (now : Timestamp) (flowTest : FlowTest)
    (past : List Occurrence) (occurrence : Occurrence) : Prop where
  changes : occurrence.Quiet ∨ (∀ earlier ∈ past, earlier.Quiet) ∧
    PhaseChange configuration now flowTest past occurrence
  creates : ∀ resource, occurrence.request = .call (.create resource) →
    occurrence.before.phase? flowTest.name = some .created

namespace Unsettled

variable {configuration : Configuration} {now : Timestamp} {flowTest : FlowTest}
  {start before after : Cluster} {past : List Occurrence} {asked : ControllerRequest}
  {reply : controllerInterface.Reply asked}

theorem quiet_of_not_concludes (unsettled : Unsettled flowTest past before)
    (asks : Controller.Asks configuration now flowTest start before past asked)
    (stored : start.flowTests.get? flowTest.name = some flowTest)
    (answers : before.Answers asked reply after)
    (inconclusive : ¬ Controller.Concludes flowTest asked) :
    Occurrence.Quiet ⟨before, asked, reply, after⟩ := by
  intro name
  refine answers.phase_eq (fun other status same named => ?_)
  subst same
  obtain ⟨rfl, -⟩ := asks.patchStatus
  rcases asks.phase stored with same | ⟨phase, rfl, step⟩
  · rw [← named, unsettled.phase, same]
  · exact absurd ⟨phase, rfl, step.ne⟩ inconclusive

theorem change_of_concludes (unsettled : Unsettled flowTest past before)
    (asks : Controller.Asks configuration now flowTest start before past asked)
    (stored : start.flowTests.get? flowTest.name = some flowTest)
    (answers : before.Answers asked reply after)
    (concludes : Controller.Concludes flowTest asked) :
    Occurrence.Quiet ⟨before, asked, reply, after⟩ ∨
      PhaseChange configuration now flowTest past ⟨before, asked, reply, after⟩ := by
  obtain ⟨phase, rfl, new⟩ := concludes
  obtain ⟨-, undeleted, -⟩ := asks.patchStatus
  rcases asks.phase stored with same | ⟨next, same, step⟩
  · exact absurd same.symm new
  obtain rfl : phase = next := Option.some.inj (congrArg FlowTestStatus.phase? same)
  obtain ⟨-, rfl⟩ | ⟨-, current, found, rfl⟩ := answers.patchStatus
  · exact .inl (fun name => rfl)
  refine .inr ⟨fun name other => ?_, ?_, phase, ?_, unsettled.phase.symm ▸ step⟩
  · exact answers.phase_eq (fun _ _ same named => absurd (by cases same; exact named.symm) other)
  · obtain ⟨current, found, sameDeletion⟩ := unsettled.stored
    exact ⟨current, found, sameDeletion.trans undeleted⟩
  · simp only [Cluster.phase?, Cluster.putFlowTest, OrderedMap.get?_insert_self, Option.bind_some]
    rfl

end Unsettled

namespace Reconciliation

variable {reconciliation : Reconciliation}

theorem assures_lifecycle
    (stored : reconciliation.start.flowTests.get? reconciliation.flowTest.name =
      some reconciliation.flowTest) :
    reconciliation.procedure.Assures
      (LifecycleKept reconciliation.configuration reconciliation.now reconciliation.flowTest)
      (fun _ _ _ => True) [] reconciliation.start := by
  have unsettled : Unsettled reconciliation.flowTest [] reconciliation.start :=
    ⟨by simp, ⟨_, stored, rfl⟩, by simp [Cluster.phase?, stored]⟩
  refine ((Controller.reconcile_permits _ _ _ _).keeping
    (fun past cluster => ¬ Controller.Concluded reconciliation.flowTest past →
      Unsettled reconciliation.flowTest past cluster) ?_ (fun _ => unsettled)).mono
      (fun _ _ => id) (fun _ _ _ _ => trivial)
  rintro past ⟨before, asked, reply, after⟩ unsettled ⟨asks, onlyEvents⟩ answers
  by_cases concluded : Controller.Concluded reconciliation.flowTest past
  · obtain ⟨event, rfl⟩ := onlyEvents concluded
    obtain rfl : after = before := answers
    refine ⟨⟨.inl (fun _ => rfl), fun resource impossible => ?_⟩,
      fun undecided => absurd ?_ undecided⟩
    · cases impossible
    · obtain ⟨earlier, member, concludes⟩ := concluded
      exact ⟨earlier, List.mem_append_left _ member, concludes⟩
  have standing := unsettled concluded
  have creates : ∀ resource, asked = .call (.create resource) →
      before.phase? reconciliation.flowTest.name = some .created := by
    intro resource same
    subst same
    exact standing.phase.trans asks.create.2.1
  by_cases concludes : Controller.Concludes reconciliation.flowTest asked
  · refine ⟨⟨?_, creates⟩, fun undecided => absurd ?_ undecided⟩
    · exact (standing.change_of_concludes asks stored answers concludes).imp_right
        (fun change => ⟨standing.quiet, change⟩)
    · exact ⟨_, List.mem_append_right _ List.mem_cons_self, concludes⟩
  · have quiet := standing.quiet_of_not_concludes asks stored answers concludes
    refine ⟨⟨.inl quiet, creates⟩, fun _ => ⟨fun earlier member => ?_, ?_, ?_⟩⟩
    · rcases List.mem_append.mp member with before | last
      · exact standing.quiet earlier before
      · exact List.mem_singleton.mp last ▸ quiet
    · obtain ⟨current, found, sameDeletion⟩ := standing.stored
      obtain ⟨next, foundAfter, becomes⟩ := answers.becomes_of_stored found
      exact ⟨next, foundAfter, becomes.sameDeletion.trans sameDeletion⟩
    · exact (quiet _).trans standing.phase

end Reconciliation

/-- The phases that are never left. -/
def FlowTestPhase.IsFinal (phase : FlowTestPhase) : Prop := phase = .completed ∨ phase = .error

theorem LifecycleKept.final_kept {configuration : Configuration} {now : Timestamp}
    {flowTest : FlowTest} {past : List Occurrence} {occurrence : Occurrence}
    (kept : LifecycleKept configuration now flowTest past occurrence) {name : String}
    {phase : FlowTestPhase} (final : phase.IsFinal)
    (reached : occurrence.before.phase? name = some phase) :
    occurrence.after.phase? name = some phase := by
  rcases kept.changes with quiet | ⟨-, change⟩
  · exact (quiet name).trans reached
  by_cases same : name = flowTest.name
  · obtain ⟨next, -, step⟩ := change.step
    rw [← same, reached] at step
    rcases final with rfl | rfl <;> cases step
  · exact (change.alone name same).trans reached

theorem UserAction.phase?_apply {cluster : Cluster} {action : UserAction} {name : String}
    {phase : FlowTestPhase} (allowed : action.IsAllowed cluster)
    (reached : cluster.phase? name = some phase) :
    (action.apply cluster).phase? name = some phase := by
  cases action with
  | putPod pod => exact reached
  | putFlow flow => exact reached
  | addFlowTest flowTest =>
    have other : name ≠ flowTest.name := by
      intro same
      subst same
      rw [Cluster.phase?, allowed.2] at reached
      cases reached
    rwa [UserAction.apply, Cluster.addFlowTest, Cluster.phase?, OrderedMap.get?_insert_of_ne other]
  | requestDeletion deleted instant =>
    simp only [UserAction.apply]
    split
    next => exact reached
    next stored found =>
      by_cases same : name = deleted
      · subst same
        rw [Cluster.phase?, found] at reached
        rwa [Cluster.phase?, Cluster.putFlowTest, OrderedMap.get?_insert_self]
      · rwa [Cluster.phase?, Cluster.putFlowTest, OrderedMap.get?_insert_of_ne same]

/-- The lifecycle is kept in every run. Each reconciliation changes the stored phase of its flow
test at most once, along an edge that is due, and not once the flow test is being deleted; it
makes objects only while the phase is the one before the test runs; and the last phases are
never left. -/
theorem lifecycle_safety {initial final : Cluster} {reconciliations : List Reconciliation}
    (run : Run initial reconciliations final) :
    (∀ reconciliation ∈ reconciliations, ∀ earlier occurrence later,
      reconciliation.occurrences = earlier ++ occurrence :: later →
        (occurrence.Quiet ∨ (∀ other ∈ earlier ++ later, other.Quiet) ∧
          PhaseChange reconciliation.configuration reconciliation.now reconciliation.flowTest
            earlier occurrence) ∧
        ∀ resource, occurrence.request = .call (.create resource) →
          occurrence.before.phase? reconciliation.flowTest.name = some .created) ∧
    ∀ name phase, phase.IsFinal → initial.phase? name = some phase →
      final.phase? name = some phase := by
  constructor
  · intro reconciliation member earlier occurrence later split
    obtain ⟨-, all⟩ := run.invariant (fun _ => True) trivial (fun _ _ _ => trivial)
      (fun _ _ _ _ => trivial)
    obtain ⟨⟨stored, rest, execution⟩, -⟩ := all reconciliation member
    have kept := (execution.assured (Reconciliation.assures_lifecycle stored)).1
    have here := kept earlier occurrence later split
    refine ⟨?_, here.creates⟩
    by_cases quiet : occurrence.Quiet
    · exact .inl quiet
    obtain ⟨quietBefore, change⟩ := here.changes.resolve_left quiet
    refine .inr ⟨fun other member => ?_, change⟩
    rcases List.mem_append.mp member with before | after
    · exact quietBefore other before
    obtain ⟨between, rest, splitLater⟩ := List.append_of_mem after
    have splitHere : reconciliation.occurrences =
        (earlier ++ occurrence :: between) ++ other :: rest := by simp [split, splitLater]
    refine (kept _ other rest splitHere).changes.resolve_right (fun ⟨allQuiet, _⟩ => quiet ?_)
    exact allQuiet occurrence (by simp)
  · intro name phase terminal reached
    refine (run.invariant (fun cluster => cluster.phase? name = some phase) reached ?_ ?_).1
    · rintro reconciliation ⟨stored, rest, execution⟩ reached
      exact execution.preserves (fun cluster => cluster.phase? name = some phase)
        (Reconciliation.assures_lifecycle stored) (fun _ _ kept => kept.final_kept terminal) reached
    · exact fun cluster action allowed reached => UserAction.phase?_apply allowed reached

/-- The sample flow test goes from new to running in two reconciliations, and no change among
those is left unexplained. -/
theorem lifecycle_of_provisioned_sample :
    ∃ reconciliations final, Run Sample.cluster reconciliations final ∧
      Sample.cluster.phase? Sample.flowTest.name = none ∧
      final.phase? Sample.flowTest.name = some .running ∧
      ∀ reconciliation ∈ reconciliations, ∀ earlier occurrence later,
        reconciliation.occurrences = earlier ++ occurrence :: later → ¬ occurrence.Quiet →
          PhaseChange reconciliation.configuration reconciliation.now reconciliation.flowTest
            earlier occurrence := by
  have new : Run Sample.cluster [] (⟨Sample.cluster, .ok []⟩ : Surroundings).cluster := .start
  obtain ⟨_, accepted⟩ := new.undisturbed {} ⟨0, 0⟩ Sample.flowTest rfl
  obtain ⟨reconciliations, provisioned⟩ :=
    accepted.undisturbed {} ⟨0, 0⟩ (Sample.inPhase .created) rfl
  obtain ⟨changes, -⟩ := lifecycle_safety provisioned
  refine ⟨reconciliations, _, provisioned, rfl, rfl, ?_⟩
  intro reconciliation member earlier occurrence later split changed
  exact ((changes reconciliation member earlier occurrence later split).1.resolve_left changed).2

end FlowTesting
