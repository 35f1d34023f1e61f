import FlowTesting.Proofs.SharedAggregator
import Mathlib.Logic.Relation

set_option autoImplicit false

/-!
# When the log aggregator is there

Reconciliations of many flow tests make the shared log aggregator and take it away. It is in
place whenever a flow test is running, and cleanup takes it away just when every flow test is
completed and none is being deleted.
-/

namespace FlowTesting

/-- Whether the log aggregator is in place as long as a flow test is running, and nothing
else is ever in its place. -/
structure Cluster.IsServed (configuration : Configuration) (cluster : Cluster) : Prop where
  reserved : cluster.IsReserved configuration
  present : cluster.HasRunning → cluster.HasAggregator configuration

/-- Where a reconciliation stands that found the log aggregator in place, or made it, or has
seen whether anybody needs it. -/
structure Serving (configuration : Configuration) (flowTest : FlowTest) (past : List Occurrence)
    (cluster : Cluster) : Prop extends cluster.IsServed configuration where
  running : flowTest.isDeleting = false → flowTest.phase? = some .running →
    cluster.HasAggregator configuration
  ensured : flowTest.isDeleting = false → flowTest.phase? = some .created →
    ∀ part, SharedAggregator.Part configuration part → Provisioning.Ensured past part →
      cluster.resources.get? part.key = some part
  checked : flowTest.isDeleting = true ∨ flowTest.phase? = some .completed →
    ∀ flowTests : List FlowTest, Answered past .listFlowTests flowTests →
      Cleanup.aggregatorInUse flowTests = Cleanup.aggregatorInUse cluster.flowTests.values

namespace Serving

variable {configuration : Configuration} {now : Timestamp} {flowTest : FlowTest}
  {start before after : Cluster} {past : List Occurrence} {asked : ControllerRequest}
  {reply : controllerInterface.Reply asked} {part : Resource}

theorem reserved_step (serving : Serving configuration flowTest past before)
    (asks : Controller.Asks configuration now flowTest start before past asked)
    (answers : before.Answers asked reply after) : after.IsReserved configuration := by
  intro part belongs stored found
  rcases answers.provenance found with foundBefore | ⟨rfl, same, -⟩ | ⟨flow, -, -, same, -⟩
  · exact serving.reserved part belongs stored foundBefore
  · obtain ⟨-, -, created | ⟨owner, -, product⟩⟩ := asks.create
    · exact belongs.eq_of_key_eq created same.symm
    · exact absurd ⟨part, belongs, same⟩ (SharedAggregator.not_isPlace_of_product product)
  · exact absurd same.symm (belongs.key_ne_flow_key flow)

/-- A part of the log aggregator is taken away only in a cleanup that has found nobody to need
it. -/
theorem part_remains (asks : Controller.Asks configuration now flowTest start before past asked)
    (answers : before.Answers asked reply after)
    (belongs : SharedAggregator.Part configuration part)
    (found : before.resources.get? part.key = some part) :
    after.resources.get? part.key = some part ∨
      (flowTest.isDeleting = true ∨ flowTest.phase? = some .completed) ∧
        ∃ flowTests : List FlowTest, Answered past .listFlowTests flowTests ∧
          Cleanup.aggregatorInUse flowTests = false := by
  refine (answers.remains found).imp_right (fun takes => ?_)
  cases takes with
  | deleteFlow same => exact absurd same (belongs.key_ne_flow_key _)
  | deactivateFlow same => exact absurd same (belongs.key_ne_flow_key _)
  | deleteLabeled selected =>
    obtain ⟨cleansUp, rfl | ⟨-, unused⟩⟩ := asks.deleteLabeled
    · rw [Cluster.isSelected, belongs.not_selected_flowTest, Bool.and_false] at selected
      cases selected
    · exact ⟨cleansUp, unused⟩

theorem part_remains_of_working (undeleted : flowTest.isDeleting = false)
    (uncompleted : flowTest.phase? ≠ some .completed)
    (asks : Controller.Asks configuration now flowTest start before past asked)
    (answers : before.Answers asked reply after)
    (belongs : SharedAggregator.Part configuration part)
    (found : before.resources.get? part.key = some part) :
    after.resources.get? part.key = some part := by
  refine (part_remains asks answers belongs found).resolve_right (fun cleaned => ?_)
  rcases cleaned.1 with deleting | completed
  · rw [undeleted] at deleting
    cases deleting
  · exact uncompleted completed

theorem part_remains_of_running (serving : Serving configuration flowTest past before)
    (asks : Controller.Asks configuration now flowTest start before past asked)
    (answers : before.Answers asked reply after) (running : before.HasRunning)
    (belongs : SharedAggregator.Part configuration part) :
    after.resources.get? part.key = some part := by
  refine (part_remains asks answers belongs (serving.present running part belongs)).resolve_right
    (fun cleaned => ?_)
  obtain ⟨cleansUp, flowTests, answered, unused⟩ := cleaned
  rw [serving.checked cleansUp flowTests answered, running.inUse] at unused
  cases unused

/-- A flow test that a request leaves running was running before, or the request has set it
running. -/
theorem hasRunning_before (answers : before.Answers asked reply after)
    (running : after.HasRunning) :
    before.HasRunning ∨ ∃ other status, asked = .call (.patchStatus other status) ∧
      status.phase? = some .running := by
  obtain ⟨name, next, found, running⟩ := running
  obtain ⟨stored, foundBefore, becomes⟩ := answers.becomes_to_stored found
  rw [← next.phase?_status] at running
  rcases becomes.status with same | ⟨other, status, asked, -, merged⟩
  · rw [same, stored.phase?_status] at running
    exact .inl ⟨name, stored, foundBefore, running⟩
  · rw [merged, FlowTestStatus.merge, Option.or_eq_some_iff] at running
    rcases running with set | ⟨-, kept⟩
    · exact .inr ⟨other, status, asked, set⟩
    · exact .inl ⟨name, stored, foundBefore, stored.phase?_status ▸ kept⟩

theorem present_step (serving : Serving configuration flowTest past before)
    (asks : Controller.Asks configuration now flowTest start before past asked)
    (supplies : Controller.Supplies configuration flowTest past asked)
    (answers : before.Answers asked reply after) (running : after.HasRunning) :
    after.HasAggregator configuration := by
  intro part belongs
  rcases hasRunning_before answers running with running | ⟨other, status, same, running⟩
  · exact serving.part_remains_of_running asks answers running belongs
  · obtain ⟨undeleted, isRunning | ⟨created, ensured⟩⟩ := supplies other status same running
    · exact part_remains_of_working undeleted (by simp [isRunning]) asks answers belongs
        (serving.running undeleted isRunning part belongs)
    · exact part_remains_of_working undeleted (by simp [created]) asks answers belongs
        (serving.ensured undeleted created part belongs (ensured part belongs))

/-- Once its creation has been tried, a part of the log aggregator is there. -/
theorem ensured_step (serving : Serving configuration flowTest past before)
    (asks : Controller.Asks configuration now flowTest start before past asked)
    (answers : before.Answers asked reply after)
    (honest : Occurrence.IsHonest ⟨before, asked, reply, after⟩)
    (undeleted : flowTest.isDeleting = false) (created : flowTest.phase? = some .created)
    (belongs : SharedAggregator.Part configuration part)
    (ensured : Provisioning.Ensured (past ++ [⟨before, asked, reply, after⟩]) part) :
    after.resources.get? part.key = some part := by
  obtain ⟨tried, outcome, later, member, tolerated⟩ := ensured
  rcases List.mem_append.mp member with earlier | last
  · exact part_remains_of_working undeleted (by simp [created]) asks answers belongs
      (serving.ensured undeleted created part belongs ⟨_, _, _, earlier, tolerated⟩)
  cases List.mem_singleton.mp last
  obtain ⟨⟨failure, rfl⟩, rfl⟩ | ⟨-, -, rfl⟩ := answers.create
  · simp only [Provisioning.tolerateExisting] at tolerated
    split at tolerated
    next exists_ =>
      obtain ⟨stored, found⟩ := honest _ _ _ _ rfl exists_
      rw [found, serving.reserved part belongs stored found]
    next => cases tolerated
  · exact OrderedMap.get?_insert_self _ _ _

theorem checked_step (serving : Serving configuration flowTest past before)
    (asks : Controller.Asks configuration now flowTest start before past asked)
    (answers : before.Answers asked reply after)
    (cleansUp : flowTest.isDeleting = true ∨ flowTest.phase? = some .completed)
    {flowTests : List FlowTest}
    (answered : Answered (past ++ [⟨before, asked, reply, after⟩]) .listFlowTests flowTests) :
    Cleanup.aggregatorInUse flowTests = Cleanup.aggregatorInUse after.flowTests.values := by
  rcases answered.of_append with earlier | ⟨_, _, here⟩
  · refine (serving.checked cleansUp flowTests earlier).trans
      (answers.aggregatorInUse_eq (fun other status same => ?_)).symm
    subst same
    exact asks.not_cleaningUp cleansUp
  · cases here
    obtain ⟨⟨_, impossible⟩, -⟩ | ⟨listed, rfl⟩ := answers.listFlowTests
    · cases impossible
    · rw [Except.ok.inj listed]

theorem step (serving : Serving configuration flowTest past before)
    (asks : Controller.Asks configuration now flowTest start before past asked)
    (supplies : Controller.Supplies configuration flowTest past asked)
    (answers : before.Answers asked reply after)
    (honest : Occurrence.IsHonest ⟨before, asked, reply, after⟩) :
    Serving configuration flowTest (past ++ [⟨before, asked, reply, after⟩]) after where
  reserved := serving.reserved_step asks answers
  present := serving.present_step asks supplies answers
  running undeleted running part belongs :=
    part_remains_of_working undeleted (by simp [running]) asks answers belongs
      (serving.running undeleted running part belongs)
  ensured undeleted created _ belongs ensured :=
    serving.ensured_step asks answers honest undeleted created belongs ensured
  checked cleansUp _ answered := serving.checked_step asks answers cleansUp answered

end Serving

/-- What happens to a cluster under one configuration: reconciliations, as far as they come,
and whatever users do that leaves the place of the log aggregator alone. -/
inductive Cluster.Change (configuration : Configuration) : Cluster → Cluster → Prop where
  | reconciled {reconciliation : Reconciliation} :
      reconciliation.configuration = configuration → reconciliation.Lawful →
      (∀ occurrence ∈ reconciliation.occurrences, occurrence.IsHonest) →
      Change configuration reconciliation.start reconciliation.finish
  | addFlowTest {cluster : Cluster} {flowTest : FlowTest} : flowTest.status? = none →
      Change configuration cluster (cluster.addFlowTest flowTest)
  | requestDeletion {cluster : Cluster} {name : String} {stored : FlowTest}
      (instant : Timestamp) : cluster.flowTests.get? name = some stored →
      Change configuration cluster (cluster.putFlowTest name
        { stored with metadata := { stored.metadata with deletionTimestamp? := some instant } })
  | removeFlowTest (cluster : Cluster) (name : String) :
      Change configuration cluster { cluster with flowTests := cluster.flowTests.erase name }
  | putResource {cluster : Cluster} {resource : Resource} :
      ¬ SharedAggregator.IsPlace configuration resource.key →
      Change configuration cluster (cluster.addResource resource)
  | removeResource {cluster : Cluster} {key : ResourceKey} :
      ¬ SharedAggregator.IsPlace configuration key →
      Change configuration cluster { cluster with resources := cluster.resources.erase key }
  | failDeletes (cluster : Cluster) (fails : Bool) :
      Change configuration cluster { cluster with deletesFail := fails }

section Reachable

variable {configuration : Configuration} {before after initial cluster : Cluster}

end Reachable

namespace Cleanup

variable {configuration : Configuration} {flowTest : FlowTest} {start cluster : Cluster}

/-- Where a cleanup stands that leaves the log aggregator alone. -/
structure Sparing (configuration : Configuration) (start : Cluster) (past : List Occurrence)
    (cluster : Cluster) : Prop where
  sameFlowTests : cluster.flowTests = start.flowTests
  sameParts : ∀ part, SharedAggregator.Part configuration part →
    cluster.resources.get? part.key = start.resources.get? part.key
  checked : ∀ flowTests : List FlowTest, Answered past .listFlowTests flowTests →
    aggregatorInUse flowTests = true

theorem Sparing.step {before after : Cluster} {past : List Occurrence}
    {asked : ControllerRequest} {reply : controllerInterface.Reply asked}
    (sparing : Sparing configuration start past before)
    (reserved : start.IsReserved configuration)
    (inUse : aggregatorInUse start.flowTests.values = true) (asks : Asks flowTest past asked)
    (answers : before.Answers asked reply after) :
    Sparing configuration start (past ++ [⟨before, asked, reply, after⟩]) after := by
  obtain ⟨sameFlowTests, sameParts, checked⟩ := sparing
  cases asks with
  | @deleteProducts kind member =>
    have checkedAfter : ∀ flowTests : List FlowTest,
        Answered (past ++ [⟨before, _, reply, after⟩]) .listFlowTests flowTests →
          aggregatorInUse flowTests = true := by
      intro flowTests answered
      rcases answered.of_append with earlier | ⟨_, _, here⟩
      · exact checked flowTests earlier
      · cases here
    obtain ⟨-, rfl⟩ | ⟨-, rfl⟩ := answers.deleteLabeled
    · exact ⟨sameFlowTests, sameParts, checkedAfter⟩
    · refine ⟨sameFlowTests, fun part belongs => ?_, checkedAfter⟩
      rw [OrderedMap.get?_filter, sameParts part belongs]
      cases found : start.resources.get? part.key with
      | none => rfl
      | some stored =>
        obtain rfl := reserved part belongs stored found
        simp [Cluster.isSelected, belongs.not_selected_flowTest]
  | listFlowTests =>
    have sameCluster : after = before := by
      obtain ⟨-, same⟩ | ⟨-, same⟩ := answers.listFlowTests <;> exact same
    subst sameCluster
    refine ⟨sameFlowTests, sameParts, fun flowTests answered => ?_⟩
    rcases answered.of_append with earlier | ⟨_, _, here⟩
    · exact checked flowTests earlier
    · cases here
      obtain ⟨⟨_, impossible⟩, -⟩ | ⟨listed, -⟩ := answers.listFlowTests
      · cases impossible
      · rw [Except.ok.inj listed, sameFlowTests, inUse]
  | deleteParts member answered unused =>
    rw [checked _ answered] at unused
    cases unused

/-- While the log aggregator is in use, cleanup does not touch it, however far it comes. -/
theorem spares {occurrences : List Occurrence}
    {rest : Program controllerInterface (Except Failure Report)} {finish : Cluster}
    (execution : Execution (run flowTest).run start occurrences rest finish)
    (reserved : start.IsReserved configuration)
    (inUse : aggregatorInUse start.flowTests.values = true) :
    Sparing configuration start occurrences finish :=
  execution.invariant (Sparing configuration start) (run_asks flowTest [] start)
    (fun _ _ asks answers sparing => sparing.step reserved inUse asks answers)
    ⟨rfl, fun _ _ => rfl, by simp [Answered]⟩

end Cleanup

/-- An undisturbed reconciliation is one of the changes. -/
theorem Cluster.Change.undisturbed {surroundings : Surroundings} (configuration : Configuration)
    (now : Timestamp) {flowTest : FlowTest}
    (stored : surroundings.cluster.flowTests.get? flowTest.name = some flowTest) :
    Cluster.Change configuration surroundings.cluster
      (surroundings.run (Controller.reconcile configuration now flowTest)).2.cluster := by
  obtain ⟨occurrences, execution, answered⟩ :=
    Execution.of_run_answered surroundings (Controller.reconcile configuration now flowTest)
  let reconciliation : Reconciliation :=
    { configuration, now, flowTest, occurrences
      start := surroundings.cluster
      finish := (surroundings.run (Controller.reconcile configuration now flowTest)).2.cluster }
  have lawful : reconciliation.Lawful := ⟨stored, _, execution⟩
  exact @Cluster.Change.reconciled configuration reconciliation rfl lawful
    (fun occurrence member => (answered occurrence member).isHonest)

namespace Sample

/-- The sample flow test with the instant of its creation. -/
def dated : FlowTest :=
  { flowTest with metadata := { flowTest.metadata with creationTimestamp? := some ⟨0, 0⟩ } }

def waiting : Surroundings where
  cluster := (Cluster.addResource {} (.pod pod)).addResource (.flow (flow ["first"]))
    |>.addFlowTest dated

def accepted : Surroundings := (waiting.run (Controller.reconcile {} ⟨0, 0⟩ dated)).2

def underway : Surroundings :=
  (accepted.run (Controller.reconcile {} ⟨0, 0⟩
    { watching .created 1 with status? := some (.ofPhase .created) })).2

def ended : Surroundings :=
  (underway.run (Controller.reconcile {} ⟨300, 0⟩ (watching .running 1))).2

end Sample

end FlowTesting
