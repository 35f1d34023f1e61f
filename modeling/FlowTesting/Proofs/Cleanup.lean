import FlowTesting.Cleanup
import FlowTesting.Proofs.Execution.Calls
import FlowTesting.Proofs.Execution.Procedure
import FlowTesting.Proofs.Execution.Undisturbed

set_option autoImplicit false

/-!
# What cleanup asks for

Cleanup deletes what it selects by the name of the flow test and, when nobody needs it,
the log aggregator. It succeeds only when every deletion has.
-/

namespace FlowTesting.Cleanup

/-- The requests that cleanup makes. The log aggregator is deleted only after no flow test
has been found to need it. -/
inductive Asks (flowTest : FlowTest) (past : List Occurrence) : ControllerRequest → Prop where
  | deleteProducts {kind : Kind} : kind ∈ testKinds →
      Asks flowTest past (.call (.deleteLabeled kind (Selector.flowTest flowTest.name)))
  | listFlowTests : Asks flowTest past (.call .listFlowTests)
  | deleteParts {kind : Kind} {flowTests : List FlowTest} : kind ∈ aggregatorKinds →
      Answered past .listFlowTests flowTests → aggregatorInUse flowTests = false →
      Asks flowTest past (.call (.deleteLabeled kind Selector.aggregator))

/-- Whether each of the deletions of a cleanup has succeeded, the check for the log
aggregator included. -/
def Performed (flowTest : FlowTest) (past : List Occurrence) : Prop :=
  (∀ kind ∈ testKinds,
    FlowTesting.Performed past (.deleteLabeled kind (Selector.flowTest flowTest.name))) ∧
  ∃ flowTests : List FlowTest, Answered past .listFlowTests flowTests ∧
    (aggregatorInUse flowTests = true ∨ ∀ kind ∈ aggregatorKinds,
      FlowTesting.Performed past (.deleteLabeled kind Selector.aggregator))

theorem Performed.mono {flowTest : FlowTest} {past later : List Occurrence}
    (performed : Performed flowTest past) (kept : past ⊆ later) : Performed flowTest later := by
  obtain ⟨products, flowTests, answered, parts⟩ := performed
  exact ⟨fun kind member => (products kind member).mono kept, flowTests, answered.mono kept,
    parts.imp_right (fun performed kind member => (performed kind member).mono kept)⟩

theorem deleteKinds_makes {made : ControllerRequest → Prop} {selector : String} {kinds : List Kind}
    (asked : ∀ kind ∈ kinds, made (.call (.deleteLabeled kind selector))) :
    Procedure.Makes made (deleteKinds selector kinds) := by
  induction kinds with
  | nil => exact Procedure.makes_pure _
  | cons kind rest ih =>
    obtain ⟨askedHere, askedRest⟩ := List.forall_mem_cons.mp asked
    refine (Procedure.makes_make askedHere).bind (fun deleted => ?_)
    exact (ih askedRest).bind (fun others => Procedure.makes_pure _)

/-- What has become of a cluster in which the objects of some kinds were deleted. -/
structure Deleted (selector : String) (kinds : List Kind) (past : List Occurrence)
    (before : Cluster) (later : List Occurrence) (after : Cluster) : Prop where
  kept : past ⊆ later
  succeeded : ∀ occurrence ∈ later, occurrence ∈ past ∨ occurrence.Succeeded
  performed : ∀ kind ∈ kinds, FlowTesting.Performed later (.deleteLabeled kind selector)
  sameFlowTests : after.flowTests = before.flowTests
  remaining : ∀ key resource, after.resources.get? key = some resource →
    before.resources.get? key = some resource ∧
      ¬ (key.kind ∈ kinds ∧ Selector.selects selector resource.labels = true)

theorem deleteKinds_yields (selector : String) (kinds : List Kind) (past : List Occurrence)
    (cluster : Cluster) :
    Procedure.Yields (fun _ => Deleted selector kinds past cluster) (deleteKinds selector kinds)
      past cluster := by
  induction kinds generalizing past cluster with
  | nil =>
    rw [deleteKinds, Procedure.yields_pure]
    exact ⟨List.Subset.refl past, fun _ => .inl, nofun, rfl, fun _ _ found => ⟨found, by simp⟩⟩
  | cons kind rest ih =>
    refine (Procedure.yields_bind _ _).mpr ?_
    refine Procedure.yields_make (.deleteLabeled kind selector) (fun deleted middle answers => ?_)
    refine (Procedure.yields_bind _ _).mpr ((ih _ middle).mono ?_)
    intro others later after deleted
    obtain ⟨kept, succeeded, performed, sameFlowTests, remaining⟩ := deleted
    rw [Procedure.yields_pure]
    obtain ⟨⟨failure, impossible⟩, -⟩ | ⟨-, rfl⟩ := answers.deleteLabeled
    · cases impossible
    have performedHere : FlowTesting.Performed later (.deleteLabeled kind selector) :=
      ⟨deleted, _, _, kept (List.mem_append_right past List.mem_cons_self)⟩
    refine ⟨fun _ member => kept (List.mem_append_left _ member), fun occurrence member => ?_,
      List.forall_mem_cons.mpr ⟨performedHere, performed⟩, sameFlowTests,
      fun key resource found => ?_⟩
    · rcases succeeded occurrence member with inPast | here
      · rcases List.mem_append.mp inPast with before | last
        · exact .inl before
        · rw [List.mem_singleton.mp last]
          exact .inr ⟨deleted, rfl⟩
      · exact .inr here
    · obtain ⟨foundBetween, notInRest⟩ := remaining key resource found
      rw [OrderedMap.get?_filter, Option.filter_eq_some_iff] at foundBetween
      obtain ⟨foundBefore, notSelected⟩ := foundBetween
      refine ⟨foundBefore, ?_⟩
      intro taken
      obtain ⟨member, selected⟩ := taken
      rcases List.mem_cons.mp member with here | inRest
      · simp [Cluster.isSelected, here, selected] at notSelected
      · exact notInRest ⟨inRest, selected⟩

theorem teardownAggregator_asks (flowTest : FlowTest) (past : List Occurrence)
    (cluster : Cluster) :
    Procedure.Assures (fun past occurrence => Asks flowTest past occurrence.request)
      (fun _ _ _ => True) teardownAggregator past cluster := by
  rw [teardownAggregator, Procedure.assures_bind]
  refine (Procedure.assures_make .listFlowTests).mpr
    (fun outcome after _ => ⟨.listFlowTests, ?_⟩)
  cases outcome with
  | error failure => trivial
  | ok flowTests =>
    simp only [Procedure.Between]
    split
    next inUse => trivial
    next unused =>
      refine Procedure.Makes.following ?_ (Answered.last past cluster after flowTests)
      refine (deleteKinds_makes (fun kind member past answered => ?_)).bind
        (fun _ => Procedure.makes_pure _)
      exact .deleteParts member answered (by simpa using unused)

theorem run_asks (flowTest : FlowTest) (past : List Occurrence) (cluster : Cluster) :
    Procedure.Assures (fun past occurrence => Asks flowTest past occurrence.request)
      (fun _ _ _ => True) (run flowTest) past cluster := by
  have makes : Procedure.Makes (fun asked => ∀ past, Asks flowTest past asked)
      (testResources flowTest.name) :=
    deleteKinds_makes (fun kind member past => .deleteProducts member)
  refine ((makes.assures past cluster).mono (fun past _ asked => asked past)
    (fun _ _ _ => id)).bind (fun deleted past cluster => ?_)
  exact (teardownAggregator_asks flowTest past cluster).bind (fun removed past cluster => trivial)

/-- What has become of a cluster in which the check for the log aggregator has succeeded. -/
structure TornDown (past : List Occurrence) (before : Cluster) (later : List Occurrence)
    (after : Cluster) : Prop where
  kept : past ⊆ later
  succeeded : ∀ occurrence ∈ later, occurrence ∈ past ∨ occurrence.Succeeded
  performed : ∃ flowTests : List FlowTest, Answered later .listFlowTests flowTests ∧
    (aggregatorInUse flowTests = true ∨ ∀ kind ∈ aggregatorKinds,
      FlowTesting.Performed later (.deleteLabeled kind Selector.aggregator))
  sameFlowTests : after.flowTests = before.flowTests
  remaining : ∀ key resource, after.resources.get? key = some resource →
    before.resources.get? key = some resource

theorem teardownAggregator_yields (past : List Occurrence) (cluster : Cluster) :
    Procedure.Yields (fun _ => TornDown past cluster) teardownAggregator past cluster := by
  rw [teardownAggregator, Procedure.yields_bind]
  refine Procedure.yields_make .listFlowTests (fun flowTests after answers => ?_)
  obtain ⟨⟨failure, impossible⟩, -⟩ | ⟨-, rfl⟩ := answers.listFlowTests
  · cases impossible
  have answered : Answered (past ++ [⟨after, .call .listFlowTests, .ok flowTests, after⟩])
      .listFlowTests flowTests := .last past after after flowTests
  have succeeded : ∀ occurrence ∈ past ++ [⟨after, .call .listFlowTests, .ok flowTests, after⟩],
      occurrence ∈ past ∨ occurrence.Succeeded := by
    simp +contextual [or_imp, Occurrence.Succeeded]
  split
  next inUse =>
    rw [Procedure.yields_pure]
    exact ⟨List.subset_append_left _ _, succeeded, ⟨flowTests, answered, .inl inUse⟩, rfl,
      fun _ _ => id⟩
  next unused =>
    rw [Procedure.yields_bind]
    refine (deleteKinds_yields _ _ _ _).mono (fun deleted later last second => ?_)
    rw [Procedure.yields_pure]
    refine ⟨fun _ member => second.kept (List.mem_append_left _ member), ?_,
      ⟨flowTests, answered.mono second.kept, .inr second.performed⟩, second.sameFlowTests,
      fun key resource found => (second.remaining key resource found).1⟩
    intro occurrence member
    rcases second.succeeded occurrence member with before | here
    · exact succeeded occurrence before
    · exact .inr here

/-- What has become of a cluster in which a cleanup has succeeded. -/
structure Finished (flowTest : FlowTest) (past : List Occurrence) (before : Cluster)
    (later : List Occurrence) (after : Cluster) : Prop where
  performed : Performed flowTest later
  succeeded : ∀ occurrence ∈ later, occurrence ∈ past ∨ occurrence.Succeeded
  sameFlowTests : after.flowTests = before.flowTests
  remaining : ∀ key resource, after.resources.get? key = some resource →
    ¬ (key.kind ∈ testKinds ∧
      Selector.selects (Selector.flowTest flowTest.name) resource.labels = true)

theorem run_yields (flowTest : FlowTest) (past : List Occurrence) (cluster : Cluster) :
    Procedure.Yields (fun _ => Finished flowTest past cluster) (run flowTest) past cluster := by
  rw [run, testResources, Procedure.yields_bind]
  refine (deleteKinds_yields _ _ past cluster).mono (fun deleted middle between first => ?_)
  rw [Procedure.yields_bind]
  refine (teardownAggregator_yields middle between).mono (fun removed later after second => ?_)
  rw [Procedure.yields_pure]
  refine ⟨⟨fun kind member => (first.performed kind member).mono second.kept, second.performed⟩,
    ?_, second.sameFlowTests.trans first.sameFlowTests, ?_⟩
  · intro occurrence member
    rcases second.succeeded occurrence member with before | here
    · exact first.succeeded occurrence before
    · exact .inr here
  · exact fun key resource found =>
      (first.remaining key resource (second.remaining key resource found)).2

section Undisturbed

/-- A cluster without the objects of some kinds that a selector selects. -/
def without (selector : String) (kinds : List Kind) (cluster : Cluster) : Cluster :=
  { cluster with
    resources := cluster.resources.filter (fun key resource =>
      !kinds.any (fun kind => Cluster.isSelected kind selector key resource)) }

@[simp]
theorem without_nil (selector : String) (cluster : Cluster) :
    without selector [] cluster = cluster := by
  have sameResources : cluster.resources.filter (fun _ _ => true) = cluster.resources := by
    apply OrderedMap.ext
    intro key
    rw [OrderedMap.get?_filter]
    cases cluster.resources.get? key <;> rfl
  simp [without, sameResources]

theorem without_cons (selector : String) (kind : Kind) (kinds : List Kind) (cluster : Cluster) :
    without selector (kind :: kinds) cluster =
      without selector kinds { cluster with
        resources := cluster.resources.filter (fun key resource =>
          !Cluster.isSelected kind selector key resource) } := by
  have sameResources : cluster.resources.filter (fun key resource =>
        !(kind :: kinds).any (fun kind => Cluster.isSelected kind selector key resource)) =
      (cluster.resources.filter (fun key resource =>
        !Cluster.isSelected kind selector key resource)).filter (fun key resource =>
          !kinds.any (fun kind => Cluster.isSelected kind selector key resource)) := by
    apply OrderedMap.ext
    intro key
    simp [OrderedMap.get?_filter, Option.filter_filter]
  simp only [without, sameResources]

theorem get?_without_iff {selector : String} {kinds : List Kind} {cluster : Cluster}
    {key : ResourceKey} {resource : Resource} :
    (without selector kinds cluster).resources.get? key = some resource ↔
      cluster.resources.get? key = some resource ∧
        ¬ (key.kind ∈ kinds ∧ Selector.selects selector resource.labels = true) := by
  simp only [without, OrderedMap.get?_filter, Option.filter_eq_some_iff, Bool.not_eq_true',
    List.any_eq_false, Cluster.isSelected, Bool.and_eq_true, beq_iff_eq]
  refine and_congr_right (fun _ => ?_)
  constructor
  · intro spared selected
    exact spared key.kind selected.1 ⟨rfl, selected.2⟩
  · intro spared kind member selected
    exact spared ⟨selected.1 ▸ member, selected.2⟩

/-- A cluster in which a cleanup has succeeded. -/
def cleaned (flowTest : FlowTest) (cluster : Cluster) : Cluster :=
  let cleared := without (Selector.flowTest flowTest.name) testKinds cluster
  if aggregatorInUse cluster.flowTests.values then cleared
  else without Selector.aggregator aggregatorKinds cleared

variable {surroundings : Surroundings}

theorem run_deleteKinds (works : surroundings.cluster.deletesFail = false) (selector : String)
    (kinds : List Kind) :
    ∃ count, surroundings.run (deleteKinds selector kinds) =
      (.ok count,
        { surroundings with cluster := without selector kinds surroundings.cluster }) := by
  induction kinds generalizing surroundings with
  | nil =>
    rw [without_nil]
    exact ⟨0, rfl⟩
  | cons kind rest ih =>
    let between : Surroundings := { surroundings with
      cluster := { surroundings.cluster with
        resources := surroundings.cluster.resources.filter (fun key resource =>
          !Cluster.isSelected kind selector key resource) } }
    obtain ⟨count, answered⟩ : ∃ count,
        surroundings.cluster.deleteLabeled kind selector = (.ok count, between.cluster) :=
      ⟨_, if_neg (works ▸ Bool.false_ne_true)⟩
    have deleted : surroundings.run (Call.make (.deleteLabeled kind selector)) =
        (.ok count, between) := by
      rw [Surroundings.run_make]
      simp only [Surroundings.answer, Surroundings.onCluster, answered, between]
    obtain ⟨others, deletedRest⟩ := @ih between works
    refine ⟨count + others, ?_⟩
    rw [deleteKinds, Surroundings.run_bind_of_ok _ deleted,
      Surroundings.run_bind_of_ok _ deletedRest, Surroundings.run_pure, without_cons]

/-- A cleanup succeeds where deletions do. -/
theorem run_run (works : surroundings.cluster.deletesFail = false) (flowTest : FlowTest) :
    ∃ report, surroundings.run (run flowTest) =
      (.ok report, { surroundings with cluster := cleaned flowTest surroundings.cluster }) := by
  obtain ⟨count, deleted⟩ := run_deleteKinds works (Selector.flowTest flowTest.name) testKinds
  let between : Surroundings := { surroundings with
    cluster := without (Selector.flowTest flowTest.name) testKinds surroundings.cluster }
  have listed : between.run (Call.make .listFlowTests) =
      (.ok surroundings.cluster.flowTests.values, between) := rfl
  obtain ⟨removed, tornDown⟩ : ∃ removed, between.run teardownAggregator =
      (.ok removed, { surroundings with cluster := cleaned flowTest surroundings.cluster }) := by
    rw [teardownAggregator, Surroundings.run_bind_of_ok _ listed, cleaned]
    split
    next => exact ⟨false, rfl⟩
    next =>
      obtain ⟨parts, deletedParts⟩ :=
        @run_deleteKinds between works Selector.aggregator aggregatorKinds
      rw [Surroundings.run_bind_of_ok _ deletedParts]
      exact ⟨true, rfl⟩
  refine ⟨⟨count, removed⟩, ?_⟩
  rw [run, testResources, Surroundings.run_bind_of_ok _ deleted,
    Surroundings.run_bind_of_ok _ tornDown, Surroundings.run_pure]

/-- Where deletions fail, a cleanup fails with the first of them. -/
theorem run_run_of_deletesFail (fails : surroundings.cluster.deletesFail = true)
    (flowTest : FlowTest) :
    surroundings.run (run flowTest) = (.error (.refused Cluster.injected), surroundings) := by
  have refused : surroundings.run
      (Call.make (.deleteLabeled .flow (Selector.flowTest flowTest.name))) =
        (.error (.refused Cluster.injected), surroundings) := by
    rw [Surroundings.run_make]
    simp only [Surroundings.answer, Surroundings.onCluster, Cluster.deleteLabeled, fails,
      ↓reduceIte, Cluster.refuse]
  simp only [run, testResources, testKinds, deleteKinds, Surroundings.run_bind, refused]

end Undisturbed

end FlowTesting.Cleanup
