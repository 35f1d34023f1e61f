import FlowTesting.Proofs.Execution.Calls
import FlowTesting.Proofs.Execution.Procedure
import FlowTesting.Proofs.Marking
import FlowTesting.Verification

set_option autoImplicit false

/-!
# What verification asks for

A pass retires only flows that it has listed by the name of the flow test, and it stores
nothing but flags. When it succeeds, the stored flags are the ones that it has found.
-/

namespace FlowTesting

theorem FlowTest.getReference_makes {made : ControllerRequest → Prop} {kind : PipelineKind}
    (asked : ∀ namespaceName name, made (.call (.getFlow kind namespaceName name)))
    (flowTest : FlowTest) : Procedure.Makes made (flowTest.getReference kind) := by
  refine (Procedure.makes_make (asked _ _)).bind (fun found => ?_)
  cases found with
  | some flow => exact Procedure.makes_pure _
  | none => exact Procedure.makes_throw _

theorem FlowTest.getReference_yields (flowTest : FlowTest) (kind : PipelineKind)
    (past : List Occurrence) (cluster : Cluster) :
    Procedure.Yields (fun reference later after =>
      Answered later (.getFlow kind flowTest.spec.referenceFlow.namespaceName
        flowTest.spec.referenceFlow.name) (some reference) ∧ after = cluster)
      (flowTest.getReference kind) past cluster := by
  rw [FlowTest.getReference, Procedure.yields_bind]
  refine Procedure.yields_make (.getFlow _ _ _) (fun found after answers => ?_)
  obtain ⟨⟨failure, impossible⟩, -⟩ | ⟨-, rfl⟩ := answers.getFlow
  · cases impossible
  cases found with
  | none => exact Procedure.yields_throw _
  | some reference =>
    rw [Procedure.yields_pure]
    exact ⟨⟨after, after, by simp⟩, rfl⟩

namespace Verification

/-- The requests that verification makes. Only what has been listed is retired. -/
inductive Asks (flowTest : FlowTest) (past : List Occurrence) : ControllerRequest → Prop where
  | getFlow (kind : PipelineKind) (namespaceName name : String) :
      Asks flowTest past (.call (.getFlow kind namespaceName name))
  | listFlows (kind : PipelineKind) :
      Asks flowTest past (.call (.listFlows kind (Selector.flowTest flowTest.name)))
  | listIndexes : Asks flowTest past (.call .listIndexes)
  | deleteFlow {kind : PipelineKind} {flows : List PipelineFlow} {slice : PipelineFlow} :
      Answered past (.listFlows kind (Selector.flowTest flowTest.name)) flows → slice ∈ flows →
      Asks flowTest past (.call (.deleteFlow slice))
  | deactivateFlow {kind : PipelineKind} {flows : List PipelineFlow} {slice : PipelineFlow} :
      Answered past (.listFlows kind (Selector.flowTest flowTest.name)) flows → slice ∈ flows →
      Asks flowTest past (.call (.deactivateFlow slice))
  | store (verification : Verification) :
      Asks flowTest past (.call (.patchStatus flowTest (updatedStatus flowTest verification)))

theorem retireDelivered_makes {made : ControllerRequest → Prop} {policy : PassPolicy}
    {reference : PipelineFlow} {indexes : List Index} {slices : List PipelineFlow}
    (deletes : ∀ slice ∈ slices, made (.call (.deleteFlow slice)))
    (deactivates : ∀ slice ∈ slices, made (.call (.deactivateFlow slice))) (progress : Progress) :
    Procedure.Makes made (retireDelivered policy reference indexes progress slices) := by
  induction slices generalizing progress with
  | nil => exact Procedure.makes_pure _
  | cons slice rest ih =>
    obtain ⟨deletesHere, deletesRest⟩ := List.forall_mem_cons.mp deletes
    obtain ⟨deactivatesHere, deactivatesRest⟩ := List.forall_mem_cons.mp deactivates
    unfold retireDelivered
    split
    next => exact ih deletesRest deactivatesRest progress
    next testType delivered =>
      have retires : Procedure.Makes made (retire policy slice) := by
        cases policy with
        | delete => exact Procedure.makes_attempt deletesHere
        | deactivate => exact Procedure.makes_attempt deactivatesHere
      refine retires.bind (fun outcome => ?_)
      cases outcome with
      | error failure => exact Procedure.makes_pure _
      | ok _ => exact ih deletesRest deactivatesRest _

/-- The end of a pass: new flags are stored, and a failure is passed on. -/
def finish (flowTest : FlowTest) (progress : Progress) : Procedure Verification := do
  if 0 < progress.flipped then
    Call.make (.patchStatus flowTest (updatedStatus flowTest progress.verification))
  match progress.failure? with
  | some failure => throw failure
  | none => return progress.verification

theorem finish_makes {made : ControllerRequest → Prop} {flowTest : FlowTest} {progress : Progress}
    (stores : made
      (.call (.patchStatus flowTest (updatedStatus flowTest progress.verification)))) :
    Procedure.Makes made (finish flowTest progress) := by
  have ends : Procedure.Makes made
      (match progress.failure? with
        | some failure => throw failure
        | none => pure progress.verification : Procedure Verification) := by
    split
    next failure _ => exact Procedure.makes_throw _
    next => exact Procedure.makes_pure _
  unfold finish
  by_cases flipped : 0 < progress.flipped
  · simp only [flipped, ↓reduceIte]
    exact (Procedure.makes_make stores).bind (fun _ => ends)
  · simp only [flipped, ↓reduceIte]
    exact ends

theorem run_asks (flowTest : FlowTest) (policy : PassPolicy) (past : List Occurrence)
    (cluster : Cluster) :
    Procedure.Assures (fun past occurrence => Asks flowTest past occurrence.request)
      (fun _ _ _ => True) (run flowTest policy) past cluster := by
  refine Procedure.Assures.bind ((Procedure.assures_outcome _).mpr trivial)
    (fun kind past cluster => ?_)
  have reads : Procedure.Makes (fun asked => ∀ past, Asks flowTest past asked)
      (flowTest.getReference kind) :=
    flowTest.getReference_makes (fun namespaceName name past => .getFlow kind namespaceName name)
  refine ((reads.assures past cluster).mono (fun past _ asked => asked past)
    (fun _ _ _ => id)).bind (fun reference past cluster => ?_)
  refine (Procedure.assures_bind _ _).mpr ((Procedure.assures_make (.listFlows kind _)).mpr
    (fun outcome after _ => ⟨.listFlows kind, ?_⟩))
  cases outcome with
  | error failure => trivial
  | ok slices =>
    simp only [Procedure.Between]
    refine Procedure.Makes.following ?_ (Answered.last past cluster after slices)
    refine (Procedure.makes_make (fun _ _ => .listIndexes)).bind (fun indexes => ?_)
    refine (retireDelivered_makes (fun slice member past listed => .deleteFlow listed member)
      (fun slice member past listed => .deactivateFlow listed member) _).bind (fun progress => ?_)
    exact finish_makes (fun _ _ => .store _)

/-- The flags of a pass belong to those that it started from: there are as many, and they
have changed only if one has been set. -/
structure Tracks (status : FlowTestStatus) (progress : Progress) : Prop where
  matchLength : progress.verification.matchStatus.length = status.matchStatus.length
  filterLength : progress.verification.filterStatus.length = status.filterStatus.length
  unchanged : progress.flipped = 0 →
    progress.verification.matchStatus = status.matchStatus ∧
      progress.verification.filterStatus = status.filterStatus

theorem Tracks.record {status : FlowTestStatus} {progress : Progress}
    (tracks : Tracks status progress) (reference slice : PipelineFlow) (testType : TestType) :
    Tracks status
      { progress with
        verification := (record reference slice testType progress.verification).1
        flipped :=
          progress.flipped + (record reference slice testType progress.verification).2 } := by
  obtain ⟨matchLength, filterLength, unchanged⟩ := tracks
  cases testType with
  | matchRule =>
    refine ⟨(Marking.length_markPassed ..).trans matchLength, filterLength, fun none => ?_⟩
    obtain ⟨noneBefore, noneHere⟩ := Nat.add_eq_zero_iff.mp none
    obtain ⟨sameMatch, sameFilter⟩ := unchanged noneBefore
    exact ⟨(Marking.markPassed_eq_self noneHere).trans sameMatch, sameFilter⟩
  | filterStage =>
    refine ⟨matchLength, (Marking.length_markPassed ..).trans filterLength, fun none => ?_⟩
    obtain ⟨noneBefore, noneHere⟩ := Nat.add_eq_zero_iff.mp none
    obtain ⟨sameMatch, sameFilter⟩ := unchanged noneBefore
    exact ⟨sameMatch, (Marking.markPassed_eq_self noneHere).trans sameFilter⟩

theorem retire_yields (policy : PassPolicy) (slice : PipelineFlow) (past : List Occurrence)
    (cluster : Cluster) :
    Procedure.Yields (fun _ _ after => after.flowTests = cluster.flowTests) (retire policy slice)
      past cluster := by
  cases policy with
  | delete =>
    intro outcome after answers
    refine ⟨trivial, fun _ _ => ?_⟩
    obtain ⟨-, rfl⟩ | ⟨-, rfl⟩ := answers.deleteFlow <;> rfl
  | deactivate =>
    intro outcome after answers
    refine ⟨trivial, fun _ _ => ?_⟩
    obtain ⟨-, rfl⟩ | ⟨-, stored, -, rfl⟩ := answers.deactivateFlow <;> rfl

theorem retireDelivered_yields {status : FlowTestStatus} {policy : PassPolicy}
    {reference : PipelineFlow} {indexes : List Index} {slices : List PipelineFlow}
    {progress : Progress} (tracks : Tracks status progress) (past : List Occurrence)
    (cluster : Cluster) :
    Procedure.Yields (fun result _ after => Tracks status result ∧
      after.flowTests = cluster.flowTests)
      (retireDelivered policy reference indexes progress slices) past cluster := by
  induction slices generalizing progress past cluster with
  | nil =>
    rw [retireDelivered, Procedure.yields_pure]
    exact ⟨tracks, rfl⟩
  | cons slice rest ih =>
    unfold retireDelivered
    split
    next => exact ih tracks past cluster
    next testType delivered =>
      rw [Procedure.yields_bind]
      refine (retire_yields policy slice past cluster).mono ?_
      intro outcome past between same
      cases outcome with
      | error failure =>
        rw [Procedure.yields_pure]
        exact ⟨⟨tracks.matchLength, tracks.filterLength, tracks.unchanged⟩, same⟩
      | ok _ =>
        refine (ih (tracks.record reference slice testType) past between).mono ?_
        intro result _ after retired
        obtain ⟨tracked, sameAfter⟩ := retired
        exact ⟨tracked, sameAfter.trans same⟩

/-- Whether a cluster stores the flags that a pass has found, and leaves the phase as it was. -/
def StoredIn (flowTest : FlowTest) (verification : Verification) (cluster : Cluster) : Prop :=
  ∃ stored, cluster.flowTests.get? flowTest.name = some stored ∧
    stored.status = updatedStatus flowTest verification

private theorem merged_eq {flags stored : List Bool} (sameLength : flags.length = stored.length) :
    (if flags.isEmpty then stored else flags) = flags := by
  cases flags with
  | nil => exact (List.length_eq_zero_iff.mp sameLength.symm)
  | cons => rfl

theorem merge_updatedStatus {flowTest : FlowTest} {progress : Progress}
    (tracks : Tracks flowTest.status progress) :
    flowTest.status.merge (updatedStatus flowTest progress.verification) =
      updatedStatus flowTest progress.verification := by
  rw [FlowTestStatus.merge, updatedStatus, FlowTestStatus.mk.injEq]
  exact ⟨Option.or_self, merged_eq tracks.matchLength, merged_eq tracks.filterLength⟩

private theorem ends {flowTest : FlowTest} (progress : Progress) (past : List Occurrence)
    (cluster : Cluster) (stored : StoredIn flowTest progress.verification cluster) :
    Procedure.Yields (fun verification _ after => StoredIn flowTest verification after)
      (match progress.failure? with
        | some failure => throw failure
        | none => pure progress.verification) past cluster := by
  split
  next failure _ => exact Procedure.yields_throw _
  next => exact (Procedure.yields_pure _).mpr stored

private theorem run_yields_of_stored {flowTest : FlowTest} {policy : PassPolicy}
    {cluster : Cluster} (stored : cluster.flowTests.get? flowTest.name = some flowTest)
    (past : List Occurrence) :
    Procedure.Yields (fun verification _ after => StoredIn flowTest verification after)
      (run flowTest policy) past cluster := by
  refine Procedure.yields_outcome_bind (fun kind _ => ?_)
  rw [Procedure.yields_bind]
  refine (flowTest.getReference_yields kind past cluster).mono ?_
  rintro reference past _ ⟨-, rfl⟩
  rw [Procedure.yields_bind]
  refine Procedure.yields_make (.listFlows kind _) (fun slices listed answers => ?_)
  obtain ⟨⟨_, impossible⟩, -⟩ | ⟨-, rfl⟩ := answers.listFlows
  · cases impossible
  rw [Procedure.yields_bind]
  refine Procedure.yields_make .listIndexes (fun indexes after answers => ?_)
  obtain rfl := answers.listIndexes
  rw [Procedure.yields_bind]
  have tracks : Tracks flowTest.status ⟨⟨flowTest.status.matchStatus,
      flowTest.status.filterStatus, []⟩, 0, none⟩ := ⟨rfl, rfl, fun _ => ⟨rfl, rfl⟩⟩
  refine (retireDelivered_yields tracks _ _).mono ?_
  intro progress past retired retired
  obtain ⟨tracked, same⟩ := retired
  have found : retired.flowTests.get? flowTest.name = some flowTest := by rw [same, stored]
  by_cases flipped : 0 < progress.flipped
  · simp only [flipped, ↓reduceIte]
    rw [Procedure.yields_bind]
    refine Procedure.yields_make (.patchStatus _ _) (fun _ patched answers => ?_)
    refine ends progress _ _ ?_
    obtain ⟨⟨_, impossible⟩, -⟩ | ⟨-, before, foundBefore, rfl⟩ := answers.patchStatus
    · cases impossible
    obtain rfl : flowTest = before := Option.some.inj (found.symm.trans foundBefore)
    exact ⟨_, OrderedMap.get?_insert_self .., merge_updatedStatus tracked⟩
  · simp only [flipped, ↓reduceIte]
    obtain ⟨sameMatch, sameFilter⟩ := tracked.unchanged (by omega)
    refine ends progress _ _ ⟨flowTest, found, ?_⟩
    rw [updatedStatus, sameMatch, sameFilter]

/-- A pass over the stored flow test that succeeds has stored the flags that it has found. -/
theorem run_yields (flowTest : FlowTest) (policy : PassPolicy) (past : List Occurrence)
    (cluster : Cluster) :
    Procedure.Yields (fun verification _ after =>
      cluster.flowTests.get? flowTest.name = some flowTest →
        StoredIn flowTest verification after) (run flowTest policy) past cluster := by
  by_cases stored : cluster.flowTests.get? flowTest.name = some flowTest
  · exact (run_yields_of_stored stored past).mono (fun _ _ _ held _ => held)
  · exact (Procedure.yields_extended _).mono (fun _ _ _ _ held => absurd held stored)

end Verification

end FlowTesting
