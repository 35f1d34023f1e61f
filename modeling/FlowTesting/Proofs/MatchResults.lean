import FlowTesting.Proofs.Deployment
import FlowTesting.Proofs.Lifecycle

set_option autoImplicit false

/-!
# Results of match rules

What a pass finds out about the match rules of a reference once its slices have been deployed.
A slice reports to the first rule that equals its own, so equal rules share one flag.
-/

namespace FlowTesting

def Verification.flags (verification : Verification) : TestType → List Bool
  | .matchRule => verification.matchStatus
  | .filterStage => verification.filterStatus

def PipelineFlow.entries (flow : PipelineFlow) : TestType → List Rule
  | .matchRule => flow.matchRules
  | .filterStage => flow.filters

namespace Verification

variable {reference : PipelineFlow} {indexes : List Index} {progress : Progress}

/-- What a pass has found out when it has retired every slice that has delivered. -/
def recordDelivered (reference : PipelineFlow) (indexes : List Index) (progress : Progress) :
    List PipelineFlow → Progress
  | [] => progress
  | slice :: rest =>
    match delivered? indexes slice with
    | none => recordDelivered reference indexes progress rest
    | some testType =>
      let (verification, flipped) := record reference slice testType progress.verification
      recordDelivered reference indexes
        { progress with verification, flipped := progress.flipped + flipped } rest

theorem delivered?_flow_build {template : SliceTemplate} {owner : Owner} {testId : Nat}
    {testType : TestType} {matchRules filters : List Rule} :
    delivered? indexes (Slice.build template owner testId testType matchRules filters).flow =
      if Index.haveLogs indexes (Slice.nameFor owner.uid testId testType) then some testType
      else none := by
  simp [delivered?]

theorem flags_record (slice : PipelineFlow) (testType wanted : TestType)
    (verification : Verification) :
    (record reference slice testType verification).1.flags wanted =
      if testType = wanted then
        (Marking.markPassed (verification.flags wanted) (reference.entries wanted)
          (slice.entries wanted)).1
      else verification.flags wanted := by
  cases testType <;> cases wanted <;> rfl

theorem length_flags_record (slice : PipelineFlow) (testType wanted : TestType)
    (verification : Verification) :
    ((record reference slice testType verification).1.flags wanted).length =
      (verification.flags wanted).length := by
  rw [flags_record]
  split
  · exact Marking.length_markPassed ..
  · rfl

theorem failure?_recordDelivered (slices : List PipelineFlow) :
    (recordDelivered reference indexes progress slices).failure? = progress.failure? := by
  induction slices generalizing progress with
  | nil => rfl
  | cons slice rest ih =>
    rw [recordDelivered]
    split
    · exact ih
    · exact ih

theorem length_flags_recordDelivered (slices : List PipelineFlow) (testType : TestType) :
    ((recordDelivered reference indexes progress slices).verification.flags testType).length =
      (progress.verification.flags testType).length := by
  induction slices generalizing progress with
  | nil => rfl
  | cons slice rest ih =>
    rw [recordDelivered]
    split
    next => exact ih
    next delivered _ => exact ih.trans (length_flags_record ..)

/-- A flag is set by the slices that have delivered and claim its entry, in whatever order they
come. -/
theorem getElem?_flags_recordDelivered_iff (slices : List PipelineFlow) (testType : TestType)
    (place : Nat) :
    ((recordDelivered reference indexes progress slices).verification.flags testType)[place]? =
        some true ↔
      (progress.verification.flags testType)[place]? = some true ∨
        place < (progress.verification.flags testType).length ∧
        ∃ slice ∈ slices, delivered? indexes slice = some testType ∧
          place ∈ Marking.claims (reference.entries testType) [] (slice.entries testType) := by
  induction slices generalizing progress with
  | nil => simp [recordDelivered]
  | cons slice rest ih =>
    rw [recordDelivered]
    split
    next silent => simp [ih, silent]
    next delivered speaks =>
      rw [ih, length_flags_record, flags_record]
      by_cases same : delivered = testType
      · subst same
        simp only [↓reduceIte, Marking.getElem?_markPassed_iff, List.mem_cons, or_and_right,
          exists_or, exists_eq_left, speaks, true_and, and_or_left, or_assoc]
      · simp [same, speaks]

/-- Whether nothing keeps a slice from being retired. -/
def Retirable (policy : PassPolicy) (cluster : Cluster) (slice : PipelineFlow) : Prop :=
  match policy with
  | .delete => cluster.deletesFail = false
  | .deactivate =>
    ∃ stored, cluster.resources.get? (Resource.flow slice).key = some (.flow stored)

variable {surroundings : Surroundings} {policy : PassPolicy}

theorem run_retire {slice : PipelineFlow} (retirable : Retirable policy surroundings.cluster slice) :
    ∃ after, surroundings.run (retire policy slice) = (.ok (.ok ()), after) ∧
      after.cluster.flowTests = surroundings.cluster.flowTests ∧
      ∀ other, Retirable policy surroundings.cluster other → Retirable policy after.cluster other := by
  cases policy with
  | delete =>
    have works : surroundings.cluster.deletesFail = false := retirable
    rw [retire, Surroundings.run_attempt]
    simp only [Surroundings.answer, Surroundings.onCluster, Cluster.deleteFlow, works,
      Bool.false_eq_true, ↓reduceIte]
    exact ⟨_, rfl, rfl, fun _ _ => rfl⟩
  | deactivate =>
    obtain ⟨stored, found⟩ := retirable
    rw [retire, Surroundings.run_attempt]
    simp only [Surroundings.answer, Surroundings.onCluster, Cluster.deactivateFlow, found]
    refine ⟨_, rfl, rfl, fun other => ?_⟩
    intro retirable
    obtain ⟨otherStored, otherFound⟩ := retirable
    by_cases same : (Resource.flow other).key = (Resource.flow slice).key
    · refine ⟨stored.withStatus { active? := some false }, ?_⟩
      rw [same]
      exact OrderedMap.get?_insert_self _ _ _
    · exact ⟨otherStored, (OrderedMap.get?_insert_of_ne same).trans otherFound⟩

theorem run_retireDelivered {slices : List PipelineFlow}
    (retirable : ∀ slice ∈ slices, Retirable policy surroundings.cluster slice) :
    ∃ after, surroundings.run (retireDelivered policy reference indexes progress slices) =
        (.ok (recordDelivered reference indexes progress slices), after) ∧
      after.cluster.flowTests = surroundings.cluster.flowTests := by
  induction slices generalizing surroundings progress with
  | nil => exact ⟨surroundings, rfl, rfl⟩
  | cons slice rest ih =>
    obtain ⟨here, others⟩ := List.forall_mem_cons.mp retirable
    cases delivered : delivered? indexes slice with
    | none =>
      simp only [retireDelivered, recordDelivered, delivered]
      exact ih others
    | some testType =>
      simp only [retireDelivered, recordDelivered, delivered]
      obtain ⟨middle, retired, sameTests, stillRetirable⟩ := run_retire here
      rw [Surroundings.run_bind_of_ok _ retired]
      obtain ⟨after, ran, same⟩ := ih (fun other member => stillRetirable other (others other member))
      exact ⟨after, ran, same.trans sameTests⟩

def Progress.start (status : FlowTestStatus) : Progress where
  verification :=
    { matchStatus := status.matchStatus, filterStatus := status.filterStatus, passed := [] }
  flipped := 0
  failure? := none

theorem run_finish {flowTest : FlowTest} (unfailed : progress.failure? = none)
    (stored : (surroundings.cluster.flowTests.get? flowTest.name).isSome = true) :
    ∃ final, surroundings.run (finish flowTest progress) = (.ok progress.verification, final) := by
  obtain ⟨found, stored⟩ := Option.isSome_iff_exists.mp stored
  unfold finish
  by_cases flipped : 0 < progress.flipped
  · simp only [flipped, ↓reduceIte, unfailed]
    rw [Surroundings.run_bind_of_ok _ (Surroundings.run_patchStatus stored _)]
    exact ⟨_, rfl⟩
  · simp only [flipped, ↓reduceIte, unfailed]
    exact ⟨_, rfl⟩

/-- A pass that nothing keeps from retiring what is listed finds out all that has been
delivered. -/
theorem run_run {flowTest : FlowTest} {kind : PipelineKind}
    (ofKind : flowTest.pipelineKind = .ok kind)
    (found : surroundings.cluster.getFlow kind flowTest.spec.referenceFlow.namespaceName
      flowTest.spec.referenceFlow.name = some reference)
    (listing : surroundings.listing = .ok indexes)
    (stored : (surroundings.cluster.flowTests.get? flowTest.name).isSome = true)
    (retirable : ∀ slice ∈ surroundings.cluster.listFlows kind (Selector.flowTest flowTest.name),
      Retirable policy surroundings.cluster slice) :
    ∃ final, surroundings.run (run flowTest policy) =
      (.ok (recordDelivered reference indexes (.start flowTest.status)
        (surroundings.cluster.listFlows kind (Selector.flowTest flowTest.name))).verification,
        final) := by
  have kindKnown : surroundings.run (ExceptT.mk (pure flowTest.pipelineKind)) =
      (.ok kind, surroundings) := by
    rw [Surroundings.run_outcome, ofKind]
  have referenceRead : surroundings.run (flowTest.getReference kind) =
      (.ok reference, surroundings) := by
    have answered : surroundings.run (Call.make (.getFlow kind
        flowTest.spec.referenceFlow.namespaceName flowTest.spec.referenceFlow.name)) =
        (.ok (some reference), surroundings) := by
      rw [Surroundings.run_make, Surroundings.answer, found]
    rw [FlowTest.getReference, Surroundings.run_bind_of_ok _ answered]
    rfl
  have slicesListed : surroundings.run
      (Call.make (.listFlows kind (Selector.flowTest flowTest.name))) =
      (.ok (surroundings.cluster.listFlows kind (Selector.flowTest flowTest.name)),
        surroundings) := rfl
  have indexesListed : surroundings.run (Call.make .listIndexes) = (.ok indexes, surroundings) := by
    rw [Surroundings.run_make, Surroundings.answer, listing]
  obtain ⟨after, retired, sameTests⟩ := @run_retireDelivered reference indexes
    (.start flowTest.status) surroundings policy _ retirable
  have unfailed := @failure?_recordDelivered reference indexes (.start flowTest.status)
    (surroundings.cluster.listFlows kind (Selector.flowTest flowTest.name))
  obtain ⟨final, finished⟩ := run_finish unfailed (sameTests ▸ stored)
  rw [run, Surroundings.run_bind_of_ok _ kindKnown, Surroundings.run_bind_of_ok _ referenceRead,
    Surroundings.run_bind_of_ok _ slicesListed, Surroundings.run_bind_of_ok _ indexesListed]
  exact ⟨final, (Surroundings.run_bind_of_ok _ retired).trans finished⟩

end Verification

namespace Controller

variable {flowTest stored : FlowTest} {surroundings : Surroundings}

theorem run_publish (type : EventType) (reason : EventReason) (action : EventAction)
    (note : String) :
    surroundings.run (publish flowTest type reason action note) = (.ok (), surroundings) := rfl

theorem phase?_run_complete
    (found : surroundings.cluster.flowTests.get? flowTest.name = some stored) :
    (surroundings.run (complete flowTest)).2.cluster.phase? flowTest.name = some .completed := by
  rw [complete, Surroundings.run_bind_of_ok _ (Surroundings.run_patchStatus found _),
    Surroundings.run_bind_of_ok _ (run_publish _ _ _ _), Surroundings.run_pure,
    Cluster.phase?, Cluster.putFlowTest, OrderedMap.get?_insert_self]
  rfl

theorem run_announcePassed (passed : List String) :
    surroundings.run (announcePassed flowTest passed) = (.ok (), surroundings) := by
  induction passed with
  | nil => rfl
  | cons slice rest ih =>
    rw [announcePassed, Surroundings.run_bind_of_ok _ (run_publish _ _ _ _)]
    exact ih

/-- A flow test is completed after a pass that has found everything passed, and else stays as it
was. -/
theorem phase?_run_verify {configuration : Configuration} {verification : Verification}
    {final : Surroundings} (next : Duration)
    (verified : surroundings.run (Verification.run flowTest configuration.passPolicy) =
      (.ok verification, final))
    (storedIn : verification.StoredIn flowTest final.cluster) :
    (surroundings.run (verify configuration flowTest next)).2.cluster.phase? flowTest.name =
      if verification.allPassed then some .completed else flowTest.phase? := by
  have lifted := Surroundings.run_lift surroundings
    (Verification.run flowTest configuration.passPolicy)
  rw [verified] at lifted
  rw [verify, Surroundings.run_bind_of_ok _ lifted]
  simp only []
  rw [Surroundings.run_bind_of_ok _ (run_announcePassed _)]
  obtain ⟨found, stored, status⟩ := storedIn
  split
  next => exact phase?_run_complete stored
  next =>
    rw [Surroundings.run_pure, Cluster.phase?, stored]
    rw [Option.bind_some, ← found.phase?_status, status]
    exact flowTest.phase?_status

end Controller

/-- The slices of a flow test have just been deployed, in a cluster in which no flow was
labelled with its name, and none of its flags is set. -/
structure Slice.Deployment (flowTest : FlowTest) (reference : PipelineFlow) (uid : String)
    (slices : List Slice) (indexes : List Index) (start after : Surroundings) : Prop where
  plain : ',' ∉ flowTest.name.toList
  ofKind : flowTest.pipelineKind = .ok reference.kind
  found : start.cluster.getFlow reference.kind flowTest.spec.referenceFlow.namespaceName
    flowTest.spec.referenceFlow.name = some reference
  unlabeled : ∀ key flow, start.cluster.resources.get? key = some (.flow flow) →
    ¬ (Resource.flow flow).IsLabeledFor flowTest.name
  stored : start.cluster.flowTests.get? flowTest.name = some flowTest
  matchStatus : flowTest.status.matchStatus = List.replicate reference.matchRules.length false
  filterStatus : flowTest.status.filterStatus = List.replicate reference.filters.length false
  listing : start.listing = .ok indexes
  planned : ∃ simulationLabels endpointBase,
    plan reference ⟨flowTest.name, uid⟩ simulationLabels endpointBase = .ok slices
  deployed : start.run (deploy slices) = (.ok (), after)

namespace Slice.Deployment

variable {flowTest : FlowTest} {reference : PipelineFlow} {uid : String} {slices : List Slice}
  {indexes : List Index} {start after : Surroundings}

/-- What a pass over the deployed slices finds out when it can retire all of them. -/
def findings (flowTest : FlowTest) (reference : PipelineFlow) (indexes : List Index)
    (after : Surroundings) : Verification :=
  (Verification.recordDelivered reference indexes (.start flowTest.status)
    (after.cluster.listFlows reference.kind (Selector.flowTest flowTest.name))).verification

/-- What has been deployed can be looked at with any other listing. -/
theorem withListing (deployment : Deployment flowTest reference uid slices indexes start after)
    (others : List Index) :
    Deployment flowTest reference uid slices others { start with listing := .ok others }
      { after with listing := .ok others } :=
  { deployment with
    listing := rfl
    deployed := by rw [run_deploy_withListing, deployment.deployed] }

theorem gains (deployment : Deployment flowTest reference uid slices indexes start after) :
    start.Gains (slices.flatMap objects) after :=
  gains_of_run_deploy deployment.deployed

theorem stored_after (deployment : Deployment flowTest reference uid slices indexes start after) :
    after.cluster.flowTests.get? flowTest.name = some flowTest := by
  rw [deployment.gains.flowTests, deployment.stored]

theorem listing_after (deployment : Deployment flowTest reference uid slices indexes start after) :
    after.listing = .ok indexes :=
  deployment.gains.listing.trans deployment.listing

theorem mem_listFlows_iff (deployment : Deployment flowTest reference uid slices indexes start after)
    {flow : PipelineFlow} :
    flow ∈ after.cluster.listFlows reference.kind (Selector.flowTest flowTest.name) ↔
      ∃ slice ∈ slices, slice.flow = flow := by
  obtain ⟨simulationLabels, endpointBase, planned⟩ := deployment.planned
  have listed := mem_listFlows_iff_of_gains deployment.gains planned deployment.plain
    deployment.unlabeled flow
  exact listed

theorem getFlow_of_gains {objects : List Resource} {kind : PipelineKind} {namespaceName name : String}
    (gains : start.Gains objects after)
    (found : start.cluster.getFlow kind namespaceName name = some reference) :
    after.cluster.getFlow kind namespaceName name = some reference := by
  rw [Cluster.getFlow_eq_some_iff] at found ⊢
  exact (gains.resources _ _).mpr (.inl found)

theorem retirable (deployment : Deployment flowTest reference uid slices indexes start after)
    {policy : PassPolicy} (works : policy = .delete → start.cluster.deletesFail = false)
    {slice : Slice} (planned : slice ∈ slices) :
    Verification.Retirable policy after.cluster slice.flow := by
  cases policy with
  | delete => exact deployment.gains.deletesFail.trans (works rfl)
  | deactivate =>
    have made : Resource.flow slice.flow ∈ slices.flatMap objects :=
      List.mem_flatMap.mpr ⟨slice, planned, by simp [objects]⟩
    exact ⟨slice.flow, (deployment.gains.resources _ _).mpr (.inr ⟨made, rfl⟩)⟩

theorem run_verification
    (deployment : Deployment flowTest reference uid slices indexes start after) (policy : PassPolicy)
    (works : policy = .delete → start.cluster.deletesFail = false) :
    ∃ final, after.run (Verification.run flowTest policy) =
        (.ok (findings flowTest reference indexes after), final) ∧
      (findings flowTest reference indexes after).StoredIn flowTest final.cluster := by
  have stored := deployment.stored_after
  have retirable : ∀ flow ∈ after.cluster.listFlows reference.kind
      (Selector.flowTest flowTest.name), Verification.Retirable policy after.cluster flow := by
    intro flow member
    obtain ⟨slice, planned, rfl⟩ := deployment.mem_listFlows_iff.mp member
    exact deployment.retirable works planned
  obtain ⟨final, ran⟩ := Verification.run_run deployment.ofKind
    (getFlow_of_gains deployment.gains deployment.found) deployment.listing_after
    (by simp [stored]) retirable
  obtain ⟨_, storedIn⟩ := (Verification.run_yields flowTest policy [] after.cluster).of_run ran
  exact ⟨final, ran, storedIn stored⟩

theorem start_flags (deployment : Deployment flowTest reference uid slices indexes start after)
    (testType : TestType) :
    (Verification.Progress.start flowTest.status).verification.flags testType =
      List.replicate (reference.entries testType).length false := by
  cases testType with
  | matchRule => exact deployment.matchStatus
  | filterStage => exact deployment.filterStatus

theorem length_flags (deployment : Deployment flowTest reference uid slices indexes start after)
    (testType : TestType) :
    ((findings flowTest reference indexes after).flags testType).length =
      (reference.entries testType).length := by
  rw [findings, Verification.length_flags_recordDelivered, deployment.start_flags,
    List.length_replicate]

/-- Of the flags for the entries of the reference, those are set that a slice which has delivered
claims, in whichever flow the slices are compared to. -/
theorem getElem?_flags_of_listed_iff
    (deployment : Deployment flowTest reference uid slices indexes start after)
    {compared : PipelineFlow} {others : List Index} {flows : List PipelineFlow}
    (listed : ∀ flow, flow ∈ flows ↔ ∃ slice ∈ slices, slice.flow = flow)
    (testType : TestType) (place : Nat) :
    ((Verification.recordDelivered compared others (.start flowTest.status)
        flows).verification.flags testType)[place]? = some true ↔
      place < (reference.entries testType).length ∧
        ∃ slice ∈ slices, Verification.delivered? others slice.flow = some testType ∧
          place ∈ Marking.claims (compared.entries testType) [] (slice.flow.entries testType) := by
  have clear : (List.replicate (reference.entries testType).length false)[place]? ≠ some true := by
    simp [List.getElem?_replicate]
  rw [Verification.getElem?_flags_recordDelivered_iff, deployment.start_flags,
    List.length_replicate, or_iff_right clear]
  simp only [listed]
  constructor
  · intro set
    obtain ⟨within, _, ⟨slice, planned, rfl⟩, delivered, claimed⟩ := set
    exact ⟨within, slice, planned, delivered, claimed⟩
  · intro set
    obtain ⟨within, slice, planned, delivered, claimed⟩ := set
    exact ⟨within, slice.flow, ⟨slice, planned, rfl⟩, delivered, claimed⟩

/-- The flags that are set are those of the entries that a slice which has delivered claims. -/
theorem getElem?_flags_iff
    (deployment : Deployment flowTest reference uid slices indexes start after)
    (testType : TestType) (place : Nat) :
    ((findings flowTest reference indexes after).flags testType)[place]? = some true ↔
      place < (reference.entries testType).length ∧
        ∃ slice ∈ slices, Verification.delivered? indexes slice.flow = some testType ∧
          place ∈ Marking.claims (reference.entries testType) [] (slice.flow.entries testType) :=
  deployment.getElem?_flags_of_listed_iff (fun _ => deployment.mem_listFlows_iff) testType place

/-- A flag for a match rule is set when the rule is the first one that equals the rule of a slice
which has delivered. -/
theorem getElem?_matchStatus_iff
    (deployment : Deployment flowTest reference uid slices indexes start after) {place : Nat} :
    (findings flowTest reference indexes after).matchStatus[place]? = some true ↔
      ∃ other, Marking.IsFirstEqual reference.matchRules place other ∧
        Index.haveLogs indexes (nameFor uid other .matchRule) = true := by
  obtain ⟨simulationLabels, endpointBase, planned⟩ := deployment.planned
  obtain ⟨template, -, -, rfl⟩ := eq_append_of_plan planned
  refine (deployment.getElem?_flags_iff .matchRule place).trans ?_
  constructor
  · intro set
    obtain ⟨-, slice, member, delivered, claimed⟩ := set
    rcases List.mem_append.mp member with inMatches | inFilters
    · obtain ⟨other, rule, here, rfl⟩ := mem_forMatches_iff.mp inMatches
      rw [PipelineFlow.entries, PipelineFlow.entries, matchRules_flow_build,
        Marking.mem_claims_singleton_iff_isFirstEqual here] at claimed
      refine ⟨other, claimed, ?_⟩
      simpa [Verification.delivered?_flow_build] using delivered
    · obtain ⟨other, -, rfl⟩ := mem_forFilters_iff.mp inFilters
      simp [Verification.delivered?_flow_build] at delivered
  · intro first
    obtain ⟨other, first, delivered⟩ := first
    obtain ⟨rule, here, -⟩ := first.1
    refine ⟨first.1.lt_length, _,
      List.mem_append_left _ (mem_forMatches_iff.mpr ⟨other, rule, here, rfl⟩), ?_, ?_⟩
    · rw [Verification.delivered?_flow_build, if_pos delivered]
    · rw [PipelineFlow.entries, PipelineFlow.entries, matchRules_flow_build,
        Marking.mem_claims_singleton_iff_isFirstEqual here]
      exact first

theorem getElem?_matchStatus_of_allDifferent
    (deployment : Deployment flowTest reference uid slices indexes start after)
    (different : Marking.AllDifferent reference.matchRules) {place : Nat}
    (within : place < reference.matchRules.length) :
    (findings flowTest reference indexes after).matchStatus[place]? =
      some (Index.haveLogs indexes (nameFor uid place .matchRule)) := by
  have tracked : place < (findings flowTest reference indexes after).matchStatus.length :=
    (deployment.length_flags .matchRule).symm ▸ within
  have set := @getElem?_matchStatus_iff _ _ _ _ _ _ _ deployment place
  simp only [Marking.isFirstEqual_iff_of_allDifferent different, within, and_true, exists_eq_left',
    List.getElem?_eq_getElem tracked, Option.some.injEq] at set
  rw [List.getElem?_eq_getElem tracked, Bool.eq_iff_iff.mpr set]

/-- Once every slice has delivered, the flags for all filter stages are set, by the slice that has
all of the stages. -/
theorem getElem?_filterStatus
    (deployment : Deployment flowTest reference uid slices indexes start after)
    (delivered : ∀ slice ∈ slices, Index.haveLogs indexes slice.name = true) {place : Nat}
    (within : place < reference.filters.length) :
    (findings flowTest reference indexes after).filterStatus[place]? = some true := by
  obtain ⟨simulationLabels, endpointBase, planned⟩ := deployment.planned
  obtain ⟨template, -, uidFilter, rfl⟩ := eq_append_of_plan planned
  have last : reference.filters.length - 1 < reference.filters.length := by omega
  have inFilters := (@mem_forFilters_iff template reference ⟨flowTest.name, uid⟩ simulationLabels
    _).mpr ⟨_, last, rfl⟩
  have member := List.mem_append_right (forMatches template ⟨flowTest.name, uid⟩ reference) inFilters
  refine (deployment.getElem?_flags_iff .filterStage place).mpr ⟨within, _, member, ?_, ?_⟩
  · rw [Verification.delivered?_flow_build]
    exact if_pos (delivered _ member)
  · have whole : reference.filters.length - 1 + 1 = reference.filters.length := by omega
    rw [PipelineFlow.entries, PipelineFlow.entries, filters_flow_build, uidFilter, whole,
      List.take_length]
    exact Marking.mem_claims_cons within

theorem getElem?_matchStatus_of_delivered
    (deployment : Deployment flowTest reference uid slices indexes start after)
    (delivered : ∀ slice ∈ slices, Index.haveLogs indexes slice.name = true) {place : Nat} :
    (findings flowTest reference indexes after).matchStatus[place]? = some true ↔
      Marking.IsFirstEqual reference.matchRules place place := by
  rw [deployment.getElem?_matchStatus_iff]
  obtain ⟨simulationLabels, endpointBase, planned⟩ := deployment.planned
  obtain ⟨template, -, -, rfl⟩ := eq_append_of_plan planned
  constructor
  · intro set
    obtain ⟨other, first, -⟩ := set
    exact ⟨Marking.equalAt_self first.1.lt_length, first.not_equalAt⟩
  · intro first
    obtain ⟨rule, here, -⟩ := first.1
    have inMatches := (@mem_forMatches_iff template reference ⟨flowTest.name, uid⟩ _).mpr
      ⟨place, rule, here, rfl⟩
    exact ⟨place, first, delivered _ (List.mem_append_left _ inMatches)⟩

private theorem all_id_iff {flags : List Bool} :
    flags.all id = true ↔ ∀ place < flags.length, flags[place]? = some true := by
  rw [List.all_eq_true]
  constructor
  · intro set place within
    rw [List.getElem?_eq_getElem within]
    exact congrArg some (set _ (List.getElem_mem within))
  · intro set flag member
    obtain ⟨place, within, rfl⟩ := List.getElem_of_mem member
    simpa [List.getElem?_eq_getElem within] using set place within

/-- Once every slice has delivered, everything has passed just when no two match rules are equal. -/
theorem allPassed_iff
    (deployment : Deployment flowTest reference uid slices indexes start after)
    (delivered : ∀ slice ∈ slices, Index.haveLogs indexes slice.name = true) :
    (findings flowTest reference indexes after).allPassed = true ↔
      Marking.AllDifferent reference.matchRules := by
  have filterLength := deployment.length_flags .filterStage
  have matchLength := deployment.length_flags .matchRule
  have allFilters : (findings flowTest reference indexes after).filterStatus.all id = true :=
    all_id_iff.mpr (fun place within =>
      deployment.getElem?_filterStatus delivered (filterLength ▸ within))
  rw [Verification.allPassed, List.all_append, allFilters, Bool.and_true, all_id_iff]
  simp only [deployment.getElem?_matchStatus_of_delivered delivered]
  constructor
  · intro first left right less equal
    exact (first right (matchLength.symm ▸ equal.symm.lt_length)).2 left less equal
  · intro different place within
    exact ⟨Marking.equalAt_self (matchLength ▸ within),
      fun earlier less => different earlier place less⟩

/-- Once every slice has delivered, a running flow test that is checked in between its warm-up and
its deadline is completed just when no two match rules are equal. -/
theorem phase?_run_reconcile
    (deployment : Deployment flowTest reference uid slices indexes start after)
    {configuration : Configuration} {now : Timestamp}
    (works : configuration.passPolicy = .delete → start.cluster.deletesFail = false)
    (delivered : ∀ slice ∈ slices, Index.haveLogs indexes slice.name = true)
    (undeleted : flowTest.isDeleting = false) (running : flowTest.phase? = some .running)
    (warm : configuration.warmup.nanoseconds ≤ (flowTest.elapsed now).nanoseconds)
    (early : ¬ flowTest.IsDue configuration now) :
    (after.run (Controller.reconcile configuration now flowTest)).2.cluster.phase? flowTest.name =
        some .completed ↔
      Marking.AllDifferent reference.matchRules := by
  obtain ⟨final, verified, storedIn⟩ := deployment.run_verification _ works
  simp only [Controller.reconcile, undeleted, running, Controller.checkRunning, Bool.false_eq_true,
    ↓reduceIte]
  have stored := deployment.stored_after
  have notDue : ¬ configuration.timeout.nanoseconds ≤ (flowTest.elapsed now).nanoseconds := early
  have notCold : ¬ (flowTest.elapsed now).nanoseconds < configuration.warmup.nanoseconds := by omega
  cases passed : flowTest.status.allPassed with
  | true =>
    have untracked : reference.matchRules.length = 0 := by
      rw [FlowTestStatus.allPassed, deployment.matchStatus, List.all_append, Bool.and_eq_true] at passed
      simpa using passed.1
    have step : runningStep (flowTest.createdAt now) now flowTest.status configuration =
        .complete := by
      simp [runningStep, passed]
    rw [step]
    refine iff_of_true (Controller.phase?_run_complete stored) ?_
    intro left right less equal
    have within := equal.lt_length
    omega
  | false =>
    have step : runningStep (flowTest.createdAt now) now flowTest.status configuration =
        .verify (configuration.pollInterval.shorter
          (configuration.timeout.minus (flowTest.elapsed now))) := by
      simp only [runningStep, flowTest.since_createdAt, notDue, passed, notCold, decide_false,
        Bool.or_self, Bool.false_eq_true, ↓reduceIte]
    rw [step]
    simp only []
    rw [Controller.phase?_run_verify _ verified storedIn, ← deployment.allPassed_iff delivered]
    cases (findings flowTest reference indexes after).allPassed <;> simp [running]

end Slice.Deployment

/-- The results of match rules are exact up to equal rules. After a deployment, a pass succeeds and
sets the flag of a match rule just when the slice of this rule or of an equal one has delivered and
no earlier rule equals it; so the flags tell which slices have delivered when no two rules are
equal. Once every slice has delivered, everything has passed, and the flow test is completed before
its deadline, just when no two rules are equal. -/
theorem match_results_exact {flowTest : FlowTest} {reference : PipelineFlow} {uid : String}
    {slices : List Slice} {indexes : List Index} {start after : Surroundings}
    {configuration : Configuration}
    (deployment : Slice.Deployment flowTest reference uid slices indexes start after)
    (works : configuration.passPolicy = .delete → start.cluster.deletesFail = false) :
    ∃ verification final,
      after.run (Verification.run flowTest configuration.passPolicy) = (.ok verification, final) ∧
      verification.StoredIn flowTest final.cluster ∧
      verification.matchStatus.length = reference.matchRules.length ∧
      (∀ place, verification.matchStatus[place]? = some true ↔
        ∃ other, Marking.IsFirstEqual reference.matchRules place other ∧
          Index.haveLogs indexes (Slice.nameFor uid other .matchRule) = true) ∧
      (Marking.AllDifferent reference.matchRules → ∀ place < reference.matchRules.length,
        verification.matchStatus[place]? =
          some (Index.haveLogs indexes (Slice.nameFor uid place .matchRule))) ∧
      ((∀ slice ∈ slices, Index.haveLogs indexes slice.name = true) →
        (verification.allPassed = true ↔ Marking.AllDifferent reference.matchRules) ∧
        ∀ now, flowTest.isDeleting = false → flowTest.phase? = some .running →
          configuration.warmup.nanoseconds ≤ (flowTest.elapsed now).nanoseconds →
          ¬ flowTest.IsDue configuration now →
            ((after.run (Controller.reconcile configuration now flowTest)).2.cluster.phase?
                flowTest.name = some .completed ↔
              Marking.AllDifferent reference.matchRules)) := by
  obtain ⟨final, verified, storedIn⟩ := deployment.run_verification _ works
  have length := deployment.length_flags .matchRule
  refine ⟨_, final, verified, storedIn, length, fun place => deployment.getElem?_matchStatus_iff, ?_,
    fun delivered => ⟨deployment.allPassed_iff delivered, ?_⟩⟩
  · intro different place within
    exact deployment.getElem?_matchStatus_of_allDifferent different within
  · intro now undeleted running warm early
    exact deployment.phase?_run_reconcile works delivered undeleted running warm early

/-- A flow test and its reference alone in a cluster. -/
def Surroundings.alone (flowTest : FlowTest) (reference : PipelineFlow) (indexes : List Index) :
    Surroundings where
  cluster := (Cluster.addResource {} (.flow reference)).addFlowTest flowTest
  listing := .ok indexes

theorem Slice.Deployment.ofAlone {flowTest : FlowTest} {reference : PipelineFlow} {uid : String}
    {slices : List Slice} {indexes : List Index} (plain : ',' ∉ flowTest.name.toList)
    (ofKind : flowTest.pipelineKind = .ok reference.kind)
    (key : (Resource.flow reference).key = ⟨reference.kind.flowKind,
      flowTest.spec.referenceFlow.namespaceName, flowTest.spec.referenceFlow.name⟩)
    (unlabeled : ¬ (Resource.flow reference).IsLabeledFor flowTest.name)
    (matchStatus : flowTest.status.matchStatus = List.replicate reference.matchRules.length false)
    (filterStatus : flowTest.status.filterStatus = List.replicate reference.filters.length false)
    (planned : ∃ simulationLabels endpointBase,
      plan reference ⟨flowTest.name, uid⟩ simulationLabels endpointBase = .ok slices)
    (succeeded : ((Surroundings.alone flowTest reference indexes).run (deploy slices)).1 = .ok ()) :
    Slice.Deployment flowTest reference uid slices indexes (.alone flowTest reference indexes)
      ((Surroundings.alone flowTest reference indexes).run (deploy slices)).2 where
  plain := plain
  ofKind := ofKind
  found := by
    rw [Cluster.getFlow_eq_some_iff, ← key]
    exact OrderedMap.get?_insert_self _ _ _
  unlabeled := by
    intro other flow stored
    have entries : (Surroundings.alone flowTest reference indexes).cluster.resources.entries =
        [((Resource.flow reference).key, .flow reference)] := rfl
    rw [OrderedMap.get?_eq_some_iff, entries, List.mem_singleton, Prod.mk.injEq] at stored
    obtain ⟨-, same⟩ := stored
    exact same ▸ unlabeled
  stored := OrderedMap.get?_insert_self _ _ _
  matchStatus := matchStatus
  filterStatus := filterStatus
  listing := rfl
  planned := planned
  deployed := Prod.ext succeeded rfl

namespace Sample

/-- The running flow test and its reference flow, before the slices are deployed. -/
def deploying (texts : List String) (indexes : List Index) : Surroundings where
  cluster := (Cluster.addResource {} (.flow (flow texts))).addFlowTest
    (watching .running texts.length)
  listing := .ok indexes

def slices (texts : List String) : List Slice :=
  let owner : Owner := ⟨"test", "uid"⟩
  Slice.forMatches (template "default" owner) owner (flow texts) ++
    Slice.forFilters (template "default" owner) owner (flow texts) ∅

def deployed (texts : List String) (indexes : List Index) : Surroundings :=
  ((deploying texts indexes).run (Slice.deploy (slices texts))).2

theorem deployment {texts : List String} {indexes : List Index} {matchRules : Nat}
    (counted : texts.length = matchRules)
    (succeeded : ((deploying texts indexes).run (Slice.deploy (slices texts))).1 = .ok ()) :
    Slice.Deployment (watching .running matchRules) (flow texts) "uid" (slices texts) indexes
      (deploying texts indexes) (deployed texts indexes) := by
  subst counted
  have plain : ',' ∉ "test".toList := by decide
  exact Slice.Deployment.ofAlone plain rfl rfl nofun
    (congrArg (List.replicate · false) (List.length_map _).symm) rfl
    ⟨∅, "http://aggregator", rfl⟩ succeeded

theorem deployment_two : Slice.Deployment (watching .running 2) (flow ["first", "second"]) "uid"
    (slices ["first", "second"]) [] (deploying ["first", "second"] [])
    (deployed ["first", "second"] []) :=
  deployment rfl rfl

def counting (first second : Nat) : List Index :=
  [{ name := "uid-0-match", logCount := first }, { name := "uid-1-match", logCount := second }]

end Sample

/-- Of two match rules that differ, the one whose slice has delivered is told from the other; and
when both have, the flow test is completed before its deadline. -/
theorem match_results_of_different_rules :
    (∃ verification final,
      (Sample.deployed ["first", "second"] (Sample.counting 0 1)).run
        (Verification.run (Sample.watching .running 2) .delete) = (.ok verification, final) ∧
      verification.matchStatus = [false, true]) ∧
    ((Sample.deployed ["first", "second"] (Sample.counting 1 1)).run
      (Controller.reconcile {} ⟨100, 0⟩ (Sample.watching .running 2))).2.cluster.phase?
        (Sample.watching .running 2).name = some .completed := by
  have different : Marking.AllDifferent (Sample.flow ["first", "second"]).matchRules := by decide
  constructor
  · have deployment := @Sample.deployment ["first", "second"] (Sample.counting 0 1) 2 rfl rfl
    obtain ⟨verification, final, verified, -, length, -, told, -⟩ :=
      @match_results_exact _ _ _ _ _ _ _ {} deployment (fun _ => rfl)
    refine ⟨verification, final, verified, List.ext_getElem? (fun place => ?_)⟩
    match place with
    | 0 => exact (told different 0 (by decide)).trans (by decide)
    | 1 => exact (told different 1 (by decide)).trans (by decide)
    | place + 2 =>
      have two : (Sample.flow ["first", "second"]).matchRules.length = 2 := rfl
      have past : verification.matchStatus.length ≤ place + 2 := by omega
      rw [List.getElem?_eq_none past]
      rfl
  · have deployment := @Sample.deployment ["first", "second"] (Sample.counting 1 1) 2 rfl rfl
    obtain ⟨_, _, _, _, _, _, _, complete⟩ :=
      @match_results_exact _ _ _ _ _ _ _ {} deployment (fun _ => rfl)
    have completed := (complete (by decide)).2 ⟨100, 0⟩ rfl rfl (by decide +kernel)
      (by unfold FlowTest.IsDue; decide +kernel)
    exact completed.mpr different

/-- Equal match rules share the flag of the first: when both of their slices have delivered, the
second flag is not set, and the test has not passed. -/
theorem equal_match_rules_share_flag :
    let indexes := Sample.counting 1 1
    let start := Sample.deploying ["same", "same"] indexes
    let after := Sample.deployed ["same", "same"] indexes
    let slices := Sample.slices ["same", "same"]
    Slice.Deployment (Sample.watching .running 2) (Sample.flow ["same", "same"]) "uid" slices indexes
        start after ∧
      (∀ slice ∈ slices, Index.haveLogs indexes slice.name = true) ∧
      Index.haveLogs indexes (Slice.nameFor "uid" 1 .matchRule) = true ∧
      ∃ verification final,
        after.run (Verification.run (Sample.watching .running 2) .delete) = (.ok verification, final) ∧
        verification.matchStatus[1]? ≠ some true ∧ verification.allPassed = false := by
  intro indexes start after slices
  have deployment := @Sample.deployment ["same", "same"] indexes 2 rfl rfl
  have delivered : ∀ slice ∈ slices, Index.haveLogs indexes slice.name = true := by decide
  have equal : Marking.EqualAt (Sample.flow ["same", "same"]).matchRules 0 1 :=
    ⟨⟨.text "same"⟩, rfl, by decide⟩
  obtain ⟨final, verified, -⟩ := deployment.run_verification .delete (fun _ => rfl)
  refine ⟨deployment, delivered, by decide, _, final, verified, ?_, ?_⟩
  · intro set
    exact ((deployment.getElem?_matchStatus_of_delivered delivered).mp set).2 0 (by decide) equal
  · rw [Bool.eq_false_iff]
    intro passed
    exact (deployment.allPassed_iff delivered).mp passed 0 1 (by decide) equal

end FlowTesting
