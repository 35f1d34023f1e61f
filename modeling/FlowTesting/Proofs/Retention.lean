import FlowTesting.Proofs.Retirement

set_option autoImplicit false

/-!
# Retention of results

A slice is retired before the flags that it sets are stored, and it is the only evidence for them.
Repeated passes come to what one pass without failures does as long as each slice that was retired
in vain has left its evidence elsewhere.
-/

namespace FlowTesting

/-- A pass over a flow test, with what its calls came to. -/
structure Pass where
  flowTest : FlowTest
  start : Cluster
  occurrences : List Occurrence
  outcome : Except Failure Verification
  finish : Cluster

/-- Whether a pass over the stored flow test can have come about, when the aggregator lists the
given indexes if it answers. -/
structure Pass.Lawful (policy : PassPolicy) (indexes : List Index) (pass : Pass) : Prop where
  stored : pass.start.flowTests.get? pass.flowTest.name = some pass.flowTest
  execution : Execution (Verification.run pass.flowTest policy).run pass.start pass.occurrences
    (.done pass.outcome) pass.finish
  listing : ∀ listed, Answered pass.occurrences .listIndexes listed → listed = indexes

/-- Passes over the flow test of a name, one after the other. -/
inductive Passes (name : String) (policy : PassPolicy) (indexes : List Index) (initial : Cluster) :
    List Pass → Cluster → Prop where
  | start : Passes name policy indexes initial [] initial
  | pass {passes : List Pass} {pass : Pass} :
      Passes name policy indexes initial passes pass.start → pass.Lawful policy indexes →
      pass.flowTest.name = name →
      Passes name policy indexes initial (passes ++ [pass]) pass.finish

theorem Passes.of_trial {trial : Trial} {flowTest : FlowTest} {policy : PassPolicy}
    {indexes : List Index}
    (stored : trial.surroundings.cluster.flowTests.get? flowTest.name = some flowTest)
    (listing : trial.surroundings.listing = .ok indexes) :
    ∃ passes, Passes flowTest.name policy indexes trial.surroundings.cluster passes
      (trial.run (Verification.run flowTest policy)).2.surroundings.cluster := by
  obtain ⟨occurrences, execution, listedOnly⟩ :=
    Execution.of_trial trial (Verification.run flowTest policy)
  let pass : Pass :=
    { flowTest, occurrences
      start := trial.surroundings.cluster
      outcome := (trial.run (Verification.run flowTest policy)).1
      finish := (trial.run (Verification.run flowTest policy)).2.surroundings.cluster }
  have lawful : pass.Lawful policy indexes := by
    refine ⟨stored, execution, fun listed answered => ?_⟩
    exact (Except.ok.inj (listing.symm.trans (listedOnly listed answered))).symm
  exact ⟨[pass], @Passes.pass _ _ _ _ [] pass .start lawful rfl⟩

/-- What results are measured by: a reference, and what the aggregator lists. -/
structure Evidence where
  reference : PipelineFlow
  indexes : List Index

namespace Evidence

/-- Whether a slice has delivered and claims an entry of the reference. -/
def Claims (evidence : Evidence) (testType : TestType) (place : Nat) (slice : PipelineFlow) : Prop :=
  Verification.delivered? evidence.indexes slice = some testType ∧
    place ∈ Marking.claims (evidence.reference.entries testType) [] (slice.entries testType)

instance (evidence : Evidence) (testType : TestType) (place : Nat) (slice : PipelineFlow) :
    Decidable (evidence.Claims testType place slice) := inferInstanceAs (Decidable (_ ∧ _))

/-- Whether a flag of a flow test is set, or a slice is there that would set it. -/
def IsDue (evidence : Evidence) (name : String) (cluster : Cluster) (testType : TestType)
    (place : Nat) : Prop :=
  ∃ stored, cluster.flowTests.get? name = some stored ∧
    ((stored.status.flags testType)[place]? = some true ∨
      place < (stored.status.flags testType).length ∧
        ∃ slice ∈ cluster.listFlows evidence.reference.kind (Selector.flowTest name),
          evidence.Claims testType place slice)

end Evidence

namespace Pass

def Retires (kind : PipelineKind) (pass : Pass) (slice : PipelineFlow) : Prop :=
  slice ∈ pass.start.listFlows kind (Selector.flowTest pass.flowTest.name) ∧
    slice ∉ pass.finish.listFlows kind (Selector.flowTest pass.flowTest.name)

/-- Whether the flags that the retired slices set are set after a pass, or can still be. -/
def Retains (evidence : Evidence) (pass : Pass) : Prop :=
  ∀ slice testType place, pass.Retires evidence.reference.kind slice →
    evidence.Claims testType place slice →
    place < (pass.flowTest.status.flags testType).length →
    evidence.IsDue pass.flowTest.name pass.finish testType place

end Pass

namespace Evidence

variable {evidence : Evidence} {flowTest next : FlowTest} {before after : Cluster}
  {occurrences : List Occurrence} {retired : List PipelineFlow} {testType : TestType} {place : Nat}

theorem isDue_iff {name : String} {cluster : Cluster}
    (stored : cluster.flowTests.get? name = some flowTest) :
    evidence.IsDue name cluster testType place ↔
      (flowTest.status.flags testType)[place]? = some true ∨
        place < (flowTest.status.flags testType).length ∧
          ∃ slice ∈ cluster.listFlows evidence.reference.kind (Selector.flowTest name),
            evidence.Claims testType place slice := by
  simp [IsDue, stored]

/-- A pass takes away no other evidence than that of the slices that it retires. -/
theorem exists_claims_iff (verifiable : flowTest.IsVerifiable evidence.reference before)
    (leaves : Verification.Leaves flowTest evidence.reference evidence.indexes before occurrences
      retired next after) :
    (∃ slice ∈ before.listFlows evidence.reference.kind (Selector.flowTest flowTest.name),
      evidence.Claims testType place slice) ↔
    (∃ slice ∈ after.listFlows evidence.reference.kind (Selector.flowTest flowTest.name),
      evidence.Claims testType place slice) ∨
    ∃ slice ∈ retired, evidence.Claims testType place slice := by
  have listed := fun slice member => (leaves.delivered slice member).1
  constructor
  · intro claimed
    obtain ⟨slice, listedBefore, claims⟩ := claimed
    by_cases gone : slice ∈ retired
    · exact .inr ⟨slice, gone, claims⟩
    · have active := Verification.isActive_of_delivered? claims.1
      exact .inl ⟨slice, (leaves.resources.mem_listFlows_iff verifiable.coherent listed active).mpr
        ⟨listedBefore, gone⟩, claims⟩
  · intro claimed
    rcases claimed with ⟨slice, listedAfter, claims⟩ | ⟨slice, gone, claims⟩
    · have active := Verification.isActive_of_delivered? claims.1
      exact ⟨slice, ((leaves.resources.mem_listFlows_iff verifiable.coherent listed active).mp
        listedAfter).1, claims⟩
    · exact ⟨slice, listed slice gone, claims⟩

theorem flags_recordDelivered_iff :
    ((Verification.recordDelivered evidence.reference evidence.indexes (.start flowTest.status)
        retired).verification.flags testType)[place]? = some true ↔
      (flowTest.status.flags testType)[place]? = some true ∨
        place < (flowTest.status.flags testType).length ∧
          ∃ slice ∈ retired, evidence.Claims testType place slice := by
  rw [Verification.getElem?_flags_recordDelivered_iff, Verification.flags_start]
  rfl

theorem isDue_of_isDue (verifiable : flowTest.IsVerifiable evidence.reference before)
    (leaves : Verification.Leaves flowTest evidence.reference evidence.indexes before occurrences
      retired next after) (due : evidence.IsDue flowTest.name after testType place) :
    evidence.IsDue flowTest.name before testType place := by
  rw [isDue_iff leaves.stored, leaves.length_flags] at due
  rw [isDue_iff verifiable.stored, exists_claims_iff verifiable leaves]
  rcases due with set | ⟨within, claimed⟩
  · rcases leaves.flags with ⟨-, rfl⟩ | found
    · exact .inl set
    · rw [found, flags_recordDelivered_iff] at set
      exact set.imp_right (And.imp_right .inr)
  · exact .inr ⟨within, .inl claimed⟩

/-- What was due before a pass is due after it, but for what retired slices claim when the update
of the status was rejected. -/
theorem isDue_after (verifiable : flowTest.IsVerifiable evidence.reference before)
    (leaves : Verification.Leaves flowTest evidence.reference evidence.indexes before occurrences
      retired next after) (due : evidence.IsDue flowTest.name before testType place) :
    evidence.IsDue flowTest.name after testType place ∨
      StatusRejected flowTest occurrences ∧ place < (flowTest.status.flags testType).length ∧
        ∃ slice ∈ retired, evidence.Claims testType place slice := by
  rw [isDue_iff verifiable.stored, exists_claims_iff verifiable leaves] at due
  rw [isDue_iff leaves.stored, leaves.length_flags]
  rcases leaves.flags with ⟨rejected, rfl⟩ | found
  · -- Nothing has been stored, so what the retired slices claim is neither set nor listed.
    rcases due with set | ⟨within, there | gone⟩
    · exact .inl (.inl set)
    · exact .inl (.inr ⟨within, there⟩)
    · exact .inr ⟨rejected, within, gone⟩
  · rw [found, flags_recordDelivered_iff]
    rcases due with set | ⟨within, there | gone⟩
    · exact .inl (.inl (.inl set))
    · exact .inl (.inr ⟨within, there⟩)
    · exact .inl (.inl (.inr ⟨within, gone⟩))

/-- What passes leave of a cluster in which a flow test can be verified: it can be verified again,
as many flags are stored for it, and nothing more is due. -/
structure Upholds (evidence : Evidence) (flowTest : FlowTest) (before : Cluster) (next : FlowTest)
    (after : Cluster) : Prop where
  verifiable : next.IsVerifiable evidence.reference after
  continues : ∃ status?, next = { flowTest with status? }
  length_flags : ∀ testType,
    (next.status.flags testType).length = (flowTest.status.flags testType).length
  deletesFail : after.deletesFail = before.deletesFail
  isDue : ∀ testType place, evidence.IsDue flowTest.name after testType place →
    evidence.IsDue flowTest.name before testType place

namespace Upholds

variable {last : FlowTest} {final : Cluster}

theorem refl (verifiable : flowTest.IsVerifiable evidence.reference before) :
    evidence.Upholds flowTest before flowTest before :=
  ⟨verifiable, ⟨flowTest.status?, rfl⟩, fun _ => rfl, rfl, fun _ _ => id⟩

theorem name_eq (upheld : evidence.Upholds flowTest before next after) :
    next.name = flowTest.name := by
  obtain ⟨status?, rfl⟩ := upheld.continues
  rfl

theorem trans (first : evidence.Upholds flowTest before next after)
    (second : evidence.Upholds next after last final) :
    evidence.Upholds flowTest before last final where
  verifiable := second.verifiable
  continues := by
    obtain ⟨firstStatus?, rfl⟩ := first.continues
    obtain ⟨secondStatus?, rfl⟩ := second.continues
    exact ⟨secondStatus?, rfl⟩
  length_flags testType := (second.length_flags testType).trans (first.length_flags testType)
  deletesFail := second.deletesFail.trans first.deletesFail
  isDue testType place due := by
    rw [← first.name_eq] at due
    exact first.isDue testType place (first.name_eq ▸ second.isDue testType place due)

end Upholds

end Evidence

/-- A pass without failures sets just the flags that are due. -/
theorem FlowTest.IsVerifiable.run_verification {flowTest : FlowTest} {policy : PassPolicy}
    {evidence : Evidence} {cluster : Cluster}
    (verifiable : flowTest.IsVerifiable evidence.reference cluster)
    (works : policy = .delete → cluster.deletesFail = false) :
    ∃ verification final,
      (⟨cluster, .ok evidence.indexes⟩ : Surroundings).run (Verification.run flowTest policy) =
        (.ok verification, final) ∧
      verification.StoredIn flowTest final.cluster ∧
      (∀ testType,
        (verification.flags testType).length = (flowTest.status.flags testType).length) ∧
      ∀ testType place, (verification.flags testType)[place]? = some true ↔
        evidence.IsDue flowTest.name cluster testType place := by
  have retirable : ∀ slice ∈ cluster.listFlows evidence.reference.kind
      (Selector.flowTest flowTest.name), Verification.Retirable policy cluster slice := by
    intro slice listed
    cases policy with
    | delete => exact works rfl
    | deactivate => exact ⟨slice, Cluster.get?_key_of_mem_listFlows verifiable.coherent listed⟩
  obtain ⟨final, ran⟩ := @Verification.run_run evidence.reference evidence.indexes
    ⟨cluster, .ok evidence.indexes⟩ policy flowTest _ verifiable.ofKind verifiable.found rfl
    (Option.isSome_iff_exists.mpr ⟨flowTest, verifiable.stored⟩) retirable
  obtain ⟨_, storedIn⟩ := (Verification.run_yields flowTest policy [] cluster).of_run ran
  refine ⟨_, final, ran, storedIn verifiable.stored, fun testType => ?_, fun testType place => ?_⟩
  · rw [Verification.length_flags_recordDelivered, Verification.flags_start]
  · rw [Evidence.flags_recordDelivered_iff, Evidence.isDue_iff verifiable.stored]

theorem FlowTest.IsVerifiable.isDue_iff_of_run {flowTest : FlowTest} {policy : PassPolicy}
    {evidence : Evidence} {cluster : Cluster} {verification : Verification} {final : Surroundings}
    (verifiable : flowTest.IsVerifiable evidence.reference cluster)
    (works : policy = .delete → cluster.deletesFail = false)
    (ran : (⟨cluster, .ok evidence.indexes⟩ : Surroundings).run
      (Verification.run flowTest policy) = (.ok verification, final))
    {testType : TestType} {place : Nat} :
    (verification.flags testType)[place]? = some true ↔
      evidence.IsDue flowTest.name cluster testType place := by
  obtain ⟨_, _, ranToo, -, -, isDue_iff⟩ := verifiable.run_verification works
  obtain ⟨same, -⟩ := Prod.mk.inj (ran.symm.trans ranToo)
  rw [Except.ok.inj same]
  exact isDue_iff testType place

namespace Pass

variable {policy : PassPolicy} {evidence : Evidence} {pass : Pass}

/-- What one pass does to what is due: nothing is added, and nothing gets lost just when the pass
retains the results of the slices that it has retired, unless the update of the status was not
rejected. -/
theorem Lawful.step (lawful : pass.Lawful policy evidence.indexes)
    (verifiable : pass.flowTest.IsVerifiable evidence.reference pass.start) :
    (∃ next, evidence.Upholds pass.flowTest pass.start next pass.finish) ∧
      ((∀ testType place, evidence.IsDue pass.flowTest.name pass.start testType place →
          evidence.IsDue pass.flowTest.name pass.finish testType place) ↔
        (StatusRejected pass.flowTest pass.occurrences → pass.Retains evidence)) := by
  obtain ⟨-, leaves⟩ := lawful.execution.assured (Verification.run_assures verifiable [])
  obtain ⟨retired, next, leaves⟩ := leaves lawful.listing
  refine ⟨⟨next, leaves.isVerifiable verifiable, leaves.continues, leaves.length_flags,
    leaves.resources.deletesFail, fun _ _ => Evidence.isDue_of_isDue verifiable leaves⟩, ?_⟩
  constructor
  · intro kept _ slice testType place gone claims within
    exact kept testType place ((Evidence.isDue_iff verifiable.stored).mpr
      (.inr ⟨within, slice, gone.1, claims⟩))
  · intro retains testType place due
    rcases Evidence.isDue_after verifiable leaves due with
      after | ⟨rejected, within, slice, gone, claims⟩
    · exact after
    · have listed := fun slice member => (leaves.delivered slice member).1
      have active := Verification.isActive_of_delivered? claims.1
      have unlisted : slice ∉ pass.finish.listFlows evidence.reference.kind
          (Selector.flowTest pass.flowTest.name) := fun listedAfter =>
        ((leaves.resources.mem_listFlows_iff verifiable.coherent listed active).mp listedAfter).2 gone
      exact retains rejected slice testType place ⟨listed slice gone, unlisted⟩ claims within

end Pass

/-- After any passes, nothing is due that was not due before, and all of it still is just when each
pass retains results whose storing was rejected. -/
theorem Passes.keep {flowTest : FlowTest} {policy : PassPolicy} {evidence : Evidence}
    {initial final : Cluster} {passes : List Pass}
    (run : Passes flowTest.name policy evidence.indexes initial passes final)
    (verifiable : flowTest.IsVerifiable evidence.reference initial) :
    (∃ stored, evidence.Upholds flowTest initial stored final) ∧
      ((∀ testType place, evidence.IsDue flowTest.name initial testType place →
          evidence.IsDue flowTest.name final testType place) ↔
        ∀ pass ∈ passes, StatusRejected pass.flowTest pass.occurrences → pass.Retains evidence) := by
  induction run with
  | start => exact ⟨⟨flowTest, .refl verifiable⟩, by simp⟩
  | @pass earlier pass run lawful ofName ih =>
    obtain ⟨⟨stored, upheld⟩, kept_iff⟩ := ih
    -- The pass has been handed what the passes before it have left.
    obtain rfl : pass.flowTest = stored := by
      have found := upheld.verifiable.stored
      rw [upheld.name_eq, ← ofName, lawful.stored] at found
      exact Option.some.inj found
    obtain ⟨⟨next, upheldHere⟩, keptHere_iff⟩ := lawful.step upheld.verifiable
    rw [ofName] at keptHere_iff
    refine ⟨⟨next, upheld.trans upheldHere⟩, ?_⟩
    rw [List.forall_mem_append, List.forall_mem_singleton, ← kept_iff, ← keptHere_iff]
    constructor
    · intro kept
      exact ⟨fun testType place due => ofName ▸ upheldHere.isDue testType place
          (ofName ▸ kept testType place due),
        fun testType place due => kept testType place (upheld.isDue testType place due)⟩
    · intro kept testType place due
      exact kept.2 testType place (kept.1 testType place due)

/-- No result gets lost to failing calls as long as no slice was retired in vain. After passes in
which any calls have failed, a pass without failures sets no flag that such a pass would not have
set right away; and it sets all of them just when, in each pass in which the update of the status
was rejected, what the retired slices claim was set before or is claimed by a slice that is left. -/
theorem results_retained_iff {flowTest : FlowTest} {policy : PassPolicy} {evidence : Evidence}
    {initial final : Cluster} {passes : List Pass}
    (verifiable : flowTest.IsVerifiable evidence.reference initial)
    (works : policy = .delete → initial.deletesFail = false)
    (run : Passes flowTest.name policy evidence.indexes initial passes final) :
    ∃ stored direct directFinal eventual eventualFinal,
      (⟨initial, .ok evidence.indexes⟩ : Surroundings).run (Verification.run flowTest policy) =
        (.ok direct, directFinal) ∧
      direct.StoredIn flowTest directFinal.cluster ∧
      final.flowTests.get? flowTest.name = some stored ∧
      (⟨final, .ok evidence.indexes⟩ : Surroundings).run (Verification.run stored policy) =
        (.ok eventual, eventualFinal) ∧
      eventual.StoredIn stored eventualFinal.cluster ∧
      (∀ testType (place : Nat), (eventual.flags testType)[place]? = some true →
        (direct.flags testType)[place]? = some true) ∧
      ((∀ testType, eventual.flags testType = direct.flags testType) ↔
        ∀ pass ∈ passes, StatusRejected pass.flowTest pass.occurrences → pass.Retains evidence) := by
  obtain ⟨⟨stored, upheld⟩, kept_iff⟩ := run.keep verifiable
  obtain ⟨direct, directFinal, directRun, directStored, directLength, direct_iff⟩ :=
    verifiable.run_verification works
  obtain ⟨eventual, eventualFinal, eventualRun, eventualStored, eventualLength, eventual_iff⟩ :=
    upheld.verifiable.run_verification (fun deletes => upheld.deletesFail.trans (works deletes))
  rw [upheld.name_eq] at eventual_iff
  refine ⟨stored, direct, directFinal, eventual, eventualFinal, directRun, directStored,
    upheld.name_eq ▸ upheld.verifiable.stored, eventualRun, eventualStored,
    fun testType place set => (direct_iff testType place).mpr
      (upheld.isDue testType place ((eventual_iff testType place).mp set)), ?_⟩
  rw [← kept_iff]
  constructor
  · intro same testType place due
    rw [← eventual_iff, same, direct_iff]
    exact due
  · intro kept testType
    refine Marking.flags_ext ?_ (fun place => ?_)
    · rw [eventualLength, directLength, upheld.length_flags]
    · rw [eventual_iff, direct_iff]
      exact ⟨upheld.isDue testType place, kept testType place⟩

theorem Slice.Deployment.isVerifiable {flowTest : FlowTest} {reference : PipelineFlow}
    {uid : String} {slices : List Slice} {indexes : List Index} {start after : Surroundings}
    (deployment : Slice.Deployment flowTest reference uid slices indexes start after)
    (coherent : start.cluster.IsCoherent) : flowTest.IsVerifiable reference after.cluster where
  coherent := by
    intro key resource stored
    rcases (deployment.gains.resources key resource).mp stored with before | ⟨-, rfl⟩
    · exact coherent key resource before
    · rfl
  stored := deployment.stored_after
  ofKind := deployment.ofKind
  found := getFlow_of_gains deployment.gains deployment.found
  apart := by
    intro listed
    obtain ⟨_, -, -, selected⟩ := Cluster.mem_listFlows_iff.mp listed
    exact deployment.unlabeled _ reference (Cluster.getFlow_eq_some_iff.mp deployment.found)
      ((Selector.selects_flowTest_iff deployment.plain).mp selected)

theorem Sample.isCoherent_deploying (texts : List String) (indexes : List Index) :
    (deploying texts indexes).cluster.IsCoherent := by
  have empty : ({} : Cluster).IsCoherent := by
    intro key resource stored
    cases stored
  exact empty.addResource (.flow (flow texts))

namespace Sample

def firstDelivered : List Index := [{ name := "uid-0-match", logCount := 1 }]

/-- A trial in which the only slice has delivered and the update of the status is rejected. -/
def rejecting : Trial where
  surroundings := deployed ["first"] firstDelivered
  faults := [{ operation := .patchStatus, failure := .refused Cluster.injected }]

@[irreducible]
def afterRejection : Cluster :=
  (rejecting.run (Verification.run (watching .running 1) .delete)).2.surroundings.cluster

theorem deployment_first : Slice.Deployment (watching .running 1) (flow ["first"]) "uid"
    (slices ["first"]) firstDelivered (deploying ["first"] firstDelivered)
    (deployed ["first"] firstDelivered) :=
  deployment rfl rfl

theorem passes_rejecting : ∃ passes, Passes (watching .running 1).name .delete firstDelivered
    (deployed ["first"] firstDelivered).cluster passes afterRejection := by
  unfold afterRejection
  exact @Passes.of_trial rejecting (watching .running 1) .delete firstDelivered
    deployment_first.stored_after deployment_first.listing_after

/-- The slice is gone, and its flag is not set. -/
theorem left_afterRejection :
    (afterRejection.listFlows .flow (Selector.flowTest "test")).isEmpty = true ∧
      (afterRejection.flowTests.get? "test").map (·.status.matchStatus) = some [false] := by
  decide +kernel

theorem not_isDue_afterRejection :
    ¬ (⟨flow ["first"], firstDelivered⟩ : Evidence).IsDue "test" afterRejection .matchRule 0 := by
  intro due
  obtain ⟨unlisted, cleared⟩ := left_afterRejection
  obtain ⟨stored, found, set | ⟨-, slice, listed, -⟩⟩ := due
  · rw [found, Option.map_some, Option.some.injEq] at cleared
    rw [FlowTestStatus.flags, cleared] at set
    cases set
  · exact List.not_mem_nil (List.isEmpty_iff.mp unlisted ▸ listed)

theorem isDue_deployed :
    (⟨flow ["first"], firstDelivered⟩ : Evidence).IsDue "test"
      (deployed ["first"] firstDelivered).cluster .matchRule 0 := by
  have claimed : ∃ slice ∈ slices ["first"],
      (⟨flow ["first"], firstDelivered⟩ : Evidence).Claims .matchRule 0 slice.flow := by
    decide +kernel
  obtain ⟨slice, planned, claims⟩ := claimed
  exact ⟨_, deployment_first.stored_after, .inr ⟨by decide, slice.flow,
    deployment_first.mem_listFlows_iff.mpr ⟨slice, planned, rfl⟩, claims⟩⟩

theorem isVerifiable_first : (watching .running 1).IsVerifiable (flow ["first"])
    (deployed ["first"] firstDelivered).cluster :=
  deployment_first.isVerifiable (isCoherent_deploying _ _)

theorem deletes_first : (deployed ["first"] firstDelivered).cluster.deletesFail = false :=
  deployment_first.gains.deletesFail

theorem isSet_without_rejection {verification : Verification} {after : Surroundings}
    (ran : (⟨(deployed ["first"] firstDelivered).cluster, .ok firstDelivered⟩ : Surroundings).run
      (Verification.run (watching .running 1) .delete) = (.ok verification, after)) :
    (verification.flags .matchRule)[0]? = some true :=
  (@FlowTest.IsVerifiable.isDue_iff_of_run _ _ ⟨_, firstDelivered⟩ _ _ _ isVerifiable_first
    (fun _ => deletes_first) ran).mpr isDue_deployed

theorem not_isSet_afterRejection {passes : List Pass}
    (run : Passes (watching .running 1).name .delete firstDelivered
      (deployed ["first"] firstDelivered).cluster passes afterRejection)
    {stored : FlowTest} (found : afterRejection.flowTests.get? "test" = some stored)
    {verification : Verification} {after : Surroundings}
    (ran : (⟨afterRejection, .ok firstDelivered⟩ : Surroundings).run
      (Verification.run stored .delete) = (.ok verification, after)) :
    (verification.flags .matchRule)[0]? ≠ some true := by
  obtain ⟨⟨left, upheld⟩, -⟩ := @Passes.keep (watching .running 1) .delete
    ⟨flow ["first"], firstDelivered⟩ _ _ passes run isVerifiable_first
  obtain rfl : left = stored :=
    Option.some.inj ((upheld.name_eq ▸ upheld.verifiable.stored).symm.trans found)
  intro set
  have due := (upheld.verifiable.isDue_iff_of_run
    (fun _ => upheld.deletesFail.trans deletes_first) ran).mp set
  rw [upheld.name_eq] at due
  exact not_isDue_afterRejection due

end Sample

/-- The result of a slice that is deleted is lost when the update of the status is rejected right
after. -/
theorem result_lost_to_rejected_status :
    let flowTest := Sample.watching .running 1
    let start := (Sample.deployed ["first"] Sample.firstDelivered).cluster
    flowTest.IsVerifiable (Sample.flow ["first"]) start ∧
      ∃ passes final stored, Passes flowTest.name .delete Sample.firstDelivered start passes final ∧
        final.flowTests.get? flowTest.name = some stored ∧
        (∃ verification after,
          (⟨start, .ok Sample.firstDelivered⟩ : Surroundings).run
            (Verification.run flowTest .delete) = (.ok verification, after) ∧
          verification.matchStatus[0]? = some true) ∧
        ∃ verification after,
          (⟨final, .ok Sample.firstDelivered⟩ : Surroundings).run
            (Verification.run stored .delete) = (.ok verification, after) ∧
          verification.matchStatus[0]? ≠ some true := by
  intro flowTest start
  obtain ⟨passes, run⟩ := Sample.passes_rejecting
  obtain ⟨⟨stored, upheld⟩, -⟩ := @Passes.keep flowTest .delete
    ⟨Sample.flow ["first"], Sample.firstDelivered⟩ _ _ passes run Sample.isVerifiable_first
  have found : Sample.afterRejection.flowTests.get? flowTest.name = some stored :=
    upheld.name_eq ▸ upheld.verifiable.stored
  obtain ⟨direct, directFinal, directRun, -⟩ := @FlowTest.IsVerifiable.run_verification _ .delete
    ⟨_, Sample.firstDelivered⟩ _ Sample.isVerifiable_first (fun _ => Sample.deletes_first)
  obtain ⟨eventual, eventualFinal, eventualRun, -⟩ := @FlowTest.IsVerifiable.run_verification _
    .delete ⟨_, Sample.firstDelivered⟩ _ upheld.verifiable
    (fun _ => upheld.deletesFail.trans Sample.deletes_first)
  exact ⟨Sample.isVerifiable_first, passes, Sample.afterRejection, stored, run, found,
    ⟨direct, directFinal, directRun, Sample.isSet_without_rejection directRun⟩,
    ⟨eventual, eventualFinal, eventualRun,
      Sample.not_isSet_afterRejection run found eventualRun⟩⟩

/-- The result that is lost is accounted for by a pass in which the update of the status was
rejected. -/
theorem lost_result_accounted_for :
    let flowTest := Sample.watching .running 1
    let evidence : Evidence := ⟨Sample.flow ["first"], Sample.firstDelivered⟩
    let start := (Sample.deployed ["first"] evidence.indexes).cluster
    flowTest.IsVerifiable evidence.reference start ∧ start.deletesFail = false ∧
      ∃ passes final, Passes flowTest.name .delete evidence.indexes start passes final ∧
        ∃ pass ∈ passes, StatusRejected pass.flowTest pass.occurrences ∧
          ¬ pass.Retains evidence := by
  intro flowTest evidence start
  obtain ⟨passes, run⟩ := Sample.passes_rejecting
  refine ⟨Sample.isVerifiable_first, Sample.deletes_first, passes, Sample.afterRejection, run, ?_⟩
  obtain ⟨stored, direct, _, eventual, _, directRun, -, found, eventualRun, -, -, kept_iff⟩ :=
    @results_retained_iff flowTest .delete evidence start Sample.afterRejection passes
      Sample.isVerifiable_first (fun _ => Sample.deletes_first) run
  have set := Sample.isSet_without_rejection directRun
  have unset := Sample.not_isSet_afterRejection run found eventualRun
  by_cases accounted : ∃ pass ∈ passes, StatusRejected pass.flowTest pass.occurrences ∧
      ¬ pass.Retains evidence
  · exact accounted
  · have same := kept_iff.mpr (fun pass member rejected => Classical.byContradiction
      (fun lost => accounted ⟨pass, member, rejected, lost⟩))
    exact absurd ((same .matchRule).symm ▸ set) unset

end FlowTesting
