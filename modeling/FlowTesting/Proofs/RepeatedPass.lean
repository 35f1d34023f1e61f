import FlowTesting.Proofs.Execution.Reachable
import FlowTesting.Proofs.SinglePass

set_option autoImplicit false

/-!
# A repeated pass

A pass that has succeeded has left no slice to retire: what it has listed and found delivered is
gone or inactive. So the next pass over the same indexes reads the cluster and changes nothing.
-/

namespace FlowTesting

namespace Verification

variable {flowTest : FlowTest} {reference : PipelineFlow} {policy : PassPolicy}
  {indexes : List Index} {surroundings after : Surroundings}

section First

/-- A pass that has not failed has retired all slices that were due. -/
theorem retired_of_run_retireDelivered {slices : List PipelineFlow} {progress result : Progress}
    (ran : surroundings.run (retireDelivered policy reference indexes progress slices) =
      (.ok result, after)) (unfailed : result.failure? = none) :
    result = recordDelivered reference indexes progress slices ∧
      after.cluster.flowTests = surroundings.cluster.flowTests ∧
      surroundings.cluster.Retired (slices.filter (·.IsDue indexes)) after.cluster := by
  induction slices generalizing surroundings progress with
  | nil =>
    obtain ⟨rfl, rfl⟩ : progress = result ∧ surroundings = after := by
      simpa [retireDelivered] using ran
    exact ⟨rfl, rfl, .nil _⟩
  | cons slice rest ih =>
    cases delivered : delivered? indexes slice with
    | none =>
      have notDue := delivered?_eq_none_iff.mp delivered
      rw [List.filter_cons_of_neg (by simpa using notDue)]
      simp only [retireDelivered, recordDelivered, delivered] at ran ⊢
      exact ih ran
    | some testType =>
      have due := (delivered?_eq_some_iff.mp delivered).1
      rw [List.filter_cons_of_pos (by simpa using due), recordDelivered_cons delivered]
      simp only [retireDelivered, delivered] at ran
      obtain ⟨outcome, middle, retires, ran⟩ := Surroundings.eq_ok_of_run_bind ran
      obtain ⟨_, attempted⟩ := (retire_assures policy slice [] _).of_run retires
      obtain ⟨⟨failure, same⟩, -⟩ | ⟨same, sameTests, left⟩ := attempted
      · obtain rfl := Except.ok.inj same
        obtain ⟨stopped, -⟩ := Prod.mk.inj ran
        obtain rfl := Except.ok.inj stopped
        cases unfailed
      · obtain rfl := Except.ok.inj same
        obtain ⟨complete, sameRest, leftRest⟩ := ih ran
        exact ⟨complete, sameRest.trans sameTests, left.append leftRest⟩

/-- What is not due adds nothing. -/
theorem recordDelivered_filter (slices : List PipelineFlow) (progress : Progress) :
    recordDelivered reference indexes progress (slices.filter (·.IsDue indexes)) =
      recordDelivered reference indexes progress slices := by
  induction slices generalizing progress with
  | nil => rfl
  | cons slice rest ih =>
    cases delivered : delivered? indexes slice with
    | none =>
      have notDue := delivered?_eq_none_iff.mp delivered
      rw [List.filter_cons_of_neg (by simpa using notDue), ih]
      simp only [recordDelivered, delivered]
    | some testType =>
      have due := (delivered?_eq_some_iff.mp delivered).1
      rw [List.filter_cons_of_pos (by simpa using due), recordDelivered_cons delivered, ih,
        recordDelivered_cons delivered]

theorem eq_of_run_getReference {kind : PipelineKind}
    (ran : surroundings.run (flowTest.getReference kind) = (.ok reference, after)) :
    after = surroundings ∧ surroundings.cluster.getFlow kind
      flowTest.spec.referenceFlow.namespaceName flowTest.spec.referenceFlow.name =
        some reference := by
  obtain ⟨found, middle, asked, ran⟩ := Surroundings.eq_ok_of_run_bind ran
  obtain ⟨sameFound, rfl⟩ := Prod.mk.inj asked
  cases found with
  | none => cases ran
  | some flow =>
    obtain ⟨sameFlow, rfl⟩ := Prod.mk.inj ran
    obtain rfl := Except.ok.inj sameFlow
    exact ⟨rfl, Except.ok.inj sameFound⟩

/-- The end of a pass that succeeds has stored the flags that the pass has found. -/
theorem eq_of_run_finish {progress : Progress} {verification : Verification}
    (tracks : Tracks flowTest.status progress)
    (stored : surroundings.cluster.flowTests.get? flowTest.name = some flowTest)
    (ran : surroundings.run (finish flowTest progress) = (.ok verification, after)) :
    progress.failure? = none ∧ verification = progress.verification ∧
      after.cluster.resources = surroundings.cluster.resources ∧
      after.cluster.deletesFail = surroundings.cluster.deletesFail ∧
      ∃ status?, after.cluster.flowTests.get? flowTest.name = some { flowTest with status? } ∧
        status?.getD {} = updatedStatus flowTest verification := by
  unfold finish at ran
  cases failed : progress.failure? with
  | some failure =>
    simp only [failed] at ran
    split at ran
    · rw [Surroundings.run_bind_of_ok _ (Surroundings.run_patchStatus stored _)] at ran
      cases ran
    · cases ran
  | none =>
    simp only [failed] at ran
    split at ran
    next new =>
      rw [Surroundings.run_bind_of_ok _ (Surroundings.run_patchStatus stored _),
        Surroundings.run_pure] at ran
      obtain ⟨same, rfl⟩ := Prod.mk.inj ran
      obtain rfl := Except.ok.inj same
      exact ⟨rfl, rfl, rfl, rfl, _, OrderedMap.get?_insert_self .., merge_updatedStatus tracks⟩
    next old =>
      rw [Surroundings.run_pure] at ran
      obtain ⟨same, rfl⟩ := Prod.mk.inj ran
      obtain rfl := Except.ok.inj same
      obtain ⟨sameMatch, sameFilter⟩ := tracks.unchanged (by omega)
      refine ⟨rfl, rfl, rfl, rfl, flowTest.status?, stored, ?_⟩
      rw [updatedStatus, sameMatch, sameFilter]
      rfl

/-- A pass that succeeds has retired all of the listed slices that were due. -/
theorem leaves_of_run {verification : Verification}
    (verifiable : flowTest.IsVerifiable reference surroundings.cluster)
    (listing : surroundings.listing = .ok indexes)
    (ran : surroundings.run (run flowTest policy) = (.ok verification, after)) :
    ∃ next,
      Leaves flowTest reference indexes surroundings.cluster []
        ((surroundings.cluster.listFlows reference.kind (Selector.flowTest flowTest.name)).filter
          (·.IsDue indexes)) next after.cluster ∧
      next.status = updatedStatus flowTest verification := by
  obtain ⟨kind, start, known, ran⟩ := Surroundings.eq_ok_of_run_bind ran
  obtain ⟨sameKind, rfl⟩ := Prod.mk.inj known
  obtain rfl := Except.ok.inj (verifiable.ofKind.symm.trans sameKind)
  obtain ⟨read, start, reads, ran⟩ := Surroundings.eq_ok_of_run_bind ran
  obtain ⟨rfl, found⟩ := eq_of_run_getReference reads
  obtain rfl := Option.some.inj (verifiable.found.symm.trans found)
  obtain ⟨slices, start, lists, ran⟩ := Surroundings.eq_ok_of_run_bind ran
  obtain ⟨sameSlices, rfl⟩ := Prod.mk.inj lists
  obtain rfl := Except.ok.inj sameSlices
  obtain ⟨listed, start, listsIndexes, ran⟩ := Surroundings.eq_ok_of_run_bind ran
  obtain ⟨sameIndexes, rfl⟩ := Prod.mk.inj listsIndexes
  obtain rfl := Except.ok.inj (listing.symm.trans sameIndexes)
  obtain ⟨progress, middle, retires, ends⟩ := Surroundings.eq_ok_of_run_bind ran
  obtain ⟨_, tracks, sameTests⟩ :=
    (retireDelivered_yields (tracks_start flowTest.status) [] _).of_run retires
  have stored : middle.cluster.flowTests.get? flowTest.name = some flowTest :=
    sameTests ▸ verifiable.stored
  obtain ⟨unfailed, rfl, resources, deletesFail, status?, storedAfter, sameStatus⟩ :=
    eq_of_run_finish tracks stored ends
  obtain ⟨rfl, -, left⟩ := retired_of_run_retireDelivered retires unfailed
  refine ⟨{ flowTest with status? }, ⟨left.of_resources_eq resources deletesFail, ?_, storedAfter,
    ⟨status?, rfl⟩, .inr (fun testType => ?_)⟩, sameStatus⟩
  · intro slice member
    obtain ⟨listed, due⟩ := List.mem_filter.mp member
    refine ⟨listed, Option.isSome_iff_ne_none.mpr ?_⟩
    rw [ne_eq, delivered?_eq_none_iff, not_not]
    simpa using due
  · change FlowTestStatus.flags (status?.getD {}) testType = _
    rw [sameStatus, flags_updatedStatus, recordDelivered_filter]
    rfl

end First

section Second

theorem retireDelivered_of_idle {slices : List PipelineFlow} (progress : Progress)
    (idle : ∀ slice ∈ slices, ¬ slice.IsDue indexes) :
    retireDelivered policy reference indexes progress slices = pure progress := by
  induction slices with
  | nil => rfl
  | cons slice rest ih =>
    obtain ⟨idleHere, idleRest⟩ := List.forall_mem_cons.mp idle
    rw [retireDelivered, delivered?_eq_none_iff.mpr idleHere]
    exact ih idleRest

/-- After a pass that has succeeded, what is still listed is not due. -/
theorem Leaves.not_isDue {next : FlowTest} {before final : Cluster} {occurrences : List Occurrence}
    (leaves : Leaves flowTest reference indexes before occurrences
      ((before.listFlows reference.kind (Selector.flowTest flowTest.name)).filter
        (·.IsDue indexes)) next final) (coherent : before.IsCoherent) {slice : PipelineFlow}
    (listed : slice ∈ final.listFlows reference.kind (Selector.flowTest flowTest.name)) :
    ¬ slice.IsDue indexes := by
  intro due
  obtain ⟨listedBefore, kept⟩ := (leaves.resources.mem_listFlows_iff coherent
    (fun _ member => (List.mem_filter.mp member).1) due.1).mp listed
  exact kept (List.mem_filter.mpr ⟨listedBefore, by simpa using due⟩)

end Second

end Verification

namespace Trial

theorem run_bind_of_ok {α β : Type} {trial after : Trial} {first : Procedure α} {value : α}
    (next : α → Procedure β) (succeeded : trial.run first = (.ok value, after)) :
    trial.run (first >>= next) = after.run (next value) :=
  Attempt.run_bind_apply_of_ok next succeeded

theorem run_make_of_unarmed {surroundings after : Surroundings} {calls : List CallRecord}
    {call : Call} {answer : call.Answer}
    (answered : surroundings.answer call = (.ok answer, after)) :
    Trial.run { surroundings, calls } call.make =
      (.ok answer, { surroundings := after, calls := calls ++ [⟨call, none⟩] }) := by
  change Trial.answer { surroundings, calls } call = _
  simp [Trial.answer, Fault.meetAll, answered]

end Trial

/-- A pass that lists nothing that is due reads and does nothing else. -/
theorem Verification.run_trial_of_idle {flowTest : FlowTest} {reference : PipelineFlow}
    {indexes : List Index} {surroundings : Surroundings}
    (verifiable : flowTest.IsVerifiable reference surroundings.cluster)
    (listing : surroundings.listing = .ok indexes)
    (idle : ∀ slice ∈ surroundings.cluster.listFlows reference.kind
      (Selector.flowTest flowTest.name), ¬ slice.IsDue indexes) (policy : PassPolicy) :
    Trial.run { surroundings } (Verification.run flowTest policy) =
      (.ok ⟨flowTest.status.matchStatus, flowTest.status.filterStatus, []⟩,
        { surroundings
          calls := [
            ⟨.getFlow reference.kind flowTest.spec.referenceFlow.namespaceName
              flowTest.spec.referenceFlow.name, none⟩,
            ⟨.listFlows reference.kind (Selector.flowTest flowTest.name), none⟩,
            ⟨.listIndexes, none⟩] }) := by
  have known : Trial.run { surroundings } (ExceptT.mk (pure flowTest.pipelineKind)) =
      (.ok reference.kind, { surroundings }) := by
    rw [verifiable.ofKind]
    rfl
  have asked : surroundings.answer (.getFlow reference.kind
      flowTest.spec.referenceFlow.namespaceName flowTest.spec.referenceFlow.name) =
      (.ok (some reference), surroundings) := by
    rw [Surroundings.answer, verifiable.found]
  have listed : surroundings.answer .listIndexes = (.ok indexes, surroundings) := by
    rw [Surroundings.answer, listing]
  rw [Verification.run, Trial.run_bind_of_ok _ known, FlowTest.getReference, bind_assoc,
    Trial.run_bind_of_ok _ (Trial.run_make_of_unarmed asked), pure_bind,
    Trial.run_bind_of_ok _ (Trial.run_make_of_unarmed rfl),
    Trial.run_bind_of_ok _ (Trial.run_make_of_unarmed listed)]
  change Trial.run _ (retireDelivered policy reference indexes (.start flowTest.status) _ >>=
    finish flowTest) = _
  rw [retireDelivered_of_idle _ idle]
  rfl

/-- A pass that succeeds has found a reference, and an unlabelled one is none of the slices. -/
theorem FlowTest.isVerifiable_of_run {flowTest : FlowTest} {policy : PassPolicy}
    {surroundings after : Surroundings} {verification : Verification}
    (coherent : surroundings.cluster.IsCoherent)
    (stored : surroundings.cluster.flowTests.get? flowTest.name = some flowTest)
    (unlabeled : ∀ kind reference, flowTest.pipelineKind = .ok kind →
      surroundings.cluster.getFlow kind flowTest.spec.referenceFlow.namespaceName
        flowTest.spec.referenceFlow.name = some reference → (Resource.flow reference).IsForeign)
    (succeeded : surroundings.run (Verification.run flowTest policy) =
      (.ok verification, after)) :
    ∃ reference, flowTest.IsVerifiable reference surroundings.cluster := by
  obtain ⟨kind, start, known, ran⟩ := Surroundings.eq_ok_of_run_bind succeeded
  obtain ⟨ofKind, rfl⟩ := Prod.mk.inj known
  obtain ⟨reference, middle, reads, -⟩ := Surroundings.eq_ok_of_run_bind ran
  obtain ⟨-, found⟩ := Verification.eq_of_run_getReference reads
  have sameKind : reference.kind = kind := by
    have sameKey := congrArg ResourceKey.kind
      (coherent _ _ (Cluster.getFlow_eq_some_iff.mp found))
    revert sameKey
    cases kind <;> cases reference <;> simp [Resource.key, Resource.kind, PipelineFlow.kind,
      PipelineKind.flowKind]
  subst sameKind
  refine ⟨reference, coherent, stored, ofKind, found, fun listed => ?_⟩
  obtain ⟨_, -, -, selected⟩ := Cluster.mem_listFlows_iff.mp listed
  have labeled := Selector.get?_of_selects_flowTest selected
  have foreign : reference.labels.get? Labels.flowTestKey = none :=
    unlabeled _ reference ofKind found
  rw [foreign] at labeled
  cases labeled

/-- After a pass that has succeeded, the next pass over the same indexes finds the same flags,
reports no slice and leaves everything as it is: it reads the reference, the slices and the indexes
and makes no other call. -/
theorem repeated_pass_changes_nothing {cluster : Cluster} {flowTest : FlowTest}
    {indexes : List Index} {policy : PassPolicy} {verification : Verification}
    {after : Surroundings} (reachable : cluster.IsReachable)
    (stored : cluster.flowTests.get? flowTest.name = some flowTest)
    (unlabeled : ∀ kind reference, flowTest.pipelineKind = .ok kind →
      cluster.getFlow kind flowTest.spec.referenceFlow.namespaceName
        flowTest.spec.referenceFlow.name = some reference → (Resource.flow reference).IsForeign)
    (succeeded : (⟨cluster, .ok indexes⟩ : Surroundings).run (Verification.run flowTest policy) =
      (.ok verification, after)) (again : PassPolicy) :
    ∃ kind next, flowTest.pipelineKind = .ok kind ∧
      after.cluster.flowTests.get? flowTest.name = some next ∧
      Trial.run { surroundings := after } (Verification.run next again) =
        (.ok { verification with passed := [] },
          { surroundings := after
            calls := [
              ⟨.getFlow kind flowTest.spec.referenceFlow.namespaceName
                flowTest.spec.referenceFlow.name, none⟩,
              ⟨.listFlows kind (Selector.flowTest flowTest.name), none⟩,
              ⟨.listIndexes, none⟩] }) := by
  obtain ⟨reference, verifiable⟩ :=
    FlowTest.isVerifiable_of_run reachable.isCoherent stored unlabeled succeeded
  obtain ⟨next, leaves, status⟩ := Verification.leaves_of_run verifiable rfl succeeded
  have verifiableAfter := leaves.isVerifiable verifiable
  have listing : after.listing = .ok indexes := by
    have kept := Surroundings.listing_run ⟨cluster, .ok indexes⟩ (Verification.run flowTest policy)
    rw [succeeded] at kept
    exact kept
  obtain ⟨status?, rfl⟩ := leaves.continues
  have idle := Verification.run_trial_of_idle verifiableAfter listing
    (fun _ listed => leaves.not_isDue reachable.isCoherent listed) again
  rw [status] at idle
  exact ⟨reference.kind, _, verifiable.ofKind, leaves.stored, idle⟩

theorem Sample.isReachable_deployed (texts : List String) (indexes : List Index) :
    (deployed texts indexes).cluster.IsReachable := by
  have start : (deploying texts indexes).cluster.IsReachable :=
    (Cluster.IsReachable.empty.addFlow (flow texts)).addFlowTest (watching .running texts.length)
  exact start.run _

namespace Sample

def halfDelivered : Surroundings := deployed ["first", "second"] (counting 1 0)

def afterFirstPass : Surroundings :=
  (halfDelivered.run (Verification.run (watching .running 2) .deactivate)).2

end Sample

/-- One of two slices has delivered. The first pass deactivates it, and the second one, which could
delete slices, lists it again and lets it be. -/
theorem repeated_pass_of_two_slices :
    Sample.halfDelivered.cluster.IsReachable ∧
    Sample.halfDelivered.run (Verification.run (Sample.watching .running 2) .deactivate) =
      (.ok ⟨[true, false], [], ["uid-0-match"]⟩, Sample.afterFirstPass) ∧
    (Sample.afterFirstPass.cluster.listFlows .flow (Selector.flowTest "test")).map (·.name) =
      ["uid-0-match", "uid-1-match"] ∧
    ∃ next, Sample.afterFirstPass.cluster.flowTests.get? "test" = some next ∧
      Trial.run { surroundings := Sample.afterFirstPass } (Verification.run next .delete) =
        (.ok ⟨[true, false], [], []⟩,
          { surroundings := Sample.afterFirstPass
            calls := [⟨.getFlow .flow "default" "flow", none⟩,
              ⟨.listFlows .flow (Selector.flowTest "test"), none⟩, ⟨.listIndexes, none⟩] }) := by
  have reachable : Sample.halfDelivered.cluster.IsReachable := Sample.isReachable_deployed _ _
  have stored : Sample.halfDelivered.cluster.flowTests.get? (Sample.watching .running 2).name =
      some (Sample.watching .running 2) := rfl
  have unlabeled : ∀ kind reference, (Sample.watching .running 2).pipelineKind = .ok kind →
      Sample.halfDelivered.cluster.getFlow kind
        (Sample.watching .running 2).spec.referenceFlow.namespaceName
        (Sample.watching .running 2).spec.referenceFlow.name = some reference →
      (Resource.flow reference).IsForeign := by
    intro kind reference ofKind found
    obtain rfl : PipelineKind.flow = kind := Except.ok.inj ofKind
    obtain rfl := Option.some.inj found
    rfl
  have first : (⟨Sample.halfDelivered.cluster, .ok (Sample.counting 1 0)⟩ : Surroundings).run
      (Verification.run (Sample.watching .running 2) .deactivate) =
        (.ok ⟨[true, false], [], ["uid-0-match"]⟩, Sample.afterFirstPass) := rfl
  refine ⟨reachable, first, rfl, ?_⟩
  obtain ⟨kind, next, ofKind, storedAfter, repeated⟩ :=
    repeated_pass_changes_nothing reachable stored unlabeled first .delete
  obtain rfl : PipelineKind.flow = kind := Except.ok.inj ofKind
  exact ⟨next, storedAfter, repeated⟩

end FlowTesting
