import FlowTesting.Proofs.MatchResults

set_option autoImplicit false

/-!
# Retirement

What a pass leaves behind when any of its calls may fail. It has retired some of the slices that
have delivered, and it has stored what these claim unless the update of the status was rejected.
-/

namespace FlowTesting

def FlowTestStatus.flags (status : FlowTestStatus) : TestType → List Bool
  | .matchRule => status.matchStatus
  | .filterStage => status.filterStatus

theorem Verification.flags_start (status : FlowTestStatus) (testType : TestType) :
    (Progress.start status).verification.flags testType = status.flags testType := by
  cases testType <;> rfl

theorem Verification.flags_updatedStatus (flowTest : FlowTest) (verification : Verification)
    (testType : TestType) :
    (updatedStatus flowTest verification).flags testType = verification.flags testType := by
  cases testType <;> rfl

/-- Whether some flows have been retired and nothing else has happened to the resources. What is
left under the key of a retired flow is no active flow. -/
structure Cluster.Retired (before : Cluster) (retired : List PipelineFlow) (after : Cluster) :
    Prop where
  deletesFail : after.deletesFail = before.deletesFail
  coherent : before.IsCoherent → after.IsCoherent
  others : ∀ key, (∀ flow ∈ retired, (Resource.flow flow).key ≠ key) →
    after.resources.get? key = before.resources.get? key
  inactive : ∀ flow ∈ retired, ∀ left,
    after.resources.get? (Resource.flow flow).key = some (.flow left) → left.isActive = false

namespace Cluster.Retired

variable {before middle after : Cluster} {first second retired : List PipelineFlow}

theorem nil (cluster : Cluster) : cluster.Retired [] cluster :=
  ⟨rfl, id, fun _ _ => rfl, fun _ impossible => nomatch impossible⟩

/-- Only the resources matter, and whether deletions fail. -/
theorem of_resources_eq {other : Cluster} (left : before.Retired retired after)
    (resources : other.resources = after.resources)
    (deletesFail : other.deletesFail = after.deletesFail) : before.Retired retired other where
  deletesFail := deletesFail.trans left.deletesFail
  coherent := by simpa only [IsCoherent, resources] using left.coherent
  others := by simpa only [resources] using left.others
  inactive := by simpa only [resources] using left.inactive

theorem append (here : before.Retired first middle) (later : middle.Retired second after) :
    before.Retired (first ++ second) after where
  deletesFail := later.deletesFail.trans here.deletesFail
  coherent := later.coherent ∘ here.coherent
  others := by
    intro key apart
    obtain ⟨apartHere, apartLater⟩ := List.forall_mem_append.mp apart
    exact (later.others key apartLater).trans (here.others key apartHere)
  inactive := by
    intro flow member left found
    by_cases again : ∀ other ∈ second, (Resource.flow other).key ≠ (Resource.flow flow).key
    · rw [later.others _ again] at found
      rcases List.mem_append.mp member with inFirst | inSecond
      · exact here.inactive flow inFirst left found
      · exact absurd rfl (again flow inSecond)
    · obtain ⟨other, inSecond, same⟩ : ∃ other ∈ second,
          (Resource.flow other).key = (Resource.flow flow).key := by simpa using again
      exact later.inactive other inSecond left (same ▸ found)

end Cluster.Retired

namespace Cluster.Answers

variable {before after : Cluster} {flow : PipelineFlow}

theorem retired_of_deleteFlow
    (answers : before.Answers (.call (.deleteFlow flow)) (Except.ok ()) after) :
    after.flowTests = before.flowTests ∧ before.Retired [flow] after := by
  have coherent := answers.isCoherent
  obtain ⟨⟨failure, impossible⟩, -⟩ | ⟨-, rfl⟩ := answers.deleteFlow
  · cases impossible
  refine ⟨rfl, rfl, coherent, fun key apart => ?_, fun other member left found => ?_⟩
  · exact OrderedMap.get?_erase_of_ne (apart flow List.mem_cons_self).symm
  · obtain rfl := List.mem_singleton.mp member
    rw [OrderedMap.get?_erase_self] at found
    cases found

theorem retired_of_deactivateFlow
    (answers : before.Answers (.call (.deactivateFlow flow)) (Except.ok ()) after) :
    after.flowTests = before.flowTests ∧ before.Retired [flow] after := by
  have coherent := answers.isCoherent
  obtain ⟨⟨failure, impossible⟩, -⟩ | ⟨-, stored, -, rfl⟩ := answers.deactivateFlow
  · cases impossible
  refine ⟨rfl, rfl, coherent, fun key apart => ?_, fun other member left found => ?_⟩
  · exact OrderedMap.get?_insert_of_ne (apart flow List.mem_cons_self).symm
  · obtain rfl := List.mem_singleton.mp member
    rw [OrderedMap.get?_insert_self, Option.some.injEq, Resource.flow.injEq] at found
    rw [← found]
    cases stored <;> rfl

end Cluster.Answers

namespace Verification

variable {flowTest : FlowTest} {reference : PipelineFlow} {policy : PassPolicy}
  {indexes : List Index}

theorem retire_assures (policy : PassPolicy) (slice : PipelineFlow) (past : List Occurrence)
    (cluster : Cluster) :
    Procedure.Assures (fun _ _ => True) (fun outcome _ after =>
      (∃ failure, outcome = .ok (.error failure)) ∧ after = cluster ∨
        outcome = .ok (.ok ()) ∧ after.flowTests = cluster.flowTests ∧
          cluster.Retired [slice] after) (retire policy slice) past cluster := by
  cases policy with
  | delete =>
    intro outcome after answers
    refine ⟨trivial, ?_⟩
    obtain ⟨⟨failure, rfl⟩, rfl⟩ | ⟨rfl, -⟩ := answers.deleteFlow
    · exact .inl ⟨⟨failure, rfl⟩, rfl⟩
    · exact .inr ⟨rfl, answers.retired_of_deleteFlow⟩
  | deactivate =>
    intro outcome after answers
    refine ⟨trivial, ?_⟩
    obtain ⟨⟨failure, rfl⟩, rfl⟩ | ⟨rfl, -⟩ := answers.deactivateFlow
    · exact .inl ⟨⟨failure, rfl⟩, rfl⟩
    · exact .inr ⟨rfl, answers.retired_of_deactivateFlow⟩

theorem isActive_of_delivered? {flow : PipelineFlow} {testType : TestType}
    (delivered : delivered? indexes flow = some testType) : flow.isActive = true := by
  rw [delivered?, Option.ite_none_right_eq_some, Bool.and_eq_true] at delivered
  exact delivered.1.1

theorem recordDelivered_cons {slice : PipelineFlow} {testType : TestType}
    (delivered : delivered? indexes slice = some testType) (progress : Progress)
    (rest : List PipelineFlow) :
    recordDelivered reference indexes progress (slice :: rest) =
      recordDelivered reference indexes
        { progress with
          verification := (record reference slice testType progress.verification).1
          flipped := progress.flipped + (record reference slice testType progress.verification).2 }
        rest := by
  simp only [recordDelivered, delivered]

/-- The slices that have delivered are retired up to the first failure, and recorded. -/
theorem retireDelivered_assures (slices : List PipelineFlow) (progress : Progress)
    (past : List Occurrence) (cluster : Cluster) :
    Procedure.Assures (fun _ _ => True) (fun outcome _ after => ∃ result retired,
      outcome = .ok result ∧ after.flowTests = cluster.flowTests ∧ cluster.Retired retired after ∧
        (∀ slice ∈ retired, slice ∈ slices ∧ (delivered? indexes slice).isSome = true) ∧
        result.verification = (recordDelivered reference indexes progress retired).verification ∧
        result.flipped = (recordDelivered reference indexes progress retired).flipped)
      (retireDelivered policy reference indexes progress slices) past cluster := by
  induction slices generalizing progress past cluster with
  | nil =>
    rw [retireDelivered, Procedure.assures_pure]
    exact ⟨progress, [], rfl, rfl, .nil cluster, by simp, rfl, rfl⟩
  | cons slice rest ih =>
    unfold retireDelivered
    split
    next silent =>
      refine (ih progress past cluster).mono (fun _ _ => id) ?_
      intro outcome _ after ends
      obtain ⟨result, retired, done, same, left, listed, verification, flipped⟩ := ends
      exact ⟨result, retired, done, same, left,
        fun flow member => ⟨List.mem_cons_of_mem _ (listed flow member).1, (listed flow member).2⟩,
        verification, flipped⟩
    next testType delivered =>
      rw [Procedure.assures_bind]
      refine (retire_assures policy slice past cluster).mono (fun _ _ => id) ?_
      intro outcome past between attempted
      obtain ⟨⟨failure, rfl⟩, rfl⟩ | ⟨rfl, sameHere, leftHere⟩ := attempted
      · -- The pass goes no further: neither this slice nor one after it is retired.
        exact (Procedure.assures_pure _).mpr ⟨_, [], rfl, rfl, .nil _, by simp, rfl, rfl⟩
      · refine (ih _ past between).mono (fun _ _ => id) ?_
        intro outcome _ after ends
        obtain ⟨result, retired, done, same, left, listed, verification, flipped⟩ := ends
        refine ⟨result, slice :: retired, done, same.trans sameHere, leftHere.append left,
          ?_, ?_, ?_⟩
        · refine List.forall_mem_cons.mpr ⟨⟨List.mem_cons_self, by rw [delivered]; rfl⟩, ?_⟩
          exact fun flow member =>
            ⟨List.mem_cons_of_mem _ (listed flow member).1, (listed flow member).2⟩
        · rw [recordDelivered_cons delivered]
          exact verification
        · rw [recordDelivered_cons delivered]
          exact flipped

theorem tracks_start (status : FlowTestStatus) : Tracks status (.start status) :=
  ⟨rfl, rfl, fun _ => ⟨rfl, rfl⟩⟩

theorem Tracks.recordDelivered {status : FlowTestStatus} {progress : Progress}
    (tracks : Tracks status progress) (slices : List PipelineFlow) :
    Tracks status (recordDelivered reference indexes progress slices) := by
  induction slices generalizing progress with
  | nil => exact tracks
  | cons slice rest ih =>
    rw [Verification.recordDelivered]
    split
    next => exact ih tracks
    next testType _ => exact ih (tracks.record reference slice testType)

end Verification

/-- The reference is read as the cluster has it, which stays as it is. -/
theorem FlowTest.getReference_assures (flowTest : FlowTest) (kind : PipelineKind)
    (past : List Occurrence) (cluster : Cluster) :
    Procedure.Assures (fun _ occurrence => ∃ namespaceName name,
        occurrence.request = .call (.getFlow kind namespaceName name))
      (fun outcome _ after => after = cluster ∧ ∀ reference, outcome = .ok reference →
        cluster.getFlow kind flowTest.spec.referenceFlow.namespaceName
          flowTest.spec.referenceFlow.name = some reference)
      (flowTest.getReference kind) past cluster := by
  rw [FlowTest.getReference, Procedure.assures_bind, Procedure.assures_make]
  intro outcome after answers
  refine ⟨⟨_, _, rfl⟩, ?_⟩
  obtain ⟨⟨failure, rfl⟩, rfl⟩ | ⟨rfl, rfl⟩ := answers.getFlow
  · rw [Procedure.Between]
    refine ⟨rfl, fun reference same => ?_⟩
    cases same
  · cases found : after.getFlow kind flowTest.spec.referenceFlow.namespaceName
        flowTest.spec.referenceFlow.name with
    | none =>
      refine (Procedure.assures_throw _).mpr ⟨rfl, fun reference same => ?_⟩
      cases same
    | some flow =>
      refine (Procedure.assures_pure _).mpr ⟨rfl, fun reference same => ?_⟩
      exact congrArg some (Except.ok.inj same)

namespace Verification

/-- What a pass comes to that has stored its flags. -/
def Progress.outcome (progress : Progress) : Except Failure Verification :=
  match progress.failure? with
  | some failure => .error failure
  | none => .ok progress.verification

theorem Progress.failure?_of_outcome {progress : Progress} {failure : Failure}
    (failed : progress.outcome = .error failure) : progress.failure? = some failure := by
  unfold outcome at failed
  split at failed
  next found => rw [found, Except.error.inj failed]
  next => cases failed

theorem Progress.passes_of_outcome {progress : Progress} {verification : Verification}
    (passes : progress.outcome = .ok verification) :
    progress.failure? = none ∧ verification = progress.verification := by
  unfold outcome at passes
  split at passes
  next => cases passes
  next unfailed => exact ⟨unfailed, (Except.ok.inj passes).symm⟩

/-- The end of a pass makes one request at most. -/
theorem assures_finish {permitted : List Occurrence → Occurrence → Prop}
    {wanted : Except Failure Verification → List Occurrence → Cluster → Prop} {flowTest : FlowTest}
    {result : Progress} {past : List Occurrence} {cluster : Cluster}
    (unchanged : result.flipped = 0 → wanted result.outcome past cluster)
    (stores : 0 < result.flipped → ∀ (outcome : Except Failure Unit) after,
      cluster.Answers (.call (.patchStatus flowTest (updatedStatus flowTest result.verification)))
        outcome after →
      permitted past ⟨cluster, .call (.patchStatus flowTest
          (updatedStatus flowTest result.verification)), outcome, after⟩ ∧
        wanted (outcome.bind (fun _ => result.outcome)) (past ++ [⟨cluster, .call
          (.patchStatus flowTest (updatedStatus flowTest result.verification)), outcome, after⟩])
          after) :
    Procedure.Assures permitted wanted (finish flowTest result) past cluster := by
  obtain ⟨verification, flipped, failure?⟩ := result
  unfold finish
  by_cases new : 0 < flipped
  · simp only [new, ↓reduceIte]
    refine (Procedure.assures_bind _ _).mpr
      ((Procedure.assures_make (.patchStatus _ _)).mpr (fun outcome after answers => ?_))
    obtain ⟨permittedHere, holds⟩ := stores new outcome after answers
    refine ⟨permittedHere, ?_⟩
    cases outcome with
    | error failure => exact holds
    | ok _ => cases failure? <;> exact holds
  · have none : flipped = 0 := by omega
    simp only [new, ↓reduceIte]
    cases failure? <;> exact unchanged none

/-- What a pass has come to before its end: it has retired some of the listed slices that have
delivered, and it has found the flags that these set. -/
structure Reaches (flowTest : FlowTest) (start : Cluster) (past : List Occurrence)
    (kind : PipelineKind) (reference : PipelineFlow) (indexes : List Index)
    (retired : List PipelineFlow) (result : Progress) (middle : Cluster) : Prop where
  ofKind : flowTest.pipelineKind = .ok kind
  found : start.getFlow kind flowTest.spec.referenceFlow.namespaceName
    flowTest.spec.referenceFlow.name = some reference
  listing : Answered past .listIndexes indexes
  sameTests : middle.flowTests = start.flowTests
  resources : start.Retired retired middle
  delivered : ∀ slice ∈ retired,
    slice ∈ start.listFlows kind (Selector.flowTest flowTest.name) ∧
      (delivered? indexes slice).isSome = true
  verification : result.verification =
    (recordDelivered reference indexes (.start flowTest.status) retired).verification
  flipped : result.flipped =
    (recordDelivered reference indexes (.start flowTest.status) retired).flipped

/-- The requests by which a pass reads what it goes by. -/
inductive Reads : ControllerRequest → Prop where
  | getFlow (kind : PipelineKind) (namespaceName name : String) :
      Reads (.call (.getFlow kind namespaceName name))
  | listFlows (kind : PipelineKind) (selector : String) : Reads (.call (.listFlows kind selector))
  | listIndexes : Reads (.call .listIndexes)

/-- A pass changes nothing before it has read everything that it goes by. -/
theorem assures_reading {flowTest : FlowTest} {policy : PassPolicy} {start : Cluster}
    {permitted : List Occurrence → Occurrence → Prop}
    {wanted : Except Failure Verification → List Occurrence → Cluster → Prop}
    (harmless : ∀ past occurrence, Reads occurrence.request → permitted past occurrence)
    (past : List Occurrence)
    (fails : ∀ failure reads, (∀ occurrence ∈ reads, Reads occurrence.request) →
      wanted (.error failure) (past ++ reads) start)
    (retires : ∀ kind reference indexes reads, flowTest.pipelineKind = .ok kind →
      start.getFlow kind flowTest.spec.referenceFlow.namespaceName
        flowTest.spec.referenceFlow.name = some reference →
      (∀ occurrence ∈ reads, Reads occurrence.request) →
      Answered (past ++ reads) .listIndexes indexes →
      Procedure.Assures permitted wanted
        (retireDelivered policy reference indexes (.start flowTest.status)
          (start.listFlows kind (Selector.flowTest flowTest.name)) >>= finish flowTest)
        (past ++ reads) start) :
    Procedure.Assures permitted wanted (run flowTest policy) past start := by
  have readsMore : ∀ {reads : List Occurrence} {before asked reply after},
      (∀ earlier ∈ reads, Reads earlier.request) → Reads asked →
        ∀ other ∈ reads ++ [⟨before, asked, reply, after⟩], Reads other.request :=
    fun earlier here => List.forall_mem_append.mpr ⟨earlier, List.forall_mem_singleton.mpr here⟩
  rw [run, Procedure.assures_bind, Procedure.assures_outcome]
  cases ofKind : flowTest.pipelineKind with
  | error failure =>
    rw [Procedure.Between]
    simpa using fails failure [] (by simp)
  | ok kind =>
  rw [Procedure.Between, Procedure.assures_bind]
  have reading := (flowTest.getReference_assures kind past start).mono
    (fun _ occurrence asked => show Reads occurrence.request by
      obtain ⟨_, _, same⟩ := asked
      exact same ▸ .getFlow kind _ _) (fun _ _ _ => id)
  refine reading.appending.mono harmless ?_
  rintro outcome _ _ ⟨⟨rfl, found⟩, reads, rfl, onlyReads⟩
  cases outcome with
  | error failure => exact fails failure reads onlyReads
  | ok reference =>
  rw [Procedure.Between, Procedure.assures_bind, Procedure.assures_make]
  intro outcome after answers
  refine ⟨harmless _ _ (.listFlows _ _), ?_⟩
  rw [List.append_assoc]
  obtain ⟨⟨failure, rfl⟩, rfl⟩ | ⟨rfl, rfl⟩ := answers.listFlows
  · exact fails failure _ (readsMore onlyReads (.listFlows _ _))
  rw [Procedure.Between, Procedure.assures_bind, Procedure.assures_make]
  intro outcome later answers
  refine ⟨harmless _ _ .listIndexes, ?_⟩
  rw [List.append_assoc]
  obtain rfl := answers.listIndexes
  cases outcome with
  | error failure =>
    exact fails failure _ (readsMore (readsMore onlyReads (.listFlows _ _)) .listIndexes)
  | ok indexes =>
    exact retires kind reference indexes _ ofKind (found reference rfl)
      (readsMore (readsMore onlyReads (.listFlows _ _)) .listIndexes) ⟨later, later, by simp⟩

/-- A pass fails before it has changed anything, or it comes to its end. Up to there it stores
nothing. -/
theorem assures_run {flowTest : FlowTest} {policy : PassPolicy} {start : Cluster}
    {permitted : List Occurrence → Occurrence → Prop}
    {wanted : Except Failure Verification → List Occurrence → Cluster → Prop}
    (harmless : ∀ past occurrence,
      (∀ status, occurrence.request ≠ .call (.patchStatus flowTest status)) →
      permitted past occurrence)
    (fails : ∀ failure later, wanted (.error failure) later start)
    (ends : ∀ kind reference indexes retired result later middle,
      Reaches flowTest start later kind reference indexes retired result middle →
      Procedure.Assures permitted wanted (finish flowTest result) later middle)
    (past : List Occurrence) :
    Procedure.Assures permitted wanted (run flowTest policy) past start := by
  refine assures_reading ?_ past (fun failure _ _ => fails failure _) ?_
  · rintro past ⟨before, asked, reply, after⟩ (reads : Reads asked)
    exact harmless past _ (by cases reads <;> simp)
  intro kind reference indexes reads ofKind found _ listing
  rw [Procedure.assures_bind]
  have retires : Procedure.Makes
      (fun asked => ∀ status, asked ≠ .call (.patchStatus flowTest status))
      (retireDelivered policy reference indexes (.start flowTest.status)
        (start.listFlows kind (Selector.flowTest flowTest.name))) :=
    retireDelivered_makes (by simp) (by simp) _
  refine (((retires.assures _ _).and (retireDelivered_assures _ _ _ _)).and
    (Procedure.assures_extended _)).mono
      (fun past occurrence quiet => harmless past occurrence quiet.1.1) ?_
  intro outcome later middle reached
  obtain ⟨⟨-, result, retired, rfl, sameTests, left, delivered, verification, flipped⟩, kept⟩ :=
    reached
  exact ends kind reference indexes retired result later middle
    ⟨ofKind, found, listing.mono kept, sameTests, left, delivered, verification, flipped⟩

end Verification

/-- Whether a flow test is stored in a cluster with its reference, which is none of its slices. -/
structure FlowTest.IsVerifiable (flowTest : FlowTest) (reference : PipelineFlow)
    (cluster : Cluster) : Prop where
  coherent : cluster.IsCoherent
  stored : cluster.flowTests.get? flowTest.name = some flowTest
  ofKind : flowTest.pipelineKind = .ok reference.kind
  found : cluster.getFlow reference.kind flowTest.spec.referenceFlow.namespaceName
    flowTest.spec.referenceFlow.name = some reference
  apart : reference ∉ cluster.listFlows reference.kind (Selector.flowTest flowTest.name)

def StatusRejected (flowTest : FlowTest) (occurrences : List Occurrence) : Prop :=
  ∃ before after status failure,
    ⟨before, .call (.patchStatus flowTest status), Except.error failure, after⟩ ∈ occurrences

namespace Verification

/-- What a pass has left of a cluster and of a flow test: some of the listed slices that have
delivered are retired, and the flags that they set are stored or their update was rejected. -/
structure Leaves (flowTest : FlowTest) (reference : PipelineFlow) (indexes : List Index)
    (before : Cluster) (occurrences : List Occurrence) (retired : List PipelineFlow)
    (next : FlowTest) (after : Cluster) : Prop where
  resources : before.Retired retired after
  delivered : ∀ slice ∈ retired,
    slice ∈ before.listFlows reference.kind (Selector.flowTest flowTest.name) ∧
      (delivered? indexes slice).isSome = true
  stored : after.flowTests.get? flowTest.name = some next
  continues : ∃ status?, next = { flowTest with status? }
  flags : StatusRejected flowTest occurrences ∧ next = flowTest ∨ ∀ testType,
    next.status.flags testType =
      (recordDelivered reference indexes (.start flowTest.status) retired).verification.flags testType

variable {flowTest : FlowTest} {reference : PipelineFlow} {policy : PassPolicy}
  {indexes : List Index} {cluster : Cluster}

theorem leaves_unchanged (verifiable : flowTest.IsVerifiable reference cluster)
    (indexes : List Index) (occurrences : List Occurrence) :
    Leaves flowTest reference indexes cluster occurrences [] flowTest cluster where
  resources := .nil cluster
  delivered := by simp
  stored := verifiable.stored
  continues := ⟨flowTest.status?, rfl⟩
  flags := .inr (fun testType => (flags_start flowTest.status testType).symm)

private theorem finish_assures {middle : Cluster} {retired : List PipelineFlow} {result : Progress}
    {past : List Occurrence} (verifiable : flowTest.IsVerifiable reference cluster)
    (reached : Reaches flowTest cluster past reference.kind reference indexes retired result middle) :
    Procedure.Assures (fun _ _ => True) (fun _ later after => ∃ next,
      Leaves flowTest reference indexes cluster later retired next after)
      (finish flowTest result) past middle := by
  have left := reached.resources
  have stored : middle.flowTests.get? flowTest.name = some flowTest :=
    reached.sameTests ▸ verifiable.stored
  have tracks := @Tracks.recordDelivered reference indexes _ _ (tracks_start flowTest.status) retired
  refine assures_finish (fun none => ?_) (fun _ outcome after answers => ⟨trivial, ?_⟩)
  · -- When no flag is new, those that are stored already are the ones that were found.
    rw [reached.flipped] at none
    obtain ⟨sameMatch, sameFilter⟩ := tracks.unchanged none
    refine ⟨flowTest, left, reached.delivered, stored, ⟨flowTest.status?, rfl⟩,
      .inr (fun testType => ?_)⟩
    cases testType with
    | matchRule => exact sameMatch.symm
    | filterStage => exact sameFilter.symm
  · obtain ⟨⟨failure, rfl⟩, rfl⟩ | ⟨rfl, before, foundBefore, rfl⟩ := answers.patchStatus
    · refine ⟨flowTest, left, reached.delivered, stored, ⟨flowTest.status?, rfl⟩, .inl ⟨?_, rfl⟩⟩
      exact ⟨_, _, _, failure, List.mem_append_right past List.mem_cons_self⟩
    · obtain rfl := Option.some.inj (stored.symm.trans foundBefore)
      refine ⟨_, ⟨left.deletesFail, left.coherent, left.others, left.inactive⟩,
        reached.delivered, OrderedMap.get?_insert_self .., ⟨_, rfl⟩, .inr (fun testType => ?_)⟩
      rw [reached.verification]
      change (flowTest.status.merge _).flags testType = _
      rw [merge_updatedStatus tracks, flags_updatedStatus]

/-- What a pass leaves, whichever of its calls fail. -/
theorem run_assures (verifiable : flowTest.IsVerifiable reference cluster) (past : List Occurrence) :
    Procedure.Assures (fun _ _ => True) (fun _ later after =>
      (∀ listed, Answered later .listIndexes listed → listed = indexes) →
        ∃ retired next, Leaves flowTest reference indexes cluster later retired next after)
      (run flowTest policy) past cluster := by
  refine assures_run (fun _ _ _ => trivial)
    (fun _ later _ => ⟨[], flowTest, leaves_unchanged verifiable indexes later⟩) ?_ past
  intro kind read listed retired result later middle reached
  obtain rfl := Except.ok.inj (verifiable.ofKind.symm.trans reached.ofKind)
  obtain rfl := Option.some.inj (verifiable.found.symm.trans reached.found)
  by_cases known : listed = indexes
  · subst known
    exact (finish_assures verifiable reached).mono (fun _ _ => id)
      (fun _ _ _ leaves _ => ⟨retired, leaves⟩)
  · refine (Procedure.assures_extended _).mono (fun _ _ => id) ?_
    intro _ last _ kept all
    exact absurd (all listed (reached.listing.mono kept)) known

end Verification

namespace Cluster

variable {before after : Cluster} {retired : List PipelineFlow} {kind : PipelineKind}
  {selector : String}

/-- An object that is not retired itself has another key than those that are. -/
theorem key_ne_of_notMem (coherent : before.IsCoherent)
    (listed : ∀ slice ∈ retired, slice ∈ before.listFlows kind selector) {flow : PipelineFlow}
    (stored : before.resources.get? (Resource.flow flow).key = some (.flow flow))
    (kept : flow ∉ retired) :
    ∀ slice ∈ retired, (Resource.flow slice).key ≠ (Resource.flow flow).key := by
  intro slice member same
  have storedToo := get?_key_of_mem_listFlows coherent (listed slice member)
  rw [same, stored, Option.some.injEq, Resource.flow.injEq] at storedToo
  exact kept (storedToo ▸ member)

/-- Of the active flows, those are still listed that have not been retired. -/
theorem Retired.mem_listFlows_iff (left : before.Retired retired after)
    (coherent : before.IsCoherent)
    (listed : ∀ slice ∈ retired, slice ∈ before.listFlows kind selector) {flow : PipelineFlow}
    (active : flow.isActive = true) :
    flow ∈ after.listFlows kind selector ↔ flow ∈ before.listFlows kind selector ∧ flow ∉ retired := by
  constructor
  · intro listedAfter
    have stored := get?_key_of_mem_listFlows (left.coherent coherent) listedAfter
    have apart : ∀ slice ∈ retired, (Resource.flow slice).key ≠ (Resource.flow flow).key := by
      intro slice member same
      have inactive := left.inactive slice member flow (same ▸ stored)
      rw [active] at inactive
      cases inactive
    obtain ⟨key, ofKind, atKey, selected⟩ := Cluster.mem_listFlows_iff.mp listedAfter
    obtain rfl := left.coherent coherent key _ atKey
    exact ⟨Cluster.mem_listFlows_iff.mpr ⟨_, ofKind, left.others _ apart ▸ atKey, selected⟩,
      fun member => apart flow member rfl⟩
  · intro kept
    obtain ⟨listedBefore, notRetired⟩ := kept
    have stored := get?_key_of_mem_listFlows coherent listedBefore
    have apart := key_ne_of_notMem coherent listed stored notRetired
    obtain ⟨key, ofKind, atKey, selected⟩ := Cluster.mem_listFlows_iff.mp listedBefore
    obtain rfl := coherent key _ atKey
    exact Cluster.mem_listFlows_iff.mpr
      ⟨_, ofKind, (left.others _ apart).trans stored, selected⟩

end Cluster

namespace Verification.Leaves

variable {flowTest next : FlowTest} {reference : PipelineFlow} {indexes : List Index}
  {before after : Cluster} {occurrences : List Occurrence} {retired : List PipelineFlow}

theorem length_flags (leaves : Leaves flowTest reference indexes before occurrences retired next after)
    (testType : TestType) :
    (next.status.flags testType).length = (flowTest.status.flags testType).length := by
  rcases leaves.flags with ⟨-, rfl⟩ | found
  · rfl
  · rw [found, length_flags_recordDelivered, flags_start]

theorem isVerifiable (verifiable : flowTest.IsVerifiable reference before)
    (leaves : Leaves flowTest reference indexes before occurrences retired next after) :
    next.IsVerifiable reference after := by
  have coherent := leaves.resources.coherent verifiable.coherent
  have stored := Cluster.getFlow_eq_some_iff.mp verifiable.found
  have sameKey := verifiable.coherent _ _ stored
  have apart := Cluster.key_ne_of_notMem verifiable.coherent
    (fun slice member => (leaves.delivered slice member).1) (sameKey ▸ stored)
    (fun member => verifiable.apart (leaves.delivered reference member).1)
  have storedAfter : after.resources.get? (Resource.flow reference).key = some (.flow reference) := by
    rw [leaves.resources.others _ apart, sameKey, stored]
  obtain ⟨status?, rfl⟩ := leaves.continues
  refine ⟨coherent, leaves.stored, verifiable.ofKind, ?_, ?_⟩
  · rw [Cluster.getFlow_eq_some_iff, ← storedAfter, sameKey]
  · intro listed
    obtain ⟨key, ofKind, atKey, selected⟩ := Cluster.mem_listFlows_iff.mp listed
    obtain rfl := coherent key _ atKey
    exact verifiable.apart (Cluster.mem_listFlows_iff.mpr
      ⟨_, ofKind, leaves.resources.others _ apart ▸ atKey, selected⟩)

end Verification.Leaves

end FlowTesting
