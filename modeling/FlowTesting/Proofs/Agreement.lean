import FlowTesting.Proofs.Execution.Comparison
import FlowTesting.Proofs.Places

set_option autoImplicit false

/-!
# Agreement

Two clusters agree for a flow test when it finds the same in both: itself, what it refers to,
and what is stored in its places. They may differ in everything else. A reconciliation of the
flow test then comes to the same in both, and they agree still.
-/

namespace FlowTesting

namespace Cluster

variable {cluster after : Cluster} {flowTest : FlowTest} {key : ResourceKey}
  {stored? : Option Resource}

/-- Whether an object may come to be stored under a key: it is known by that key, and if it is
labelled for the flow test, the flow test has a place there. -/
def Fits (flowTest : FlowTest) (key : ResourceKey) (stored? : Option Resource) : Prop :=
  ∀ resource, stored? = some resource →
    resource.key = key ∧ (resource.IsLabeledFor flowTest.name → flowTest.HasPlace key)

theorem Suits.set (suits : cluster.Suits flowTest) (sets : cluster.Sets key stored? after)
    (unreferenced : ¬ flowTest.RefersTo key) (fits : Fits flowTest key stored?) :
    after.Suits flowTest where
  coherent other resource found := by
    by_cases same : other = key
    · subst same
      exact (fits resource (sets.here.symm.trans found)).1
    · exact suits.coherent other resource (sets.others other same ▸ found)
  placed other resource found labeled := by
    by_cases same : other = key
    · subst same
      exact (fits resource (sets.here.symm.trans found)).2 labeled
    · exact suits.placed other resource (sets.others other same ▸ found) labeled
  references other refers := by
    have differs : other ≠ key := fun same => unreferenced (same ▸ refers)
    rw [sets.others other differs]
    exact suits.references other refers

theorem Suits.without {selector : String} {kinds : List Kind} (suits : cluster.Suits flowTest)
    (spares : ∀ resource : Resource, resource.IsForeign → ¬ resource.IsShared →
      ¬ (resource.kind ∈ kinds ∧ Selector.selects selector resource.labels = true)) :
    (Cleanup.without selector kinds cluster).Suits flowTest where
  coherent key resource found := suits.coherent key resource (Cleanup.get?_without_iff.mp found).1
  placed key resource found := suits.placed key resource (Cleanup.get?_without_iff.mp found).1
  references key refers := by
    obtain ⟨resource, found, foreign, unshared⟩ := suits.references key refers
    obtain rfl := suits.coherent key resource found
    exact ⟨resource, Cleanup.get?_without_iff.mpr ⟨found, spares resource foreign unshared⟩,
      foreign, unshared⟩

end Cluster

/-- Whether two surroundings look the same to a flow test. What passes for a part of the log
aggregator counts only as long as the flow test needs that. -/
structure FlowTest.Agrees (flowTest : FlowTest) (left right : Surroundings) : Prop where
  listing : left.listing = right.listing
  deletesFail : left.cluster.deletesFail = right.cluster.deletesFail
  stored : ∃ stored, left.cluster.flowTests.get? flowTest.name = some stored ∧
    right.cluster.flowTests.get? flowTest.name = some stored ∧
      stored.isDeleting = flowTest.isDeleting
  suitsLeft : left.cluster.Suits flowTest
  suitsRight : right.cluster.Suits flowTest
  references : ∀ key, flowTest.RefersTo key →
    left.cluster.resources.get? key = right.cluster.resources.get? key
  own : ∀ key, flowTest.HasPlace key → ∀ resource : Resource,
    (resource.IsShared → Cleanup.needsAggregator flowTest = true) →
      (left.cluster.resources.get? key = some resource ↔
        right.cluster.resources.get? key = some resource)

namespace FlowTest.Agrees

variable {flowTest : FlowTest} {left right : Surroundings} {leftAfter rightAfter : Cluster}
  {key : ResourceKey} {stored? : Option Resource}

theorem symm (agrees : flowTest.Agrees left right) : flowTest.Agrees right left where
  listing := agrees.listing.symm
  deletesFail := agrees.deletesFail.symm
  stored := by
    obtain ⟨stored, foundLeft, foundRight, sameDeletion⟩ := agrees.stored
    exact ⟨stored, foundRight, foundLeft, sameDeletion⟩
  suitsLeft := agrees.suitsRight
  suitsRight := agrees.suitsLeft
  references key refers := (agrees.references key refers).symm
  own key place resource counts := (agrees.own key place resource counts).symm

theorem get?_eq (agrees : flowTest.Agrees left right)
    (needed : Cleanup.needsAggregator flowTest = true) (place : flowTest.HasPlace key) :
    left.cluster.resources.get? key = right.cluster.resources.get? key :=
  Option.ext (fun resource => agrees.own key place resource (fun _ => needed))

theorem putFlowTest (agrees : flowTest.Agrees left right) {next : FlowTest}
    (sameDeletion : next.isDeleting = flowTest.isDeleting) :
    flowTest.Agrees { left with cluster := left.cluster.putFlowTest flowTest.name next }
      { right with cluster := right.cluster.putFlowTest flowTest.name next } where
  listing := agrees.listing
  deletesFail := agrees.deletesFail
  stored := ⟨next, OrderedMap.get?_insert_self _ _ _, OrderedMap.get?_insert_self _ _ _,
    sameDeletion⟩
  suitsLeft := ⟨agrees.suitsLeft.coherent, agrees.suitsLeft.placed, agrees.suitsLeft.references⟩
  suitsRight :=
    ⟨agrees.suitsRight.coherent, agrees.suitsRight.placed, agrees.suitsRight.references⟩
  references := agrees.references
  own := agrees.own

/-- The same may come to be stored on both sides. -/
theorem set (agrees : flowTest.Agrees left right)
    (setsLeft : left.cluster.Sets key stored? leftAfter)
    (setsRight : right.cluster.Sets key stored? rightAfter)
    (unreferenced : ¬ flowTest.RefersTo key) (fits : Cluster.Fits flowTest key stored?) :
    flowTest.Agrees { left with cluster := leftAfter } { right with cluster := rightAfter } where
  listing := agrees.listing
  deletesFail := by rw [setsLeft.deletesFail, setsRight.deletesFail, agrees.deletesFail]
  stored := by
    rw [setsLeft.flowTests, setsRight.flowTests]
    exact agrees.stored
  suitsLeft := agrees.suitsLeft.set setsLeft unreferenced fits
  suitsRight := agrees.suitsRight.set setsRight unreferenced fits
  references other refers := by
    have differs : other ≠ key := fun same => unreferenced (same ▸ refers)
    rw [setsLeft.others other differs, setsRight.others other differs]
    exact agrees.references other refers
  own other place resource counts := by
    by_cases same : other = key
    · rw [same, setsLeft.here, setsRight.here]
    · rw [setsLeft.others other same, setsRight.others other same]
      exact agrees.own other place resource counts

/-- Outside of the places of the flow test, something may come to be stored on one side. -/
theorem setLeft (agrees : flowTest.Agrees left right)
    (setsLeft : left.cluster.Sets key stored? leftAfter) (unreferenced : ¬ flowTest.RefersTo key)
    (fits : Cluster.Fits flowTest key stored?) (elsewhere : ¬ flowTest.HasPlace key) :
    flowTest.Agrees { left with cluster := leftAfter } right where
  listing := agrees.listing
  deletesFail := setsLeft.deletesFail.trans agrees.deletesFail
  stored := by
    rw [setsLeft.flowTests]
    exact agrees.stored
  suitsLeft := agrees.suitsLeft.set setsLeft unreferenced fits
  suitsRight := agrees.suitsRight
  references other refers := by
    have differs : other ≠ key := fun same => unreferenced (same ▸ refers)
    rw [setsLeft.others other differs]
    exact agrees.references other refers
  own other place resource counts := by
    have differs : other ≠ key := fun same => elsewhere (same ▸ place)
    rw [setsLeft.others other differs]
    exact agrees.own other place resource counts

theorem without (agrees : flowTest.Agrees left right) {selector : String} {kinds : List Kind}
    (spares : ∀ resource : Resource, resource.IsForeign → ¬ resource.IsShared →
      ¬ (resource.kind ∈ kinds ∧ Selector.selects selector resource.labels = true)) :
    flowTest.Agrees { left with cluster := Cleanup.without selector kinds left.cluster }
      { right with cluster := Cleanup.without selector kinds right.cluster } where
  listing := agrees.listing
  deletesFail := agrees.deletesFail
  stored := agrees.stored
  suitsLeft := agrees.suitsLeft.without spares
  suitsRight := agrees.suitsRight.without spares
  references key refers := by
    apply Option.ext
    intro resource
    rw [Cleanup.get?_without_iff, Cleanup.get?_without_iff, agrees.references key refers]
  own key place resource counts := by
    rw [Cleanup.get?_without_iff, Cleanup.get?_without_iff, agrees.own key place resource counts]

/-- A flow test that does not need the log aggregator does not see it go. -/
theorem withoutAggregator (agrees : flowTest.Agrees left right)
    (unneeded : Cleanup.needsAggregator flowTest = false) :
    flowTest.Agrees
      { left with
        cluster := Cleanup.without Selector.aggregator Cleanup.aggregatorKinds left.cluster }
      right where
  listing := agrees.listing
  deletesFail := agrees.deletesFail
  stored := agrees.stored
  suitsLeft := agrees.suitsLeft.without (fun _ _ => mt Resource.isShared_iff.mpr)
  suitsRight := agrees.suitsRight
  references key refers := by
    obtain ⟨resource, found, -, unshared⟩ := agrees.suitsLeft.references key refers
    obtain rfl := agrees.suitsLeft.coherent key resource found
    rw [← agrees.references _ refers, found]
    exact Cleanup.get?_without_iff.mpr ⟨found, mt Resource.isShared_iff.mpr unshared⟩
  own key place resource counts := by
    have unshared : ¬ resource.IsShared := fun shared => by
      rw [counts shared] at unneeded
      cases unneeded
    rw [Cleanup.get?_without_iff, ← agrees.own key place resource counts]
    refine and_iff_left_of_imp (fun found => ?_)
    obtain rfl := agrees.suitsLeft.coherent key resource found
    exact mt Resource.isShared_iff.mpr unshared

/-- A cleanup leaves both sides alike, even when the log aggregator goes on one of them only. -/
theorem cleaned (agrees : flowTest.Agrees left right)
    (cleansUp : flowTest.isDeleting = true ∨ flowTest.phase? = some .completed) :
    flowTest.Agrees { left with cluster := Cleanup.cleaned flowTest left.cluster }
      { right with cluster := Cleanup.cleaned flowTest right.cluster } := by
  have cleared := @without _ _ _ agrees (Selector.flowTest flowTest.name) Cleanup.testKinds
    (fun resource foreign _ selected => by
      have labeled := Selector.get?_of_selects_flowTest selected.2
      rw [foreign] at labeled
      cases labeled)
  unfold Cleanup.cleaned
  cases needed : Cleanup.needsAggregator flowTest with
  | true =>
    -- Only a flow test that is being deleted cleans up while it needs the log aggregator, and it
    -- is stored as such on both sides.
    have deleting : flowTest.isDeleting = true := by
      rcases cleansUp with deleting | completed
      · exact deleting
      · simpa [Cleanup.needsAggregator, completed] using needed
    obtain ⟨stored, foundLeft, foundRight, sameDeletion⟩ := agrees.stored
    have storedNeeds : Cleanup.needsAggregator stored = true := by
      simp [Cleanup.needsAggregator, sameDeletion, deleting]
    rw [if_pos (Cleanup.aggregatorInUse_values_iff.mpr ⟨_, stored, foundLeft, storedNeeds⟩),
      if_pos (Cleanup.aggregatorInUse_values_iff.mpr ⟨_, stored, foundRight, storedNeeds⟩)]
    exact cleared
  | false =>
    split <;> split
    · exact cleared
    · exact (cleared.symm.withoutAggregator needed).symm
    · exact cleared.withoutAggregator needed
    · exact ((cleared.withoutAggregator needed).symm.withoutAggregator needed).symm

end FlowTest.Agrees

section Requests

variable {flowTest : FlowTest}

theorem FlowTest.accords_edit {call : Call} (edited : flowTest.EditedBy (.call call)) :
    call.make.Accords flowTest.Agrees := by
  intro left right agrees
  obtain ⟨stored, foundLeft, foundRight, sameDeletion⟩ := agrees.stored
  rw [Surroundings.run_make, Surroundings.run_make]
  cases edited with
  | patchStatus status =>
    simp only [Surroundings.answer, Surroundings.onCluster, Cluster.patchStatus, foundLeft,
      foundRight]
    exact ⟨(), trivial, trivial, agrees.putFlowTest sameDeletion⟩
  | addFinalizer finalizer =>
    simp only [Surroundings.answer, Surroundings.onCluster, Cluster.addFinalizer, foundLeft,
      foundRight]
    exact ⟨(), trivial, trivial, agrees.putFlowTest sameDeletion⟩
  | removeFinalizer finalizer =>
    simp only [Surroundings.answer, Surroundings.onCluster, Cluster.removeFinalizer, foundLeft,
      foundRight]
    exact ⟨(), trivial, trivial, agrees.putFlowTest sameDeletion⟩

namespace FlowTest

theorem respects_getPod : ControllerRequest.Respects flowTest.Agrees
    (.call (.getPod flowTest.spec.referencePod.namespaceName flowTest.spec.referencePod.name)) := by
  intro left right agrees
  simp only [Surroundings.answer, Cluster.getPod, agrees.references _ .pod]
  exact ⟨trivial, agrees⟩

theorem respects_getFlow {kind : PipelineKind} (known : flowTest.pipelineKind = .ok kind) :
    ControllerRequest.Respects flowTest.Agrees (.call (.getFlow kind
      flowTest.spec.referenceFlow.namespaceName flowTest.spec.referenceFlow.name)) := by
  intro left right agrees
  simp only [Surroundings.answer, Cluster.getFlow, agrees.references _ (.flow known)]
  exact ⟨trivial, agrees⟩

theorem respects_listIndexes :
    ControllerRequest.Respects flowTest.Agrees (.call .listIndexes) :=
  fun _ _ agrees => ⟨agrees.listing, agrees⟩

/-- Whatever is in a place of a flow test that needs the log aggregator, it is there on both
sides, so a creation comes to the same. -/
theorem respects_create {owner : Owner} {resource : Resource}
    (needed : Cleanup.needsAggregator flowTest = true) (identified : flowTest.owner? = some owner)
    (product : Product flowTest owner resource) :
    ControllerRequest.Respects flowTest.Agrees (.call (.create resource)) := by
  intro left right agrees
  have place : flowTest.HasPlace resource.key := ⟨owner, resource, identified, product, rfl⟩
  have same := agrees.get?_eq needed place
  simp only [Surroundings.answer, Surroundings.onCluster]
  cases found : left.cluster.resources.get? resource.key with
  | some stored =>
    rw [Cluster.create_of_taken found, Cluster.create_of_taken (same ▸ found)]
    exact ⟨rfl, agrees⟩
  | none =>
    rw [Cluster.create_of_free found, Cluster.create_of_free (same ▸ found)]
    refine ⟨rfl, agrees.set (Cluster.sets_insert _ _ _) (Cluster.sets_insert _ _ _)
      (agrees.suitsLeft.not_refersTo_of_free found) (fun stored created => ?_)⟩
    obtain rfl := Option.some.inj created
    exact ⟨rfl, fun _ => place⟩

/-- Whether a flow test has a place that it does not refer to. -/
def Owns (flowTest : FlowTest) (key : ResourceKey) : Prop :=
  flowTest.HasPlace key ∧ ¬ flowTest.RefersTo key

theorem respects_deleteFlow {flow : PipelineFlow} (owns : flowTest.Owns (Resource.flow flow).key) :
    ControllerRequest.Respects flowTest.Agrees (.call (.deleteFlow flow)) := by
  intro left right agrees
  simp only [Surroundings.answer, Surroundings.onCluster]
  cases fails : left.cluster.deletesFail with
  | true =>
    rw [Cluster.deleteFlow_of_fails fails, Cluster.deleteFlow_of_fails (agrees.deletesFail ▸ fails)]
    exact ⟨rfl, agrees⟩
  | false =>
    rw [Cluster.deleteFlow_of_works fails, Cluster.deleteFlow_of_works (agrees.deletesFail ▸ fails)]
    exact ⟨rfl, agrees.set (Cluster.sets_erase _ _) (Cluster.sets_erase _ _) owns.2
      (fun _ impossible => by cases impossible)⟩

theorem respects_deactivateFlow {flow : PipelineFlow}
    (owns : flowTest.Owns (Resource.flow flow).key) :
    ControllerRequest.Respects flowTest.Agrees (.call (.deactivateFlow flow)) := by
  intro left right agrees
  have same : ∀ stored : PipelineFlow,
      left.cluster.resources.get? (Resource.flow flow).key = some (.flow stored) ↔
        right.cluster.resources.get? (Resource.flow flow).key = some (.flow stored) :=
    fun stored => agrees.own _ owns.1 _ (fun shared =>
      absurd shared (@Resource.not_isShared_of_kind (.flow stored) stored.kind rfl))
  simp only [Surroundings.answer, Surroundings.onCluster]
  by_cases found : ∃ stored : PipelineFlow,
      left.cluster.resources.get? (Resource.flow flow).key = some (.flow stored)
  · obtain ⟨stored, found⟩ := found
    rw [Cluster.deactivateFlow_of_stored found,
      Cluster.deactivateFlow_of_stored ((same stored).mp found)]
    refine ⟨rfl, agrees.set (Cluster.sets_insert _ _ _) (Cluster.sets_insert _ _ _) owns.2 ?_⟩
    intro resource changed
    obtain rfl := Option.some.inj changed
    refine ⟨?_, fun _ => owns.1⟩
    rw [(Resource.continues_withStatus stored _).sameKey]
    exact agrees.suitsLeft.coherent _ _ found
  · rw [Cluster.deactivateFlow_of_missing found,
      Cluster.deactivateFlow_of_missing (fun stored => found (stored.imp (fun _ => (same _).mpr)))]
    exact ⟨rfl, agrees⟩

theorem Agrees.isSelected_right {left right : Surroundings} (agrees : flowTest.Agrees left right)
    (plain : ',' ∉ flowTest.name.toList) {kind : PipelineKind} {key : ResourceKey}
    {resource : Resource} (found : left.cluster.resources.get? key = some resource)
    (selected : Cluster.isSelected kind.flowKind (Selector.flowTest flowTest.name) key resource =
      true) :
    right.cluster.resources.get? key = some resource := by
  obtain ⟨ofKind, selected⟩ := (Bool.and_eq_true _ _).mp selected
  have place := agrees.suitsLeft.placed key resource found
    ((Selector.selects_flowTest_iff plain).mp selected)
  refine (agrees.own key place resource (fun shared => ?_)).mp found
  obtain rfl := agrees.suitsLeft.coherent key resource found
  exact absurd shared (Resource.not_isShared_of_kind (beq_iff_eq.mp ofKind))

theorem respects_listFlows {kind : PipelineKind} (plain : ',' ∉ flowTest.name.toList) :
    ControllerRequest.Respects flowTest.Agrees
      (.call (.listFlows kind (Selector.flowTest flowTest.name))) := by
  intro left right agrees
  have sameResources : left.cluster.resources.filter
        (Cluster.isSelected kind.flowKind (Selector.flowTest flowTest.name)) =
      right.cluster.resources.filter
        (Cluster.isSelected kind.flowKind (Selector.flowTest flowTest.name)) := by
    refine OrderedMap.ext (fun key => Option.ext (fun resource => ?_))
    simp only [OrderedMap.get?_filter, Option.filter_eq_some_iff]
    refine and_congr_left (fun selected => ?_)
    exact ⟨fun found => agrees.isSelected_right plain found selected,
      fun found => agrees.symm.isSelected_right plain found selected⟩
  simp only [Surroundings.answer, Cluster.listFlows, sameResources]
  exact ⟨trivial, agrees⟩

theorem Agrees.owns_of_mem_listFlows {left right : Surroundings}
    (agrees : flowTest.Agrees left right) (plain : ',' ∉ flowTest.name.toList) {kind : PipelineKind}
    {flow : PipelineFlow}
    (listed : flow ∈ left.cluster.listFlows kind (Selector.flowTest flowTest.name)) :
    flowTest.Owns (Resource.flow flow).key := by
  obtain ⟨key, -, found, selected⟩ := Cluster.mem_listFlows_iff.mp listed
  have labeled : (Resource.flow flow).IsLabeledFor flowTest.name :=
    (Selector.selects_flowTest_iff plain).mp selected
  obtain rfl := agrees.suitsLeft.coherent key _ found
  exact ⟨agrees.suitsLeft.placed _ _ found labeled,
    agrees.suitsLeft.not_refersTo_of_labeled found labeled⟩

end FlowTest

end Requests

section Procedures

variable {flowTest : FlowTest}

theorem Provisioning.run_ensure (surroundings : Surroundings) (resource : Resource) :
    surroundings.run (ensure resource) = (.ok (), { surroundings with
      cluster := (surroundings.cluster.create resource).2 }) := by
  rw [ensure, Surroundings.run_bind, Surroundings.run_attempt]
  simp only [Surroundings.answer, Surroundings.onCluster, Surroundings.run_outcome]
  cases found : surroundings.cluster.resources.get? resource.key with
  | some stored => rw [Cluster.create_of_taken found]; rfl
  | none => rw [Cluster.create_of_free found]; rfl

/-- The flow test does not see whether a part of the log aggregator was there already. -/
theorem FlowTest.Agrees.createLeft {left right : Surroundings} (agrees : flowTest.Agrees left right)
    {configuration : Configuration} {part : Resource}
    (belongs : SharedAggregator.Part configuration part) :
    flowTest.Agrees { left with cluster := (left.cluster.create part).2 } right := by
  cases found : left.cluster.resources.get? part.key with
  | some stored =>
    rw [Cluster.create_of_taken found]
    exact agrees
  | none =>
    rw [Cluster.create_of_free found]
    refine agrees.setLeft (Cluster.sets_insert _ _ _)
      (agrees.suitsLeft.not_refersTo_of_free found) ?_ ?_
    · intro stored created
      obtain rfl := Option.some.inj created
      exact ⟨rfl, fun labeled => absurd labeled (belongs.isForeign.not_isLabeledFor _)⟩
    · exact fun place => place.not_isPlace configuration ⟨part, belongs, rfl⟩

namespace Provisioning

theorem ensure_respects {configuration : Configuration} {part : Resource}
    (belongs : SharedAggregator.Part configuration part) :
    (ensure part).Respects flowTest.Agrees := by
  intro left right agrees
  rw [run_ensure, run_ensure]
  exact ⟨rfl, ((agrees.createLeft belongs).symm.createLeft belongs).symm⟩

theorem getReferencePod_respects : (getReferencePod flowTest).Respects flowTest.Agrees := by
  refine (Procedure.respects_make FlowTest.respects_getPod).bind (fun found => ?_)
  cases found with
  | some pod => exact Procedure.respects_pure _
  | none => exact Procedure.respects_throw _

theorem deploy_respects (needed : Cleanup.needsAggregator flowTest = true) {owner : Owner}
    (identified : flowTest.owner? = some owner) {kind : PipelineKind} {slices : List Slice}
    (built : ∀ slice ∈ slices, slice.IsBuilt owner kind) :
    (Slice.deploy slices).Respects flowTest.Agrees := by
  induction slices with
  | nil => exact Procedure.respects_pure _
  | cons slice rest ih =>
    obtain ⟨⟨template, testId, testType, matchRules, filters, -, rfl⟩, builtRest⟩ :=
      List.forall_mem_cons.mp built
    have creates : ∀ {resource : Resource}, Product flowTest owner resource →
        (Call.make (.create resource)).Respects flowTest.Agrees := fun product =>
      Procedure.respects_make (FlowTest.respects_create needed identified product)
    exact (creates .output).bind (fun _ => (creates .flow).bind (fun _ => ih builtRest))

end Provisioning

theorem FlowTest.getReference_respects {kind : PipelineKind}
    (known : flowTest.pipelineKind = .ok kind) :
    (flowTest.getReference kind).Respects flowTest.Agrees := by
  refine (Procedure.respects_make (respects_getFlow known)).bind (fun found => ?_)
  cases found with
  | some flow => exact Procedure.respects_pure _
  | none => exact Procedure.respects_throw _

theorem Provisioning.run_respects (needed : Cleanup.needsAggregator flowTest = true)
    (configuration : Configuration) : (run flowTest configuration).Respects flowTest.Agrees := by
  refine Procedure.respects_outcome_bind (fun owner required => ?_)
  have creates : ∀ {resource : Resource}, Product flowTest owner resource →
      (Call.make (.create resource)).Respects flowTest.Agrees := fun product =>
    Procedure.respects_make
      (FlowTest.respects_create needed (owner?_of_requireOwner required) product)
  refine Procedure.respects_outcome_bind (fun kind known => ?_)
  refine getReferencePod_respects.bind (fun referencePod => ?_)
  refine Procedure.respects_outcome_bind (fun pod simulated => ?_)
  refine (creates .configMap).bind (fun _ => ?_)
  refine (creates (.pod simulated)).bind (fun _ => ?_)
  refine Procedure.Respects.bind ?_ (fun _ => ?_)
  · exact (@ensure_respects flowTest configuration _ .pod).bind
      (fun _ => @ensure_respects flowTest configuration _ .service)
  refine (FlowTest.getReference_respects known).bind (fun reference => ?_)
  refine (FlowTest.accords_edit (.patchStatus _)).respects.bind (fun _ => ?_)
  refine Procedure.respects_outcome_bind (fun slices planned => ?_)
  have built : ∀ slice ∈ slices, slice.IsBuilt owner reference.kind :=
    fun slice member => Slice.isBuilt_of_mem_plan planned member
  exact (deploy_respects needed (owner?_of_requireOwner required) built).bind
    (fun _ => Procedure.respects_pure _)

theorem Verification.run_respects (plain : ',' ∉ flowTest.name.toList) (policy : PassPolicy) :
    (run flowTest policy).Respects flowTest.Agrees := by
  refine Procedure.respects_outcome_bind (fun kind known => ?_)
  refine (FlowTest.getReference_respects known).bind (fun reference => ?_)
  refine (Procedure.respects_make (FlowTest.respects_listFlows plain)).bind_answered
    (fun slices left right agrees listed => ?_)
  obtain rfl : left.cluster.listFlows kind (Selector.flowTest flowTest.name) = slices :=
    Except.ok.inj listed
  refine (Procedure.respects_make FlowTest.respects_listIndexes).bind (fun indexes => ?_)
  refine Procedure.Makes.respects ?_
  refine (retireDelivered_makes (fun slice member => ?_) (fun slice member => ?_) _).bind
    (fun progress => finish_makes (FlowTest.accords_edit (.patchStatus _)).respects)
  · exact FlowTest.respects_deleteFlow (agrees.owns_of_mem_listFlows plain member)
  · exact FlowTest.respects_deactivateFlow (agrees.owns_of_mem_listFlows plain member)

namespace Controller

theorem run_cleanUp (surroundings : Surroundings) (flowTest : FlowTest) :
    surroundings.run (cleanUp flowTest) =
      if surroundings.cluster.deletesFail then (.ok false, surroundings)
      else (.ok true, { surroundings with
        cluster := Cleanup.cleaned flowTest surroundings.cluster }) := by
  have lifted := Surroundings.run_lift surroundings (Cleanup.run flowTest)
  cases fails : surroundings.cluster.deletesFail with
  | true =>
    rw [Cleanup.run_run_of_deletesFail fails] at lifted
    rw [cleanUp, Surroundings.run_bind_of_ok _ lifted]
    rfl
  | false =>
    obtain ⟨report, cleaned⟩ := Cleanup.run_run fails flowTest
    rw [cleaned] at lifted
    rw [cleanUp, Surroundings.run_bind_of_ok _ lifted]
    simp only []
    split <;> rfl

/-- Though the reports of a cleanup may differ, it works on both sides or on neither. -/
theorem cleanUp_accords
    (cleansUp : flowTest.isDeleting = true ∨ flowTest.phase? = some .completed) :
    (cleanUp flowTest).Accords flowTest.Agrees := by
  intro left right agrees
  rw [run_cleanUp, run_cleanUp, ← agrees.deletesFail]
  split
  next => exact ⟨false, rfl, rfl, agrees⟩
  next => exact ⟨true, rfl, rfl, agrees.cleaned cleansUp⟩

theorem markCreated_accords : (markCreated flowTest).Accords flowTest.Agrees := by
  have accepts : ∀ _ : Unit, (do
      Call.make (.patchStatus flowTest (.ofPhase .created))
      publish flowTest .normal .created .reconcile "flow test accepted"
      return Action.requeue .zero : Procedure Action).Accords flowTest.Agrees := fun _ =>
    (FlowTest.accords_edit (.patchStatus _)).bind (fun _ =>
      (Procedure.accords_publish _).bind (fun _ => Procedure.accords_pure _))
  cases kept : flowTest.hasFinalizer finalizer with
  | true =>
    simp only [markCreated, kept]
    exact accepts ()
  | false =>
    simp only [markCreated, kept]
    exact (FlowTest.accords_edit (.addFinalizer _)).bind accepts

theorem provision_accords (needed : Cleanup.needsAggregator flowTest = true)
    (configuration : Configuration) (now : Timestamp) :
    (provision configuration now flowTest).Accords flowTest.Agrees := by
  refine (Provisioning.run_respects needed configuration).accords_lift.bind (fun outcome => ?_)
  cases outcome with
  | ok status =>
    exact (FlowTest.accords_edit (.patchStatus _)).bind (fun _ =>
      (Procedure.accords_publish _).bind (fun _ => Procedure.accords_pure _))
  | error failure =>
    exact (Procedure.accords_publish _).bind (fun _ =>
      (FlowTest.accords_edit (.patchStatus _)).bind (fun _ => Procedure.accords_pure _))

theorem complete_accords : (complete flowTest).Accords flowTest.Agrees :=
  (FlowTest.accords_edit (.patchStatus _)).bind (fun _ =>
    (Procedure.accords_publish _).bind (fun _ => Procedure.accords_pure _))

theorem announcePassed_accords (slices : List String) :
    (announcePassed flowTest slices).Accords flowTest.Agrees := by
  induction slices with
  | nil => exact Procedure.accords_pure _
  | cons slice rest ih => exact (Procedure.accords_publish _).bind (fun _ => ih)

theorem verify_accords (plain : ',' ∉ flowTest.name.toList) (configuration : Configuration)
    (next : Duration) : (verify configuration flowTest next).Accords flowTest.Agrees := by
  refine (Verification.run_respects plain configuration.passPolicy).accords_lift.bind
    (fun outcome => ?_)
  cases outcome with
  | ok verification =>
    refine (announcePassed_accords _).bind (fun _ => ?_)
    split
    next => exact complete_accords
    next => exact Procedure.accords_pure _
  | error failure => exact (Procedure.accords_publish _).bind (fun _ => Procedure.accords_pure _)

theorem handleDeletion_accords (deleting : flowTest.isDeleting = true)
    (configuration : Configuration) :
    (handleDeletion configuration flowTest).Accords flowTest.Agrees := by
  rw [handleDeletion]
  split
  next => exact Procedure.accords_pure _
  next =>
    refine (cleanUp_accords (.inl deleting)).bind (fun works => ?_)
    cases works with
    | true =>
      exact (FlowTest.accords_edit (.removeFinalizer _)).bind (fun _ => Procedure.accords_pure _)
    | false => exact Procedure.accords_pure _

theorem cleanUpCompleted_accords (completed : flowTest.phase? = some .completed)
    (configuration : Configuration) :
    (cleanUpCompleted configuration flowTest).Accords flowTest.Agrees := by
  refine (cleanUp_accords (.inr completed)).bind (fun works => ?_)
  cases works <;> exact Procedure.accords_pure _

/-- A reconciliation comes to the same wherever its flow test finds the same. -/
theorem reconcile_accords (plain : ',' ∉ flowTest.name.toList) (configuration : Configuration)
    (now : Timestamp) : (reconcile configuration now flowTest).Accords flowTest.Agrees := by
  unfold reconcile
  split
  next deleting => exact handleDeletion_accords deleting configuration
  next =>
    split
    next => exact markCreated_accords
    next created =>
      exact provision_accords (by simp [Cleanup.needsAggregator, created]) configuration now
    next =>
      rw [checkRunning]
      split
      next => exact complete_accords
      next => exact Procedure.accords_pure _
      next next _ => exact verify_accords plain configuration next
    next completed => exact cleanUpCompleted_accords completed configuration
    next => exact Procedure.accords_pure _

end Controller

end Procedures

end FlowTesting
