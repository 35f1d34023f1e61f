import FlowTesting.Proofs.Execution.Calls
import FlowTesting.Proofs.Ownership

set_option autoImplicit false

/-!
# What requests change

The calls taken together: what any request leaves of the flow tests and of the resources
of a cluster.
-/

namespace FlowTesting

/-- What a request can make of the flow test that is stored under a name. -/
structure FlowTest.Becomes (asked : ControllerRequest) (name : String) (stored next : FlowTest) :
    Prop where
  sameDeletion : next.isDeleting = stored.isDeleting
  finalizer : ∀ finalizer, stored.hasFinalizer finalizer = true →
    next.hasFinalizer finalizer = true ∨
      ∃ flowTest, asked = .call (.removeFinalizer flowTest finalizer) ∧ flowTest.name = name
  status : next.status = stored.status ∨ ∃ flowTest status,
    asked = .call (.patchStatus flowTest status) ∧ flowTest.name = name ∧
      next.status = stored.status.merge status

theorem FlowTest.Becomes.refl (asked : ControllerRequest) (name : String) (stored : FlowTest) :
    FlowTest.Becomes asked name stored stored :=
  ⟨rfl, fun _ => .inl, .inl rfl⟩

/-- Whether an object can have become of another one: it is known by the same key and has the
same labels. -/
structure Resource.Continues (next stored : Resource) : Prop where
  sameKey : next.key = stored.key
  sameLabels : next.labels = stored.labels

theorem Resource.Continues.refl (resource : Resource) : resource.Continues resource := ⟨rfl, rfl⟩

theorem Resource.continues_withStatus (flow : PipelineFlow) (status : FlowStatus) :
    (Resource.flow (flow.withStatus status)).Continues (.flow flow) := by
  cases flow <;> exact ⟨rfl, rfl⟩

/-- The requests that take away or change the object that is stored under a key. -/
inductive Resource.Takes (key : ResourceKey) (resource : Resource) : ControllerRequest → Prop where
  | deleteFlow {flow : PipelineFlow} : (Resource.flow flow).key = key →
      Takes key resource (.call (.deleteFlow flow))
  | deactivateFlow {flow : PipelineFlow} : (Resource.flow flow).key = key →
      Takes key resource (.call (.deactivateFlow flow))
  | deleteLabeled {kind : Kind} {selector : String} :
      Cluster.isSelected kind selector key resource = true →
      Takes key resource (.call (.deleteLabeled kind selector))

/-- The requests that change what is stored of a flow test. -/
inductive FlowTest.EditedBy (flowTest : FlowTest) : ControllerRequest → Prop where
  | patchStatus (status : FlowTestStatus) :
      EditedBy flowTest (.call (.patchStatus flowTest status))
  | addFinalizer (finalizer : String) :
      EditedBy flowTest (.call (.addFinalizer flowTest finalizer))
  | removeFinalizer (finalizer : String) :
      EditedBy flowTest (.call (.removeFinalizer flowTest finalizer))

/-- Whether a cluster has come of another one by what is stored under one key. -/
structure Cluster.Sets (key : ResourceKey) (stored? : Option Resource) (before after : Cluster) :
    Prop where
  flowTests : after.flowTests = before.flowTests
  deletesFail : after.deletesFail = before.deletesFail
  here : after.resources.get? key = stored?
  others : ∀ other, other ≠ key → after.resources.get? other = before.resources.get? other

theorem Cluster.sets_insert (cluster : Cluster) (key : ResourceKey) (resource : Resource) :
    cluster.Sets key (some resource)
      { cluster with resources := cluster.resources.insert key resource } :=
  ⟨rfl, rfl, OrderedMap.get?_insert_self _ _ _, fun _ differs =>
    OrderedMap.get?_insert_of_ne differs⟩

theorem Cluster.sets_erase (cluster : Cluster) (key : ResourceKey) :
    cluster.Sets key none { cluster with resources := cluster.resources.erase key } :=
  ⟨rfl, rfl, OrderedMap.get?_erase_self _ _, fun _ differs => OrderedMap.get?_erase_of_ne differs⟩

/-- Whether every object is stored under its own key. -/
def Cluster.IsCoherent (cluster : Cluster) : Prop :=
  ∀ key resource, cluster.resources.get? key = some resource → resource.key = key

theorem Cluster.IsCoherent.addResource {cluster : Cluster} (coherent : cluster.IsCoherent)
    (resource : Resource) : (cluster.addResource resource).IsCoherent := by
  intro key stored found
  rw [Cluster.addResource] at found
  by_cases same : key = resource.key
  · rw [same, OrderedMap.get?_insert_self] at found
    exact (Option.some.inj found) ▸ same.symm
  · rw [OrderedMap.get?_insert_of_ne same] at found
    exact coherent key stored found

theorem Cluster.getFlow_eq_some_iff {cluster : Cluster} {kind : PipelineKind}
    {namespaceName name : String} {flow : PipelineFlow} :
    cluster.getFlow kind namespaceName name = some flow ↔
      cluster.resources.get? ⟨kind.flowKind, namespaceName, name⟩ = some (.flow flow) := by
  rw [getFlow]
  constructor
  · intro found
    split at found
    next flow stored => exact Option.some.inj found ▸ stored
    next => cases found
  · intro stored
    rw [stored]

theorem Cluster.mem_listFlows_iff {cluster : Cluster} {kind : PipelineKind} {selector : String}
    {flow : PipelineFlow} :
    flow ∈ cluster.listFlows kind selector ↔ ∃ key, key.kind = kind.flowKind ∧
      cluster.resources.get? key = some (.flow flow) ∧
        Selector.selects selector flow.labels = true := by
  have listed : flow ∈ cluster.listFlows kind selector ↔ Resource.flow flow ∈
      (cluster.resources.filter (isSelected kind.flowKind selector)).values := by
    rw [listFlows, List.mem_filterMap]
    constructor
    · intro listed
      obtain ⟨resource, member, same⟩ := listed
      cases resource with
      | flow other => exact Option.some.inj same ▸ member
      | pod | configMap | service | output => cases same
    · exact fun member => ⟨_, member, rfl⟩
  simp only [listed, OrderedMap.mem_values_iff, OrderedMap.get?_filter, Option.filter_eq_some_iff,
    isSelected, Bool.and_eq_true, beq_iff_eq]
  constructor
  · intro found
    obtain ⟨key, stored, sameKind, selected⟩ := found
    exact ⟨key, sameKind, stored, selected⟩
  · intro found
    obtain ⟨key, sameKind, stored, selected⟩ := found
    exact ⟨key, stored, sameKind, selected⟩

theorem Cluster.get?_key_of_mem_listFlows {cluster : Cluster} {kind : PipelineKind}
    {selector : String} {flow : PipelineFlow} (coherent : cluster.IsCoherent)
    (listed : flow ∈ cluster.listFlows kind selector) :
    cluster.resources.get? (Resource.flow flow).key = some (.flow flow) := by
  obtain ⟨key, -, stored, -⟩ := mem_listFlows_iff.mp listed
  rw [coherent key _ stored, stored]

theorem mem_withFinalizer (finalizers : List String) (finalizer : String) :
    finalizer ∈ Cluster.withFinalizer finalizers finalizer := by
  unfold Cluster.withFinalizer
  split
  next kept => simpa using kept
  next => simp

theorem subset_withFinalizer (finalizers : List String) (finalizer : String) :
    finalizers ⊆ Cluster.withFinalizer finalizers finalizer := by
  unfold Cluster.withFinalizer
  split
  next => exact List.Subset.refl _
  next => exact List.subset_append_left _ _

namespace Cluster.Answers

variable {before after : Cluster} {asked : ControllerRequest}
  {reply : controllerInterface.Reply asked}

private theorem becomes_put {name wanted : String} {stored changed : FlowTest}
    (found : before.flowTests.get? name = some stored)
    (becomes : FlowTest.Becomes asked name stored changed) :
    Option.Rel (FlowTest.Becomes asked wanted) (before.flowTests.get? wanted)
      ((before.putFlowTest name changed).flowTests.get? wanted) := by
  by_cases same : wanted = name
  · subst same
    simp only [putFlowTest, OrderedMap.get?_insert_self, found]
    exact .some becomes
  · simp only [putFlowTest, OrderedMap.get?_insert_of_ne same]
    cases before.flowTests.get? wanted with
    | none => exact .none
    | some stored => exact .some (.refl _ _ _)

private theorem becomes_same {wanted : String} (same : after.flowTests = before.flowTests) :
    Option.Rel (FlowTest.Becomes asked wanted) (before.flowTests.get? wanted)
      (after.flowTests.get? wanted) := by
  rw [same]
  cases before.flowTests.get? wanted with
  | none => exact .none
  | some stored => exact .some (.refl _ _ _)

/-- No request makes or drops a flow test, and each changes only the one that it is about. -/
theorem becomes (answers : before.Answers asked reply after) (name : String) :
    Option.Rel (FlowTest.Becomes asked name) (before.flowTests.get? name)
      (after.flowTests.get? name) := by
  cases asked with
  | publish event => exact becomes_same (congrArg Cluster.flowTests answers)
  | call call =>
    cases call with
    | patchStatus flowTest status =>
      obtain ⟨-, rfl⟩ | ⟨-, stored, found, rfl⟩ := answers.patchStatus
      · exact becomes_same rfl
      · exact becomes_put found ⟨rfl, fun _ => .inl, .inr ⟨flowTest, status, rfl, rfl, rfl⟩⟩
    | addFinalizer flowTest finalizer =>
      obtain ⟨-, rfl⟩ | ⟨-, stored, found, rfl⟩ := answers.addFinalizer
      · exact becomes_same rfl
      · refine becomes_put found ⟨rfl, fun other had => .inl ?_, .inl rfl⟩
        simp only [FlowTest.hasFinalizer, List.contains_iff_mem] at had ⊢
        exact subset_withFinalizer _ _ had
    | removeFinalizer flowTest finalizer =>
      obtain ⟨-, rfl⟩ | ⟨-, ⟨-, rfl⟩ | ⟨stored, found, rfl⟩⟩ := answers.removeFinalizer
      · exact becomes_same rfl
      · exact becomes_same rfl
      · refine becomes_put found ⟨rfl, fun other had => ?_, .inl rfl⟩
        by_cases same : other = finalizer
        · exact .inr ⟨flowTest, by rw [same], rfl⟩
        · refine .inl ?_
          simp only [FlowTest.hasFinalizer, Metadata.finalizers, List.contains_iff_mem] at had ⊢
          cases listed : stored.metadata.finalizers? with
          | none => simp [listed] at had
          | some finalizers =>
            rw [listed] at had
            simpa [same] using had
    | listFlowTests =>
      obtain ⟨-, rfl⟩ | ⟨-, rfl⟩ := answers.listFlowTests <;> exact becomes_same rfl
    | getPod => obtain ⟨-, rfl⟩ | ⟨-, rfl⟩ := answers.getPod <;> exact becomes_same rfl
    | getFlow => obtain ⟨-, rfl⟩ | ⟨-, rfl⟩ := answers.getFlow <;> exact becomes_same rfl
    | create => obtain ⟨-, rfl⟩ | ⟨-, -, rfl⟩ := answers.create <;> exact becomes_same rfl
    | listFlows => obtain ⟨-, rfl⟩ | ⟨-, rfl⟩ := answers.listFlows <;> exact becomes_same rfl
    | deleteFlow => obtain ⟨-, rfl⟩ | ⟨-, rfl⟩ := answers.deleteFlow <;> exact becomes_same rfl
    | deactivateFlow =>
      obtain ⟨-, rfl⟩ | ⟨-, _, -, rfl⟩ := answers.deactivateFlow <;> exact becomes_same rfl
    | deleteLabeled =>
      obtain ⟨-, rfl⟩ | ⟨-, rfl⟩ := answers.deleteLabeled <;> exact becomes_same rfl
    | listIndexes => exact becomes_same (congrArg Cluster.flowTests answers.listIndexes)

theorem becomes_of_stored (answers : before.Answers asked reply after) {name : String}
    {stored : FlowTest} (found : before.flowTests.get? name = some stored) :
    ∃ next, after.flowTests.get? name = some next ∧ FlowTest.Becomes asked name stored next := by
  have becomes := answers.becomes name
  rw [found] at becomes
  cases foundAfter : after.flowTests.get? name with
  | none => rw [foundAfter] at becomes; cases becomes
  | some next =>
    rw [foundAfter] at becomes
    cases becomes with
    | some becomes => exact ⟨next, rfl, becomes⟩

theorem becomes_to_stored (answers : before.Answers asked reply after) {name : String}
    {next : FlowTest} (found : after.flowTests.get? name = some next) :
    ∃ stored, before.flowTests.get? name = some stored ∧
      FlowTest.Becomes asked name stored next := by
  have becomes := answers.becomes name
  rw [found] at becomes
  cases foundBefore : before.flowTests.get? name with
  | none => rw [foundBefore] at becomes; cases becomes
  | some stored =>
    rw [foundBefore] at becomes
    cases becomes with
    | some becomes => exact ⟨stored, rfl, becomes⟩

private theorem edited_put {flowTest changed : FlowTest} (edited : flowTest.EditedBy asked)
    (name : String) :
    (before.putFlowTest flowTest.name changed).flowTests.get? name = before.flowTests.get? name ∨
      ∃ other : FlowTest, other.EditedBy asked ∧ other.name = name := by
  by_cases same : name = flowTest.name
  · exact .inr ⟨flowTest, edited, same.symm⟩
  · exact .inl (OrderedMap.get?_insert_of_ne same)

/-- What is stored under a name changes only by the requests about a flow test of that name. -/
theorem edited (answers : before.Answers asked reply after) (name : String) :
    after.flowTests.get? name = before.flowTests.get? name ∨
      ∃ flowTest : FlowTest, flowTest.EditedBy asked ∧ flowTest.name = name := by
  cases asked with
  | publish event => exact .inl (congrArg (fun cluster => cluster.flowTests.get? name) answers)
  | call call =>
    cases call with
    | patchStatus =>
      obtain ⟨-, rfl⟩ | ⟨-, _, -, rfl⟩ := answers.patchStatus
      · exact .inl rfl
      · exact edited_put (.patchStatus _) name
    | addFinalizer =>
      obtain ⟨-, rfl⟩ | ⟨-, _, -, rfl⟩ := answers.addFinalizer
      · exact .inl rfl
      · exact edited_put (.addFinalizer _) name
    | removeFinalizer =>
      obtain ⟨-, rfl⟩ | ⟨-, ⟨-, rfl⟩ | ⟨_, -, rfl⟩⟩ := answers.removeFinalizer
      · exact .inl rfl
      · exact .inl rfl
      · exact edited_put (.removeFinalizer _) name
    | listFlowTests => obtain ⟨-, rfl⟩ | ⟨-, rfl⟩ := answers.listFlowTests <;> exact .inl rfl
    | getPod => obtain ⟨-, rfl⟩ | ⟨-, rfl⟩ := answers.getPod <;> exact .inl rfl
    | getFlow => obtain ⟨-, rfl⟩ | ⟨-, rfl⟩ := answers.getFlow <;> exact .inl rfl
    | create => obtain ⟨-, rfl⟩ | ⟨-, -, rfl⟩ := answers.create <;> exact .inl rfl
    | listFlows => obtain ⟨-, rfl⟩ | ⟨-, rfl⟩ := answers.listFlows <;> exact .inl rfl
    | deleteFlow => obtain ⟨-, rfl⟩ | ⟨-, rfl⟩ := answers.deleteFlow <;> exact .inl rfl
    | deactivateFlow =>
      obtain ⟨-, rfl⟩ | ⟨-, _, -, rfl⟩ := answers.deactivateFlow <;> exact .inl rfl
    | deleteLabeled => obtain ⟨-, rfl⟩ | ⟨-, rfl⟩ := answers.deleteLabeled <;> exact .inl rfl
    | listIndexes =>
      exact .inl (congrArg (fun cluster => cluster.flowTests.get? name) answers.listIndexes)

theorem deletesFail_eq (answers : before.Answers asked reply after) :
    after.deletesFail = before.deletesFail := by
  cases asked with
  | publish event => exact congrArg Cluster.deletesFail answers
  | call call =>
    cases call with
    | patchStatus => obtain ⟨-, rfl⟩ | ⟨-, _, -, rfl⟩ := answers.patchStatus <;> rfl
    | addFinalizer => obtain ⟨-, rfl⟩ | ⟨-, _, -, rfl⟩ := answers.addFinalizer <;> rfl
    | removeFinalizer =>
      obtain ⟨-, rfl⟩ | ⟨-, ⟨-, rfl⟩ | ⟨_, -, rfl⟩⟩ := answers.removeFinalizer <;> rfl
    | listFlowTests => obtain ⟨-, rfl⟩ | ⟨-, rfl⟩ := answers.listFlowTests <;> rfl
    | getPod => obtain ⟨-, rfl⟩ | ⟨-, rfl⟩ := answers.getPod <;> rfl
    | getFlow => obtain ⟨-, rfl⟩ | ⟨-, rfl⟩ := answers.getFlow <;> rfl
    | create => obtain ⟨-, rfl⟩ | ⟨-, -, rfl⟩ := answers.create <;> rfl
    | listFlows => obtain ⟨-, rfl⟩ | ⟨-, rfl⟩ := answers.listFlows <;> rfl
    | deleteFlow => obtain ⟨-, rfl⟩ | ⟨-, rfl⟩ := answers.deleteFlow <;> rfl
    | deactivateFlow => obtain ⟨-, rfl⟩ | ⟨-, _, -, rfl⟩ := answers.deactivateFlow <;> rfl
    | deleteLabeled => obtain ⟨-, rfl⟩ | ⟨-, rfl⟩ := answers.deleteLabeled <;> rfl
    | listIndexes => exact congrArg Cluster.deletesFail answers.listIndexes

private theorem provenance_same {key : ResourceKey} {resource : Resource}
    (same : after.resources = before.resources)
    (found : after.resources.get? key = some resource) :
    before.resources.get? key = some resource ∨
      (asked = .call (.create resource) ∧ key = resource.key ∧
        before.resources.get? key = none) ∨
      ∃ flow stored : PipelineFlow, asked = .call (.deactivateFlow flow) ∧
        key = (Resource.flow flow).key ∧ before.resources.get? key = some (.flow stored) ∧
          resource = .flow (stored.withStatus { active? := some false }) :=
  .inl (same ▸ found)

/-- What is stored was there, has been created by the request where nothing was, or is a flow
that the request has deactivated. -/
theorem provenance (answers : before.Answers asked reply after) {key : ResourceKey}
    {resource : Resource} (found : after.resources.get? key = some resource) :
    before.resources.get? key = some resource ∨
      (asked = .call (.create resource) ∧ key = resource.key ∧
        before.resources.get? key = none) ∨
      ∃ flow stored : PipelineFlow, asked = .call (.deactivateFlow flow) ∧
        key = (Resource.flow flow).key ∧ before.resources.get? key = some (.flow stored) ∧
          resource = .flow (stored.withStatus { active? := some false }) := by
  cases asked with
  | publish event => exact provenance_same (congrArg Cluster.resources answers) found
  | call call =>
    cases call with
    | patchStatus =>
      obtain ⟨-, rfl⟩ | ⟨-, _, -, rfl⟩ := answers.patchStatus <;> exact provenance_same rfl found
    | addFinalizer =>
      obtain ⟨-, rfl⟩ | ⟨-, _, -, rfl⟩ := answers.addFinalizer <;> exact provenance_same rfl found
    | removeFinalizer =>
      obtain ⟨-, rfl⟩ | ⟨-, ⟨-, rfl⟩ | ⟨_, -, rfl⟩⟩ := answers.removeFinalizer <;>
        exact provenance_same rfl found
    | listFlowTests =>
      obtain ⟨-, rfl⟩ | ⟨-, rfl⟩ := answers.listFlowTests <;> exact provenance_same rfl found
    | getPod => obtain ⟨-, rfl⟩ | ⟨-, rfl⟩ := answers.getPod <;> exact provenance_same rfl found
    | getFlow => obtain ⟨-, rfl⟩ | ⟨-, rfl⟩ := answers.getFlow <;> exact provenance_same rfl found
    | listFlows =>
      obtain ⟨-, rfl⟩ | ⟨-, rfl⟩ := answers.listFlows <;> exact provenance_same rfl found
    | listIndexes => exact provenance_same (congrArg Cluster.resources answers.listIndexes) found
    | create created =>
      obtain ⟨-, rfl⟩ | ⟨-, free, rfl⟩ := answers.create
      · exact provenance_same rfl found
      · by_cases same : key = created.key
        · subst same
          rw [addResource, OrderedMap.get?_insert_self, Option.some.injEq] at found
          subst found
          exact .inr (.inl ⟨rfl, rfl, free⟩)
        · rw [addResource, OrderedMap.get?_insert_of_ne same] at found
          exact .inl found
    | deleteFlow flow =>
      obtain ⟨-, rfl⟩ | ⟨-, rfl⟩ := answers.deleteFlow
      · exact provenance_same rfl found
      · rw [OrderedMap.get?_erase] at found
        split at found
        · cases found
        · exact .inl found
    | deactivateFlow flow =>
      obtain ⟨-, rfl⟩ | ⟨-, stored, foundBefore, rfl⟩ := answers.deactivateFlow
      · exact provenance_same rfl found
      · by_cases same : key = (Resource.flow flow).key
        · subst same
          rw [OrderedMap.get?_insert_self, Option.some.injEq] at found
          exact .inr (.inr ⟨flow, stored, rfl, rfl, foundBefore, found.symm⟩)
        · rw [OrderedMap.get?_insert_of_ne same] at found
          exact .inl found
    | deleteLabeled kind selector =>
      obtain ⟨-, rfl⟩ | ⟨-, rfl⟩ := answers.deleteLabeled
      · exact provenance_same rfl found
      · rw [OrderedMap.get?_filter, Option.filter_eq_some_iff] at found
        exact .inl found.1

/-- What is stored has been created by the request, or has become of what was there. -/
theorem origin (answers : before.Answers asked reply after) {key : ResourceKey}
    {resource : Resource} (found : after.resources.get? key = some resource) :
    (∃ old, before.resources.get? key = some old ∧ resource.Continues old) ∨
      asked = .call (.create resource) ∧ key = resource.key := by
  rcases answers.provenance found with
    foundBefore | ⟨creates, here, -⟩ | ⟨_, stored, -, -, foundBefore, rfl⟩
  · exact .inl ⟨resource, foundBefore, .refl _⟩
  · exact .inr ⟨creates, here⟩
  · exact .inl ⟨.flow stored, foundBefore, Resource.continues_withStatus stored _⟩

/-- What is stored stays as it is, unless the request is one that takes it. -/
theorem remains (answers : before.Answers asked reply after) {key : ResourceKey}
    {resource : Resource} (found : before.resources.get? key = some resource) :
    after.resources.get? key = some resource ∨ Resource.Takes key resource asked := by
  cases asked with
  | publish event => exact .inl (congrArg Cluster.resources answers ▸ found)
  | call call =>
    cases call with
    | patchStatus =>
      obtain ⟨-, rfl⟩ | ⟨-, _, -, rfl⟩ := answers.patchStatus <;> exact .inl found
    | addFinalizer =>
      obtain ⟨-, rfl⟩ | ⟨-, _, -, rfl⟩ := answers.addFinalizer <;> exact .inl found
    | removeFinalizer =>
      obtain ⟨-, rfl⟩ | ⟨-, ⟨-, rfl⟩ | ⟨_, -, rfl⟩⟩ := answers.removeFinalizer <;> exact .inl found
    | listFlowTests => obtain ⟨-, rfl⟩ | ⟨-, rfl⟩ := answers.listFlowTests <;> exact .inl found
    | getPod => obtain ⟨-, rfl⟩ | ⟨-, rfl⟩ := answers.getPod <;> exact .inl found
    | getFlow => obtain ⟨-, rfl⟩ | ⟨-, rfl⟩ := answers.getFlow <;> exact .inl found
    | listFlows => obtain ⟨-, rfl⟩ | ⟨-, rfl⟩ := answers.listFlows <;> exact .inl found
    | listIndexes => exact .inl (congrArg Cluster.resources answers.listIndexes ▸ found)
    | create created =>
      obtain ⟨-, rfl⟩ | ⟨-, free, rfl⟩ := answers.create
      · exact .inl found
      · have other : key ≠ created.key := by
          intro same
          subst same
          rw [free] at found
          cases found
        exact .inl ((OrderedMap.get?_insert_of_ne other).trans found)
    | deleteFlow flow =>
      by_cases same : (Resource.flow flow).key = key
      · exact .inr (.deleteFlow same)
      · obtain ⟨-, rfl⟩ | ⟨-, rfl⟩ := answers.deleteFlow
        · exact .inl found
        · exact .inl ((OrderedMap.get?_erase_of_ne (Ne.symm same)).trans found)
    | deactivateFlow flow =>
      by_cases same : (Resource.flow flow).key = key
      · exact .inr (.deactivateFlow same)
      · obtain ⟨-, rfl⟩ | ⟨-, _, -, rfl⟩ := answers.deactivateFlow
        · exact .inl found
        · exact .inl ((OrderedMap.get?_insert_of_ne (Ne.symm same)).trans found)
    | deleteLabeled kind selector =>
      cases selected : isSelected kind selector key resource with
      | true => exact .inr (.deleteLabeled selected)
      | false =>
        obtain ⟨-, rfl⟩ | ⟨-, rfl⟩ := answers.deleteLabeled
        · exact .inl found
        · rw [OrderedMap.get?_filter, found]
          exact .inl (by simp [selected])

theorem isCoherent (answers : before.Answers asked reply after) (coherent : before.IsCoherent) :
    after.IsCoherent := by
  intro key resource found
  rcases answers.origin found with ⟨old, foundBefore, continues⟩ | ⟨-, here⟩
  · exact continues.sameKey.trans (coherent key old foundBefore)
  · exact here.symm

end Cluster.Answers

end FlowTesting
