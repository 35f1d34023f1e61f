import FlowTesting.Proofs.SharedAggregator

set_option autoImplicit false

/-!
# Places of flow tests

The keys of everything that is made for a flow test come from its identifier, so two flow tests
of different identifiers have no place in common, and neither has one with the log aggregator.
-/

namespace FlowTesting

/-- Whether an object passes for a part of the log aggregator. -/
def Resource.IsShared (resource : Resource) : Prop :=
  resource.kind ∈ Cleanup.aggregatorKinds ∧
    resource.labels.get? Labels.componentKey = some Labels.aggregatorComponent

theorem Resource.not_isShared_of_kind {resource : Resource} {kind : PipelineKind}
    (ofKind : resource.kind = kind.flowKind) : ¬ resource.IsShared := by
  rintro ⟨member, -⟩
  rw [ofKind] at member
  cases kind <;> exact absurd member (by decide)

/-- What passes for a part of the log aggregator is what is deleted with it. -/
theorem Resource.isShared_iff {resource : Resource} :
    resource.IsShared ↔ resource.kind ∈ Cleanup.aggregatorKinds ∧
      Selector.selects Selector.aggregator resource.labels = true :=
  and_congr_right (fun _ => Selector.selects_aggregator_iff.symm)

theorem SharedAggregator.Part.isShared {configuration : Configuration} {part : Resource}
    (belongs : Part configuration part) : part.IsShared :=
  Resource.isShared_iff.mpr ⟨belongs.kind_mem_aggregatorKinds, belongs.selected⟩

section Products

variable {flowTest other : FlowTest} {owner otherOwner : Owner} {resource otherResource : Resource}

/-- What the name of an object is that is made for a flow test of the given identifier. -/
theorem Product.name_cases (product : Product flowTest owner resource) :
    resource.kind = .configMap ∧ resource.name = Simulation.configMapName owner.uid ∨
      resource.kind = .pod ∧ resource.name = Simulation.podName owner.uid ∨
        ∃ testId testType, resource.name = Slice.nameFor owner.uid testId testType := by
  cases product with
  | configMap => exact .inl ⟨rfl, rfl⟩
  | pod simulated =>
    unfold Simulation.pod at simulated
    split at simulated <;> cases simulated
    exact .inr (.inl ⟨rfl, rfl⟩)
  | output =>
    exact .inr (.inr ⟨_, _, congrArg Metadata.name Slice.metadata_output_build⟩)
  | flow => exact .inr (.inr ⟨_, _, congrArg Metadata.name Slice.metadata_flow_build⟩)

/-- Objects that are made for flow tests of different identifiers are known by different keys. -/
theorem Product.key_ne (product : Product flowTest owner resource)
    (otherProduct : Product other otherOwner otherResource)
    (different : owner.uid ≠ otherOwner.uid) : resource.key ≠ otherResource.key := by
  intro same
  have sameKind : resource.kind = otherResource.kind := congrArg ResourceKey.kind same
  have sameName : resource.name = otherResource.name := congrArg ResourceKey.name same
  rcases product.name_cases with ⟨kind, name⟩ | ⟨kind, name⟩ | ⟨testId, testType, name⟩
  · rcases otherProduct.name_cases with
      ⟨-, otherName⟩ | ⟨otherKind, -⟩ | ⟨testId, testType, otherName⟩
    · rw [name, otherName] at sameName
      exact different (Simulation.configMapName_injective sameName)
    · rw [kind, otherKind] at sameKind
      cases sameKind
    · exact product.name_ne_nameFor different testId testType (sameName.trans otherName)
  · rcases otherProduct.name_cases with
      ⟨otherKind, -⟩ | ⟨-, otherName⟩ | ⟨testId, testType, otherName⟩
    · rw [kind, otherKind] at sameKind
      cases sameKind
    · rw [name, otherName] at sameName
      exact different (Simulation.podName_injective sameName)
    · exact product.name_ne_nameFor different testId testType (sameName.trans otherName)
  · exact otherProduct.name_ne_nameFor (Ne.symm different) testId testType
      (sameName.symm.trans name)

end Products

theorem FlowTest.uid?_of_owner? {flowTest : FlowTest} {owner : Owner}
    (identified : flowTest.owner? = some owner) : flowTest.metadata.uid? = some owner.uid := by
  simp only [FlowTest.owner?, Option.bind_eq_bind, Option.bind_eq_some_iff, pure,
    Option.some.injEq] at identified
  obtain ⟨name, -, uid, marked, rfl⟩ := identified
  exact marked

namespace FlowTest

variable {flowTest other : FlowTest} {key : ResourceKey}

/-- Whether an object that is made for a flow test is known by a key. -/
def HasPlace (flowTest : FlowTest) (key : ResourceKey) : Prop :=
  ∃ owner product, flowTest.owner? = some owner ∧ Product flowTest owner product ∧
    product.key = key

theorem HasPlace.not_hasPlace (place : flowTest.HasPlace key)
    (different : flowTest.metadata.uid? ≠ other.metadata.uid?) : ¬ other.HasPlace key := by
  rintro ⟨otherOwner, otherProduct, otherIdentified, otherMade, otherHere⟩
  obtain ⟨owner, product, identified, made, rfl⟩ := place
  refine made.key_ne otherMade ?_ otherHere.symm
  intro same
  rw [uid?_of_owner? identified, uid?_of_owner? otherIdentified, same] at different
  exact different rfl

theorem HasPlace.not_isPlace (place : flowTest.HasPlace key) (configuration : Configuration) :
    ¬ SharedAggregator.IsPlace configuration key := by
  obtain ⟨owner, product, -, made, rfl⟩ := place
  exact SharedAggregator.not_isPlace_of_product made

/-- The objects that a flow test refers to. -/
inductive RefersTo (flowTest : FlowTest) : ResourceKey → Prop where
  | pod : RefersTo flowTest
      ⟨.pod, flowTest.spec.referencePod.namespaceName, flowTest.spec.referencePod.name⟩
  | flow {kind : PipelineKind} : flowTest.pipelineKind = .ok kind → RefersTo flowTest
      ⟨kind.flowKind, flowTest.spec.referenceFlow.namespaceName, flowTest.spec.referenceFlow.name⟩

end FlowTest

/-- What a flow test finds in a cluster: what is labelled for it is in its places, and what it
refers to is there and belongs to nobody. -/
structure Cluster.Suits (cluster : Cluster) (flowTest : FlowTest) : Prop where
  coherent : cluster.IsCoherent
  placed : ∀ key resource, cluster.resources.get? key = some resource →
    resource.IsLabeledFor flowTest.name → flowTest.HasPlace key
  references : ∀ key, flowTest.RefersTo key → ∃ resource,
    cluster.resources.get? key = some resource ∧ resource.IsForeign ∧ ¬ resource.IsShared

theorem Cluster.Suits.not_refersTo_of_free {cluster : Cluster} {flowTest : FlowTest}
    {key : ResourceKey} (suits : cluster.Suits flowTest)
    (free : cluster.resources.get? key = none) : ¬ flowTest.RefersTo key := by
  intro refers
  obtain ⟨resource, found, -⟩ := suits.references key refers
  rw [free] at found
  cases found

theorem Cluster.Suits.not_refersTo_of_labeled {cluster : Cluster} {flowTest : FlowTest}
    {key : ResourceKey} {resource : Resource} {name : String} (suits : cluster.Suits flowTest)
    (found : cluster.resources.get? key = some resource) (labeled : resource.IsLabeledFor name) :
    ¬ flowTest.RefersTo key := by
  intro refers
  obtain ⟨reference, foundReference, foreign, -⟩ := suits.references key refers
  obtain rfl := Option.some.inj (found.symm.trans foundReference)
  exact foreign.not_isLabeledFor name labeled

end FlowTesting
