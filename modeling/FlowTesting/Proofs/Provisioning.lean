import FlowTesting.Cleanup
import FlowTesting.Proofs.Execution.Procedure
import FlowTesting.Proofs.Slices
import FlowTesting.Proofs.Verification
import FlowTesting.Provisioning

set_option autoImplicit false

/-!
# What provisioning asks for

Everything that provisioning makes is either labelled for the flow test or part of the
shared log aggregator, and it succeeds only after every planned slice has been made.
-/

namespace FlowTesting

/-- The objects that are made for one flow test alone. -/
inductive Product (flowTest : FlowTest) (owner : Owner) : Resource → Prop where
  | configMap : Product flowTest owner (.configMap (Simulation.configMap flowTest owner))
  | pod {reference simulation : Pod} {image : Image} :
      Simulation.pod flowTest owner reference image = .ok simulation →
      Product flowTest owner (.pod simulation)
  | output {template : SliceTemplate} {testId : Nat} {testType : TestType}
      {matchRules filters : List Rule} :
      Product flowTest owner
        (.output (Slice.build template owner testId testType matchRules filters).output)
  | flow {template : SliceTemplate} {testId : Nat} {testType : TestType}
      {matchRules filters : List Rule} :
      Product flowTest owner
        (.flow (Slice.build template owner testId testType matchRules filters).flow)

inductive SharedAggregator.Part (configuration : Configuration) : Resource → Prop where
  | pod : Part configuration (.pod (pod configuration))
  | service : Part configuration (.service (service configuration))

namespace Product

variable {flowTest : FlowTest} {owner : Owner} {resource : Resource}

theorem labels_eq (product : Product flowTest owner resource) :
    ∃ name extras, resource.labels = Labels.ownership name (some owner) extras := by
  cases product with
  | configMap => exact ⟨_, _, rfl⟩
  | pod simulated =>
    unfold Simulation.pod at simulated
    split at simulated <;> cases simulated
    exact ⟨_, _, rfl⟩
  | output => exact ⟨_, _, congrArg Metadata.labels Slice.metadata_output_build⟩
  | flow => exact ⟨_, _, congrArg Metadata.labels Slice.metadata_flow_build⟩

theorem isLabeledFor (product : Product flowTest owner resource) :
    resource.IsLabeledFor owner.name := by
  obtain ⟨name, extras, labeled⟩ := product.labels_eq
  rw [Resource.IsLabeledFor, labeled, Labels.get?_flowTestKey_ownership]

/-- Cleanup reaches every kind of object that is made for a flow test. -/
theorem kind_mem_testKinds (product : Product flowTest owner resource) :
    resource.kind ∈ Cleanup.testKinds := by
  have reached : ∀ kind, kind ≠ .service → kind ∈ Cleanup.testKinds := by
    intro kind other
    cases kind <;> first | decide | exact absurd rfl other
  apply reached
  intro same
  cases product with
  | configMap => cases same
  | pod => cases same
  | @output template testId testType matchRules filters =>
    rw [Resource.kind, Slice.kind_output_build] at same
    cases kind : template.kind <;> rw [kind] at same <;> cases same
  | @flow template testId testType matchRules filters =>
    rw [Resource.kind, Slice.kind_flow_build] at same
    cases kind : template.kind <;> rw [kind] at same <;> cases same

end Product

theorem SharedAggregator.Part.isForeign {configuration : Configuration} {resource : Resource}
    (part : Part configuration resource) : resource.IsForeign := by
  cases part <;> exact Labels.get?_flowTestKey_aggregator _

theorem FlowTest.name_of_owner? {flowTest : FlowTest} {owner : Owner}
    (identified : flowTest.owner? = some owner) : owner.name = flowTest.name := by
  cases named : flowTest.metadata.name? with
  | none => simp [FlowTest.owner?, named] at identified
  | some name =>
    cases marked : flowTest.metadata.uid? with
    | none => simp [FlowTest.owner?, named, marked] at identified
    | some uid =>
      simp only [FlowTest.owner?, named, marked, Option.bind_eq_bind, Option.bind_some, pure,
        Option.some.injEq] at identified
      simp [← identified, FlowTest.name, Metadata.name, named]

namespace Provisioning

/-- The requests that provisioning makes. -/
inductive Asks (flowTest : FlowTest) (configuration : Configuration) : ControllerRequest → Prop where
  | getPod (namespaceName name : String) :
      Asks flowTest configuration (.call (.getPod namespaceName name))
  | getFlow (kind : PipelineKind) (namespaceName name : String) :
      Asks flowTest configuration (.call (.getFlow kind namespaceName name))
  | createProduct {owner : Owner} {resource : Resource} :
      flowTest.owner? = some owner → Product flowTest owner resource →
      Asks flowTest configuration (.call (.create resource))
  | createPart {resource : Resource} :
      SharedAggregator.Part configuration resource →
      Asks flowTest configuration (.call (.create resource))
  | allocate (matchRules filters : Nat) :
      Asks flowTest configuration
        (.call (.patchStatus flowTest (.allocated .created matchRules filters)))

variable {flowTest : FlowTest} {configuration : Configuration} {owner : Owner}

theorem owner?_of_requireOwner (required : requireOwner flowTest = .ok owner) :
    flowTest.owner? = some owner := by
  unfold requireOwner at required
  split at required <;> cases required
  assumption

theorem ensure_makes {resource : Resource} (part : SharedAggregator.Part configuration resource) :
    Procedure.Makes (Asks flowTest configuration) (ensure resource) :=
  (Procedure.makes_attempt (.createPart part)).bind (fun _ => Procedure.makes_outcome _)

theorem getReferencePod_makes :
    Procedure.Makes (Asks flowTest configuration) (getReferencePod flowTest) := by
  refine (Procedure.makes_make (.getPod _ _)).bind (fun found => ?_)
  cases found with
  | some pod => exact Procedure.makes_pure _
  | none => exact Procedure.makes_throw _

theorem deploy_makes (identified : flowTest.owner? = some owner) {kind : PipelineKind}
    {slices : List Slice} (built : ∀ slice ∈ slices, slice.IsBuilt owner kind) :
    Procedure.Makes (Asks flowTest configuration) (Slice.deploy slices) := by
  induction slices with
  | nil => exact Procedure.makes_pure _
  | cons slice rest ih =>
    obtain ⟨⟨template, testId, testType, matchRules, filters, -, rfl⟩, builtRest⟩ :=
      List.forall_mem_cons.mp built
    refine (Procedure.makes_make (.createProduct identified .output)).bind (fun _ => ?_)
    exact (Procedure.makes_make (.createProduct identified .flow)).bind (fun _ => ih builtRest)

/-- Provisioning makes nothing else, however far it gets. -/
theorem run_makes (flowTest : FlowTest) (configuration : Configuration) :
    Procedure.Makes (Asks flowTest configuration) (run flowTest configuration) := by
  refine Procedure.makes_outcome_bind (fun owner required => ?_)
  have identified := owner?_of_requireOwner required
  refine Procedure.makes_outcome_bind (fun kind _ => ?_)
  refine getReferencePod_makes.bind (fun referencePod => ?_)
  refine Procedure.makes_outcome_bind (fun pod simulated => ?_)
  refine (Procedure.makes_make (.createProduct identified .configMap)).bind (fun _ => ?_)
  refine (Procedure.makes_make (.createProduct identified (.pod simulated))).bind (fun _ => ?_)
  refine Procedure.Makes.bind ?_ (fun _ => ?_)
  · exact (ensure_makes .pod).bind (fun _ => ensure_makes .service)
  refine (FlowTest.getReference_makes (.getFlow kind) flowTest).bind (fun reference => ?_)
  refine (Procedure.makes_make (.allocate _ _)).bind (fun _ => ?_)
  refine Procedure.makes_outcome_bind (fun slices planned => ?_)
  have built : ∀ slice ∈ slices, slice.IsBuilt owner reference.kind :=
    fun slice member => Slice.isBuilt_of_mem_plan planned member
  exact (deploy_makes identified built).bind (fun _ => Procedure.makes_pure _)

/-- Whether every slice that is planned from the reference has been made, its output as well
as its flow. -/
def Deployed (flowTest : FlowTest) (configuration : Configuration) (past : List Occurrence) :
    Prop :=
  ∃ owner kind reference slices,
    flowTest.owner? = some owner ∧ flowTest.pipelineKind = .ok kind ∧
    Answered past (.getFlow kind flowTest.spec.referenceFlow.namespaceName
      flowTest.spec.referenceFlow.name) (some reference) ∧
    Slice.plan reference owner (Simulation.selectorLabels owner) configuration.aggregatorBaseUrl =
      .ok slices ∧
    ∀ slice ∈ slices,
      Performed past (.create (.output slice.output)) ∧ Performed past (.create (.flow slice.flow))

theorem deploy_yields (slices : List Slice) (past : List Occurrence) (cluster : Cluster) :
    Procedure.Yields (fun _ later _ => past ⊆ later ∧ ∀ slice ∈ slices,
      Performed later (.create (.output slice.output)) ∧
        Performed later (.create (.flow slice.flow))) (Slice.deploy slices) past cluster := by
  induction slices generalizing past cluster with
  | nil =>
    rw [Slice.deploy, Procedure.yields_pure]
    exact ⟨List.Subset.refl past, by simp⟩
  | cons slice rest ih =>
    refine (Procedure.yields_bind _ _).mpr ?_
    refine Procedure.yields_make (.create _) (fun outputAnswer middle _ => ?_)
    refine (Procedure.yields_bind _ _).mpr ?_
    refine Procedure.yields_make (.create _) (fun flowAnswer after _ => ?_)
    refine (ih _ _).mono ?_
    intro _ later _ made
    obtain ⟨kept, made⟩ := made
    refine ⟨fun occurrence member => kept (by simp [member]), List.forall_mem_cons.mpr ⟨?_, made⟩⟩
    exact ⟨⟨outputAnswer, cluster, middle, kept (by simp)⟩,
      ⟨flowAnswer, middle, after, kept (by simp)⟩⟩

/-- Provisioning succeeds only with every slice in place. -/
theorem run_yields (flowTest : FlowTest) (configuration : Configuration) (past : List Occurrence)
    (cluster : Cluster) :
    Procedure.Yields (fun _ later _ => Deployed flowTest configuration later)
      (run flowTest configuration) past cluster := by
  refine Procedure.yields_outcome_bind (fun owner required => ?_)
  refine Procedure.yields_outcome_bind (fun kind known => ?_)
  refine Procedure.yields_bind_extended (fun referencePod past cluster _ => ?_)
  refine Procedure.yields_outcome_bind (fun pod _ => ?_)
  refine Procedure.yields_bind_extended (fun _ past cluster _ => ?_)
  refine Procedure.yields_bind_extended (fun _ past cluster _ => ?_)
  refine Procedure.yields_bind_extended (fun _ past cluster _ => ?_)
  rw [Procedure.yields_bind]
  refine (flowTest.getReference_yields kind past cluster).mono (fun reference past cluster found => ?_)
  refine Procedure.yields_bind_extended (fun _ later cluster kept => ?_)
  refine Procedure.yields_outcome_bind (fun slices planned => ?_)
  rw [Procedure.yields_bind]
  refine (deploy_yields slices later cluster).mono (fun _ last cluster made => ?_)
  rw [Procedure.yields_pure]
  exact ⟨owner, kind, reference, slices, owner?_of_requireOwner required, known,
    (found.1.mono kept).mono made.1, planned, made.2⟩

end Provisioning

end FlowTesting
