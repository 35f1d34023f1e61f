import FlowTesting.Proofs.Execution.Conduct
import FlowTesting.Proofs.Reconcile

set_option autoImplicit false

/-!
# The order of creation and deletion

A reconciliation creates the output of a slice before its flow, and deletes the outputs of a flow
test after its flows, whatever others do to the cluster in between.
-/

namespace FlowTesting

/-- Whether a request neither creates an object nor deletes any by their labels. -/
def ControllerRequest.IsPlain : ControllerRequest → Prop
  | .call (.create _) => False
  | .call (.deleteLabeled _ _) => False
  | _ => True

/-- Whether an object is a flow or an output. -/
def Resource.IsPipeline : Resource → Prop
  | .flow _ => True
  | .output _ => True
  | _ => False

/-- Whether a flow test is due to be provisioned. -/
def FlowTest.Provisions (flowTest : FlowTest) : Prop :=
  flowTest.isDeleting = false ∧ flowTest.phase? = some .created

/-- Whether a flow test is due to be cleaned up after. -/
def FlowTest.CleansUp (flowTest : FlowTest) : Prop :=
  flowTest.isDeleting = true ∨ flowTest.phase? = some .completed

theorem FlowTest.Provisions.not_cleansUp {flowTest : FlowTest} (provisions : flowTest.Provisions) :
    ¬ flowTest.CleansUp := by
  obtain ⟨undeleted, created⟩ := provisions
  simp [FlowTest.CleansUp, undeleted, created]

/-- Whether all flows that are labelled for a flow test have been deleted. -/
def FlowsDeleted (name : String) (past : List Occurrence) : Prop :=
  ∀ kind : PipelineKind, Performed past (.deleteLabeled kind.flowKind (Selector.flowTest name))

theorem FlowsDeleted.mono {name : String} {past later : List Occurrence}
    (deleted : FlowsDeleted name past) (kept : past ⊆ later) : FlowsDeleted name later :=
  fun kind => (deleted kind).mono kept

/-- What a reconciliation may ask for, as far as outputs and their flows are concerned. -/
inductive Orderly (flowTest : FlowTest) (past : List Occurrence) : ControllerRequest → Prop where
  | plain {asked : ControllerRequest} : asked.IsPlain → Orderly flowTest past asked
  | createOther {resource : Resource} : flowTest.Provisions → ¬ resource.IsPipeline →
      Orderly flowTest past (.call (.create resource))
  | createOutput {slice : Slice} {owner : Owner} {kind : PipelineKind} : flowTest.Provisions →
      slice.IsBuilt owner kind → owner.name = flowTest.name →
      Orderly flowTest past (.call (.create (.output slice.output)))
  | createFlow {slice : Slice} {owner : Owner} {kind : PipelineKind} : flowTest.Provisions →
      slice.IsBuilt owner kind → owner.name = flowTest.name →
      Performed past (.create (.output slice.output)) →
      Orderly flowTest past (.call (.create (.flow slice.flow)))
  | deleteProducts {kind : Kind} : flowTest.CleansUp →
      ((∃ output : PipelineKind, kind = output.outputKind) → FlowsDeleted flowTest.name past) →
      Orderly flowTest past (.call (.deleteLabeled kind (Selector.flowTest flowTest.name)))
  | deleteParts {kind : Kind} : flowTest.CleansUp → kind ∈ Cleanup.aggregatorKinds →
      Orderly flowTest past (.call (.deleteLabeled kind Selector.aggregator))

section Conduct

variable {flowTest : FlowTest} {past : List Occurrence}

theorem orderly_of_plain {α : Type} {procedure : Procedure α}
    (plain : procedure.Makes ControllerRequest.IsPlain) :
    procedure.Conducts (Orderly flowTest) past :=
  Procedure.Makes.conducts (plain.mono (fun _ plain _ _ => .plain plain))

theorem Controller.Notes.isPlain {phases : List FlowTestPhase} {reasons : List EventReason}
    {asked : ControllerRequest} (notes : Controller.Notes flowTest phases reasons asked) :
    asked.IsPlain := by
  cases notes <;> trivial

theorem Verification.run_isPlain (flowTest : FlowTest) (policy : PassPolicy) :
    (Verification.run flowTest policy).Makes ControllerRequest.IsPlain := by
  refine Procedure.makes_outcome_bind (fun kind _ => ?_)
  refine (FlowTest.getReference_makes (fun _ _ => trivial) flowTest).bind (fun reference => ?_)
  refine (Procedure.makes_make trivial).bind (fun slices => ?_)
  refine (Procedure.makes_make trivial).bind (fun indexes => ?_)
  refine (retireDelivered_makes (fun _ _ => trivial) (fun _ _ => trivial) _).bind
    (fun progress => ?_)
  exact finish_makes trivial

theorem Slice.deploy_conducts (provisions : flowTest.Provisions) {owner : Owner}
    (identified : owner.name = flowTest.name) {kind : PipelineKind} {slices : List Slice}
    (built : ∀ slice ∈ slices, slice.IsBuilt owner kind) :
    (Slice.deploy slices).Conducts (Orderly flowTest) past := by
  induction slices generalizing past with
  | nil => exact Procedure.conducts_pure _
  | cons slice rest ih =>
    obtain ⟨builtHere, builtRest⟩ := List.forall_mem_cons.mp built
    refine Procedure.conducts_make_bind (.createOutput provisions builtHere identified)
      (fun answer later _ made => ?_)
    refine Procedure.conducts_make_bind
      (.createFlow provisions builtHere identified ⟨answer, made⟩) (fun _ later _ _ => ?_)
    exact ih builtRest

theorem SharedAggregator.Part.not_isPipeline {configuration : Configuration} {part : Resource}
    (belongs : SharedAggregator.Part configuration part) : ¬ part.IsPipeline := by
  cases belongs <;> exact not_false

theorem Provisioning.ensure_conducts {configuration : Configuration} {part : Resource}
    (provisions : flowTest.Provisions) (belongs : SharedAggregator.Part configuration part) :
    (ensure part).Conducts (Orderly flowTest) past := by
  refine Procedure.Makes.conducts ((Procedure.makes_attempt (fun later _ => ?_)).bind
    (fun _ => Procedure.makes_outcome _))
  exact .createOther provisions belongs.not_isPipeline

theorem Provisioning.getReferencePod_isPlain (flowTest : FlowTest) :
    (getReferencePod flowTest).Makes ControllerRequest.IsPlain := by
  refine (Procedure.makes_make trivial).bind (fun found => ?_)
  cases found with
  | some pod => exact Procedure.makes_pure _
  | none => exact Procedure.makes_throw _

theorem Provisioning.run_conducts (configuration : Configuration)
    (provisions : flowTest.Provisions) :
    (Provisioning.run flowTest configuration).Conducts (Orderly flowTest) past := by
  refine Procedure.conducts_outcome_bind (fun owner required => ?_)
  have identified := FlowTest.name_of_owner? (owner?_of_requireOwner required)
  refine Procedure.conducts_outcome_bind (fun kind _ => ?_)
  refine Procedure.Conducts.bind (orderly_of_plain (getReferencePod_isPlain flowTest))
    (fun referencePod later _ => ?_)
  refine Procedure.conducts_outcome_bind (fun pod _ => ?_)
  refine Procedure.conducts_make_bind (.createOther provisions not_false) (fun _ later _ _ => ?_)
  refine Procedure.conducts_make_bind (.createOther provisions not_false) (fun _ later _ _ => ?_)
  refine Procedure.Conducts.bind ?_ (fun _ later _ => ?_)
  · exact Procedure.Conducts.bind (ensure_conducts provisions .pod)
      (fun _ later _ => ensure_conducts provisions .service)
  refine Procedure.Conducts.bind
    (orderly_of_plain (FlowTest.getReference_makes (fun _ _ => trivial) flowTest))
    (fun reference later _ => ?_)
  refine Procedure.conducts_make_bind (.plain trivial) (fun _ later _ _ => ?_)
  refine Procedure.conducts_outcome_bind (fun slices planned => ?_)
  refine Procedure.Conducts.bind (Slice.deploy_conducts provisions identified
    (fun slice member => Slice.isBuilt_of_mem_plan planned member)) (fun _ _ _ => ?_)
  exact Procedure.conducts_pure _

theorem Cleanup.deleteKinds_conducts (cleansUp : flowTest.CleansUp) {kinds : List Kind}
    (ready : ∀ output : PipelineKind, output.outputKind ∈ kinds →
      FlowsDeleted flowTest.name past) :
    (deleteKinds (Selector.flowTest flowTest.name) kinds).Conducts (Orderly flowTest) past := by
  refine Procedure.Makes.conducts (deleteKinds_makes (fun kind member later kept => ?_))
  refine .deleteProducts cleansUp (fun isOutput => ?_)
  obtain ⟨output, rfl⟩ := isOutput
  exact (ready output member).mono kept

/-- The flows go first. -/
theorem Cleanup.testResources_conducts (cleansUp : flowTest.CleansUp) :
    (testResources flowTest.name).Conducts (Orderly flowTest) past := by
  have noOutput : ∀ kind : PipelineKind, ¬ ∃ output : PipelineKind,
      kind.flowKind = output.outputKind := by
    rintro kind ⟨output, same⟩
    cases kind <;> cases output <;> cases same
  rw [testResources, testKinds, deleteKinds]
  refine Procedure.conducts_make_bind (.deleteProducts cleansUp (absurd · (noOutput .flow)))
    (fun _ later _ flows => ?_)
  refine Procedure.Conducts.bind ?_ (fun _ _ _ => Procedure.conducts_pure _)
  rw [deleteKinds]
  refine Procedure.conducts_make_bind (.deleteProducts cleansUp (absurd · (noOutput .clusterFlow)))
    (fun _ last kept clusterFlows => ?_)
  refine Procedure.Conducts.bind (deleteKinds_conducts cleansUp (fun _ _ kind => ?_))
    (fun _ _ _ => Procedure.conducts_pure _)
  cases kind with
  | flow => exact ⟨_, flows.mono kept⟩
  | clusterFlow => exact ⟨_, clusterFlows⟩

theorem Cleanup.teardownAggregator_conducts (cleansUp : flowTest.CleansUp) :
    teardownAggregator.Conducts (Orderly flowTest) past := by
  refine Procedure.conducts_make_bind (.plain trivial) (fun flowTests later _ _ => ?_)
  split
  next => exact Procedure.conducts_pure _
  next =>
    refine Procedure.Conducts.bind (Procedure.Makes.conducts (deleteKinds_makes ?_))
      (fun _ _ _ => Procedure.conducts_pure _)
    exact fun kind member later _ => .deleteParts cleansUp member

theorem Cleanup.run_conducts (cleansUp : flowTest.CleansUp) :
    (Cleanup.run flowTest).Conducts (Orderly flowTest) past := by
  refine Procedure.Conducts.bind (testResources_conducts cleansUp) (fun _ later _ => ?_)
  refine Procedure.Conducts.bind (teardownAggregator_conducts cleansUp) (fun _ later _ => ?_)
  exact Procedure.conducts_pure _

namespace Controller

variable {configuration : Configuration} {now : Timestamp}

theorem orderly_of_notes {α : Type} {procedure : Procedure α} {phases : List FlowTestPhase}
    {reasons : List EventReason} (notes : procedure.Makes (Notes flowTest phases reasons)) :
    procedure.Conducts (Orderly flowTest) past :=
  orderly_of_plain (notes.mono (fun _ => Notes.isPlain))

theorem provision_conducts (provisions : flowTest.Provisions) :
    (provision configuration now flowTest).Conducts (Orderly flowTest) past :=
  Procedure.Conducts.bind (Provisioning.run_conducts configuration provisions).lift
    (fun outcome _ _ => orderly_of_notes (afterProvisioning_makes _ _ flowTest outcome))

theorem checkRunning_isPlain (flowTest : FlowTest) :
    (checkRunning configuration now flowTest).Makes ControllerRequest.IsPlain := by
  unfold checkRunning
  split
  next => exact (complete_makes flowTest).mono (fun _ => Notes.isPlain)
  next => exact Procedure.makes_pure _
  next next _ =>
    have passes : (Verification.run flowTest configuration.passPolicy).Makes
        ControllerRequest.IsPlain := Verification.run_isPlain flowTest configuration.passPolicy
    exact passes.lift.bind (fun outcome =>
      (afterPass_makes flowTest next outcome).mono (fun _ => Notes.isPlain))

theorem cleanUp_conducts (cleansUp : flowTest.CleansUp) :
    (cleanUp flowTest).Conducts (Orderly flowTest) past :=
  Procedure.Conducts.bind (Cleanup.run_conducts cleansUp).lift
    (fun outcome _ _ => orderly_of_notes (afterCleanup_makes flowTest outcome))

theorem handleDeletion_conducts (deleting : flowTest.isDeleting = true) :
    (handleDeletion configuration flowTest).Conducts (Orderly flowTest) past := by
  rw [handleDeletion]
  split
  next => exact Procedure.conducts_pure _
  next =>
    refine Procedure.Conducts.bind (cleanUp_conducts (.inl deleting)) (fun works later _ => ?_)
    cases works with
    | true => exact Procedure.conducts_make_bind (.plain trivial) (fun _ _ _ _ => Procedure.conducts_pure _)
    | false => exact Procedure.conducts_pure _

/-- Every reconciliation asks for outputs and their flows in good order, whatever becomes of the
cluster in between. -/
theorem reconcile_conducts (configuration : Configuration) (now : Timestamp)
    (flowTest : FlowTest) :
    (reconcile configuration now flowTest).Conducts (Orderly flowTest) [] := by
  unfold reconcile
  split
  next deleting => exact handleDeletion_conducts deleting
  next kept =>
    have undeleted : flowTest.isDeleting = false := by simpa using kept
    split
    next => exact orderly_of_notes (markCreated_makes flowTest)
    next created => exact provision_conducts ⟨undeleted, created⟩
    next => exact orderly_of_plain (checkRunning_isPlain flowTest)
    next completed =>
      refine Procedure.Conducts.bind (cleanUp_conducts (.inr completed)) (fun works later _ => ?_)
      cases works <;> exact Procedure.conducts_pure _
    next => exact Procedure.conducts_pure _

end Controller

end Conduct

end FlowTesting
