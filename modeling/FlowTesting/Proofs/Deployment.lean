import FlowTesting.Proofs.Execution.Effects
import FlowTesting.Proofs.Execution.Undisturbed
import FlowTesting.Proofs.Slices

set_option autoImplicit false

/-!
# Deployment

What a deployment that succeeds leaves behind: the objects of all slices, and everything else
as it was.
-/

namespace FlowTesting

/-- Whether surroundings have come about by storing some new objects. -/
structure Surroundings.Gains (before : Surroundings) (objects : List Resource)
    (after : Surroundings) : Prop where
  listing : after.listing = before.listing
  flowTests : after.cluster.flowTests = before.cluster.flowTests
  deletesFail : after.cluster.deletesFail = before.cluster.deletesFail
  resources : ∀ key resource, after.cluster.resources.get? key = some resource ↔
    before.cluster.resources.get? key = some resource ∨ resource ∈ objects ∧ key = resource.key

namespace Surroundings

theorem run_create (surroundings : Surroundings) (resource : Resource) :
    @run Unit surroundings (Call.make (.create resource)) =
      surroundings.onCluster (surroundings.cluster.create resource) := rfl

theorem gains_nil (surroundings : Surroundings) : surroundings.Gains [] surroundings :=
  ⟨rfl, rfl, rfl, by simp⟩

theorem Gains.append {before middle after : Surroundings} {first second : List Resource}
    (here : before.Gains first middle) (later : middle.Gains second after) :
    before.Gains (first ++ second) after where
  listing := later.listing.trans here.listing
  flowTests := later.flowTests.trans here.flowTests
  deletesFail := later.deletesFail.trans here.deletesFail
  resources key resource := by
    rw [later.resources, here.resources, List.mem_append, or_and_right, or_assoc]

theorem gains_of_run_create {surroundings after : Surroundings} {resource : Resource}
    (created : surroundings.run (Call.make (.create resource)) = (.ok (), after)) :
    surroundings.Gains [resource] after := by
  rw [run_create, onCluster] at created
  cases free : surroundings.cluster.resources.get? resource.key with
  | some stored =>
    rw [Cluster.create_of_taken free] at created
    cases created
  | none =>
    rw [Cluster.create_of_free free] at created
    obtain rfl := (Prod.ext_iff.mp created).2
    refine ⟨rfl, rfl, rfl, fun key stored => ?_⟩
    rw [Cluster.addResource, List.mem_singleton]
    by_cases same : key = resource.key
    · subst same
      rw [OrderedMap.get?_insert_self, free]
      constructor
      · intro found
        obtain rfl := Option.some.inj found
        exact .inr ⟨rfl, rfl⟩
      · intro found
        rcases found with impossible | ⟨rfl, -⟩
        · cases impossible
        · rfl
    · rw [OrderedMap.get?_insert_of_ne same]
      refine (or_iff_left ?_).symm
      intro found
      obtain ⟨rfl, atKey⟩ := found
      exact same atKey

end Surroundings

namespace Slice

def objects (slice : Slice) : List Resource := [.output slice.output, .flow slice.flow]

theorem gains_of_run_deploy {slices : List Slice} {surroundings after : Surroundings}
    (deployed : surroundings.run (deploy slices) = (.ok (), after)) :
    surroundings.Gains (slices.flatMap objects) after := by
  induction slices generalizing surroundings with
  | nil =>
    obtain rfl := (Prod.ext_iff.mp deployed).2
    exact surroundings.gains_nil
  | cons slice slices ih =>
    rw [deploy] at deployed
    obtain ⟨_, _, outputCreated, rest⟩ := Surroundings.eq_ok_of_run_bind deployed
    obtain ⟨_, _, flowCreated, rest⟩ := Surroundings.eq_ok_of_run_bind rest
    exact ((Surroundings.gains_of_run_create outputCreated).append
      (Surroundings.gains_of_run_create flowCreated)).append (ih rest)

/-- Deploying does not look at what the aggregator lists. -/
theorem run_deploy_withListing (slices : List Slice) (surroundings : Surroundings)
    (listing : Except Failure (List Index)) :
    ({ surroundings with listing } : Surroundings).run (deploy slices) =
      ((surroundings.run (deploy slices)).1,
        { (surroundings.run (deploy slices)).2 with listing }) := by
  induction slices generalizing surroundings with
  | nil => rfl
  | cons slice rest ih =>
    simp only [deploy, Surroundings.run_bind, Surroundings.run_create, Surroundings.onCluster]
    rcases surroundings.cluster.create (.output slice.output) with ⟨_ | _, middle⟩
    · rfl
    · simp only []
      rcases middle.create (.flow slice.flow) with ⟨_ | _, after⟩
      · rfl
      · exact ih { surroundings with cluster := after }

/-- After a deployment, exactly the flows of the slices are listed for a flow test whose name
no flow has borne before. -/
theorem mem_listFlows_iff_of_gains {before after : Surroundings} {reference : PipelineFlow}
    {owner : Owner} {simulationLabels : Labels} {endpointBase : String} {slices : List Slice}
    (gains : before.Gains (slices.flatMap objects) after)
    (planned : plan reference owner simulationLabels endpointBase = .ok slices)
    (plain : ',' ∉ owner.name.toList)
    (unlabeled : ∀ key flow, before.cluster.resources.get? key = some (.flow flow) →
      ¬ (Resource.flow flow).IsLabeledFor owner.name)
    (flow : PipelineFlow) :
    flow ∈ after.cluster.listFlows reference.kind (Selector.flowTest owner.name) ↔
      ∃ slice ∈ slices, slice.flow = flow := by
  rw [Cluster.mem_listFlows_iff]
  constructor
  · intro listed
    obtain ⟨key, -, stored, selected⟩ := listed
    rcases (gains.resources key _).mp stored with already | ⟨made, -⟩
    · exact absurd ((Selector.selects_flowTest_iff plain).mp selected) (unlabeled key flow already)
    · obtain ⟨slice, member, object⟩ := List.mem_flatMap.mp made
      simp only [objects, List.mem_cons, reduceCtorEq, Resource.flow.injEq, List.not_mem_nil,
        or_false, false_or] at object
      exact ⟨slice, member, object.symm⟩
  · intro planned
    obtain ⟨slice, member, rfl⟩ := planned
    have made : Resource.flow slice.flow ∈ slices.flatMap objects :=
      List.mem_flatMap.mpr ⟨slice, member, by simp [objects]⟩
    have built := isBuilt_of_mem_plan planned member
    refine ⟨(Resource.flow slice.flow).key, congrArg PipelineKind.flowKind built.kind_flow,
      (gains.resources _ _).mpr (.inr ⟨made, rfl⟩), ?_⟩
    exact (Selector.selects_flowTest_iff plain).mpr built.isLabeledFor

end Slice

end FlowTesting
