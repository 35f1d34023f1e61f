import FlowTesting.Proofs.ConcurrentProvisioning
import FlowTesting.Proofs.Room

set_option autoImplicit false

/-!
# The outcome of provisioning

When provisioning succeeds and what it leaves behind. It needs an identified flow test, both of
its references, and room for everything that it makes; the keys of what it makes are all
different, so nothing is in the way of it but what was there before.
-/

namespace FlowTesting

namespace Provisioning

/-- What a provisioning works from: the owner of what it makes, its references, and the pod and
the slices that are made after them. -/
structure Blueprint where
  owner : Owner
  kind : PipelineKind
  referencePod : Pod
  pod : Pod
  reference : PipelineFlow
  slices : List Slice

namespace Blueprint

variable {blueprint : Blueprint} {flowTest : FlowTest} {configuration : Configuration}
  {cluster : Cluster}

/-- Whether a blueprint is what a flow test comes to in a cluster. -/
structure IsDrawn (blueprint : Blueprint) (flowTest : FlowTest) (configuration : Configuration)
    (cluster : Cluster) : Prop where
  identified : flowTest.owner? = some blueprint.owner
  known : flowTest.pipelineKind = .ok blueprint.kind
  foundPod : cluster.getPod flowTest.spec.referencePod.namespaceName
    flowTest.spec.referencePod.name = some blueprint.referencePod
  simulated : Simulation.pod flowTest blueprint.owner blueprint.referencePod
    configuration.simulatorImage = .ok blueprint.pod
  foundFlow : cluster.getFlow blueprint.kind flowTest.spec.referenceFlow.namespaceName
    flowTest.spec.referenceFlow.name = some blueprint.reference
  planned : Slice.plan blueprint.reference blueprint.owner
    (Simulation.selectorLabels blueprint.owner) configuration.aggregatorBaseUrl =
      .ok blueprint.slices

/-- The config map and the pod that replay the messages of the flow test. -/
def simulation (blueprint : Blueprint) (flowTest : FlowTest) : List Resource :=
  [.configMap (Simulation.configMap flowTest blueprint.owner), .pod blueprint.pod]

/-- What is made in a cluster before the reference flow is looked up. -/
def prepared (blueprint : Blueprint) (flowTest : FlowTest) (configuration : Configuration)
    (cluster : Cluster) : List Resource :=
  blueprint.simulation flowTest ++ SharedAggregator.missing configuration cluster

/-- All that is made from a blueprint in a cluster. -/
def objects (blueprint : Blueprint) (flowTest : FlowTest) (configuration : Configuration)
    (cluster : Cluster) : List Resource :=
  blueprint.prepared flowTest configuration cluster ++ blueprint.slices.flatMap Slice.objects

def status (blueprint : Blueprint) : FlowTestStatus :=
  .allocated .created blueprint.reference.matchRules.length blueprint.reference.filters.length

theorem flow_notMem_prepared (flow : PipelineFlow) :
    Resource.flow flow ∉ blueprint.prepared flowTest configuration cluster := by
  simp [prepared, simulation, SharedAggregator.missing, SharedAggregator.parts,
    Cluster.mem_untaken_iff]

end Blueprint

section Run

variable {flowTest stored : FlowTest} {configuration : Configuration} {owner : Owner}
  {start mapped simulating served after : Surroundings} {pod : Pod} {kind : PipelineKind}
  {reference : PipelineFlow} {status : FlowTestStatus} {blueprint : Blueprint}

/-- Both objects of the simulation are apart from the log aggregator. -/
theorem not_isPlace_of_mem_simulation {referencePod : Pod} {image : Image} {object : Resource}
    (simulated : Simulation.pod flowTest blueprint.owner referencePod image = .ok blueprint.pod)
    (made : object ∈ blueprint.simulation flowTest) :
    ¬ SharedAggregator.IsPlace configuration object.key := by
  simp only [Blueprint.simulation, List.mem_cons, List.not_mem_nil, or_false] at made
  rcases made with rfl | rfl
  · exact SharedAggregator.not_isPlace_of_product (Product.configMap : Product flowTest _ _)
  · exact SharedAggregator.not_isPlace_of_product (.pod simulated)

/-- What has been made before the reference flow is looked up had room. -/
theorem gains_prepared (blueprint : Blueprint) {referencePod : Pod} {image : Image}
    (simulated : Simulation.pod flowTest blueprint.owner referencePod image = .ok blueprint.pod)
    (configMapCreated : start.run (Call.make (.create
      (.configMap (Simulation.configMap flowTest blueprint.owner)))) = (.ok (), mapped))
    (podCreated : mapped.run (Call.make (.create (.pod blueprint.pod))) = (.ok (), simulating))
    (ensured : simulating.run (ensureAggregator configuration) = (.ok (), served)) :
    start.Gains (blueprint.prepared flowTest configuration start.cluster) served ∧
      start.cluster.HasRoom (blueprint.prepared flowTest configuration start.cluster) := by
  have simulationGains : start.Gains (blueprint.simulation flowTest) simulating :=
    (Surroundings.gains_of_run_create configMapCreated).append
      (Surroundings.gains_of_run_create podCreated)
  have simulationRoom : start.cluster.HasRoom (blueprint.simulation flowTest) :=
    (Surroundings.hasRoom_cons_iff_of_run_create configMapCreated).mpr
      ((Surroundings.hasRoom_cons_iff_of_run_create podCreated).mpr ⟨List.nodup_nil, by simp⟩)
  obtain ⟨_, ensures, gains⟩ := SharedAggregator.run_ensureAggregator configuration simulating
  obtain rfl := (Prod.ext_iff.mp (ensures.symm.trans ensured)).2
  have missing : SharedAggregator.missing configuration simulating.cluster =
      SharedAggregator.missing configuration start.cluster :=
    SharedAggregator.missing_eq_of_gains simulationGains fun object made =>
      not_isPlace_of_mem_simulation simulated made
  rw [missing] at gains
  refine ⟨simulationGains.append gains, (simulationGains.hasRoom_append_iff simulationRoom).mpr ?_⟩
  rw [← missing]
  exact SharedAggregator.hasRoom_missing _

theorem requireOwner_eq_ok_iff :
    requireOwner flowTest = .ok owner ↔ flowTest.owner? = some owner := by
  rw [requireOwner]
  cases flowTest.owner? <;> simp

theorem run_getReferencePod_eq_ok_iff :
    start.run (getReferencePod flowTest) = (.ok pod, after) ↔
      start.cluster.getPod flowTest.spec.referencePod.namespaceName
        flowTest.spec.referencePod.name = some pod ∧ start = after := by
  have looked : @Surroundings.run (Option Pod) start (Call.make (.getPod
      flowTest.spec.referencePod.namespaceName flowTest.spec.referencePod.name)) =
    (.ok (start.cluster.getPod flowTest.spec.referencePod.namespaceName
      flowTest.spec.referencePod.name), start) := rfl
  rw [getReferencePod, Surroundings.run_bind_of_ok _ looked]
  cases start.cluster.getPod flowTest.spec.referencePod.namespaceName
    flowTest.spec.referencePod.name with
  | none => simp
  | some found => simp

theorem run_getReference_eq_ok_iff :
    start.run (flowTest.getReference kind) = (.ok reference, after) ↔
      start.cluster.getFlow kind flowTest.spec.referenceFlow.namespaceName
        flowTest.spec.referenceFlow.name = some reference ∧ start = after := by
  have looked : @Surroundings.run (Option PipelineFlow) start (Call.make (.getFlow kind
      flowTest.spec.referenceFlow.namespaceName flowTest.spec.referenceFlow.name)) =
    (.ok (start.cluster.getFlow kind flowTest.spec.referenceFlow.namespaceName
      flowTest.spec.referenceFlow.name), start) := rfl
  rw [FlowTest.getReference, Surroundings.run_bind_of_ok _ looked]
  cases start.cluster.getFlow kind flowTest.spec.referenceFlow.namespaceName
    flowTest.spec.referenceFlow.name with
  | none => simp
  | some found => simp

/-- A provisioning that succeeds has been drawn, with room for everything that it has made. -/
theorem exists_blueprint_of_run
    (found : start.cluster.flowTests.get? flowTest.name = some stored)
    (ran : start.run (run flowTest configuration) = (.ok status, after)) :
    ∃ blueprint : Blueprint, blueprint.IsDrawn flowTest configuration start.cluster ∧
      start.cluster.HasRoom (blueprint.objects flowTest configuration start.cluster) ∧
      status = blueprint.status ∧
      (start.storing flowTest.name
        { stored with status? := some (stored.status.merge status) }).Gains
          (blueprint.objects flowTest configuration start.cluster) after := by
  rw [run] at ran
  obtain ⟨owner, required, ran⟩ := Surroundings.eq_ok_of_run_outcome_bind ran
  obtain ⟨kind, known, ran⟩ := Surroundings.eq_ok_of_run_outcome_bind ran
  obtain ⟨referencePod, _, looked, ran⟩ := Surroundings.eq_ok_of_run_bind ran
  obtain ⟨foundPod, rfl⟩ := run_getReferencePod_eq_ok_iff.mp looked
  obtain ⟨pod, simulated, ran⟩ := Surroundings.eq_ok_of_run_outcome_bind ran
  obtain ⟨_, mapped, configMapCreated, ran⟩ := Surroundings.eq_ok_of_run_bind ran
  obtain ⟨_, simulating, podCreated, ran⟩ := Surroundings.eq_ok_of_run_bind ran
  obtain ⟨_, served, ensured, ran⟩ := Surroundings.eq_ok_of_run_bind ran
  obtain ⟨reference, _, looked, ran⟩ := Surroundings.eq_ok_of_run_bind ran
  obtain ⟨foundFlow, rfl⟩ := run_getReference_eq_ok_iff.mp looked
  obtain ⟨_, allocated, patched, ran⟩ := Surroundings.eq_ok_of_run_bind ran
  obtain ⟨slices, planned, ran⟩ := Surroundings.eq_ok_of_run_outcome_bind ran
  obtain ⟨_, deployed, deploys, done⟩ := Surroundings.eq_ok_of_run_bind ran
  rw [Surroundings.run_pure, Prod.mk.injEq, Except.ok.injEq] at done
  obtain ⟨rfl, rfl⟩ := done
  -- What is made before the reference flow is looked up is no flow, so it was there at the start.
  let blueprint : Blueprint := ⟨owner, kind, referencePod, pod, reference, slices⟩
  obtain ⟨gains, room⟩ := gains_prepared blueprint simulated configMapCreated
    podCreated ensured
  rw [gains.getFlow_eq Blueprint.flow_notMem_prepared] at foundFlow
  have stillFound : served.cluster.flowTests.get? flowTest.name = some stored := by
    rwa [gains.flowTests]
  rw [Surroundings.run_patchStatus stillFound, Prod.mk.injEq] at patched
  obtain ⟨-, rfl⟩ := patched
  refine ⟨blueprint, ⟨requireOwner_eq_ok_iff.mp required, known, foundPod, simulated, foundFlow,
    planned⟩, ?_, rfl, ?_⟩
  · exact (gains.hasRoom_append_iff room).mpr
      (Surroundings.hasRoom_storing_iff.mp (Slice.hasRoom_of_run_deploy deploys))
  · exact (gains.storing _ _).append (Slice.gains_of_run_deploy deploys)

/-- Where there is room for everything that it makes, a provisioning that is drawn succeeds. -/
theorem exists_run_of_room
    (found : start.cluster.flowTests.get? flowTest.name = some stored)
    (drawn : blueprint.IsDrawn flowTest configuration start.cluster)
    (room : start.cluster.HasRoom (blueprint.objects flowTest configuration start.cluster)) :
    ∃ after, start.run (run flowTest configuration) = (.ok blueprint.status, after) := by
  have configMapCreated := Surroundings.run_create_of_free (room.free
    (.configMap (Simulation.configMap flowTest blueprint.owner)) (by
      simp [Blueprint.objects, Blueprint.prepared, Blueprint.simulation]))
  have roomMapped := (Surroundings.hasRoom_cons_iff_of_run_create configMapCreated).mp room
  have podCreated :=
    Surroundings.run_create_of_free (roomMapped.free (.pod blueprint.pod) (by simp))
  obtain ⟨served, ensured, -⟩ := SharedAggregator.run_ensureAggregator configuration _
  obtain ⟨gains, preparedRoom⟩ :=
    gains_prepared blueprint drawn.simulated configMapCreated podCreated ensured
  have foundFlow := drawn.foundFlow
  rw [← gains.getFlow_eq Blueprint.flow_notMem_prepared] at foundFlow
  have stillFound : served.cluster.flowTests.get? flowTest.name = some stored := by
    rwa [gains.flowTests]
  have patched := Surroundings.run_patchStatus stillFound blueprint.status
  have roomServed := (gains.hasRoom_append_iff preparedRoom).mp room
  have roomStored : (served.storing flowTest.name { stored with
      status? := some (stored.status.merge blueprint.status) }).cluster.HasRoom
        (blueprint.slices.flatMap Slice.objects) :=
    Surroundings.hasRoom_storing_iff.mpr roomServed
  obtain ⟨after, deployed⟩ := Slice.exists_run_deploy roomStored
  have podLooked := run_getReferencePod_eq_ok_iff.mpr ⟨drawn.foundPod, rfl⟩
  have flowLooked := run_getReference_eq_ok_iff.mpr ⟨foundFlow, rfl⟩
  -- Each step has been shown to succeed where the one before it ends.
  refine ⟨after, ?_⟩
  rw [run, requireOwner_eq_ok_iff.mpr drawn.identified, drawn.known]
  rw [Surroundings.run_ok_bind, Surroundings.run_ok_bind, Surroundings.run_bind_of_ok _ podLooked,
    drawn.simulated, Surroundings.run_ok_bind, Surroundings.run_bind_of_ok _ configMapCreated,
    Surroundings.run_bind_of_ok _ podCreated, Surroundings.run_bind_of_ok _ ensured,
    Surroundings.run_bind_of_ok _ flowLooked]
  change served.run (Call.make (.patchStatus flowTest blueprint.status) >>= _) = _
  rw [Surroundings.run_bind_of_ok _ patched, drawn.planned, Surroundings.run_ok_bind]
  exact Surroundings.run_bind_of_ok _ deployed

end Run

/-- What a flow test needs of itself and of a cluster to be provisioned for its references. -/
structure Requires (flowTest : FlowTest) (configuration : Configuration) (cluster : Cluster)
    (owner : Owner) (kind : PipelineKind) (referencePod : Pod) (reference : PipelineFlow) :
    Prop where
  name : flowTest.metadata.name? = some owner.name
  uid : flowTest.metadata.uid? = some owner.uid
  known : flowTest.spec.referenceFlow.kind = kind.text
  foundPod : cluster.getPod flowTest.spec.referencePod.namespaceName
    flowTest.spec.referencePod.name = some referencePod
  containers : referencePod.containers ≠ []
  configMapFree : cluster.resources.get? ⟨.configMap, flowTest.spec.referencePod.namespaceName,
    Simulation.configMapName owner.uid⟩ = none
  podFree : cluster.resources.get? ⟨.pod, flowTest.spec.referencePod.namespaceName,
    Simulation.podName owner.uid⟩ = none
  foundFlow : cluster.getFlow kind flowTest.spec.referenceFlow.namespaceName
    flowTest.spec.referenceFlow.name = some reference
  located : ∃ namespaceName, reference.namespaceName? = some namespaceName
  slicesFree : ∀ slices, Slice.plan reference owner (Simulation.selectorLabels owner)
    configuration.aggregatorBaseUrl = .ok slices → ∀ slice ∈ slices,
      cluster.resources.get? (Resource.output slice.output).key = none ∧
        cluster.resources.get? (Resource.flow slice.flow).key = none

section Requirements

variable {flowTest : FlowTest} {configuration : Configuration} {cluster : Cluster}
  {owner : Owner} {kind : PipelineKind} {referencePod pod : Pod} {image : Image}
  {reference : PipelineFlow} {blueprint : Blueprint}

theorem owner?_eq_some_iff : flowTest.owner? = some owner ↔
    flowTest.metadata.name? = some owner.name ∧ flowTest.metadata.uid? = some owner.uid := by
  cases owner with
  | mk name uid =>
    rw [FlowTest.owner?]
    cases flowTest.metadata.name? <;> cases flowTest.metadata.uid? <;> simp

theorem pipelineKind_eq_ok_iff :
    flowTest.pipelineKind = .ok kind ↔ flowTest.spec.referenceFlow.kind = kind.text := by
  rw [FlowTest.pipelineKind]
  constructor
  · intro known
    simp only [PipelineKind.ofText?] at known
    split at known
    next found =>
      split at found <;> cases found <;> cases known <;> assumption
    next => cases known
  · intro same
    simp only [same]
    cases kind <;> rfl

theorem key_simulation
    (simulated : Simulation.pod flowTest owner referencePod image = .ok pod) :
    (Resource.pod pod).key =
      ⟨.pod, flowTest.spec.referencePod.namespaceName, Simulation.podName owner.uid⟩ := by
  rw [Simulation.pod] at simulated
  split at simulated
  · cases simulated
  · cases simulated
    rfl

theorem exists_simulation_iff :
    (∃ pod, Simulation.pod flowTest owner referencePod image = .ok pod) ↔
      referencePod.containers ≠ [] := by
  rw [Simulation.pod]
  cases referencePod.containers <;> simp

theorem kind_of_mem_prepared {object : Resource}
    (member : object ∈ blueprint.prepared flowTest configuration cluster) :
    object.kind ∈ [Kind.configMap, .pod, .service] := by
  simp only [Blueprint.prepared, Blueprint.simulation, SharedAggregator.missing,
    SharedAggregator.parts, List.mem_append, Cluster.mem_untaken_iff, List.mem_cons,
    List.not_mem_nil, or_false] at member
  rcases member with (rfl | rfl) | ⟨rfl | rfl, -⟩ <;> simp [Resource.kind]

/-- Nothing that is made from a blueprint is in the way of the rest. -/
theorem nodup_keys_of_drawn (drawn : blueprint.IsDrawn flowTest configuration cluster) :
    ((blueprint.objects flowTest configuration cluster).map Resource.key).Nodup := by
  have simulation : ((blueprint.simulation flowTest).map Resource.key).Nodup := by
    simp [Blueprint.simulation, Resource.key, Resource.kind]
  have apart : ∀ object ∈ blueprint.simulation flowTest,
      ¬ SharedAggregator.IsPlace configuration object.key :=
    fun object made => not_isPlace_of_mem_simulation drawn.simulated made
  have prepared : ((blueprint.prepared flowTest configuration cluster).map Resource.key).Nodup := by
    rw [Blueprint.prepared, List.map_append, List.nodup_append]
    refine ⟨simulation, (SharedAggregator.hasRoom_missing cluster).distinct, ?_⟩
    intro key made partKey missing same
    obtain ⟨object, simulates, rfl⟩ := List.mem_map.mp made
    obtain ⟨part, lacking, rfl⟩ := List.mem_map.mp missing
    have belongs := SharedAggregator.mem_parts_iff.mp (Cluster.mem_untaken_iff.mp lacking).1
    exact apart object simulates ⟨part, belongs, same.symm⟩
  rw [Blueprint.objects, List.map_append, List.nodup_append]
  refine ⟨prepared, Slice.nodup_keys_of_plan drawn.planned, ?_⟩
  intro key made sliceKey deployed same
  obtain ⟨object, prepares, rfl⟩ := List.mem_map.mp made
  obtain ⟨other, delivers, rfl⟩ := List.mem_map.mp deployed
  obtain ⟨slice, -, belongs⟩ := List.mem_flatMap.mp delivers
  have sameKind : object.kind = other.kind := congrArg ResourceKey.kind same
  exact Slice.kind_of_mem_objects belongs (sameKind ▸ kind_of_mem_prepared prepares)

/-- There is room for what is made from a blueprint where nothing was made for the flow test. -/
theorem hasRoom_objects_iff (drawn : blueprint.IsDrawn flowTest configuration cluster) :
    cluster.HasRoom (blueprint.objects flowTest configuration cluster) ↔
      cluster.resources.get? ⟨.configMap, flowTest.spec.referencePod.namespaceName,
        Simulation.configMapName blueprint.owner.uid⟩ = none ∧
      cluster.resources.get? ⟨.pod, flowTest.spec.referencePod.namespaceName,
        Simulation.podName blueprint.owner.uid⟩ = none ∧
      ∀ slice ∈ blueprint.slices,
        cluster.resources.get? (Resource.output slice.output).key = none ∧
          cluster.resources.get? (Resource.flow slice.flow).key = none := by
  rw [← key_simulation drawn.simulated]
  constructor
  · rintro ⟨-, free⟩
    refine ⟨free (.configMap (Simulation.configMap flowTest blueprint.owner)) ?_,
      free (.pod blueprint.pod) ?_, fun slice planned => ⟨free _ ?_, free _ ?_⟩⟩
    · simp [Blueprint.objects, Blueprint.prepared, Blueprint.simulation]
    · simp [Blueprint.objects, Blueprint.prepared, Blueprint.simulation]
    · exact List.mem_append_right _ (List.mem_flatMap.mpr ⟨slice, planned, by simp [Slice.objects]⟩)
    · exact List.mem_append_right _ (List.mem_flatMap.mpr ⟨slice, planned, by simp [Slice.objects]⟩)
  · rintro ⟨configMapFree, podFree, slicesFree⟩
    refine ⟨nodup_keys_of_drawn drawn, fun object made => ?_⟩
    simp only [Blueprint.objects, Blueprint.prepared, Blueprint.simulation, List.mem_append,
      List.mem_cons, List.not_mem_nil, or_false, List.mem_flatMap, Slice.objects] at made
    rcases made with ((rfl | rfl) | missing) | ⟨slice, planned, rfl | rfl⟩
    · exact configMapFree
    · exact podFree
    · exact (SharedAggregator.hasRoom_missing cluster).free object missing
    · exact (slicesFree slice planned).1
    · exact (slicesFree slice planned).2

theorem Blueprint.IsDrawn.requires (drawn : blueprint.IsDrawn flowTest configuration cluster)
    (room : cluster.HasRoom (blueprint.objects flowTest configuration cluster)) :
    Requires flowTest configuration cluster blueprint.owner blueprint.kind
      blueprint.referencePod blueprint.reference := by
  obtain ⟨named, marked⟩ := owner?_eq_some_iff.mp drawn.identified
  obtain ⟨configMapFree, podFree, slicesFree⟩ := (hasRoom_objects_iff drawn).mp room
  constructor
  case name => exact named
  case uid => exact marked
  case known => exact pipelineKind_eq_ok_iff.mp drawn.known
  case foundPod => exact drawn.foundPod
  case containers => exact exists_simulation_iff.mp ⟨_, drawn.simulated⟩
  case configMapFree => exact configMapFree
  case podFree => exact podFree
  case foundFlow => exact drawn.foundFlow
  case located => exact Slice.namespaceName?_of_plan drawn.planned
  case slicesFree =>
    intro slices planned
    obtain rfl := Except.ok.inj (planned.symm.trans drawn.planned)
    exact slicesFree

theorem Requires.exists_blueprint
    (requires : Requires flowTest configuration cluster owner kind referencePod reference) :
    ∃ blueprint : Blueprint, blueprint.IsDrawn flowTest configuration cluster ∧
      cluster.HasRoom (blueprint.objects flowTest configuration cluster) := by
  obtain ⟨pod, simulated⟩ := (@exists_simulation_iff flowTest owner referencePod
    configuration.simulatorImage).mpr requires.containers
  obtain ⟨namespaceName, located⟩ := requires.located
  have planned := @Slice.plan_of_namespace reference owner (Simulation.selectorLabels owner)
    configuration.aggregatorBaseUrl _ located
  have drawn : Blueprint.IsDrawn ⟨owner, kind, referencePod, pod, reference, _⟩ flowTest
      configuration cluster :=
    { identified := owner?_eq_some_iff.mpr ⟨requires.name, requires.uid⟩
      known := pipelineKind_eq_ok_iff.mpr requires.known
      foundPod := requires.foundPod
      simulated
      foundFlow := requires.foundFlow
      planned }
  exact ⟨_, drawn, (hasRoom_objects_iff drawn).mpr
    ⟨requires.configMapFree, requires.podFree, requires.slicesFree _ planned⟩⟩

end Requirements

/-- What provisioning may have done to the objects of a cluster, however far it has come: nothing
is taken away or replaced, and what is new is selected for the flow test or is a part of the log
aggregator. -/
structure Leaves (flowTest : FlowTest) (configuration : Configuration) (before after : Cluster) :
    Prop where
  kept : ∀ key resource, before.resources.get? key = some resource →
    after.resources.get? key = some resource
  added : ∀ key resource, after.resources.get? key = some resource →
    before.resources.get? key = some resource ∨ resource.key = key ∧
      (SharedAggregator.Part configuration resource ∨ (',' ∉ flowTest.name.toList →
        Selector.selects (Selector.flowTest flowTest.name) resource.labels = true))

section Leaving

variable {flowTest stored : FlowTest} {configuration : Configuration}
  {start before after : Cluster} {asked : ControllerRequest}
  {reply : controllerInterface.Reply asked} {resource : Resource}

theorem Asks.part_or_selected (asks : Asks flowTest configuration (.call (.create resource))) :
    SharedAggregator.Part configuration resource ∨ (',' ∉ flowTest.name.toList →
      Selector.selects (Selector.flowTest flowTest.name) resource.labels = true) := by
  cases asks with
  | createPart part => exact .inl part
  | createProduct identified product =>
    right
    intro plain
    rw [← FlowTest.name_of_owner? identified] at plain ⊢
    exact (Selector.selects_flowTest_iff plain).mpr product.isLabeledFor

theorem Leaves.step (leaves : Leaves flowTest configuration start before)
    (asks : Asks flowTest configuration asked) (answers : before.Answers asked reply after) :
    Leaves flowTest configuration start after where
  kept key resource found :=
    (answers.remains (leaves.kept key resource found)).resolve_right asks.not_takes
  added key resource found := by
    rcases answers.provenance found with already | ⟨rfl, rfl, -⟩ | ⟨_, _, rfl, -⟩
    · exact leaves.added key resource already
    · exact .inr ⟨rfl, asks.part_or_selected⟩
    · cases asks

/-- Whatever provisioning comes to, it has taken nothing away. -/
theorem leaves_of_run (flowTest : FlowTest) (configuration : Configuration)
    (surroundings : Surroundings) :
    Leaves flowTest configuration surroundings.cluster
      (surroundings.run (run flowTest configuration)).2.cluster := by
  obtain ⟨occurrences, execution⟩ := Execution.of_run surroundings (run flowTest configuration)
  apply execution.invariant (fun _ cluster => Leaves flowTest configuration surroundings.cluster
    cluster) ((run_makes flowTest configuration).assures [] surroundings.cluster)
  · intro past occurrence asks answers leaves
    exact leaves.step asks answers
  · exact ⟨fun _ _ => id, fun _ _ => .inl⟩

end Leaving

/-- Provisioning succeeds just when all that it requires is there, and then exactly the objects of
its blueprint are new. Whether it succeeds or fails, nothing has been taken away, and everything
new but the log aggregator is found by the selector of the flow test. -/
theorem provisioning_outcome {flowTest stored : FlowTest} {start : Surroundings}
    (configuration : Configuration)
    (found : start.cluster.flowTests.get? flowTest.name = some stored) :
    ((∃ status, (start.run (run flowTest configuration)).1 = .ok status) ↔
      ∃ owner kind referencePod reference,
        Requires flowTest configuration start.cluster owner kind referencePod reference) ∧
    (∀ status, (start.run (run flowTest configuration)).1 = .ok status →
      ∃ blueprint : Blueprint, blueprint.IsDrawn flowTest configuration start.cluster ∧
        blueprint.slices.length =
          blueprint.reference.matchRules.length + blueprint.reference.filters.length ∧
        start.cluster.HasRoom (blueprint.objects flowTest configuration start.cluster) ∧
        status = blueprint.status ∧
        (start.storing flowTest.name
          { stored with status? := some (stored.status.merge status) }).Gains
            (blueprint.objects flowTest configuration start.cluster)
            (start.run (run flowTest configuration)).2) ∧
    Leaves flowTest configuration start.cluster
      (start.run (run flowTest configuration)).2.cluster := by
  refine ⟨⟨?_, ?_⟩, ?_, leaves_of_run flowTest configuration start⟩
  · rintro ⟨status, succeeds⟩
    obtain ⟨blueprint, drawn, room, -⟩ := exists_blueprint_of_run found (Prod.ext succeeds rfl)
    exact ⟨_, _, _, _, drawn.requires room⟩
  · rintro ⟨owner, kind, referencePod, reference, requires⟩
    obtain ⟨blueprint, drawn, room⟩ := requires.exists_blueprint
    obtain ⟨after, ran⟩ := exists_run_of_room found drawn room
    exact ⟨blueprint.status, by rw [ran]⟩
  · intro status succeeds
    obtain ⟨blueprint, drawn, made⟩ := exists_blueprint_of_run found (Prod.ext succeeds rfl)
    obtain ⟨namespaceName, located⟩ := Slice.namespaceName?_of_plan drawn.planned
    exact ⟨blueprint, drawn, Slice.length_plan located drawn.planned, made⟩

/-- The accepted flow test of the sample cluster is provisioned, so all that this takes is
there. -/
theorem provisioning_outcome_of_sample :
    Sample.shared.cluster.flowTests.get? (Sample.inPhase .created).name =
      some (Sample.inPhase .created) ∧
    ∃ owner kind referencePod reference,
      Requires (Sample.inPhase .created) {} Sample.shared.cluster owner kind referencePod
        reference := by
  have found : Sample.shared.cluster.flowTests.get? (Sample.inPhase .created).name =
      some (Sample.inPhase .created) := rfl
  obtain ⟨succeeds, -⟩ := provisioning_outcome {} found
  exact ⟨found, succeeds.mp ⟨_, rfl⟩⟩

end Provisioning

end FlowTesting
