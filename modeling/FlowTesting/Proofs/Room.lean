import FlowTesting.Proofs.Agreement
import FlowTesting.Proofs.Deployment
import FlowTesting.Proofs.SlicePlan
import Mathlib.Data.List.Nodup

set_option autoImplicit false

/-!
# Room for objects

Objects can be created one after the other where there is room for all of them: no two have the
same key, and none of their keys is taken. A plan never gets in the way of itself.
-/

namespace FlowTesting

/-- Whether a cluster has room for some objects: their keys are different and none is taken. -/
structure Cluster.HasRoom (cluster : Cluster) (objects : List Resource) : Prop where
  distinct : (objects.map Resource.key).Nodup
  free : ∀ object ∈ objects, cluster.resources.get? object.key = none

/-- Those of some objects whose keys are not taken. -/
def Cluster.untaken (cluster : Cluster) (objects : List Resource) : List Resource :=
  objects.filter (fun object => !cluster.resources.contains object.key)

theorem Cluster.mem_untaken_iff {cluster : Cluster} {objects : List Resource} {object : Resource} :
    object ∈ cluster.untaken objects ↔
      object ∈ objects ∧ cluster.resources.get? object.key = none := by
  simp [untaken, OrderedMap.contains]

namespace Surroundings

variable {before after surroundings : Surroundings} {first second objects : List Resource}
  {key : ResourceKey} {resource : Resource}

theorem Gains.free_iff (gains : before.Gains objects after) :
    after.cluster.resources.get? key = none ↔
      before.cluster.resources.get? key = none ∧ ∀ object ∈ objects, key ≠ object.key := by
  simp only [Option.eq_none_iff_forall_ne_some, ne_eq, gains.resources, not_or, not_and]
  constructor
  · intro free
    exact ⟨fun stored => (free stored).1, fun object member => (free object).2 member⟩
  · rintro ⟨free, other⟩ stored
    exact ⟨free stored, other stored⟩

/-- Objects with other keys do not take those of some objects. -/
theorem Gains.untaken_eq (gains : before.Gains first after)
    (apart : ∀ made ∈ first, ∀ object ∈ objects, object.key ≠ made.key) :
    after.cluster.untaken objects = before.cluster.untaken objects := by
  apply List.filter_congr
  intro object member
  rw [Bool.eq_iff_iff]
  simp only [Bool.not_eq_true', OrderedMap.contains, Option.isSome_eq_false_iff,
    Option.isNone_iff_eq_none]
  rw [gains.free_iff, and_iff_left_iff_imp]
  exact fun _ made earlier => apart made earlier object member

/-- There is room for more once the first objects are in place. -/
theorem Gains.hasRoom_append_iff (gains : before.Gains first after)
    (room : before.cluster.HasRoom first) :
    before.cluster.HasRoom (first ++ second) ↔ after.cluster.HasRoom second := by
  constructor
  · rintro ⟨distinct, free⟩
    rw [List.map_append, List.nodup_append] at distinct
    refine ⟨distinct.2.1, fun object member => gains.free_iff.mpr ⟨free object (by simp [member]),
      fun other made same => ?_⟩⟩
    exact distinct.2.2 _ (List.mem_map_of_mem made) _ (List.mem_map_of_mem member) same.symm
  · rintro ⟨distinct, free⟩
    constructor
    · rw [List.map_append, List.nodup_append]
      refine ⟨room.distinct, distinct, ?_⟩
      intro madeKey made otherKey other same
      obtain ⟨object, member, rfl⟩ := List.mem_map.mp made
      obtain ⟨later, laterMember, rfl⟩ := List.mem_map.mp other
      exact (gains.free_iff.mp (free later laterMember)).2 object member same.symm
    · intro object member
      rcases List.mem_append.mp member with made | later
      · exact room.free object made
      · exact (gains.free_iff.mp (free object later)).1

@[simp]
theorem run_throw {α : Type} (surroundings : Surroundings) (failure : Failure) :
    surroundings.run (throw failure : Procedure α) = (.error failure, surroundings) := rfl

theorem run_ok_bind {α β : Type} (surroundings : Surroundings) (value : α)
    (next : α → Procedure β) :
    surroundings.run (ExceptT.mk (pure (Except.ok value)) >>= next) =
      surroundings.run (next value) :=
  run_bind_of_ok next (run_outcome surroundings (Except.ok value))

theorem eq_ok_of_run_outcome_bind {α β : Type} {outcome : Except Failure α}
    {next : α → Procedure β} {result : β}
    (succeeded : surroundings.run (ExceptT.mk (pure outcome) >>= next) = (.ok result, after)) :
    ∃ value, outcome = .ok value ∧ surroundings.run (next value) = (.ok result, after) := by
  obtain ⟨value, _, here, rest⟩ := eq_ok_of_run_bind succeeded
  rw [run_outcome, Prod.mk.injEq] at here
  obtain ⟨rfl, rfl⟩ := here
  exact ⟨value, rfl, rest⟩

theorem run_create_of_free (free : surroundings.cluster.resources.get? resource.key = none) :
    surroundings.run (Call.make (.create resource)) =
      (.ok (), { surroundings with cluster := surroundings.cluster.addResource resource }) := by
  rw [run_create, Cluster.create_of_free free]
  rfl

theorem free_of_run_create
    (created : surroundings.run (Call.make (.create resource)) = (.ok (), after)) :
    surroundings.cluster.resources.get? resource.key = none := by
  rw [run_create, onCluster] at created
  cases free : surroundings.cluster.resources.get? resource.key with
  | none => rfl
  | some stored =>
    rw [Cluster.create_of_taken free] at created
    cases created

theorem hasRoom_cons_iff_of_run_create
    (created : surroundings.run (Call.make (.create resource)) = (.ok (), after)) :
    surroundings.cluster.HasRoom (resource :: objects) ↔ after.cluster.HasRoom objects := by
  have room : surroundings.cluster.HasRoom [resource] :=
    ⟨by simp, by simpa using free_of_run_create created⟩
  exact (gains_of_run_create created).hasRoom_append_iff room

/-- Surroundings in which a version of a flow test is stored under a name. -/
def storing (surroundings : Surroundings) (name : String) (flowTest : FlowTest) : Surroundings :=
  { surroundings with cluster := surroundings.cluster.putFlowTest name flowTest }

/-- What is stored of a flow test makes no difference to what is gained. -/
theorem Gains.storing (gains : before.Gains objects after) (name : String)
    (flowTest : FlowTest) :
    (before.storing name flowTest).Gains objects (after.storing name flowTest) where
  listing := gains.listing
  flowTests := by
    simp only [Surroundings.storing, Cluster.putFlowTest, gains.flowTests]
  deletesFail := gains.deletesFail
  resources := gains.resources

theorem Gains.getFlow_eq (gains : before.Gains objects after)
    (flowless : ∀ flow, Resource.flow flow ∉ objects) (kind : PipelineKind)
    (namespaceName name : String) :
    after.cluster.getFlow kind namespaceName name =
      before.cluster.getFlow kind namespaceName name := by
  apply Option.ext
  intro flow
  rw [Cluster.getFlow_eq_some_iff, Cluster.getFlow_eq_some_iff, gains.resources]
  exact or_iff_left fun made => flowless flow made.1

theorem hasRoom_storing_iff {name : String} {flowTest : FlowTest} :
    (surroundings.storing name flowTest).cluster.HasRoom objects ↔
      surroundings.cluster.HasRoom objects :=
  ⟨fun room => ⟨room.distinct, room.free⟩, fun room => ⟨room.distinct, room.free⟩⟩

end Surroundings

namespace Slice

variable {slices : List Slice} {surroundings after : Surroundings}

theorem hasRoom_of_run_deploy (deployed : surroundings.run (deploy slices) = (.ok (), after)) :
    surroundings.cluster.HasRoom (slices.flatMap objects) := by
  induction slices generalizing surroundings with
  | nil => exact ⟨List.nodup_nil, by simp⟩
  | cons slice slices ih =>
    rw [deploy] at deployed
    obtain ⟨_, _, outputCreated, rest⟩ := Surroundings.eq_ok_of_run_bind deployed
    obtain ⟨_, _, flowCreated, rest⟩ := Surroundings.eq_ok_of_run_bind rest
    have room := (Surroundings.hasRoom_cons_iff_of_run_create flowCreated).mpr (ih rest)
    exact (Surroundings.hasRoom_cons_iff_of_run_create outputCreated).mpr room

/-- A deployment succeeds if there is room for all of its objects. -/
theorem exists_run_deploy (room : surroundings.cluster.HasRoom (slices.flatMap objects)) :
    ∃ after, surroundings.run (deploy slices) = (.ok (), after) := by
  induction slices generalizing surroundings with
  | nil => exact ⟨surroundings, rfl⟩
  | cons slice slices ih =>
    have outputCreated := Surroundings.run_create_of_free
      (room.free (.output slice.output) (by simp [objects]))
    have roomAfter := (Surroundings.hasRoom_cons_iff_of_run_create outputCreated).mp room
    have flowCreated := Surroundings.run_create_of_free
      (roomAfter.free (.flow slice.flow) (by simp))
    obtain ⟨after, deployed⟩ :=
      ih ((Surroundings.hasRoom_cons_iff_of_run_create flowCreated).mp roomAfter)
    refine ⟨after, ?_⟩
    rw [deploy, Surroundings.run_bind_of_ok _ outputCreated,
      Surroundings.run_bind_of_ok _ flowCreated, deployed]

end Slice

namespace SharedAggregator

variable {configuration : Configuration} {before after : Surroundings} {objects : List Resource}
  {part : Resource}

def parts (configuration : Configuration) : List Resource :=
  [.pod (pod configuration), .service (service configuration)]

theorem mem_parts_iff : part ∈ parts configuration ↔ Part configuration part := by
  constructor
  · intro member
    simp only [parts, List.mem_cons, List.not_mem_nil, or_false] at member
    rcases member with rfl | rfl
    · exact .pod
    · exact .service
  · intro belongs
    cases belongs <;> simp [parts]

/-- The parts of the log aggregator that a cluster does not have. -/
def missing (configuration : Configuration) (cluster : Cluster) : List Resource :=
  cluster.untaken (parts configuration)

theorem hasRoom_missing (cluster : Cluster) :
    cluster.HasRoom (missing configuration cluster) where
  distinct := by
    have distinct : ((parts configuration).map Resource.key).Nodup := by
      simp [parts, Resource.key, Resource.kind]
    exact distinct.sublist (List.filter_sublist.map _)
  free := fun _ member => (Cluster.mem_untaken_iff.mp member).2

/-- What is made for a flow test leaves the same of the log aggregator missing. -/
theorem missing_eq_of_gains (gains : before.Gains objects after)
    (apart : ∀ object ∈ objects, ¬ IsPlace configuration object.key) :
    missing configuration after.cluster = missing configuration before.cluster :=
  gains.untaken_eq fun made earlier part member same =>
    apart made earlier ⟨part, mem_parts_iff.mp member, same⟩

theorem run_ensure_gains (surroundings : Surroundings) (part : Resource) :
    ∃ after, surroundings.run (Provisioning.ensure part) = (.ok (), after) ∧
      surroundings.Gains (surroundings.cluster.untaken [part]) after := by
  refine ⟨_, Provisioning.run_ensure surroundings part, ?_⟩
  cases found : surroundings.cluster.resources.get? part.key with
  | some stored =>
    rw [Cluster.create_of_taken found, Cluster.refuse]
    simpa [Cluster.untaken, OrderedMap.contains, found] using surroundings.gains_nil
  | none =>
    rw [Cluster.create_of_free found]
    simpa [Cluster.untaken, OrderedMap.contains, found] using
      Surroundings.gains_of_run_create (Surroundings.run_create_of_free found)

theorem run_ensureAggregator (configuration : Configuration) (surroundings : Surroundings) :
    ∃ after, surroundings.run (Provisioning.ensureAggregator configuration) = (.ok (), after) ∧
      surroundings.Gains (missing configuration surroundings.cluster) after := by
  obtain ⟨middle, podEnsured, podGains⟩ :=
    run_ensure_gains surroundings (.pod (pod configuration))
  obtain ⟨after, serviceEnsured, serviceGains⟩ :=
    run_ensure_gains middle (.service (service configuration))
  refine ⟨after, ?_, ?_⟩
  · rw [Provisioning.ensureAggregator, Surroundings.run_bind_of_ok _ podEnsured, serviceEnsured]
  · have apart : ∀ made ∈ surroundings.cluster.untaken [.pod (pod configuration)],
        ∀ object ∈ [Resource.service (service configuration)], object.key ≠ made.key := by
      intro made earlier object member
      simp only [Cluster.mem_untaken_iff, List.mem_singleton] at earlier member
      obtain ⟨rfl, -⟩ := earlier
      subst member
      simp [Resource.key, Resource.kind]
    rw [podGains.untaken_eq apart] at serviceGains
    have together := podGains.append serviceGains
    rwa [Cluster.untaken, Cluster.untaken, ← List.filter_append] at together

end SharedAggregator

namespace Slice

variable {reference : PipelineFlow} {owner : Owner} {simulationLabels : Labels}
  {endpointBase namespaceName stem : String} {place : Nat} {slice : Slice} {slices : List Slice}
  {object : Resource}

theorem mem_objects_iff :
    object ∈ slice.objects ↔ object = .output slice.output ∨ object = .flow slice.flow := by
  simp [objects]

/-- Nothing that is deployed for slices is of a kind of the other objects of a flow test. -/
theorem kind_of_mem_objects (member : object ∈ slice.objects) :
    object.kind ∉ [Kind.configMap, .pod, .service] := by
  rcases mem_objects_iff.mp member with rfl | rfl
  · cases slice.output <;> simp [Resource.kind, PipelineOutput.kind, PipelineKind.outputKind]
  · cases slice.flow <;> simp [Resource.kind, PipelineFlow.kind, PipelineKind.flowKind]

theorem Fills.name_of_mem_objects
    (fills : slice.Fills reference owner namespaceName stem place)
    (member : object ∈ slice.objects) : object.key.name = slice.name := by
  rcases mem_objects_iff.mp member with rfl | rfl
  · simp [Resource.key, Resource.name, Resource.metadata, fills.metadata_output,
      fills.metadata_flow, Metadata.name, Metadata.ofNew]
  · simp [Resource.key, Resource.name, Resource.metadata, fills.metadata_flow, Metadata.name,
      Metadata.ofNew]

theorem key_output_ne_key_flow (output : PipelineOutput) (flow : PipelineFlow) :
    (Resource.output output).key ≠ (Resource.flow flow).key := by
  intro same
  have sameKind := congrArg ResourceKey.kind same
  cases output <;> cases flow <;> cases sameKind

/-- No two objects of a plan are known by the same key. -/
theorem nodup_keys_of_plan
    (planned : plan reference owner simulationLabels endpointBase = .ok slices) :
    ((slices.flatMap objects).map Resource.key).Nodup := by
  obtain ⟨namespaceName, located⟩ := namespaceName?_of_plan planned
  have names := nodup_names_of_plan located planned
  have named : ∀ slice ∈ slices, ∀ object ∈ slice.objects, object.key.name = slice.name := by
    intro slice member object made
    obtain ⟨place, found⟩ := List.mem_iff_getElem?.mp member
    exact (fills_of_plan located planned found).name_of_mem_objects made
  rw [List.map_flatMap, List.nodup_flatMap]
  constructor
  · intro slice _
    simpa [objects] using key_output_ne_key_flow slice.output slice.flow
  · refine (List.pairwise_map.mp names).imp_of_mem fun early late different => ?_
    intro key earlier later
    obtain ⟨object, made, rfl⟩ := List.mem_map.mp earlier
    obtain ⟨other, madeLater, same⟩ := List.mem_map.mp later
    apply different
    rw [← named _ early object made, ← named _ late other madeLater, same]

end Slice

end FlowTesting
