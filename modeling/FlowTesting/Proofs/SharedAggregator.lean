import FlowTesting.Proofs.Isolation

set_option autoImplicit false

/-!
# The shared log aggregator

All flow tests share one log aggregator, a pod and a service of a fixed name. Nothing that is
made for a single flow test can take their place, and no flow test is set running before the
creation of both has been tried.
-/

namespace FlowTesting

theorem Labels.get?_componentKey_aggregator (name : String) :
    (aggregator name).get? componentKey = some aggregatorComponent := by
  have free : componentKey ∉ [nameKey, createdByKey, managedByKey] := by decide
  rw [aggregator, get?_ownership_of_notMem free]
  decide

namespace SharedAggregator

variable {configuration : Configuration} {part : Resource}

/-- Whether a part of the log aggregator is known by a key. -/
def IsPlace (configuration : Configuration) (key : ResourceKey) : Prop :=
  ∃ part, Part configuration part ∧ part.key = key

theorem Part.kind_mem_aggregatorKinds (belongs : Part configuration part) :
    part.key.kind ∈ Cleanup.aggregatorKinds := by
  cases belongs with
  | pod => exact List.mem_cons_self
  | service => exact List.mem_cons_of_mem _ List.mem_cons_self

theorem Part.selected (belongs : Part configuration part) :
    Selector.selects Selector.aggregator part.labels = true := by
  rw [Selector.selects_aggregator_iff]
  cases belongs <;> exact Labels.get?_componentKey_aggregator _

theorem Part.eq_of_key_eq {other : Resource} (belongs : Part configuration part)
    (otherBelongs : Part configuration other) (same : other.key = part.key) : other = part := by
  cases belongs <;> cases otherBelongs <;> first | rfl | cases same

theorem Part.not_selected_flowTest (belongs : Part configuration part) (name : String) :
    Selector.selects (Selector.flowTest name) part.labels = false := by
  rw [Bool.eq_false_iff]
  intro selected
  have labeled := Selector.get?_of_selects_flowTest selected
  rw [belongs.isForeign] at labeled
  cases labeled

theorem Part.key_ne_flow_key (belongs : Part configuration part) (flow : PipelineFlow) :
    (Resource.flow flow).key ≠ part.key := by
  intro same
  have sameKind := congrArg ResourceKey.kind same
  cases belongs <;> cases flow <;> cases sameKind

theorem Part.key_ne_output_key (belongs : Part configuration part) (output : PipelineOutput) :
    (Resource.output output).key ≠ part.key := by
  intro same
  have sameKind := congrArg ResourceKey.kind same
  cases belongs <;> cases output <;> cases sameKind

/-- Nothing that is made for a flow test takes the place of the log aggregator. -/
theorem not_isPlace_of_product {flowTest : FlowTest} {owner : Owner} {resource : Resource}
    (product : Product flowTest owner resource) : ¬ IsPlace configuration resource.key := by
  rintro ⟨part, belongs, same⟩
  have sameKind := congrArg ResourceKey.kind same
  have sameName := congrArg ResourceKey.name same
  cases product with
  | configMap => cases belongs <;> cases sameKind
  | pod simulated =>
    unfold Simulation.pod at simulated
    split at simulated <;> cases simulated
    have named : Configuration.aggregatorName = Simulation.podName owner.uid := by
      cases belongs <;> exact sameName
    exact Simulation.podName_ne_aggregatorName owner.uid named.symm
  | output => exact belongs.key_ne_output_key _ same.symm
  | flow => exact belongs.key_ne_flow_key _ same.symm

end SharedAggregator

section Clusters

variable {configuration : Configuration} {cluster : Cluster}

/-- Whether both parts of the log aggregator are in place. -/
def Cluster.HasAggregator (configuration : Configuration) (cluster : Cluster) : Prop :=
  ∀ part, SharedAggregator.Part configuration part →
    cluster.resources.get? part.key = some part

/-- Whether nothing but a part of the log aggregator is in the place of that part. -/
def Cluster.IsReserved (configuration : Configuration) (cluster : Cluster) : Prop :=
  ∀ part, SharedAggregator.Part configuration part →
    ∀ stored, cluster.resources.get? part.key = some stored → stored = part

/-- Whether a flow test is running, being deleted or not. -/
def Cluster.HasRunning (cluster : Cluster) : Prop :=
  ∃ name stored, cluster.flowTests.get? name = some stored ∧ stored.phase? = some .running

theorem Cluster.HasRunning.inUse (running : cluster.HasRunning) :
    Cleanup.aggregatorInUse cluster.flowTests.values = true := by
  obtain ⟨name, stored, found, running⟩ := running
  exact Cleanup.aggregatorInUse_values_iff.mpr
    ⟨name, stored, found, by simp [Cleanup.needsAggregator, running]⟩

end Clusters

/-- Whether an object is said to exist already only if one is stored under its key. -/
def Occurrence.IsHonest (occurrence : Occurrence) : Prop :=
  ∀ before resource (failure : Failure) after,
    occurrence = ⟨before, .call (.create resource), .error failure, after⟩ →
      failure.isAlreadyExists = true → ∃ stored, before.resources.get? resource.key = some stored

theorem Occurrence.IsAnswered.isHonest {occurrence : Occurrence}
    (answered : occurrence.IsAnswered) : occurrence.IsHonest := by
  intro before resource failure after same _
  obtain ⟨listing, created⟩ := answered before (.create resource) (.error failure) after same
  cases found : before.resources.get? resource.key with
  | some stored => exact ⟨stored, rfl⟩
  | none =>
    simp [Surroundings.answer, Surroundings.onCluster, Cluster.create_of_free found] at created

namespace Provisioning

/-- Whether the creation of an object has been tried, with an outcome that is taken for
success. -/
def Ensured (past : List Occurrence) (resource : Resource) : Prop :=
  ∃ before outcome after,
    ⟨before, .call (.create resource), outcome, after⟩ ∈ past ∧ tolerateExisting outcome = .ok ()

theorem Ensured.mono {past later : List Occurrence} {resource : Resource}
    (ensured : Ensured past resource) (kept : past ⊆ later) : Ensured later resource := by
  obtain ⟨before, outcome, after, member, tolerated⟩ := ensured
  exact ⟨before, outcome, after, kept member, tolerated⟩

theorem ensure_yields (resource : Resource) (past : List Occurrence) (cluster : Cluster) :
    Procedure.Yields (fun _ later _ => past ⊆ later ∧ Ensured later resource) (ensure resource)
      past cluster := by
  intro outcome after answers
  refine ⟨trivial, ?_⟩
  intro value tolerated
  exact ⟨List.subset_append_left _ _, cluster, outcome, after, by simp, tolerated⟩

theorem ensureAggregator_yields (configuration : Configuration) (past : List Occurrence)
    (cluster : Cluster) :
    Procedure.Yields
      (fun _ later _ => ∀ part, SharedAggregator.Part configuration part → Ensured later part)
      (ensureAggregator configuration) past cluster := by
  rw [ensureAggregator, Procedure.yields_bind]
  refine (ensure_yields _ past cluster).mono (fun _ middle cluster first => ?_)
  refine (ensure_yields _ middle cluster).mono (fun _ later cluster second => ?_)
  intro part belongs
  cases belongs with
  | pod => exact first.2.mono second.1
  | service => exact second.2

/-- Provisioning succeeds only after the log aggregator has been ensured. -/
theorem run_ensures (flowTest : FlowTest) (configuration : Configuration)
    (past : List Occurrence) (cluster : Cluster) :
    Procedure.Yields
      (fun _ later _ => ∀ part, SharedAggregator.Part configuration part → Ensured later part)
      (run flowTest configuration) past cluster := by
  refine Procedure.yields_outcome_bind (fun owner _ => ?_)
  refine Procedure.yields_outcome_bind (fun kind _ => ?_)
  refine Procedure.yields_bind_extended (fun referencePod past cluster _ => ?_)
  refine Procedure.yields_outcome_bind (fun pod _ => ?_)
  refine Procedure.yields_bind_extended (fun _ past cluster _ => ?_)
  refine Procedure.yields_bind_extended (fun _ past cluster _ => ?_)
  rw [Procedure.yields_bind]
  refine (ensureAggregator_yields configuration past cluster).mono
    (fun _ past cluster ensured => ?_)
  exact (Procedure.yields_extended _).mono
    (fun _ _ _ kept part belongs => (ensured part belongs).mono kept)

end Provisioning

namespace Controller

/-- Whether a request sets a flow test running only if that was running, or if the log
aggregator has been ensured for it. -/
def Supplies (configuration : Configuration) (flowTest : FlowTest) (past : List Occurrence)
    (asked : ControllerRequest) : Prop :=
  ∀ other status, asked = .call (.patchStatus other status) → status.phase? = some .running →
    flowTest.isDeleting = false ∧ (flowTest.phase? = some .running ∨
      flowTest.phase? = some .created ∧
        ∀ part, SharedAggregator.Part configuration part → Provisioning.Ensured past part)

end Controller

end FlowTesting
