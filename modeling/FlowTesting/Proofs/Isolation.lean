import FlowTesting.Proofs.DerivedNames
import FlowTesting.Proofs.Execution.Listing
import FlowTesting.Proofs.Reconcile
import FlowTesting.Proofs.Run

set_option autoImplicit false

/-!
# Isolation of flow tests

Which objects of one flow test the reconciliations of another one can reach. Objects are
selected by the name of their flow test in all namespaces, so flow tests are kept apart by
their names, and their slices by the identifiers in their names.
-/

namespace FlowTesting

/-- No object that is made for a flow test has the name of a slice of another one. -/
theorem Product.name_ne_nameFor {flowTest : FlowTest} {owner : Owner} {resource : Resource}
    (product : Product flowTest owner resource) {uid : String} (different : owner.uid ≠ uid)
    (testId : Nat) (testType : TestType) : resource.name ≠ Slice.nameFor uid testId testType := by
  cases product with
  | configMap => exact Simulation.configMapName_ne_nameFor owner.uid uid testId testType
  | pod simulated =>
    unfold Simulation.pod at simulated
    split at simulated <;> cases simulated
    exact Simulation.podName_ne_nameFor owner.uid uid testId testType
  | output =>
    intro same
    rw [Resource.name, Resource.metadata, Slice.metadata_output_build] at same
    exact different ((Slice.nameFor_inj same).1)
  | flow =>
    intro same
    rw [Resource.name, Resource.metadata, Slice.metadata_flow_build] at same
    exact different ((Slice.nameFor_inj same).1)

/-- Whether an object has been made for a flow test, whatever has become of it. -/
def Resource.MadeFor (resource : Resource) (flowTest : FlowTest) (owner : Owner) : Prop :=
  ∃ product, Product flowTest owner product ∧ resource.Continues product

theorem Resource.MadeFor.labels_eq {resource : Resource} {flowTest : FlowTest} {owner : Owner}
    (made : resource.MadeFor flowTest owner) :
    resource.labels.get? Labels.flowTestKey = some owner.name := by
  obtain ⟨product, makes, continues⟩ := made
  rw [continues.sameLabels]
  exact makes.isLabeledFor

theorem Resource.MadeFor.name_ne_nameFor {resource : Resource} {flowTest : FlowTest} {owner : Owner}
    (made : resource.MadeFor flowTest owner) {uid : String} (different : owner.uid ≠ uid)
    (testId : Nat) (testType : TestType) : resource.name ≠ Slice.nameFor uid testId testType := by
  obtain ⟨product, makes, continues⟩ := made
  have sameName : resource.name = product.name := congrArg ResourceKey.name continues.sameKey
  exact sameName ▸ makes.name_ne_nameFor different testId testType

theorem Cleanup.aggregatorInUse_values_iff {cluster : Cluster} :
    aggregatorInUse cluster.flowTests.values = true ↔ ∃ name stored,
      cluster.flowTests.get? name = some stored ∧ needsAggregator stored = true := by
  simp only [aggregatorInUse, List.any_eq_true, OrderedMap.mem_values_iff]
  constructor
  · intro inUse
    obtain ⟨stored, ⟨name, found⟩, needs⟩ := inUse
    exact ⟨name, stored, found, needs⟩
  · intro inUse
    obtain ⟨name, stored, found, needs⟩ := inUse
    exact ⟨stored, ⟨name, found⟩, needs⟩

/-- Whether the log aggregator is needed depends on what is deleted and on the phases only. -/
theorem Cluster.Answers.aggregatorInUse_eq {before after : Cluster} {asked : ControllerRequest}
    {reply : controllerInterface.Reply asked} (answers : before.Answers asked reply after)
    (storesNothing : ∀ flowTest status, asked ≠ .call (.patchStatus flowTest status)) :
    Cleanup.aggregatorInUse after.flowTests.values =
      Cleanup.aggregatorInUse before.flowTests.values := by
  have needs : ∀ {name : String} {stored next : FlowTest},
      FlowTest.Becomes asked name stored next →
        Cleanup.needsAggregator next = Cleanup.needsAggregator stored := by
    intro name stored next becomes
    have sameStatus : next.status = stored.status := by
      refine becomes.status.resolve_right ?_
      intro stored
      obtain ⟨flowTest, status, stores, -⟩ := stored
      exact storesNothing flowTest status stores
    rw [Cleanup.needsAggregator, Cleanup.needsAggregator, becomes.sameDeletion,
      ← next.phase?_status, sameStatus, stored.phase?_status]
  rw [Bool.eq_iff_iff, Cleanup.aggregatorInUse_values_iff, Cleanup.aggregatorInUse_values_iff]
  constructor
  · intro inUse
    obtain ⟨name, next, found, needed⟩ := inUse
    obtain ⟨stored, foundBefore, becomes⟩ := answers.becomes_to_stored found
    exact ⟨name, stored, foundBefore, needs becomes ▸ needed⟩
  · intro inUse
    obtain ⟨name, stored, found, needed⟩ := inUse
    obtain ⟨next, foundAfter, becomes⟩ := answers.becomes_of_stored found
    exact ⟨name, next, foundAfter, (needs becomes).trans needed⟩

/-- What holds of an object of another flow test between two requests of a reconciliation. -/
structure Aside (flowTest : FlowTest) (start : Cluster) (resource : Resource)
    (past : List Occurrence) (cluster : Cluster) : Prop where
  coherent : cluster.IsCoherent
  stored : cluster.resources.get? resource.key = some resource
  unlisted : ∀ (kind : PipelineKind) (flows : List PipelineFlow),
    Answered past (.listFlows kind (Selector.flowTest flowTest.name)) flows →
      ∀ flow ∈ flows, (Resource.flow flow).key ≠ resource.key
  inUse : flowTest.isDeleting = true ∨ flowTest.phase? = some .completed →
    Cleanup.aggregatorInUse cluster.flowTests.values =
      Cleanup.aggregatorInUse start.flowTests.values
  checked : flowTest.isDeleting = true ∨ flowTest.phase? = some .completed →
    ∀ flowTests : List FlowTest, Answered past .listFlowTests flowTests →
      Cleanup.aggregatorInUse flowTests = Cleanup.aggregatorInUse start.flowTests.values

/-- Whether an object is out of reach: its owner has another name than the flow test, and it
does not pass for a part of the log aggregator unless that is in use. -/
structure OutOfReach (flowTest : FlowTest) (start : Cluster) (resource : Resource) : Prop where
  unnamed : resource.labels.get? Labels.flowTestKey ≠ some (Selector.leading flowTest.name)
  needed : resource.labels.get? Labels.componentKey = some Labels.aggregatorComponent →
    Cleanup.aggregatorInUse start.flowTests.values = true

namespace Aside

variable {configuration : Configuration} {now : Timestamp} {flowTest : FlowTest}
  {start before after : Cluster} {resource : Resource} {past : List Occurrence}
  {asked : ControllerRequest} {reply : controllerInterface.Reply asked}

theorem not_takes (aside : Aside flowTest start resource past before)
    (outOfReach : OutOfReach flowTest start resource)
    (asks : Controller.Asks configuration now flowTest start before past asked) :
    ¬ Resource.Takes resource.key resource asked := by
  intro takes
  rcases takes with same | same | selected
  · obtain ⟨kind, flows, listed, member⟩ := asks.retire (.inl rfl)
    exact aside.unlisted kind flows listed _ member same
  · obtain ⟨kind, flows, listed, member⟩ := asks.retire (.inr rfl)
    exact aside.unlisted kind flows listed _ member same
  · have selects := ((Bool.and_eq_true _ _).mp selected).2
    obtain ⟨cleansUp, rfl | ⟨rfl, flowTests, answered, unused⟩⟩ := asks.deleteLabeled
    · exact outOfReach.unnamed (Selector.get?_of_selects_flowTest selects)
    · have needed := outOfReach.needed (Selector.selects_aggregator_iff.mp selects)
      rw [aside.checked cleansUp flowTests answered, needed] at unused
      cases unused

theorem step (aside : Aside flowTest start resource past before)
    (outOfReach : OutOfReach flowTest start resource)
    (asks : Controller.Asks configuration now flowTest start before past asked)
    (answers : before.Answers asked reply after) :
    Aside flowTest start resource (past ++ [⟨before, asked, reply, after⟩]) after := by
  refine ⟨answers.isCoherent aside.coherent,
    (answers.remains aside.stored).resolve_right (aside.not_takes outOfReach asks), ?_, ?_, ?_⟩
  · intro kind flows answered flow member same
    rcases answered.of_append with earlier | ⟨_, _, here⟩
    · exact aside.unlisted kind flows earlier flow member same
    · cases here
      obtain ⟨⟨_, impossible⟩, -⟩ | ⟨listed, -⟩ := answers.listFlows
      · cases impossible
      obtain rfl := Except.ok.inj listed
      obtain ⟨key, -, stored, selected⟩ := Cluster.mem_listFlows_iff.mp member
      rw [← aside.coherent _ _ stored, same, aside.stored, Option.some.injEq] at stored
      rw [stored] at outOfReach
      exact outOfReach.unnamed (Selector.get?_of_selects_flowTest selected)
  · intro cleansUp
    refine (answers.aggregatorInUse_eq ?_).trans (aside.inUse cleansUp)
    intro other status same
    subst same
    exact asks.not_cleaningUp cleansUp
  · intro cleansUp flowTests answered
    rcases answered.of_append with earlier | ⟨_, _, here⟩
    · exact aside.checked cleansUp flowTests earlier
    · cases here
      obtain ⟨⟨_, impossible⟩, -⟩ | ⟨listed, -⟩ := answers.listFlowTests
      · cases impossible
      obtain rfl := Except.ok.inj listed
      exact aside.inUse cleansUp

end Aside

section Listing

variable {name : String}

theorem Index.haveLogs_filter {indexes : List Index} {wanted : String} (other : wanted ≠ name) :
    haveLogs (indexes.filter (fun index => index.name != name)) wanted =
      haveLogs indexes wanted := by
  rw [Bool.eq_iff_iff]
  simp only [haveLogs, List.any_eq_true, List.mem_filter, Bool.and_eq_true, beq_iff_eq, bne_iff_ne]
  constructor
  · intro haveLogs
    obtain ⟨index, ⟨member, -⟩, named, delivered⟩ := haveLogs
    exact ⟨index, member, named, delivered⟩
  · intro haveLogs
    obtain ⟨index, member, rfl, delivered⟩ := haveLogs
    exact ⟨index, ⟨member, other⟩, rfl, delivered⟩

theorem Verification.retireDelivered_filter {policy : PassPolicy} {reference : PipelineFlow}
    {indexes : List Index} {slices : List PipelineFlow}
    (others : ∀ slice ∈ slices, slice.name ≠ name) (progress : Progress) :
    retireDelivered policy reference (indexes.filter (fun index => index.name != name)) progress
      slices = retireDelivered policy reference indexes progress slices := by
  induction slices generalizing progress with
  | nil => rfl
  | cons slice rest ih =>
    obtain ⟨other, othersRest⟩ := List.forall_mem_cons.mp others
    simp only [retireDelivered, delivered?, Index.haveLogs_filter other, ih othersRest]

theorem Verification.run_ignores {flowTest : FlowTest} {policy : PassPolicy} {start : Cluster}
    (others : ∀ kind, ∀ flow ∈ start.listFlows kind (Selector.flowTest flowTest.name),
      flow.name ≠ name) : (run flowTest policy).Ignores name start := by
  rw [run]
  cases flowTest.pipelineKind with
  | error failure => trivial
  | ok kind =>
    change Procedure.Ignores name (flowTest.getReference kind >>= _) start
    rw [FlowTest.getReference, bind_assoc]
    refine Procedure.ignores_make_bind (.getFlow _ _ _) (by simp) (fun found after answers => ?_)
    obtain ⟨⟨_, impossible⟩, -⟩ | ⟨-, rfl⟩ := answers.getFlow
    · cases impossible
    cases found with
    | none => trivial
    | some reference =>
      refine Procedure.ignores_make_bind (.listFlows kind _) (by simp) (fun slices after answers => ?_)
      obtain ⟨⟨_, impossible⟩, -⟩ | ⟨listed, rfl⟩ := answers.listFlows
      · cases impossible
      obtain rfl := Except.ok.inj listed
      refine Procedure.ignores_listing_bind (fun indexes => ?_) (fun indexes after => ?_)
      · simp only [retireDelivered_filter (others kind)]
      · refine Procedure.Makes.ignores ?_ after
        exact (retireDelivered_makes (by simp) (by simp) _).bind
          (fun progress => finish_makes (by simp))

theorem Controller.Notes.not_listing {flowTest : FlowTest} {phases : List FlowTestPhase}
    {reasons : List EventReason} {asked : ControllerRequest}
    (notes : Notes flowTest phases reasons asked) : asked ≠ .call .listIndexes := by
  cases notes <;> exact nofun

theorem Controller.verify_ignores {configuration : Configuration} {flowTest : FlowTest}
    {start : Cluster} (next : Duration)
    (others : ∀ kind, ∀ flow ∈ start.listFlows kind (Selector.flowTest flowTest.name),
      flow.name ≠ name) : (verify configuration flowTest next).Ignores name start :=
  Procedure.Ignores.bind (Verification.run_ignores others).lift (fun outcome cluster =>
    ((afterPass_makes flowTest next outcome).mono (fun _ => Notes.not_listing)).ignores cluster)

/-- A reconciliation ignores the index of a name that no flow of the test has. -/
theorem Controller.reconcile_ignores (configuration : Configuration) (now : Timestamp)
    {flowTest : FlowTest} {start : Cluster}
    (others : ∀ kind, ∀ flow ∈ start.listFlows kind (Selector.flowTest flowTest.name),
      flow.name ≠ name) : (reconcile configuration now flowTest).Ignores name start := by
  by_cases running : flowTest.isDeleting = false ∧ flowTest.phase? = some .running
  · obtain ⟨undeleted, running⟩ := running
    simp only [reconcile, undeleted, running, checkRunning, Bool.false_eq_true, ↓reduceIte]
    split
    next => exact ((complete_makes flowTest).mono (fun _ => Notes.not_listing)).ignores start
    next => trivial
    next next _ => exact verify_ignores next others
  · refine ((reconcile_permits configuration now flowTest start).mono ?_ (fun _ _ _ => id)).ignores
    rintro past ⟨before, asked, reply, after⟩ ⟨asks, -⟩ rfl
    exact running asks.listIndexes

end Listing

/-- Flow tests of different names are kept apart. An object that was made for another flow test
is neither deleted nor changed by a reconciliation, unless it passes for a part of the log
aggregator when nobody needs that. Its name is the one of no slice of this flow test; and unless
a flow that is selected for this flow test has its name all the same, every execution remains
one, step by step, when its index is taken out of what the log aggregator lists. -/
theorem flow_tests_isolated {configuration : Configuration} {now : Timestamp}
    {flowTest other : FlowTest} {owner : Owner} {resource : Resource}
    {start finish : Cluster} {occurrences : List Occurrence}
    {rest : Program controllerInterface (Except Failure Action)}
    (execution : Execution (Controller.reconcile configuration now flowTest).run start occurrences
      rest finish)
    (coherent : start.IsCoherent) (made : resource.MadeFor other owner)
    (different : flowTest.metadata.uid? ≠ some owner.uid)
    (otherName : owner.name ≠ Selector.leading flowTest.name)
    (needed : resource.labels.get? Labels.componentKey = some Labels.aggregatorComponent →
      Cleanup.aggregatorInUse start.flowTests.values = true)
    (stored : start.resources.get? resource.key = some resource) :
    (∀ occurrence ∈ occurrences, occurrence.after.resources.get? resource.key = some resource) ∧
    (∀ uid, flowTest.metadata.uid? = some uid →
      ∀ testId testType, resource.name ≠ Slice.nameFor uid testId testType) ∧
    ((∀ kind, ∀ flow ∈ start.listFlows kind (Selector.flowTest flowTest.name),
        flow.name ≠ resource.name) →
      Execution (Controller.reconcile configuration now flowTest).run start
        (occurrences.map (Occurrence.withoutIndex resource.name)) rest finish) := by
  have outOfReach : OutOfReach flowTest start resource :=
    ⟨by simpa [made.labels_eq] using otherName, needed⟩
  have aside : Aside flowTest start resource [] start :=
    ⟨coherent, stored, by simp [Answered], fun _ => rfl, by simp [Answered]⟩
  have assures : (Controller.reconcile configuration now flowTest).Assures
      (fun _ occurrence => occurrence.after.resources.get? resource.key = some resource)
      (fun _ _ _ => True) [] start := by
    refine ((Controller.reconcile_permits configuration now flowTest start).keeping
      (Aside flowTest start resource) ?_ aside).mono (fun _ _ => id) (fun _ _ _ _ => trivial)
    intro past occurrence aside permitted lawful
    have steps := aside.step outOfReach permitted.1 lawful
    exact ⟨steps.stored, steps⟩
  refine ⟨fun occurrence member => ?_, fun uid identified => made.name_ne_nameFor ?_, fun others =>
    execution.withoutIndex (Controller.reconcile_ignores configuration now others)⟩
  · obtain ⟨earlier, later, split⟩ := List.append_of_mem member
    exact (execution.assured assures).1 earlier occurrence later split
  · intro same
    subst same
    exact different identified

namespace Sample

def among (phase : FlowTestPhase) (resources : List Resource) : Cluster :=
  (resources.foldl Cluster.addResource {}).addFlowTest (watching phase 1)

/-- What a reconciliation makes of that when the log aggregator lists some indexes. -/
def reconciled (phase : FlowTestPhase) (resources : List Resource) (indexes : List Index) :
    Cluster :=
  (Surroundings.run ⟨among phase resources, .ok indexes⟩
    (Controller.reconcile {} ⟨100, 0⟩ (watching phase 1))).2.cluster

def flags (cluster : Cluster) : List (List Bool) :=
  cluster.flowTests.values.map (·.status.matchStatus)

/-- A simulation for another flow test, whose reference pod is labelled as a part of the log
aggregator. -/
def disguised : Pod where
  metadata := .ofNew "other-simulation" "default"
    (Labels.ownership Simulation.componentName (some ⟨"another", "other"⟩)
      [.ofList [(Labels.componentKey, Labels.aggregatorComponent)]])
  spec? := some
    { containers := [Simulation.container "main" ⟨"image", "tag", "Always"⟩]
      volumes? := some
        [{ name := Simulation.volumeName, configMap? := some { name := "other-configmap" } }] }

theorem pod_disguised :
    Simulation.pod flowTest ⟨"another", "other"⟩
      { pod with
        metadata := .ofNew "pod" "default"
          (.ofList [(Labels.componentKey, Labels.aggregatorComponent)]) }
      ⟨"image", "tag", "Always"⟩ = .ok disguised := rfl

theorem get?_among (phase : FlowTestPhase) (others : List Resource) (last : Resource) :
    (among phase (others ++ [last])).resources.get? last.key = some last := by
  rw [among, List.foldl_append]
  exact OrderedMap.get?_insert_self _ _ _

theorem mem_of_get?_among {phase : FlowTestPhase} {resources : List Resource} {key : ResourceKey}
    {stored : Resource} (found : (among phase resources).resources.get? key = some stored) :
    stored ∈ resources := by
  have origin : ∀ cluster : Cluster,
      (resources.foldl Cluster.addResource cluster).resources.get? key = some stored →
        stored ∈ resources ∨ cluster.resources.get? key = some stored := by
    clear found
    induction resources with
    | nil => exact fun _ found => .inr found
    | cons resource resources ih =>
      intro cluster found
      rcases ih (cluster.addResource resource) found with later | here
      · exact .inl (List.mem_cons_of_mem _ later)
      · rw [Cluster.addResource] at here
        by_cases same : key = resource.key
        · rw [same, OrderedMap.get?_insert_self] at here
          exact .inl (Option.some.inj here ▸ List.mem_cons_self)
        · exact .inr ((OrderedMap.get?_insert_of_ne same).symm.trans here)
  rcases origin {} found with member | impossible
  · exact member
  · cases impossible

theorem isCoherent_among (phase : FlowTestPhase) (resources : List Resource) :
    (among phase resources).IsCoherent := by
  have folded : ∀ cluster : Cluster, cluster.IsCoherent →
      (resources.foldl Cluster.addResource cluster).IsCoherent := by
    induction resources with
    | nil => exact fun _ coherent => coherent
    | cons resource resources ih => exact fun _ coherent => ih _ (coherent.addResource resource)
  exact folded {} (fun _ _ => nofun)

end Sample

/-- While the sample flow test is completed and its slice deleted, the slice of a flow test of
another name stays. -/
theorem flow_tests_isolated_of_other_name :
    let other := Resource.flow (Sample.slice "default" ⟨"another", "other"⟩)
    let cluster := Sample.among .running
      [.flow (Sample.flow ["first"]), .flow (Sample.slice "default" ⟨"test", "uid"⟩), other]
    let procedure := Controller.reconcile {} ⟨100, 0⟩ (Sample.watching .running 1)
    ∃ occurrences rest finish,
      Execution procedure.run cluster occurrences rest finish ∧
      (∀ occurrence ∈ occurrences, occurrence.after.resources.get? other.key = some other) ∧
      Execution procedure.run cluster (occurrences.map (Occurrence.withoutIndex other.name)) rest
        finish := by
  intro other cluster procedure
  let own := Sample.slice "default" ⟨"test", "uid"⟩
  let listing : List Index :=
    [{ name := own.name, logCount := 1 }, { name := other.name, logCount := 1 }]
  obtain ⟨occurrences, execution⟩ := Execution.of_run ⟨cluster, .ok listing⟩ procedure
  have made : other.MadeFor Sample.flowTest ⟨"another", "other"⟩ := ⟨other, .flow, .refl _⟩
  have unlabeled : other.labels.get? Labels.componentKey = none :=
    Labels.get?_componentKey_slice "flow" ⟨"another", "other"⟩ 0 .matchRule
  have stored : cluster.resources.get? other.key = some other :=
    Sample.get?_among .running [.flow (Sample.flow ["first"]), .flow own] other
  have isolated := flow_tests_isolated execution (Sample.isCoherent_among _ _) made (by decide)
    (by decide) (fun labeled => absurd labeled (unlabeled ▸ nofun)) stored
  refine ⟨occurrences, _, _, execution, isolated.1, isolated.2.2 ?_⟩
  intro kind flow selected named
  obtain ⟨key, -, found, selected⟩ := Cluster.mem_listFlows_iff.mp selected
  have labeled := Selector.get?_of_selects_flowTest selected
  have member := Sample.mem_of_get?_among found
  simp only [List.mem_cons, List.not_mem_nil, or_false] at member
  rcases member with same | same | same
  · obtain rfl := Resource.flow.inj same
    cases labeled
  · obtain rfl := Resource.flow.inj same
    exact absurd named (by decide)
  · have ofOther : (Resource.flow flow).labels.get? Labels.flowTestKey = some "another" :=
      same ▸ made.labels_eq
    exact absurd (labeled.symm.trans ofOther) (by decide)

/-- Different identifiers alone do not keep flow tests apart. Of a flow test of the same name, a
slice is deleted, and what it has delivered sets a flag. A simulation of any flow test goes with
the log aggregator when its reference pod is labelled as a part of that. And what a slice of any
flow test has delivered sets a flag when a flow of its name is selected elsewhere. -/
theorem flow_tests_not_isolated_by_uid :
    (∃ owner resource, resource.MadeFor Sample.flowTest owner ∧ owner.uid ≠ "uid" ∧
      let resources := [.flow (Sample.flow ["first"]), resource]
      let delivered := Sample.reconciled .running resources [{ name := resource.name, logCount := 1 }]
      (Sample.among .running resources).resources.get? resource.key = some resource ∧
        delivered.resources.get? resource.key = none ∧
        Sample.flags delivered = [[true]] ∧
        Sample.flags (Sample.reconciled .running resources []) = [[false]]) ∧
    (∃ owner resource, resource.MadeFor Sample.flowTest owner ∧ owner.uid ≠ "uid" ∧
      owner.name ≠ "test" ∧
      (Sample.among .completed [resource]).resources.get? resource.key = some resource ∧
        (Sample.reconciled .completed [resource] []).resources.get? resource.key = none) ∧
    ∃ owner resource, resource.MadeFor Sample.flowTest owner ∧ owner.uid ≠ "uid" ∧
      owner.name ≠ "test" ∧
      let elsewhere := Resource.flow (Sample.slice "elsewhere" ⟨"test", owner.uid⟩)
      let resources := [.flow (Sample.flow ["first"]), elsewhere, resource]
      Sample.flags (Sample.reconciled .running resources
        [{ name := resource.name, logCount := 1 }]) = [[true]] ∧
      Sample.flags (Sample.reconciled .running resources []) = [[false]] := by
  let reference : Resource := .flow (Sample.flow ["first"])
  let sameName : Resource := .flow (Sample.slice "default" ⟨"test", "other"⟩)
  let otherName : Resource := .flow (Sample.slice "default" ⟨"another", "other"⟩)
  let elsewhere : Resource := .flow (Sample.slice "elsewhere" ⟨"test", "other"⟩)
  have computed :
      let delivered := [{ name := "other-0-match", logCount := 1 }]
      let sharing := Sample.reconciled .running [reference, sameName]
      let passing := Sample.reconciled .completed [.pod Sample.disguised] []
      let resembling := Sample.reconciled .running [reference, elsewhere, otherName]
      ((sharing delivered).resources.get? sameName.key).isNone ∧
        Sample.flags (sharing delivered) = [[true]] ∧ Sample.flags (sharing []) = [[false]] ∧
        (passing.resources.get? (Resource.pod Sample.disguised).key).isNone ∧
        Sample.flags (resembling delivered) = [[true]] ∧
        Sample.flags (resembling []) = [[false]] := by
    decide +kernel
  obtain ⟨deleted, counted, clear, passed, alsoCounted, alsoClear⟩ := computed
  refine ⟨⟨⟨"test", "other"⟩, sameName, ⟨sameName, .flow, .refl _⟩, by decide, ?_⟩,
    ⟨⟨"another", "other"⟩, .pod Sample.disguised, ⟨_, .pod Sample.pod_disguised, .refl _⟩, by decide,
      by decide, ?_⟩,
    ⟨⟨"another", "other"⟩, otherName, ⟨otherName, .flow, .refl _⟩, by decide, by decide, ?_⟩⟩
  · exact ⟨Sample.get?_among .running [reference] sameName, Option.isNone_iff_eq_none.mp deleted,
      counted, clear⟩
  · exact ⟨Sample.get?_among .completed [] _, Option.isNone_iff_eq_none.mp passed⟩
  · exact ⟨alsoCounted, alsoClear⟩

end FlowTesting
