import FlowTesting.Proofs.CreationOrder
import FlowTesting.Proofs.Interleaving
import FlowTesting.Proofs.Run

set_option autoImplicit false

/-!
# Routing

The flow of a slice delivers to an output of its own name. Since outputs come before their flows
and go after them, no flow of a slice is ever without its output, whatever the order in which the
calls of different flow tests reach the cluster.
-/

namespace FlowTesting

section Flows

variable {flow : PipelineFlow} {status : FlowStatus}

@[simp]
theorem PipelineFlow.name_withStatus : (flow.withStatus status).name = flow.name := by
  cases flow <;> rfl

@[simp]
theorem PipelineFlow.outputRefs_withStatus :
    (flow.withStatus status).outputRefs = flow.outputRefs := by
  cases flow <;> rfl

@[simp]
theorem PipelineFlow.outputKey_withStatus :
    (flow.withStatus status).outputKey = flow.outputKey := by
  cases flow <;> rfl

theorem Resource.isLabeledFor_withStatus {name : String} :
    (Resource.flow (flow.withStatus status)).IsLabeledFor name ↔
      (Resource.flow flow).IsLabeledFor name := by
  rw [Resource.IsLabeledFor, (Resource.continues_withStatus flow status).sameLabels,
    Resource.IsLabeledFor]

/-- Whether a flow is another one, up to its status. -/
def PipelineFlow.Continues (flow old : PipelineFlow) : Prop :=
  flow = old ∨ ∃ status, flow = old.withStatus status

theorem Cluster.Answers.flow_provenance {before after : Cluster} {asked : ControllerRequest}
    {reply : controllerInterface.Reply asked} (answers : before.Answers asked reply after)
    {key : ResourceKey} (found : after.resources.get? key = some (.flow flow)) :
    (∃ old, before.resources.get? key = some (.flow old) ∧ flow.Continues old) ∨
      asked = .call (.create (.flow flow)) := by
  rcases answers.provenance found with foundBefore | ⟨creates, -⟩ | ⟨_, old, -, -, foundBefore, same⟩
  · exact .inl ⟨flow, foundBefore, .inl rfl⟩
  · exact .inr creates
  · exact .inl ⟨old, foundBefore, .inr ⟨_, Resource.flow.inj same⟩⟩

theorem PipelineFlow.Continues.isLabeledFor_iff {old : PipelineFlow} (continues : flow.Continues old)
    {name : String} :
    (Resource.flow flow).IsLabeledFor name ↔ (Resource.flow old).IsLabeledFor name := by
  obtain rfl | ⟨status, rfl⟩ := continues
  · rfl
  · exact Resource.isLabeledFor_withStatus

end Flows

/-- Whether an output is stored under a key and can be deleted by its labels for no flow test
but the one of this name. -/
def Cluster.HasOutput (cluster : Cluster) (key : ResourceKey) (name : String) : Prop :=
  ∃ output, cluster.resources.get? key = some (.output output) ∧
    ∀ other, (Resource.output output).IsLabeledFor other → other = name

/-- Whether every flow that is labelled for a flow test delivers to the output of its own name,
and that output is there. -/
def Cluster.IsRouted (cluster : Cluster) : Prop :=
  ∀ key flow name, cluster.resources.get? key = some (.flow flow) →
    (Resource.flow flow).IsLabeledFor name →
      flow.outputRefs = [flow.name] ∧ cluster.HasOutput flow.outputKey name

/-- Where a task stands with the cluster: the outputs that it has made are there, and the flows
that it has deleted are gone. -/
structure Task.Stands (cluster : Cluster) (name : String) (task : Task) : Prop where
  named : task.flowTest.name = name
  plain : ',' ∉ name.toList
  conducts : task.rest.Conducts (Orderly task.flowTest) task.past
  labeled : ∀ occurrence ∈ task.past, ∀ flow,
    occurrence.request = .call (.create (.flow flow)) → (Resource.flow flow).IsLabeledFor name
  made : task.flowTest.Provisions → ∀ (slice : Slice) (owner : Owner) (kind : PipelineKind),
    slice.IsBuilt owner kind → owner.name = name →
      Performed task.past (.create (.output slice.output)) →
        cluster.HasOutput slice.flow.outputKey name
  cleared : task.flowTest.CleansUp → ∀ kind : PipelineKind,
    Performed task.past (.deleteLabeled kind.flowKind (Selector.flowTest name)) →
      ∀ key flow, key.kind = kind.flowKind → cluster.resources.get? key = some (.flow flow) →
        ¬ (Resource.flow flow).IsLabeledFor name

theorem Task.stands_ofReconciliation {cluster : Cluster} {flowTest : FlowTest}
    (plain : ',' ∉ flowTest.name.toList) (configuration : Configuration) (now : Timestamp) :
    (Task.ofReconciliation configuration now flowTest).Stands cluster flowTest.name where
  named := rfl
  plain := plain
  conducts := Controller.reconcile_conducts configuration now flowTest
  labeled := by simp [ofReconciliation]
  made := by simp [ofReconciliation, Performed, Answered]
  cleared := by simp [ofReconciliation, Performed, Answered]

section Requests

variable {flowTest : FlowTest} {before after : Cluster} {past : List Occurrence}
  {asked : ControllerRequest} {reply : controllerInterface.Reply asked} {key : ResourceKey}
  {name : String}

theorem Orderly.create_flow {flow : PipelineFlow}
    (orderly : Orderly flowTest past (.call (.create (.flow flow)))) :
    flowTest.Provisions ∧ ∃ (slice : Slice) (owner : Owner) (kind : PipelineKind),
      slice.flow = flow ∧ slice.IsBuilt owner kind ∧ owner.name = flowTest.name ∧
        Performed past (.create (.output slice.output)) := by
  cases orderly with
  | plain plain => exact absurd plain not_false
  | createOther _ other => exact absurd trivial other
  | createFlow provisions built named made => exact ⟨provisions, _, _, _, rfl, built, named, made⟩

theorem Orderly.isLabeledFor {flow : PipelineFlow}
    (orderly : Orderly flowTest past (.call (.create (.flow flow)))) :
    (Resource.flow flow).IsLabeledFor flowTest.name := by
  obtain ⟨-, slice, owner, kind, rfl, built, named, -⟩ := orderly.create_flow
  exact named ▸ built.isLabeledFor

/-- An output goes only in a cleanup after its own flow test, once all flows of that have been
deleted. -/
theorem Cluster.HasOutput.kept (output : before.HasOutput key name) (coherent : before.IsCoherent)
    (plain : ',' ∉ flowTest.name.toList) (orderly : Orderly flowTest past asked)
    (answers : before.Answers asked reply after) :
    after.HasOutput key name ∨
      flowTest.name = name ∧ flowTest.CleansUp ∧ FlowsDeleted name past := by
  obtain ⟨output, found, owned⟩ := output
  have sameKind : key.kind = output.kind.outputKind :=
    congrArg ResourceKey.kind (coherent key _ found).symm
  have otherKind : ∀ flow : PipelineFlow, (Resource.flow flow).key ≠ key := by
    intro flow same
    have isFlow : flow.kind.flowKind = output.kind.outputKind :=
      (congrArg ResourceKey.kind same).trans sameKind
    cases flow <;> cases output <;> cases isFlow
  rcases answers.remains found with foundAfter | takes
  · exact .inl ⟨output, foundAfter, owned⟩
  cases takes with
  | deleteFlow same => exact absurd same (otherKind _)
  | deactivateFlow same => exact absurd same (otherKind _)
  | deleteLabeled selected =>
    rw [Cluster.isSelected, Bool.and_eq_true, beq_iff_eq] at selected
    obtain ⟨here, selects⟩ := selected
    cases orderly with
    | plain plain => exact absurd plain not_false
    | deleteProducts cleansUp ready =>
      have same := owned _ ((Selector.selects_flowTest_iff plain).mp selects)
      exact .inr ⟨same, cleansUp, same ▸ ready ⟨output.kind, here ▸ sameKind⟩⟩
    | deleteParts _ member =>
      rw [← here, sameKind] at member
      cases output <;> cases member <;> contradiction

theorem Cluster.HasOutput.kept_of_provisions (output : before.HasOutput key name)
    (provisions : flowTest.Provisions) (coherent : before.IsCoherent)
    (plain : ',' ∉ flowTest.name.toList) (orderly : Orderly flowTest past asked)
    (answers : before.Answers asked reply after) : after.HasOutput key name :=
  (output.kept coherent plain orderly answers).resolve_right
    (fun taken => provisions.not_cleansUp taken.2.1)

variable {task : Task}

/-- While a flow of a flow test is there, its output is not taken away. -/
theorem Task.Stands.output_kept (stands : task.Stands before task.flowTest.name)
    (coherent : before.IsCoherent) (orderly : Orderly task.flowTest task.past asked)
    (answers : before.Answers asked reply after) {flow : PipelineFlow}
    (found : before.resources.get? key = some (.flow flow))
    (labeled : (Resource.flow flow).IsLabeledFor name)
    (output : before.HasOutput flow.outputKey name) : after.HasOutput flow.outputKey name := by
  refine (output.kept coherent stands.plain orderly answers).resolve_right (fun taken => ?_)
  obtain ⟨rfl, cleansUp, deleted⟩ := taken
  have sameKind : key.kind = flow.kind.flowKind :=
    congrArg ResourceKey.kind (coherent key _ found).symm
  exact stands.cleared cleansUp flow.kind (deleted flow.kind) key flow sameKind found labeled

theorem Task.Stands.isRouted (stands : task.Stands before task.flowTest.name)
    (coherent : before.IsCoherent) (routed : before.IsRouted)
    (orderly : Orderly task.flowTest task.past asked)
    (answers : before.Answers asked reply after) : after.IsRouted := by
  intro key flow name found labeled
  rcases answers.flow_provenance found with ⟨old, foundBefore, continues⟩ | creates
  · have labeledBefore := continues.isLabeledFor_iff.mp labeled
    obtain ⟨refs, output⟩ := routed key old name foundBefore labeledBefore
    have outputAfter :=
      stands.output_kept coherent orderly answers foundBefore labeledBefore output
    obtain rfl | ⟨status, rfl⟩ := continues
    · exact ⟨refs, outputAfter⟩
    · simpa using And.intro refs outputAfter
  · subst creates
    obtain ⟨provisions, slice, owner, kind, rfl, built, named, made⟩ := orderly.create_flow
    obtain rfl : task.flowTest.name = name :=
      Option.some.inj (orderly.isLabeledFor.symm.trans labeled)
    have output := stands.made provisions slice owner kind built named made
    exact ⟨built.outputRefs_flow,
      output.kept_of_provisions provisions coherent stands.plain orderly answers⟩

/-- The task that has made the request goes on as it stood. -/
theorem Task.Stands.advance
    {next : controllerInterface.Reply asked → Program controllerInterface (Except Failure Action)}
    (stands : task.Stands before name) (coherent : before.IsCoherent)
    (going : task.rest = .request asked next) (answers : before.Answers asked reply after) :
    (task.advance ⟨before, asked, reply, after⟩ (next reply)).Stands after name := by
  obtain ⟨rfl, plain, conducts, labeled, made, cleared⟩ := stands
  rw [going] at conducts
  obtain ⟨orderly, goesOn⟩ := conducts
  refine ⟨rfl, plain, goesOn before reply after answers, ?_, ?_, ?_⟩
  · intro occurrence member flow creates
    rcases List.mem_append.mp member with earlier | last
    · exact labeled occurrence earlier flow creates
    · obtain rfl := List.mem_singleton.mp last
      obtain rfl : asked = .call (.create (.flow flow)) := creates
      exact orderly.isLabeledFor
  · intro provisions slice owner kind built named performed
    rcases performed.of_append with earlier | ⟨_, _, _, here⟩
    · exact (made provisions slice owner kind built named earlier).kept_of_provisions provisions
        coherent plain orderly answers
    · cases here
      obtain ⟨⟨_, impossible⟩, -⟩ | ⟨-, -, rfl⟩ := answers.create
      · cases impossible
      refine ⟨slice.output, ?_, fun other labeledFor => ?_⟩
      · rw [← built.key_output]
        exact OrderedMap.get?_insert_self _ _ _
      · exact (Option.some.inj (built.isLabeledFor_output.symm.trans labeledFor)).symm.trans named
  · intro cleansUp kind performed key flow sameKind found labeledFor
    rcases performed.of_append with earlier | ⟨_, _, _, here⟩
    · rcases answers.flow_provenance found with ⟨old, foundBefore, continues⟩ | creates
      · exact cleared cleansUp kind earlier key old sameKind foundBefore
          (continues.isLabeledFor_iff.mp labeledFor)
      · subst creates
        exact orderly.create_flow.1.not_cleansUp cleansUp
    · cases here
      obtain ⟨⟨_, impossible⟩, -⟩ | ⟨-, rfl⟩ := answers.deleteLabeled
      · cases impossible
      rw [OrderedMap.get?_filter, Option.filter_eq_some_iff] at found
      have selected := (Selector.selects_flowTest_iff plain).mpr labeledFor
      simp [Cluster.isSelected, sameKind, selected] at found

/-- The tasks of other flow tests stand as they did. -/
theorem Task.Stands.aside (stands : task.Stands before name)
    (coherent : before.IsCoherent) (plain : ',' ∉ flowTest.name.toList)
    (different : flowTest.name ≠ name) (orderly : Orderly flowTest past asked)
    (answers : before.Answers asked reply after) : task.Stands after name where
  named := stands.named
  plain := stands.plain
  conducts := stands.conducts
  labeled := stands.labeled
  made provisions slice owner kind built named performed :=
    ((stands.made provisions slice owner kind built named performed).kept coherent plain orderly
      answers).resolve_right (fun taken => different taken.1)
  cleared cleansUp kind performed key flow sameKind found labeled := by
    rcases answers.flow_provenance found with ⟨old, foundBefore, continues⟩ | creates
    · exact stands.cleared cleansUp kind performed key old sameKind foundBefore
        (continues.isLabeledFor_iff.mp labeled)
    · subst creates
      exact different (Option.some.inj (orderly.isLabeledFor.symm.trans labeled))

end Requests

/-- Where a cluster stands with all the tasks that share it. -/
structure Routing (tasks : OrderedMap String Task) (cluster : Cluster) : Prop where
  plainNames : cluster.HasPlainNames
  coherent : cluster.IsCoherent
  routed : cluster.IsRouted
  stands : ∀ name task, tasks.get? name = some task → task.Stands cluster name

namespace Routing

variable {tasks : OrderedMap String Task} {cluster : Cluster} {name : String} {task : Task}

theorem insert (routing : Routing tasks cluster) (stands : task.Stands cluster name) :
    Routing (tasks.insert name task) cluster := by
  refine ⟨routing.plainNames, routing.coherent, routing.routed, fun other found isFound => ?_⟩
  by_cases same : other = name
  · rw [same, OrderedMap.get?_insert_self, Option.some.injEq] at isFound
    rw [same, ← isFound]
    exact stands
  · rw [OrderedMap.get?_insert_of_ne same] at isFound
    exact routing.stands other found isFound

theorem erase (routing : Routing tasks cluster) (name : String) :
    Routing (tasks.erase name) cluster := by
  refine ⟨routing.plainNames, routing.coherent, routing.routed, fun other found isFound => ?_⟩
  rw [OrderedMap.get?_erase] at isFound
  split at isFound
  · cases isFound
  · exact routing.stands other found isFound

theorem request {before after : Cluster} {asked : ControllerRequest}
    {next : controllerInterface.Reply asked → Program controllerInterface (Except Failure Action)}
    {reply : controllerInterface.Reply asked} (routing : Routing tasks before)
    (found : tasks.get? name = some task) (going : task.rest = .request asked next)
    (answers : before.Answers asked reply after) :
    Routing (tasks.insert name (task.advance ⟨before, asked, reply, after⟩ (next reply)))
      after := by
  have stands := routing.stands name task found
  have orderly : Orderly task.flowTest task.past asked := by
    have conducts := stands.conducts
    rw [going] at conducts
    exact conducts.1
  obtain rfl := stands.named
  refine ⟨answers.hasPlainNames routing.plainNames, answers.isCoherent routing.coherent,
    stands.isRouted routing.coherent routing.routed orderly answers, fun other standing isFound => ?_⟩
  by_cases same : other = task.flowTest.name
  · rw [same, OrderedMap.get?_insert_self, Option.some.injEq] at isFound
    rw [same, ← isFound]
    exact stands.advance routing.coherent going answers
  · rw [OrderedMap.get?_insert_of_ne same] at isFound
    exact (routing.stands other standing isFound).aside routing.coherent stands.plain
      (Ne.symm same) orderly answers

end Routing

section Users

variable {cluster : Cluster} {resource : Resource} {name : String} {key : ResourceKey}

theorem Cluster.get?_addResource_flow {flow : PipelineFlow} (foreign : resource.IsForeign)
    (found : (cluster.addResource resource).resources.get? key = some (.flow flow))
    (labeled : (Resource.flow flow).IsLabeledFor name) :
    cluster.resources.get? key = some (.flow flow) := by
  by_cases same : key = resource.key
  · rw [same, addResource, OrderedMap.get?_insert_self, Option.some.injEq] at found
    exact absurd labeled (Resource.IsForeign.not_isLabeledFor (found ▸ foreign) name)
  · exact (OrderedMap.get?_insert_of_ne same).symm.trans found

/-- What users put in the place of an output is an output, too. -/
theorem Cluster.HasOutput.addResource (output : cluster.HasOutput key name)
    (coherent : cluster.IsCoherent) (foreign : resource.IsForeign) :
    (cluster.addResource resource).HasOutput key name := by
  obtain ⟨output, found, owned⟩ := output
  by_cases same : key = resource.key
  · subst same
    have sameKind : output.kind.outputKind = resource.kind :=
      congrArg ResourceKey.kind (coherent _ _ found)
    cases resource with
    | output put =>
      exact ⟨put, OrderedMap.get?_insert_self _ _ _,
        fun other labeled => absurd labeled (foreign.not_isLabeledFor other)⟩
    | pod | configMap | service => cases output <;> cases sameKind
    | flow flow => cases output <;> cases flow <;> cases sameKind
  · exact ⟨output, (OrderedMap.get?_insert_of_ne same).trans found, owned⟩

theorem Routing.addResource {tasks : OrderedMap String Task} (routing : Routing tasks cluster)
    (foreign : resource.IsForeign) : Routing tasks (cluster.addResource resource) where
  plainNames := routing.plainNames
  coherent := routing.coherent.addResource resource
  routed key flow name found labeled := by
    have foundBefore := Cluster.get?_addResource_flow foreign found labeled
    obtain ⟨refs, output⟩ := routing.routed key flow name foundBefore labeled
    exact ⟨refs, output.addResource routing.coherent foreign⟩
  stands name task isFound := by
    obtain ⟨named, plain, conducts, labeled, made, cleared⟩ := routing.stands name task isFound
    refine ⟨named, plain, conducts, labeled, ?_, ?_⟩
    · intro provisions slice owner kind built owned performed
      exact (made provisions slice owner kind built owned performed).addResource routing.coherent
        foreign
    · intro cleansUp kind performed key flow sameKind found labeledFor
      exact cleared cleansUp kind performed key flow sameKind
        (Cluster.get?_addResource_flow foreign found labeledFor) labeledFor

end Users

/-- Whether a cluster is as users have prepared it: no name has a comma in it, and every object
is one of their own, stored under its key. -/
structure Cluster.IsPrepared (cluster : Cluster) : Prop where
  plainNames : cluster.HasPlainNames
  coherent : cluster.IsCoherent
  foreign : ∀ key resource, cluster.resources.get? key = some resource → resource.IsForeign

theorem Interleaving.routing {initial cluster : Cluster} {tasks : OrderedMap String Task}
    (interleaving : Interleaving initial tasks cluster) (prepared : initial.IsPrepared) :
    Routing tasks cluster := by
  induction interleaving with
  | start =>
    refine ⟨prepared.plainNames, prepared.coherent, fun key flow name found labeled => ?_,
      fun name task found => ?_⟩
    · exact absurd labeled ((prepared.foreign key _ found).not_isLabeledFor name)
    · cases found
  | began configuration now _ stored _ ih =>
    exact ih.insert (Task.stands_ofReconciliation (ih.plainNames _ _ stored) configuration now)
  | requested _ found going answers ih => exact ih.request found going answers
  | ended name _ ih => exact ih.erase name
  | putResource _ foreign ih => exact ih.addResource foreign
  | setFlowTests _ plain ih =>
    refine ⟨plain, ih.coherent, ih.routed, fun name task found => ?_⟩
    obtain ⟨named, plain, conducts, labeled, made, cleared⟩ := ih.stands name task found
    exact ⟨named, plain, conducts, labeled, made, cleared⟩
  | failDeletes _ _ ih =>
    refine ⟨ih.plainNames, ih.coherent, ih.routed, fun name task found => ?_⟩
    obtain ⟨named, plain, conducts, labeled, made, cleared⟩ := ih.stands name task found
    exact ⟨named, plain, conducts, labeled, made, cleared⟩

/-- No flow of a slice ever delivers to a missing output. The flows that a reconciliation creates
are labelled for its flow test; and in whatever order the calls of reconciliations reach the
cluster, and whichever of them fail, between any two of them every flow that is labelled for a
flow test delivers to the output of its own name, which is there: an output of its namespace,
or one of the cluster for a flow of the cluster. -/
theorem slice_flows_routed {initial cluster : Cluster} {tasks : OrderedMap String Task}
    (prepared : initial.IsPrepared) (interleaving : Interleaving initial tasks cluster) :
    (∀ name task, tasks.get? name = some task → ∀ occurrence ∈ task.past, ∀ flow,
      occurrence.request = .call (.create (.flow flow)) →
        (Resource.flow flow).IsLabeledFor name) ∧
    ∀ key flow, cluster.resources.get? key = some (.flow flow) → ¬ (Resource.flow flow).IsForeign →
      key = ⟨flow.kind.flowKind, flow.namespaceName?.getD "", flow.name⟩ ∧
      flow.outputRefs = [flow.name] ∧ ∃ output, cluster.resources.get?
        ⟨flow.kind.outputKind, flow.namespaceName?.getD "", flow.name⟩ = some (.output output) := by
  have routing := interleaving.routing prepared
  refine ⟨fun name task found => (routing.stands name task found).labeled, ?_⟩
  intro key flow found owned
  obtain ⟨name, labeled⟩ := Option.ne_none_iff_exists'.mp owned
  obtain ⟨refs, output, foundOutput, -⟩ := routing.routed key flow name found labeled
  exact ⟨(routing.coherent key _ found).symm, refs, output, foundOutput⟩

namespace Sample

/-- Another flow test for the same references. -/
def another : FlowTest :=
  { inPhase .created with
    metadata :=
      { (inPhase .created).metadata with name? := some "another", uid? := some "other" } }

def shared : Surroundings where
  cluster := (Cluster.addResource {} (.pod pod)).addResource (.flow (flow ["first"]))
    |>.addFlowTest (inPhase .created) |>.addFlowTest another

def reconcile (flowTest : FlowTest) : Procedure Action := Controller.reconcile {} ⟨0, 0⟩ flowTest

/-- What has become of that when both flow tests have been provisioned. -/
def bothProvisioned : Surroundings :=
  ((shared.run (reconcile (inPhase .created))).2.run (reconcile another)).2

theorem isPrepared_shared : shared.cluster.IsPrepared where
  plainNames name stored found := by
    have entries : shared.cluster.flowTests.entries =
        [("another", another), ("test", inPhase .created)] := rfl
    rw [OrderedMap.get?_eq_some_iff, entries] at found
    simp only [List.mem_cons, Prod.mk.injEq, List.not_mem_nil, or_false] at found
    obtain ⟨rfl, -⟩ | ⟨rfl, -⟩ := found <;> decide
  coherent := by
    have empty : ({} : Cluster).IsCoherent := by
      intro key resource found
      cases found
    exact (empty.addResource (.pod pod)).addResource (.flow (flow ["first"]))
  foreign key resource found := by
    have entries : shared.cluster.resources.entries =
        [((Resource.pod pod).key, .pod pod),
          ((Resource.flow (flow ["first"])).key, .flow (flow ["first"]))] := rfl
    rw [OrderedMap.get?_eq_some_iff, entries] at found
    simp only [List.mem_cons, Prod.mk.injEq, List.not_mem_nil, or_false] at found
    obtain ⟨-, rfl⟩ | ⟨-, rfl⟩ := found <;> rfl

/-- Both reconciliations begin before either of them makes a call. -/
theorem interleaving_bothProvisioned :
    ∃ tasks, Interleaving shared.cluster tasks bothProvisioned.cluster := by
  have first :=
    @Interleaving.began shared.cluster ∅ shared.cluster (inPhase .created) {} ⟨0, 0⟩ .start rfl rfl
  have second :=
    @Interleaving.began shared.cluster _ shared.cluster another {} ⟨0, 0⟩ first rfl rfl
  obtain ⟨tasks, between, others⟩ := @Interleaving.finished shared.cluster _ shared "test"
    (.ofReconciliation {} ⟨0, 0⟩ (inPhase .created)) second rfl
  obtain ⟨later, after, -⟩ := @Interleaving.finished shared.cluster tasks
    (shared.run (reconcile (inPhase .created))).2 "another" (.ofReconciliation {} ⟨0, 0⟩ another)
    between (others "another" (by decide))
  exact ⟨later, after⟩

def isSliceFlow : Resource → Bool
  | .flow flow => flow.kind == .flow && (flow.labels.get? Labels.flowTestKey).isSome
  | _ => false

theorem eq_flow_of_isSliceFlow {resource : Resource} (isSlice : isSliceFlow resource = true) :
    ∃ flow, resource = .flow flow ∧ flow.kind = .flow ∧ ¬ (Resource.flow flow).IsForeign := by
  cases resource with
  | flow flow =>
    rw [isSliceFlow, Bool.and_eq_true, beq_iff_eq, Option.isSome_iff_ne_none] at isSlice
    exact ⟨flow, rfl, isSlice⟩
  | pod | configMap | service | output => cases isSlice

/-- Whether there is a slice flow of this name, and the output that it delivers to. -/
def HasSlice (cluster : Cluster) (name : String) : Prop :=
  ∃ flow output, cluster.resources.get? ⟨.flow, "default", name⟩ = some (.flow flow) ∧
    flow.outputRefs = [name] ∧
    cluster.resources.get? ⟨.output, "default", name⟩ = some (.output output)

end Sample

/-- When two flow tests for one reference have been provisioned side by side, the slices of both
have their outputs. -/
theorem slice_flows_routed_side_by_side :
    Sample.HasSlice Sample.bothProvisioned.cluster "uid-0-match" ∧
      Sample.HasSlice Sample.bothProvisioned.cluster "other-0-match" := by
  obtain ⟨tasks, interleaving⟩ := Sample.interleaving_bothProvisioned
  obtain ⟨-, routed⟩ := slice_flows_routed Sample.isPrepared_shared interleaving
  have slices : ∀ name ∈ ["uid-0-match", "other-0-match"],
      (Sample.bothProvisioned.cluster.resources.get? ⟨.flow, "default", name⟩).any
        Sample.isSliceFlow = true := by
    decide +kernel
  have all : ∀ name ∈ ["uid-0-match", "other-0-match"],
      Sample.HasSlice Sample.bothProvisioned.cluster name := by
    intro name member
    obtain ⟨resource, found, isSlice⟩ := (Option.any_eq_true _ _).mp (slices name member)
    obtain ⟨flow, rfl, isFlow, owned⟩ := Sample.eq_flow_of_isSliceFlow isSlice
    obtain ⟨here, refs, output, foundOutput⟩ := routed _ flow found owned
    obtain ⟨-, sameNamespace, sameName⟩ := ResourceKey.mk.inj here
    rw [isFlow, ← sameNamespace, ← sameName] at foundOutput
    exact ⟨flow, output, found, sameName ▸ refs, foundOutput⟩
  exact ⟨all _ (by simp), all _ (by simp)⟩

end FlowTesting
