import FlowTesting.Proofs.Activity
import FlowTesting.Proofs.CreationOrder
import FlowTesting.Proofs.Isolation

set_option autoImplicit false

/-!
# Objects of users

What users put into a cluster without a label of the controller stays there as it is, and of a
flow test nothing but its status and its finalizers is ever changed. Reconciliations may overlap
and stop anywhere, and the flow tests that they are handed may be called anything.
-/

namespace FlowTesting

/-- Whether an object carries neither the label of a flow test nor that of a component. -/
structure Resource.IsPrivate (resource : Resource) : Prop where
  foreign : resource.IsForeign
  noComponent : resource.labels.get? Labels.componentKey = none

/-- Whatever a flow test is called, its selector selects no private object. -/
theorem Resource.IsPrivate.not_selected_flowTest {resource : Resource}
    (isPrivate : resource.IsPrivate) (name : String) :
    ¬ Selector.selects (Selector.flowTest name) resource.labels = true := by
  intro selected
  have labeled := Selector.get?_of_selects_flowTest selected
  rw [isPrivate.foreign] at labeled
  cases labeled

theorem Resource.IsPrivate.not_selected_aggregator {resource : Resource}
    (isPrivate : resource.IsPrivate) :
    ¬ Selector.selects Selector.aggregator resource.labels = true := by
  rw [Selector.selects_aggregator_iff, isPrivate.noComponent]
  exact nofun

/-- Whether one version of a flow test differs from another one in nothing but its status and its
finalizers. -/
structure FlowTest.Revises (next stored : FlowTest) : Prop where
  spec : next.spec = stored.spec
  metadata : next.metadata = { stored.metadata with finalizers? := next.metadata.finalizers? }

theorem FlowTest.Revises.refl (flowTest : FlowTest) : flowTest.Revises flowTest := ⟨rfl, rfl⟩

theorem FlowTest.Revises.trans {first second third : FlowTest} (later : third.Revises second)
    (earlier : second.Revises first) : third.Revises first where
  spec := later.spec.trans earlier.spec
  metadata := by
    have same := later.metadata
    rw [earlier.metadata] at same
    exact same

section Requests

variable {before after : Cluster} {asked : ControllerRequest}
  {reply : controllerInterface.Reply asked}

theorem FlowTest.rel_revises_refl (found : Option FlowTest) :
    Option.Rel FlowTest.Revises found found := by
  cases found with
  | none => exact .none
  | some flowTest => exact .some (.refl flowTest)

theorem FlowTest.rel_revises_trans {first second third : Option FlowTest}
    (later : Option.Rel FlowTest.Revises third second)
    (earlier : Option.Rel FlowTest.Revises second first) :
    Option.Rel FlowTest.Revises third first := by
  cases later with
  | none => exact earlier
  | some later =>
    cases earlier with
    | some earlier => exact .some (later.trans earlier)

private theorem rel_revises_put {flowTest stored next : FlowTest}
    (found : before.flowTests.get? flowTest.name = some stored) (revises : next.Revises stored) :
    Option.Rel FlowTest.Revises
      ((before.putFlowTest flowTest.name next).flowTests.get? flowTest.name)
      (before.flowTests.get? flowTest.name) := by
  rw [Cluster.putFlowTest, OrderedMap.get?_insert_self, found]
  exact .some revises

/-- No request makes or drops a flow test, or changes more of it than status and finalizers. -/
theorem Cluster.Answers.revises (answers : before.Answers asked reply after) (name : String) :
    Option.Rel FlowTest.Revises (after.flowTests.get? name) (before.flowTests.get? name) := by
  rcases answers.edited name with same | ⟨flowTest, edited, rfl⟩
  · rw [same]
    exact FlowTest.rel_revises_refl _
  · cases edited with
    | patchStatus =>
      obtain ⟨-, rfl⟩ | ⟨-, stored, found, rfl⟩ := answers.patchStatus
      · exact FlowTest.rel_revises_refl _
      · exact rel_revises_put found ⟨rfl, rfl⟩
    | addFinalizer =>
      obtain ⟨-, rfl⟩ | ⟨-, stored, found, rfl⟩ := answers.addFinalizer
      · exact FlowTest.rel_revises_refl _
      · exact rel_revises_put found ⟨rfl, rfl⟩
    | removeFinalizer =>
      obtain ⟨-, rfl⟩ | ⟨-, ⟨-, rfl⟩ | ⟨stored, found, rfl⟩⟩ := answers.removeFinalizer
      · exact FlowTest.rel_revises_refl _
      · exact FlowTest.rel_revises_refl _
      · exact rel_revises_put found ⟨rfl, rfl⟩

end Requests

/-- What a request of a reconciliation may take: flows that it has listed by the name of the flow
test, and objects that are selected by that name or as parts of the log aggregator. -/
def Targets (flowTest : FlowTest) (past : List Occurrence) (asked : ControllerRequest) : Prop :=
  ∀ key resource, Resource.Takes key resource asked →
    (∃ (kind : PipelineKind) (flows : List PipelineFlow) (flow : PipelineFlow),
      Answered past (.listFlows kind (Selector.flowTest flowTest.name)) flows ∧ flow ∈ flows ∧
        (Resource.flow flow).key = key) ∨
    Selector.selects (Selector.flowTest flowTest.name) resource.labels = true ∨
    Selector.selects Selector.aggregator resource.labels = true

/-- Whether a request neither retires a flow nor deletes any objects by their labels. -/
def ControllerRequest.IsGentle : ControllerRequest → Prop
  | .call (.deleteFlow _) => False
  | .call (.deactivateFlow _) => False
  | .call (.deleteLabeled _ _) => False
  | _ => True

section Conduct

variable {flowTest : FlowTest} {past : List Occurrence} {configuration : Configuration}
  {now : Timestamp}

theorem ControllerRequest.IsGentle.targets {asked : ControllerRequest} (gentle : asked.IsGentle) :
    Targets flowTest past asked := by
  intro key resource takes
  cases takes <;> exact gentle.elim

theorem targets_of_gentle {α : Type} {procedure : Procedure α}
    (gentle : procedure.Makes ControllerRequest.IsGentle) :
    procedure.Conducts (Targets flowTest) past :=
  Procedure.Makes.conducts (gentle.mono (fun _ gentle _ _ => gentle.targets))

theorem Controller.Notes.isGentle {phases : List FlowTestPhase} {reasons : List EventReason}
    {asked : ControllerRequest} (notes : Controller.Notes flowTest phases reasons asked) :
    asked.IsGentle := by
  cases notes <;> trivial

theorem Provisioning.Asks.isGentle {asked : ControllerRequest}
    (asks : Provisioning.Asks flowTest configuration asked) : asked.IsGentle := by
  cases asks <;> trivial

/-- A pass retires only what it has listed. -/
theorem Verification.run_targets (flowTest : FlowTest) (policy : PassPolicy) :
    (Verification.run flowTest policy).Conducts (Targets flowTest) past := by
  refine Procedure.conducts_outcome_bind (fun kind _ => ?_)
  refine Procedure.Conducts.bind
    (targets_of_gentle (FlowTest.getReference_makes (fun _ _ => trivial) flowTest))
    (fun reference later _ => ?_)
  refine Procedure.conducts_make_bind (ControllerRequest.IsGentle.targets trivial)
    (fun flows later _ listed => ?_)
  refine Procedure.conducts_make_bind (ControllerRequest.IsGentle.targets trivial)
    (fun indexes last kept _ => ?_)
  refine Procedure.Makes.conducts ((retireDelivered_makes ?_ ?_ _).bind (fun progress => ?_))
  · intro flow member final keptHere key resource takes
    cases takes with
    | deleteFlow here =>
      exact .inl ⟨kind, flows, flow, (listed.mono kept).mono keptHere, member, here⟩
  · intro flow member final keptHere key resource takes
    cases takes with
    | deactivateFlow here =>
      exact .inl ⟨kind, flows, flow, (listed.mono kept).mono keptHere, member, here⟩
  · exact finish_makes (fun _ _ => ControllerRequest.IsGentle.targets trivial)

theorem Cleanup.deleteKinds_targets {selector : String} {kinds : List Kind}
    (known : selector = Selector.flowTest flowTest.name ∨ selector = Selector.aggregator) :
    (deleteKinds selector kinds).Conducts (Targets flowTest) past := by
  refine Procedure.Makes.conducts (deleteKinds_makes ?_)
  intro kind _ later _ key resource takes
  cases takes with
  | deleteLabeled selected =>
    have selects := ((Bool.and_eq_true _ _).mp selected).2
    rcases known with rfl | rfl
    · exact .inr (.inl selects)
    · exact .inr (.inr selects)

theorem Cleanup.run_targets (flowTest : FlowTest) :
    (Cleanup.run flowTest).Conducts (Targets flowTest) past := by
  refine Procedure.Conducts.bind (deleteKinds_targets (.inl rfl)) (fun deleted later _ => ?_)
  refine Procedure.Conducts.bind ?_ (fun _ _ _ => Procedure.conducts_pure _)
  refine Procedure.conducts_make_bind (ControllerRequest.IsGentle.targets trivial)
    (fun flowTests last _ _ => ?_)
  split
  next => exact Procedure.conducts_pure _
  next =>
    exact Procedure.Conducts.bind (deleteKinds_targets (.inr rfl))
      (fun _ _ _ => Procedure.conducts_pure _)

namespace Controller

theorem targets_of_notes {α : Type} {procedure : Procedure α} {phases : List FlowTestPhase}
    {reasons : List EventReason} (notes : procedure.Makes (Notes flowTest phases reasons)) :
    procedure.Conducts (Targets flowTest) past :=
  targets_of_gentle (notes.mono (fun _ => Notes.isGentle))

theorem provision_isGentle (configuration : Configuration) (now : Timestamp)
    (flowTest : FlowTest) :
    (provision configuration now flowTest).Makes ControllerRequest.IsGentle := by
  have provisions := (Provisioning.run_makes flowTest configuration).mono
    (fun _ => Provisioning.Asks.isGentle)
  exact provisions.lift.bind (fun outcome =>
    (afterProvisioning_makes configuration now flowTest outcome).mono (fun _ => Notes.isGentle))

theorem checkRunning_targets (configuration : Configuration) (now : Timestamp)
    (flowTest : FlowTest) :
    (checkRunning configuration now flowTest).Conducts (Targets flowTest) past := by
  unfold checkRunning
  split
  next => exact targets_of_notes (complete_makes flowTest)
  next => exact Procedure.conducts_pure _
  next next _ =>
    refine Procedure.Conducts.bind (Verification.run_targets flowTest _).lift
      (fun outcome later _ => ?_)
    exact targets_of_notes (afterPass_makes flowTest next outcome)

theorem cleanUp_targets (flowTest : FlowTest) :
    (cleanUp flowTest).Conducts (Targets flowTest) past :=
  Procedure.Conducts.bind (Cleanup.run_targets flowTest).lift
    (fun outcome _ _ => targets_of_notes (afterCleanup_makes flowTest outcome))

/-- Whatever becomes of the cluster in between, a reconciliation takes only what it has listed or
what carries a label of the controller. -/
theorem reconcile_targets (configuration : Configuration) (now : Timestamp)
    (flowTest : FlowTest) :
    (reconcile configuration now flowTest).Conducts (Targets flowTest) [] := by
  unfold reconcile
  split
  next =>
    unfold handleDeletion
    split
    next => exact Procedure.conducts_pure _
    next =>
      refine Procedure.Conducts.bind (cleanUp_targets flowTest) (fun works later _ => ?_)
      cases works with
      | true =>
        exact targets_of_gentle ((Procedure.makes_make trivial).bind
          (fun _ => Procedure.makes_pure _))
      | false => exact Procedure.conducts_pure _
  next =>
    split
    next => exact targets_of_notes (markCreated_makes flowTest)
    next => exact targets_of_gentle (provision_isGentle configuration now flowTest)
    next => exact checkRunning_targets configuration now flowTest
    next =>
      refine Procedure.Conducts.bind (cleanUp_targets flowTest) (fun works later _ => ?_)
      cases works <;> exact Procedure.conducts_pure _
    next => exact Procedure.conducts_pure _

end Controller

end Conduct

/-- Whether some objects and some flow tests have been left alone. -/
structure Cluster.Spares (keys : ResourceKey → Prop) (names : String → Prop)
    (before after : Cluster) : Prop where
  coherent : after.IsCoherent
  resources : ∀ key, keys key → after.resources.get? key = before.resources.get? key
  flowTests : ∀ name, names name → after.flowTests.get? name = before.flowTests.get? name

/-- Users leave some objects and flow tests alone. Everything else is up to them, and to
reconciliations of any flow tests, stored or not, whose calls may fail. -/
def Regime.sparing (keys : ResourceKey → Prop) (names : String → Prop) : Regime where
  begins _ _ _ := True
  answers := Cluster.Answers
  acts := Cluster.Spares keys names

/-- Whether a task has not come across an object so far, and takes only what it may. -/
structure Task.KeepsOff (key : ResourceKey) (task : Task) : Prop where
  conducts : task.rest.Conducts (Targets task.flowTest) task.past
  unlisted : ∀ (kind : PipelineKind) (flows : List PipelineFlow),
    Answered task.past (.listFlows kind (Selector.flowTest task.flowTest.name)) flows →
      ∀ flow ∈ flows, (Resource.flow flow).key ≠ key

theorem Task.keepsOff_ofReconciliation (configuration : Configuration) (now : Timestamp)
    (flowTest : FlowTest) (key : ResourceKey) :
    (ofReconciliation configuration now flowTest).KeepsOff key where
  conducts := Controller.reconcile_targets configuration now flowTest
  unlisted _ _ answered := by simp [ofReconciliation, Answered] at answered

section Steps

variable {key : ResourceKey} {resource : Resource} {task : Task} {before after : Cluster}
  {asked : ControllerRequest}
  {next : controllerInterface.Reply asked → Program controllerInterface (Except Failure Action)}
  {reply : controllerInterface.Reply asked}

/-- A private object is not among the flows that are listed for a flow test. -/
theorem Cluster.key_ne_of_listed {cluster : Cluster} {kind : PipelineKind} {name : String}
    {flow : PipelineFlow} (coherent : cluster.IsCoherent) (isPrivate : resource.IsPrivate)
    (found : cluster.resources.get? key = some resource)
    (listed : flow ∈ cluster.listFlows kind (Selector.flowTest name)) :
    (Resource.flow flow).key ≠ key := by
  intro same
  obtain ⟨place, -, stored, selected⟩ := Cluster.mem_listFlows_iff.mp listed
  obtain rfl : place = key := (coherent _ _ stored).symm.trans same
  obtain rfl := Option.some.inj (found.symm.trans stored)
  exact isPrivate.not_selected_flowTest name selected

theorem Task.KeepsOff.not_takes (keepsOff : task.KeepsOff key) (isPrivate : resource.IsPrivate)
    (under : task.rest = .request asked next) : ¬ Resource.Takes key resource asked := by
  intro takes
  have conducts := keepsOff.conducts
  rw [under] at conducts
  rcases conducts.1 key resource takes with
    ⟨kind, flows, flow, listed, member, here⟩ | named | shared
  · exact keepsOff.unlisted kind flows listed flow member here
  · exact isPrivate.not_selected_flowTest _ named
  · exact isPrivate.not_selected_aggregator shared

theorem Task.KeepsOff.advance (keepsOff : task.KeepsOff key) (coherent : before.IsCoherent)
    (isPrivate : resource.IsPrivate) (found : before.resources.get? key = some resource)
    (under : task.rest = .request asked next) (answers : before.Answers asked reply after) :
    (task.advance ⟨before, asked, reply, after⟩ (next reply)).KeepsOff key := by
  obtain ⟨conducts, unlisted⟩ := keepsOff
  rw [under] at conducts
  refine ⟨conducts.2 before reply after answers, ?_⟩
  intro kind flows (answered : Answered (task.past ++ [⟨before, asked, reply, after⟩])
    (.listFlows kind (Selector.flowTest task.flowTest.name)) flows) flow member
  rcases answered.of_append with earlier | ⟨_, _, here⟩
  · exact unlisted kind flows earlier flow member
  · cases here
    obtain ⟨⟨_, impossible⟩, -⟩ | ⟨listed, -⟩ := answers.listFlows
    · cases impossible
    · exact Cluster.key_ne_of_listed coherent isPrivate found (Except.ok.inj listed ▸ member)

end Steps

namespace Activity

variable {keys : ResourceKey → Prop} {names : String → Prop} {initial cluster : Cluster}
  {tasks : List Task}

theorem isCoherent (activity : Activity (.sparing keys names) initial tasks cluster)
    (coherent : initial.IsCoherent) : cluster.IsCoherent := by
  induction activity with
  | start => exact coherent
  | began _ _ _ _ ih => exact ih
  | requested _ _ answers ih => exact answers.isCoherent ih
  | acted _ spares _ => exact spares.coherent

/-- A private object stays, and no task comes across it. -/
theorem keeps (activity : Activity (.sparing keys names) initial tasks cluster)
    (coherent : initial.IsCoherent) {key : ResourceKey} {resource : Resource} (spared : keys key)
    (isPrivate : resource.IsPrivate) (found : initial.resources.get? key = some resource) :
    cluster.resources.get? key = some resource ∧ ∀ task ∈ tasks, task.KeepsOff key := by
  induction activity with
  | start => exact ⟨found, by simp⟩
  | began configuration now _ _ ih =>
    obtain ⟨stored, keepOff⟩ := ih
    refine ⟨stored, List.forall_mem_cons.mpr ⟨?_, keepOff⟩⟩
    exact Task.keepsOff_ofReconciliation configuration now _ key
  | @requested earlier later task before after asked next reply activity under answers ih =>
    obtain ⟨stored, keepOff⟩ := ih
    have keepsOff := keepOff task (List.mem_append_right _ List.mem_cons_self)
    refine ⟨(answers.remains stored).resolve_right (keepsOff.not_takes isPrivate under), ?_⟩
    intro other member
    rcases List.mem_append.mp member with inEarlier | inLater
    · exact keepOff other (List.mem_append_left _ inEarlier)
    rcases List.mem_cons.mp inLater with rfl | inLater
    · exact keepsOff.advance (activity.isCoherent coherent) isPrivate stored under answers
    · exact keepOff other (List.mem_append_right _ (List.mem_cons_of_mem _ inLater))
  | acted _ spares ih => exact ⟨(spares.resources _ spared).trans ih.1, ih.2⟩

/-- Of a flow test that users leave alone, only status and finalizers change. -/
theorem revises (activity : Activity (.sparing keys names) initial tasks cluster) {name : String}
    (spared : names name) :
    Option.Rel FlowTest.Revises (cluster.flowTests.get? name) (initial.flowTests.get? name) := by
  induction activity with
  | start => exact FlowTest.rel_revises_refl _
  | began _ _ _ _ ih => exact ih
  | requested _ _ answers ih => exact FlowTest.rel_revises_trans (answers.revises name) ih
  | acted _ spares ih => exact spares.flowTests name spared ▸ ih

end Activity

/-- Reconciliations leave alone what users leave alone: every object without a label of the
controller stays as it is, and flow tests change in nothing but status and finalizers. -/
theorem user_objects_unchanged {keys : ResourceKey → Prop} {names : String → Prop}
    {initial cluster : Cluster} {tasks : List Task} (coherent : initial.IsCoherent)
    (activity : Activity (.sparing keys names) initial tasks cluster) :
    (∀ key resource, keys key → initial.resources.get? key = some resource →
      resource.IsPrivate → cluster.resources.get? key = some resource) ∧
    ∀ name, names name →
      Option.Rel FlowTest.Revises (cluster.flowTests.get? name) (initial.flowTests.get? name) :=
  ⟨fun _ _ spared found isPrivate => (activity.keeps coherent spared isPrivate found).1,
    fun _ spared => activity.revises spared⟩

namespace Sample

/-- A pod of users, labelled by them. -/
def shop : Pod where
  metadata := .ofNew "shop" "default" (.ofList [("app", "shop")])
  spec? := some { containers := [{ name := "main" }] }

/-- A completed flow test whose selector goes on with a label of users. -/
def misnamed : FlowTest :=
  { inPhase .completed with
    metadata := { (inPhase .completed).metadata with name? := some "test,app=shop" } }

def market : Surroundings where
  cluster := (among .running
    [.pod pod, .flow (flow ["first"]), .pod shop, .flow (slice "default" ⟨"test", "uid"⟩)])
      |>.addFlowTest misnamed

end Sample

/-- A flow test whose name reads like a selector of more is cleaned up after. -/
theorem user_objects_unchanged_of_sample :
    let cleaned :=
      (Sample.market.run (Controller.reconcile {} ⟨100, 0⟩ Sample.misnamed)).2.cluster
    cleaned.resources.get? ⟨.pod, "default", "shop"⟩ = some (.pod Sample.shop) ∧
    cleaned.resources.get? ⟨.pod, "default", "pod"⟩ = some (.pod Sample.pod) ∧
    cleaned.resources.get? ⟨.flow, "default", "flow"⟩ = some (.flow (Sample.flow ["first"])) ∧
    Option.Rel FlowTest.Revises (cleaned.flowTests.get? Sample.misnamed.name)
      (some Sample.misnamed) := by
  have begins : Activity (.sparing (fun _ => True) (fun _ => True)) Sample.market.cluster
      [.ofReconciliation {} ⟨100, 0⟩ Sample.misnamed] Sample.market.cluster :=
    .began {} ⟨100, 0⟩ .start trivial
  obtain ⟨outcome, past, activity⟩ := begins.finished Surroundings.answers_respond
  have coherent : Sample.market.cluster.IsCoherent := Sample.isCoherent_among .running _
  obtain ⟨stays, revises⟩ := user_objects_unchanged coherent activity
  refine ⟨stays _ _ trivial ?_ ⟨?_, ?_⟩, stays _ _ trivial ?_ ⟨?_, ?_⟩,
    stays _ _ trivial ?_ ⟨?_, ?_⟩, revises _ trivial⟩
  all_goals rfl

end FlowTesting
