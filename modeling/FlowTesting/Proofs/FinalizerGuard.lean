import FlowTesting.Proofs.Reconcile
import FlowTesting.Proofs.Run

set_option autoImplicit false

/-!
# The finalizer as a guard

As long as an object that was made for a flow test exists, the flow test has its finalizer.
The invariant ties the finalizer to the labels of the objects and to the phase, since a
flow test gets the one before the other.
-/

namespace FlowTesting

/-- Whether a flow test is stored with its finalizer. -/
def Cluster.Keeps (cluster : Cluster) (name : String) : Prop :=
  ∃ stored, cluster.flowTests.get? name = some stored ∧
    stored.hasFinalizer Controller.finalizer = true

/-- What holds of a cluster between any two requests. -/
structure Guarded (cluster : Cluster) : Prop where
  plain : ∀ name stored, cluster.flowTests.get? name = some stored → ',' ∉ name.toList
  accepted : ∀ name stored, cluster.flowTests.get? name = some stored →
    stored.phase? ≠ none → stored.isDeleting = false →
      stored.hasFinalizer Controller.finalizer = true
  owned : ∀ key resource name, cluster.resources.get? key = some resource →
    resource.IsLabeledFor name → key.kind ∈ Cleanup.testKinds ∧ cluster.Keeps name

theorem FlowTest.IsNew.phase?_eq {flowTest : FlowTest} (new : flowTest.IsNew) :
    flowTest.phase? = none := by
  rw [FlowTest.phase?, new.1]
  rfl

namespace Guarded

theorem of_isUntouched {cluster : Cluster} (untouched : cluster.IsUntouched) : Guarded cluster where
  plain name stored found := by
    obtain ⟨rfl, new⟩ := untouched.flowTests name stored found
    exact new.2
  accepted name stored found seen :=
    absurd (untouched.flowTests name stored found).2.phase?_eq seen
  owned key resource name found labeled :=
    absurd labeled ((untouched.resources key resource found).not_isLabeledFor name)

theorem put {cluster : Cluster} {name : String} {flowTest : FlowTest} (guarded : Guarded cluster)
    (plain : ',' ∉ name.toList)
    (accepted : flowTest.phase? ≠ none → flowTest.isDeleting = false →
      flowTest.hasFinalizer Controller.finalizer = true)
    (kept : cluster.Keeps name → flowTest.hasFinalizer Controller.finalizer = true) :
    Guarded (cluster.putFlowTest name flowTest) := by
  refine ⟨fun wanted stored found => ?_, fun wanted stored found => ?_,
    fun key resource wanted found labeled => ?_⟩
  · by_cases same : wanted = name
    · exact same ▸ plain
    · rw [Cluster.putFlowTest, OrderedMap.get?_insert_of_ne same] at found
      exact guarded.plain wanted stored found
  · by_cases same : wanted = name
    · rw [Cluster.putFlowTest, same, OrderedMap.get?_insert_self, Option.some.injEq] at found
      exact found ▸ accepted
    · rw [Cluster.putFlowTest, OrderedMap.get?_insert_of_ne same] at found
      exact guarded.accepted wanted stored found
  · obtain ⟨reached, keeps⟩ := guarded.owned key resource wanted found labeled
    refine ⟨reached, ?_⟩
    by_cases same : wanted = name
    · subst same
      exact ⟨flowTest, OrderedMap.get?_insert_self .., kept keeps⟩
    · obtain ⟨stored, foundStored, has⟩ := keeps
      exact ⟨stored, (OrderedMap.get?_insert_of_ne same).trans foundStored, has⟩

theorem addResource {cluster : Cluster} {resource : Resource} (guarded : Guarded cluster)
    (foreign : resource.IsForeign) : Guarded (cluster.addResource resource) := by
  refine ⟨guarded.plain, guarded.accepted, fun key stored name found labeled => ?_⟩
  by_cases same : key = resource.key
  · rw [Cluster.addResource, same, OrderedMap.get?_insert_self, Option.some.injEq] at found
    exact absurd (found ▸ labeled) (foreign.not_isLabeledFor name)
  · rw [Cluster.addResource, OrderedMap.get?_insert_of_ne same] at found
    exact guarded.owned key stored name found labeled

/-- Users do not get in the way of the guard. -/
theorem apply {cluster : Cluster} {action : UserAction} (guarded : Guarded cluster)
    (allowed : action.IsAllowed cluster) : Guarded (action.apply cluster) := by
  cases action with
  | putPod pod => exact guarded.addResource allowed
  | putFlow flow => exact guarded.addResource allowed
  | addFlowTest flowTest =>
    obtain ⟨new, free⟩ := allowed
    refine guarded.put new.2 (fun seen _ => absurd new.phase?_eq seen) ?_
    intro kept
    obtain ⟨stored, found, -⟩ := kept
    rw [free] at found
    cases found
  | requestDeletion name instant =>
    simp only [UserAction.apply]
    split
    next => exact guarded
    next stored found =>
      refine guarded.put (guarded.plain name stored found) (fun _ deleting => nomatch deleting) ?_
      intro kept
      obtain ⟨_, foundAgain, has⟩ := kept
      rw [found, Option.some.injEq] at foundAgain
      exact foundAgain ▸ has

end Guarded

/-- What holds between two requests of a reconciliation of one flow test, besides: it stays
stored, it keeps its finalizer unless it is being deleted, and then what has been cleaned
up stays away. -/
structure Guarding (flowTest : FlowTest) (past : List Occurrence) (cluster : Cluster) : Prop where
  guarded : Guarded cluster
  stored : ∃ stored, cluster.flowTests.get? flowTest.name = some stored ∧
    stored.isDeleting = flowTest.isDeleting
  keeps : flowTest.isDeleting = false →
    flowTest.phase? ≠ none ∨ flowTest.hasFinalizer Controller.finalizer = true ∨
      Performed past (.addFinalizer flowTest Controller.finalizer) →
    cluster.Keeps flowTest.name
  cleared : flowTest.isDeleting = true → ∀ kind,
    Performed past (.deleteLabeled kind (Selector.flowTest flowTest.name)) →
    ∀ key resource, cluster.resources.get? key = some resource → key.kind = kind →
      ¬ resource.IsLabeledFor flowTest.name

namespace Guarding

variable {configuration : Configuration} {now : Timestamp} {flowTest : FlowTest}
  {start before after : Cluster} {past : List Occurrence} {asked : ControllerRequest}
  {reply : controllerInterface.Reply asked}

/-- The finalizer of a flow test goes only when its reconciliation releases it. -/
theorem keeps_of_answers (asks : Controller.Asks configuration now flowTest start before past asked)
    (answers : before.Answers asked reply after) {name : String} (keeps : before.Keeps name) :
    after.Keeps name ∨ name = flowTest.name ∧ flowTest.isDeleting = true ∧
      Cleanup.Performed flowTest past := by
  obtain ⟨stored, found, has⟩ := keeps
  obtain ⟨next, foundAfter, becomes⟩ := answers.becomes_of_stored found
  rcases becomes.finalizer _ has with kept | ⟨other, rfl, named⟩
  · exact .inl ⟨next, foundAfter, kept⟩
  · obtain ⟨rfl, -, deleting, performed, -⟩ := asks.removeFinalizer
    exact .inr ⟨named.symm, deleting, performed⟩

theorem guarded_of_answers (guarding : Guarding flowTest past before)
    (asks : Controller.Asks configuration now flowTest start before past asked)
    (answers : before.Answers asked reply after) : Guarded after := by
  obtain ⟨guarded, ⟨current, foundCurrent, sameDeletion⟩, keeps, cleared⟩ := guarding
  refine ⟨fun name next found => ?_, fun name next found seen undeleted => ?_,
    fun key resource name found labeled => ?_⟩
  · obtain ⟨stored, foundBefore, -⟩ := answers.becomes_to_stored found
    exact guarded.plain name stored foundBefore
  · obtain ⟨stored, foundBefore, becomes⟩ := answers.becomes_to_stored found
    have undeletedBefore : stored.isDeleting = false := becomes.sameDeletion ▸ undeleted
    have keepsBefore : before.Keeps name := by
      rcases becomes.status with same | ⟨other, status, rfl, rfl, -⟩
      · refine ⟨stored, foundBefore, guarded.accepted name stored foundBefore ?_ undeletedBefore⟩
        rwa [← stored.phase?_status, ← same, next.phase?_status]
      · obtain ⟨rfl, undeleted, kept⟩ := asks.patchStatus
        exact keeps undeleted kept
    rcases keeps_of_answers asks answers keepsBefore with ⟨_, foundAfter, has⟩ | ⟨rfl, deleting, -⟩
    · rw [found, Option.some.injEq] at foundAfter
      exact foundAfter ▸ has
    · rw [foundBefore, Option.some.injEq] at foundCurrent
      rw [foundCurrent, sameDeletion, deleting] at undeletedBefore
      cases undeletedBefore
  · rcases answers.origin found with ⟨old, foundBefore, continues⟩ | ⟨rfl, rfl⟩
    · have labeledBefore : old.IsLabeledFor name := by rwa [Resource.IsLabeledFor, ← continues.sameLabels]
      obtain ⟨reached, keepsBefore⟩ := guarded.owned key old name foundBefore labeledBefore
      refine ⟨reached, ?_⟩
      rcases keeps_of_answers asks answers keepsBefore with kept | ⟨rfl, deleting, performed⟩
      · exact kept
      · exact absurd labeledBefore
          (cleared deleting key.kind (performed.1 key.kind reached) key old foundBefore rfl)
    · obtain ⟨undeleted, created, part | ⟨owner, identified, product⟩⟩ := asks.create
      · exact absurd labeled (part.isForeign.not_isLabeledFor name)
      · refine ⟨product.kind_mem_testKinds, ?_⟩
        have named : name = flowTest.name := by
          rw [← FlowTest.name_of_owner? identified]
          exact Option.some.inj (labeled.symm.trans product.isLabeledFor)
        subst named
        refine (keeps_of_answers asks answers (keeps undeleted (.inl ?_))).resolve_right ?_
        · simp [created]
        · simp [undeleted]

theorem step (guarding : Guarding flowTest past before)
    (asks : Controller.Asks configuration now flowTest start before past asked)
    (answers : before.Answers asked reply after) :
    Guarding flowTest (past ++ [⟨before, asked, reply, after⟩]) after := by
  have guarded := guarding.guarded_of_answers asks answers
  obtain ⟨guardedBefore, ⟨current, foundCurrent, sameDeletion⟩, keeps, cleared⟩ := guarding
  obtain ⟨next, foundNext, becomes⟩ := answers.becomes_of_stored foundCurrent
  refine ⟨guarded, ⟨next, foundNext, becomes.sameDeletion.trans sameDeletion⟩,
    fun undeleted kept => ?_, fun deleting kind performed key resource found sameKind => ?_⟩
  · have keepsOn : before.Keeps flowTest.name → after.Keeps flowTest.name := fun keepsBefore =>
      (keeps_of_answers asks answers keepsBefore).resolve_right (by simp [undeleted])
    rcases kept with seen | has | added
    · exact keepsOn (keeps undeleted (.inl seen))
    · exact keepsOn (keeps undeleted (.inr (.inl has)))
    · rcases added.of_append with earlier | ⟨_, answer, _, here⟩
      · exact keepsOn (keeps undeleted (.inr (.inr earlier)))
      · cases here
        obtain ⟨⟨_, impossible⟩, -⟩ | ⟨-, stored, -, rfl⟩ := answers.addFinalizer
        · cases impossible
        · refine ⟨_, OrderedMap.get?_insert_self .., ?_⟩
          rw [FlowTest.hasFinalizer, List.contains_iff_mem]
          exact mem_withFinalizer _ _
  · rcases answers.origin found with ⟨old, foundBefore, continues⟩ | ⟨rfl, -⟩
    · rcases performed.of_append with earlier | ⟨_, answer, _, here⟩
      · rw [Resource.IsLabeledFor, continues.sameLabels]
        exact cleared deleting kind earlier key old foundBefore sameKind
      · cases here
        obtain ⟨⟨_, impossible⟩, -⟩ | ⟨-, rfl⟩ := answers.deleteLabeled
        · cases impossible
        · rw [OrderedMap.get?_filter, Option.filter_eq_some_iff] at found
          obtain ⟨-, unselected⟩ := found
          rw [Resource.IsLabeledFor,
            ← Selector.selects_flowTest_iff (guardedBefore.plain _ current foundCurrent)]
          simpa [Cluster.isSelected, sameKind] using unselected
    · obtain ⟨undeleted, -⟩ := asks.create
      rw [undeleted] at deleting
      cases deleting

theorem of_stored {flowTest : FlowTest} {cluster : Cluster} (guarded : Guarded cluster)
    (stored : cluster.flowTests.get? flowTest.name = some flowTest) :
    Guarding flowTest [] cluster := by
  have nothing : ∀ call, ¬ Performed [] call := by simp [Performed, Answered]
  refine ⟨guarded, ⟨flowTest, stored, rfl⟩, fun undeleted kept => ⟨flowTest, stored, ?_⟩,
    fun _ kind performed => absurd performed (nothing _)⟩
  rcases kept with seen | has | added
  · exact guarded.accepted _ flowTest stored seen undeleted
  · exact has
  · exact absurd added (nothing _)

end Guarding

/-- What may occur in a reconciliation of a flow test, as far as its finalizer is concerned:
all that is made is labelled for it or shared, and its finalizer is removed only after all of
the cleanup has succeeded, when nothing that is labelled for it is left. -/
structure GuardKept (configuration : Configuration) (flowTest : FlowTest)
    (past : List Occurrence) (occurrence : Occurrence) : Prop where
  created : ∀ resource, occurrence.request = .call (.create resource) →
    SharedAggregator.Part configuration resource ∨
      resource.IsLabeledFor flowTest.name ∧ resource.kind ∈ Cleanup.testKinds
  released : ∀ other removed, occurrence.request = .call (.removeFinalizer other removed) →
    other = flowTest ∧ Cleanup.Performed flowTest past ∧
      (∀ earlier ∈ past, earlier.Succeeded) ∧
      ∀ key resource, occurrence.before.resources.get? key = some resource →
        ¬ resource.IsLabeledFor flowTest.name

theorem Guarding.guardKept {configuration : Configuration} {now : Timestamp} {flowTest : FlowTest}
    {start : Cluster} {past : List Occurrence} {occurrence : Occurrence}
    (guarding : Guarding flowTest past occurrence.before)
    (asks : Controller.Asks configuration now flowTest start occurrence.before past
      occurrence.request) :
    GuardKept configuration flowTest past occurrence := by
  constructor
  · intro resource asked
    rw [asked] at asks
    obtain ⟨-, -, part | ⟨owner, identified, product⟩⟩ := asks.create
    · exact .inl part
    · refine .inr ⟨?_, product.kind_mem_testKinds⟩
      exact FlowTest.name_of_owner? identified ▸ product.isLabeledFor
  · intro other removed asked
    rw [asked] at asks
    obtain ⟨same, -, deleting, performed, succeeded⟩ := asks.removeFinalizer
    refine ⟨same, performed, succeeded, fun key resource found labeled => ?_⟩
    obtain ⟨reached, -⟩ := guarding.guarded.owned key resource _ found labeled
    exact guarding.cleared deleting key.kind (performed.1 key.kind reached) key resource found rfl
      labeled

namespace Reconciliation

variable {reconciliation : Reconciliation}

theorem assures_guard (guarded : Guarded reconciliation.start)
    (stored : reconciliation.start.flowTests.get? reconciliation.flowTest.name =
      some reconciliation.flowTest) :
    reconciliation.procedure.Assures
      (fun past occurrence =>
        GuardKept reconciliation.configuration reconciliation.flowTest past occurrence ∧
          Guarded occurrence.after)
      (fun _ _ _ => True) [] reconciliation.start := by
  refine ((Controller.reconcile_permits _ _ _ _).keeping
    (Guarding reconciliation.flowTest) ?_ (.of_stored guarded stored)).mono
      (fun _ _ => id) (fun _ _ _ _ => trivial)
  intro past occurrence guarding permitted lawful
  have steps := guarding.step permitted.1 lawful
  exact ⟨⟨guarding.guardKept permitted.1, steps.guarded⟩, steps⟩

theorem guarded_finish (lawful : reconciliation.Lawful) (guarded : Guarded reconciliation.start) :
    Guarded reconciliation.finish := by
  obtain ⟨stored, rest, execution⟩ := lawful
  exact execution.preserves Guarded (assures_guard guarded stored) (fun _ _ kept _ => kept.2) guarded

theorem guardKept (lawful : reconciliation.Lawful) (guarded : Guarded reconciliation.start)
    {earlier later : List Occurrence} {occurrence : Occurrence}
    (split : reconciliation.occurrences = earlier ++ occurrence :: later) :
    GuardKept reconciliation.configuration reconciliation.flowTest earlier occurrence := by
  obtain ⟨stored, rest, execution⟩ := lawful
  exact ((execution.assured (assures_guard guarded stored)).1 earlier occurrence later split).1

end Reconciliation

/-- The finalizer guards every object that is made for a flow test. Wherever a run stands, an
object that is labelled for a flow test exists only while the flow test has its finalizer;
and each reconciliation labels what it makes for its flow test, and removes the finalizer only
after every deletion of its cleanup has succeeded and nothing labelled is left. -/
theorem finalizer_guards_objects {initial final : Cluster} {reconciliations : List Reconciliation}
    (untouched : initial.IsUntouched) (run : Run initial reconciliations final) :
    (∀ key resource name, final.resources.get? key = some resource →
      resource.IsLabeledFor name → final.Keeps name) ∧
    ∀ reconciliation ∈ reconciliations, ∀ earlier occurrence later,
      reconciliation.occurrences = earlier ++ occurrence :: later →
        GuardKept reconciliation.configuration reconciliation.flowTest earlier occurrence := by
  obtain ⟨guarded, all⟩ := run.invariant Guarded (.of_isUntouched untouched)
    (fun _ lawful guarded => Reconciliation.guarded_finish lawful guarded)
    (fun _ _ allowed guarded => guarded.apply allowed)
  refine ⟨fun key resource name found labeled =>
    (guarded.owned key resource name found labeled).2, ?_⟩
  intro reconciliation member earlier occurrence later split
  obtain ⟨lawful, guardedStart⟩ := all reconciliation member
  exact Reconciliation.guardKept lawful guardedStart split

/-- The sample flow test once it has been accepted and provisioned. -/
theorem finalizer_guards_provisioned_sample :
    ∃ reconciliations final, Sample.cluster.IsUntouched ∧
      Run Sample.cluster reconciliations final ∧
      (∃ key resource, final.resources.get? key = some resource ∧
        resource.IsLabeledFor Sample.flowTest.name) ∧ final.Keeps Sample.flowTest.name := by
  have new : Run Sample.cluster [] (⟨Sample.cluster, .ok []⟩ : Surroundings).cluster := .start
  obtain ⟨_, accepted⟩ := new.undisturbed {} ⟨0, 0⟩ Sample.flowTest rfl
  obtain ⟨reconciliations, provisioned⟩ :=
    accepted.undisturbed {} ⟨0, 0⟩ (Sample.inPhase .created) rfl
  obtain ⟨guarded, -⟩ := finalizer_guards_objects Sample.isUntouched_cluster provisioned
  let made : Resource :=
    .configMap (Simulation.configMap (Sample.inPhase .created) ⟨"test", "uid"⟩)
  have labeled : made.IsLabeledFor "test" := Labels.get?_flowTestKey_ownership _ _ _
  refine ⟨reconciliations, _, Sample.isUntouched_cluster, provisioned,
    ⟨⟨.configMap, "default", "uid-configmap"⟩, made, rfl, labeled⟩, ?_⟩
  exact guarded ⟨.configMap, "default", "uid-configmap"⟩ made "test" rfl labeled

end FlowTesting
