import FlowTesting.Proofs.Agreement
import FlowTesting.Proofs.Routing

set_option autoImplicit false

/-!
# Interference

A reconciliation changes only what concerns its flow test and the log aggregator. Another flow
test finds the same before and after it, so two flow tests may be reconciled in either order.
-/

namespace FlowTesting

/-- Whether another flow test than this one needs the log aggregator. -/
def Cluster.NeededBesides (cluster : Cluster) (flowTest : FlowTest) : Prop :=
  ∃ name other, name ≠ flowTest.name ∧ cluster.flowTests.get? name = some other ∧
    Cleanup.needsAggregator other = true

/-- Whether all that has changed in a cluster concerns one flow test or the log aggregator. -/
structure Cluster.Confined (configuration : Configuration) (flowTest : FlowTest)
    (before after : Cluster) : Prop where
  others : ∀ name, name ≠ flowTest.name →
    after.flowTests.get? name = before.flowTests.get? name
  deletesFail : after.deletesFail = before.deletesFail
  coherent : after.IsCoherent
  gained : ∀ key resource, after.resources.get? key = some resource →
    before.resources.get? key = some resource ∨
      flowTest.HasPlace key ∧ resource.IsLabeledFor flowTest.name ∨
        SharedAggregator.Part configuration resource
  kept : ∀ key resource, before.resources.get? key = some resource →
    ¬ resource.IsLabeledFor flowTest.name →
      (resource.IsShared → before.NeededBesides flowTest) →
        after.resources.get? key = some resource

/-- What holds between two requests of a reconciliation: the changes are confined, the listed
flows are the flow test's own, and the log aggregator has not been found unused when another flow
test needs it. -/
structure Confining (configuration : Configuration) (flowTest : FlowTest) (start : Cluster)
    (past : List Occurrence) (cluster : Cluster) : Prop
    extends start.Confined configuration flowTest cluster where
  listed : ∀ (kind : PipelineKind) (flows : List PipelineFlow),
    Answered past (.listFlows kind (Selector.flowTest flowTest.name)) flows → ∀ flow ∈ flows,
      flowTest.HasPlace (Resource.flow flow).key ∧ ∀ resource,
        start.resources.get? (Resource.flow flow).key = some resource →
          resource.IsLabeledFor flowTest.name
  checked : start.NeededBesides flowTest → ∀ flowTests : List FlowTest,
    Answered past .listFlowTests flowTests → Cleanup.aggregatorInUse flowTests = true

namespace Confining

variable {configuration : Configuration} {now : Timestamp} {flowTest : FlowTest}
  {start before after : Cluster} {past : List Occurrence} {asked : ControllerRequest}
  {reply : controllerInterface.Reply asked}

theorem refl (coherent : start.IsCoherent) : Confining configuration flowTest start [] start where
  others _ _ := rfl
  deletesFail := rfl
  coherent := coherent
  gained _ _ := .inl
  kept _ _ found _ _ := found
  listed := by simp [Answered]
  checked := by simp [Answered]

theorem others_after (confining : Confining configuration flowTest start past before)
    (asks : Controller.Asks configuration now flowTest start before past asked)
    (answers : before.Answers asked reply after) {name : String} (other : name ≠ flowTest.name) :
    after.flowTests.get? name = start.flowTests.get? name := by
  rcases answers.edited name with same | ⟨edited, edits, named⟩
  · exact same.trans (confining.others name other)
  · obtain rfl := asks.edited edits
    exact absurd named.symm other

theorem isLabeledFor_flow (confining : Confining configuration flowTest start past before)
    {key : ResourceKey} {flow : PipelineFlow}
    (found : before.resources.get? key = some (.flow flow))
    (own : ∀ resource, start.resources.get? key = some resource →
      resource.IsLabeledFor flowTest.name) :
    (Resource.flow flow).IsLabeledFor flowTest.name := by
  rcases confining.gained key _ found with foundStart | ⟨-, labeled⟩ | part
  · exact own _ foundStart
  · exact labeled
  · cases part

theorem gained_after (confining : Confining configuration flowTest start past before)
    (asks : Controller.Asks configuration now flowTest start before past asked)
    (answers : before.Answers asked reply after) {key : ResourceKey} {resource : Resource}
    (found : after.resources.get? key = some resource) :
    start.resources.get? key = some resource ∨
      flowTest.HasPlace key ∧ resource.IsLabeledFor flowTest.name ∨
        SharedAggregator.Part configuration resource := by
  rcases answers.provenance found with
    foundBefore | ⟨rfl, rfl, -⟩ | ⟨flow, stored, rfl, rfl, foundBefore, rfl⟩
  · exact confining.gained key resource foundBefore
  · obtain ⟨-, -, part | ⟨owner, identified, product⟩⟩ := asks.create
    · exact .inr (.inr part)
    · refine .inr (.inl ⟨⟨owner, resource, identified, product, rfl⟩, ?_⟩)
      exact FlowTest.name_of_owner? identified ▸ product.isLabeledFor
  · obtain ⟨kind, flows, answered, member⟩ := asks.retire (.inr rfl)
    obtain ⟨place, own⟩ := confining.listed kind flows answered flow member
    have labeled := confining.isLabeledFor_flow foundBefore own
    exact .inr (.inl ⟨place, Resource.isLabeledFor_withStatus.mpr labeled⟩)

theorem kept_after (confining : Confining configuration flowTest start past before)
    (plain : ',' ∉ flowTest.name.toList)
    (asks : Controller.Asks configuration now flowTest start before past asked)
    (answers : before.Answers asked reply after) {key : ResourceKey} {resource : Resource}
    (found : start.resources.get? key = some resource)
    (unlabeled : ¬ resource.IsLabeledFor flowTest.name)
    (needed : resource.IsShared → start.NeededBesides flowTest) :
    after.resources.get? key = some resource := by
  have foundBefore := confining.kept key resource found unlabeled needed
  refine (answers.remains foundBefore).resolve_right (fun takes => ?_)
  rcases asks.takes takes with
    ⟨kind, flows, flow, answered, member, rfl⟩ | selected |
      ⟨ofKind, selected, flowTests, answered, unused⟩
  · exact unlabeled ((confining.listed kind flows answered flow member).2 resource found)
  · exact unlabeled ((Selector.selects_flowTest_iff plain).mp selected)
  · -- The log aggregator goes only after the check, which has met the other flow test.
    obtain rfl := confining.coherent key resource foundBefore
    have shared : resource.IsShared := Resource.isShared_iff.mpr ⟨ofKind, selected⟩
    rw [confining.checked (needed shared) flowTests answered] at unused
    cases unused

theorem listed_after (confining : Confining configuration flowTest start past before)
    (plain : ',' ∉ flowTest.name.toList) (suits : start.Suits flowTest) {kind : PipelineKind}
    {flow : PipelineFlow}
    (listed : flow ∈ before.listFlows kind (Selector.flowTest flowTest.name)) :
    flowTest.HasPlace (Resource.flow flow).key ∧ ∀ resource,
      start.resources.get? (Resource.flow flow).key = some resource →
        resource.IsLabeledFor flowTest.name := by
  obtain ⟨key, -, found, selected⟩ := Cluster.mem_listFlows_iff.mp listed
  have labeled : (Resource.flow flow).IsLabeledFor flowTest.name :=
    (Selector.selects_flowTest_iff plain).mp selected
  obtain rfl := confining.coherent key _ found
  constructor
  · rcases confining.gained _ _ found with foundStart | ⟨place, -⟩ | part
    · exact suits.placed _ _ foundStart labeled
    · exact place
    · cases part
  · intro resource foundStart
    have ofKind : resource.kind = flow.kind.flowKind :=
      congrArg ResourceKey.kind (suits.coherent _ _ foundStart)
    by_cases own : resource.IsLabeledFor flowTest.name
    · exact own
    · have stillThere := confining.kept _ resource foundStart own
        (fun shared => absurd shared (Resource.not_isShared_of_kind ofKind))
      obtain rfl := Option.some.inj (found.symm.trans stillThere)
      exact labeled

theorem checked_after (confining : Confining configuration flowTest start past before)
    (needed : start.NeededBesides flowTest) :
    Cleanup.aggregatorInUse before.flowTests.values = true := by
  obtain ⟨name, other, differs, found, needs⟩ := needed
  exact Cleanup.aggregatorInUse_values_iff.mpr
    ⟨name, other, (confining.others name differs).trans found, needs⟩

theorem step (confining : Confining configuration flowTest start past before)
    (plain : ',' ∉ flowTest.name.toList) (suits : start.Suits flowTest)
    (asks : Controller.Asks configuration now flowTest start before past asked)
    (answers : before.Answers asked reply after) :
    Confining configuration flowTest start (past ++ [⟨before, asked, reply, after⟩]) after where
  others _ := confining.others_after asks answers
  deletesFail := answers.deletesFail_eq.trans confining.deletesFail
  coherent := answers.isCoherent confining.coherent
  gained _ _ := confining.gained_after asks answers
  kept _ _ := confining.kept_after plain asks answers
  listed kind flows answered flow member := by
    rcases answered.of_append with earlier | ⟨_, _, here⟩
    · exact confining.listed kind flows earlier flow member
    · cases here
      obtain ⟨⟨_, impossible⟩, -⟩ | ⟨listed, -⟩ := answers.listFlows
      · cases impossible
      obtain rfl := Except.ok.inj listed
      exact confining.listed_after plain suits member
  checked needed flowTests answered := by
    rcases answered.of_append with earlier | ⟨_, _, here⟩
    · exact confining.checked needed flowTests earlier
    · cases here
      obtain ⟨⟨_, impossible⟩, -⟩ | ⟨listed, -⟩ := answers.listFlowTests
      · cases impossible
      obtain rfl := Except.ok.inj listed
      exact confining.checked_after needed

end Confining

/-- A reconciliation changes nothing else, whatever it comes to. -/
theorem Controller.reconcile_confined {surroundings : Surroundings} {flowTest : FlowTest}
    (plain : ',' ∉ flowTest.name.toList) (suits : surroundings.cluster.Suits flowTest)
    (configuration : Configuration) (now : Timestamp) :
    surroundings.cluster.Confined configuration flowTest
      (surroundings.run (reconcile configuration now flowTest)).2.cluster := by
  obtain ⟨occurrences, execution⟩ :=
    Execution.of_run surroundings (reconcile configuration now flowTest)
  have confining := execution.invariant
    (Confining configuration flowTest surroundings.cluster)
    (reconcile_permits configuration now flowTest surroundings.cluster)
    (fun past occurrence permitted answers confining =>
      confining.step plain suits permitted.1 answers)
    (Confining.refl suits.coherent)
  exact confining.toConfined

/-- What is demanded of a flow test and its surroundings: it is stored under a name without a
comma, what it refers to is there and belongs to nobody, and whatever is labelled for it has been
made for it. -/
structure Cluster.Hosts (cluster : Cluster) (flowTest : FlowTest) : Prop where
  stored : cluster.flowTests.get? flowTest.name = some flowTest
  plain : ',' ∉ flowTest.name.toList
  references : ∀ key, flowTest.RefersTo key → ∃ resource,
    cluster.resources.get? key = some resource ∧ resource.IsForeign ∧ ¬ resource.IsShared
  made : ∀ key resource, cluster.resources.get? key = some resource →
    resource.IsLabeledFor flowTest.name →
      ∃ owner, flowTest.owner? = some owner ∧ resource.MadeFor flowTest owner

theorem Cluster.Hosts.suits {cluster : Cluster} {flowTest : FlowTest}
    (hosts : cluster.Hosts flowTest) (coherent : cluster.IsCoherent) : cluster.Suits flowTest where
  coherent := coherent
  placed key resource found labeled := by
    obtain ⟨owner, identified, product, made, continues⟩ := hosts.made key resource found labeled
    refine ⟨owner, product, identified, made, ?_⟩
    rw [← continues.sameKey, coherent key resource found]
  references := hosts.references

namespace Cluster.Confined

variable {configuration : Configuration} {flowTest other : FlowTest} {before after : Cluster}

/-- Outside of the places of the flow test, only parts of the log aggregator come and go. -/
theorem get?_iff (confined : before.Confined configuration flowTest after)
    (suits : before.Suits flowTest) {key : ResourceKey} (elsewhere : ¬ flowTest.HasPlace key)
    {resource : Resource} (unshared : ¬ resource.IsShared) :
    after.resources.get? key = some resource ↔ before.resources.get? key = some resource := by
  constructor
  · intro found
    rcases confined.gained key resource found with foundBefore | ⟨place, -⟩ | part
    · exact foundBefore
    · exact absurd place elsewhere
    · exact absurd part.isShared unshared
  · intro found
    exact confined.kept key resource found
      (fun labeled => elsewhere (suits.placed key resource found labeled))
      (fun shared => absurd shared unshared)

theorem suits (confined : before.Confined configuration flowTest after)
    (suits : before.Suits other) (names : other.name ≠ flowTest.name) : after.Suits other where
  coherent := confined.coherent
  placed key resource found labeled := by
    rcases confined.gained key resource found with foundBefore | ⟨-, labeledToo⟩ | part
    · exact suits.placed key resource foundBefore labeled
    · exact absurd (Option.some.inj (labeled.symm.trans labeledToo)) names
    · exact absurd labeled (part.isForeign.not_isLabeledFor _)
  references key refers := by
    obtain ⟨resource, found, foreign, unshared⟩ := suits.references key refers
    exact ⟨resource, confined.kept key resource found (foreign.not_isLabeledFor _)
      (fun shared => absurd shared unshared), foreign, unshared⟩

/-- Another flow test finds the same before and after. -/
theorem agrees {start finish : Surroundings}
    (confined : start.cluster.Confined configuration flowTest finish.cluster)
    (sameListing : finish.listing = start.listing) (suitsOwn : start.cluster.Suits flowTest)
    (suitsOther : start.cluster.Suits other)
    (stored : start.cluster.flowTests.get? other.name = some other)
    (names : other.name ≠ flowTest.name)
    (identifiers : flowTest.metadata.uid? ≠ other.metadata.uid?) : other.Agrees start finish where
  listing := sameListing.symm
  deletesFail := confined.deletesFail.symm
  stored := ⟨other, stored, (confined.others other.name names).trans stored, rfl⟩
  suitsLeft := suitsOther
  suitsRight := confined.suits suitsOther names
  references key refers := by
    obtain ⟨resource, found, foreign, unshared⟩ := suitsOther.references key refers
    rw [found, confined.kept key resource found (foreign.not_isLabeledFor _)
      (fun shared => absurd shared unshared)]
  own key place resource counts := by
    have elsewhere : ¬ flowTest.HasPlace key := place.not_hasPlace (Ne.symm identifiers)
    constructor
    · intro found
      exact confined.kept key resource found
        (fun labeled => elsewhere (suitsOwn.placed key resource found labeled))
        (fun shared => ⟨other.name, other, names, stored, counts shared⟩)
    · intro found
      rcases confined.gained key resource found with foundBefore | ⟨here, -⟩ | part
      · exact foundBefore
      · exact absurd here elsewhere
      · exact absurd ⟨resource, part, confined.coherent key resource found⟩
          (place.not_isPlace configuration)

section Reordered

variable {between last reordered : Surroundings}

/-- What a flow test has come to is not changed by a later reconciliation of another one. -/
theorem get?_flowTests_eq (confined : between.cluster.Confined configuration flowTest last.cluster)
    (agrees : other.Agrees between reordered) (names : other.name ≠ flowTest.name) :
    last.cluster.flowTests.get? other.name = reordered.cluster.flowTests.get? other.name := by
  obtain ⟨stored, found, foundReordered, -⟩ := agrees.stored
  rw [confined.others other.name names, found, foundReordered]

theorem get?_resources_iff
    (confined : between.cluster.Confined configuration flowTest last.cluster)
    (suits : between.cluster.Suits flowTest) (agrees : other.Agrees between reordered)
    (identifiers : flowTest.metadata.uid? ≠ other.metadata.uid?) {key : ResourceKey}
    (place : other.HasPlace key) {resource : Resource} (unshared : ¬ resource.IsShared) :
    last.cluster.resources.get? key = some resource ↔
      reordered.cluster.resources.get? key = some resource :=
  (confined.get?_iff suits (place.not_hasPlace (Ne.symm identifiers)) unshared).trans
    (agrees.own key place resource (fun shared => absurd shared unshared))

end Reordered

end Cluster.Confined

/-- A reconciliation of one flow test is confined to that, and is not seen by another one. -/
theorem Controller.reconcile_beside {flowTest other : FlowTest} {start : Surroundings}
    (coherent : start.cluster.IsCoherent) (hosts : start.cluster.Hosts flowTest)
    (hostsOther : start.cluster.Hosts other) (names : other.name ≠ flowTest.name)
    (identifiers : flowTest.metadata.uid? ≠ other.metadata.uid?) (configuration : Configuration)
    (now : Timestamp) :
    let after := (start.run (reconcile configuration now flowTest)).2
    start.cluster.Confined configuration flowTest after.cluster ∧ other.Agrees start after := by
  intro after
  have suits := hosts.suits coherent
  have confined : start.cluster.Confined configuration flowTest after.cluster :=
    reconcile_confined hosts.plain suits configuration now
  exact ⟨confined, confined.agrees (start.listing_run _) suits (hostsOther.suits coherent)
    hostsOther.stored names identifiers⟩

/-- Two flow tests do not interfere. Whichever of them is reconciled first, the other one is
stored as before, each reconciliation returns the same action, and in the end all flow tests and
all objects are the same, up to pods and services that pass for a part of the log aggregator. -/
theorem reconciliations_commute {configuration : Configuration} {first second : FlowTest}
    {start : Surroundings} (coherent : start.cluster.IsCoherent)
    (hostsFirst : start.cluster.Hosts first) (hostsSecond : start.cluster.Hosts second)
    (names : first.name ≠ second.name)
    (identifiers : first.metadata.uid? ≠ second.metadata.uid?) (firstTime secondTime : Timestamp) :
    let reconcileFirst := Controller.reconcile configuration firstTime first
    let reconcileSecond := Controller.reconcile configuration secondTime second
    let afterFirst := (start.run reconcileFirst).2
    let afterSecond := (start.run reconcileSecond).2
    let secondLast := (afterFirst.run reconcileSecond).2
    let firstLast := (afterSecond.run reconcileFirst).2
    afterFirst.cluster.flowTests.get? second.name = some second ∧
    afterSecond.cluster.flowTests.get? first.name = some first ∧
    (∃ action, (start.run reconcileFirst).1 = .ok action ∧
      (afterSecond.run reconcileFirst).1 = .ok action) ∧
    (∃ action, (start.run reconcileSecond).1 = .ok action ∧
      (afterFirst.run reconcileSecond).1 = .ok action) ∧
    secondLast.cluster.flowTests = firstLast.cluster.flowTests ∧
    ∀ key resource, ¬ resource.IsShared →
      (secondLast.cluster.resources.get? key = some resource ↔
        firstLast.cluster.resources.get? key = some resource) := by
  intro reconcileFirst reconcileSecond afterFirst afterSecond secondLast firstLast
  obtain ⟨confinedFirst, agreesSecond⟩ := Controller.reconcile_beside coherent hostsFirst
    hostsSecond (Ne.symm names) identifiers configuration firstTime
  obtain ⟨confinedSecond, agreesFirst⟩ := Controller.reconcile_beside coherent hostsSecond
    hostsFirst names (Ne.symm identifiers) configuration secondTime
  obtain ⟨firstAction, firstHere, firstThere, agreesFirstAfter⟩ :=
    Controller.reconcile_accords hostsFirst.plain configuration firstTime start afterSecond
      agreesFirst
  obtain ⟨secondAction, secondHere, secondThere, agreesSecondAfter⟩ :=
    Controller.reconcile_accords hostsSecond.plain configuration secondTime start afterFirst
      agreesSecond
  have confinedSecondLast : afterFirst.cluster.Confined configuration second secondLast.cluster :=
    Controller.reconcile_confined hostsSecond.plain agreesSecond.suitsRight configuration secondTime
  have confinedFirstLast : afterSecond.cluster.Confined configuration first firstLast.cluster :=
    Controller.reconcile_confined hostsFirst.plain agreesFirst.suitsRight configuration firstTime
  refine ⟨(confinedFirst.others _ (Ne.symm names)).trans hostsSecond.stored,
    (confinedSecond.others _ names).trans hostsFirst.stored, ⟨firstAction, firstHere, firstThere⟩,
    ⟨secondAction, secondHere, secondThere⟩, ?_, ?_⟩
  · refine OrderedMap.ext (fun name => ?_)
    by_cases ofFirst : name = first.name
    · subst ofFirst
      exact confinedSecondLast.get?_flowTests_eq agreesFirstAfter names
    by_cases ofSecond : name = second.name
    · subst ofSecond
      exact (confinedFirstLast.get?_flowTests_eq agreesSecondAfter (Ne.symm names)).symm
    · rw [confinedSecondLast.others name ofSecond, confinedFirst.others name ofFirst,
        confinedFirstLast.others name ofFirst, confinedSecond.others name ofSecond]
  · -- A place of one flow test is left alone by the other one, every other key by both.
    intro key resource unshared
    by_cases ofFirst : first.HasPlace key
    · exact confinedSecondLast.get?_resources_iff agreesSecond.suitsRight agreesFirstAfter
        (Ne.symm identifiers) ofFirst unshared
    by_cases ofSecond : second.HasPlace key
    · exact (confinedFirstLast.get?_resources_iff agreesFirst.suitsRight agreesSecondAfter
        identifiers ofSecond unshared).symm
    · rw [confinedSecondLast.get?_iff agreesSecond.suitsRight ofSecond unshared,
        confinedFirst.get?_iff agreesFirst.suitsLeft ofFirst unshared,
        confinedFirstLast.get?_iff agreesFirst.suitsRight ofFirst unshared,
        confinedSecond.get?_iff agreesSecond.suitsLeft ofSecond unshared]

namespace Sample

/-- A running flow test whose slice has delivered, next to an accepted one for the same
references. -/
def busy : Surroundings where
  cluster := (among .running
    [.pod pod, .flow (flow ["first"]), .flow (slice "default" ⟨"test", "uid"⟩)]).addFlowTest another
  listing := .ok [{ name := "uid-0-match", logCount := 1 }]

theorem isCoherent_busy : busy.cluster.IsCoherent := isCoherent_among .running _

theorem references_busy {user : FlowTest} (sameSpec : user.spec = flowTest.spec) (key : ResourceKey)
    (refers : user.RefersTo key) : ∃ resource, busy.cluster.resources.get? key = some resource ∧
      resource.IsForeign ∧ ¬ resource.IsShared := by
  cases refers with
  | pod =>
    rw [sameSpec]
    exact ⟨.pod pod, rfl, rfl, fun shared => by cases shared.2⟩
  | @flow kind known =>
    have supported : user.pipelineKind = .ok .flow := by
      rw [FlowTest.pipelineKind, sameSpec]
      rfl
    rw [supported] at known
    obtain rfl := Except.ok.inj known
    rw [sameSpec]
    exact ⟨.flow (flow ["first"]), rfl, rfl, fun shared => by cases shared.2⟩

/-- The slice is all that is labelled for a flow test. -/
theorem eq_slice_of_get?_busy {key : ResourceKey} {resource : Resource} {name : String}
    (found : busy.cluster.resources.get? key = some resource)
    (labeled : resource.IsLabeledFor name) :
    resource = .flow (slice "default" ⟨"test", "uid"⟩) ∧ name = "test" := by
  have member := @mem_of_get?_among .running _ key resource found
  simp only [List.mem_cons, List.not_mem_nil, or_false] at member
  rcases member with rfl | rfl | rfl
  · cases labeled
  · cases labeled
  · have made : (Resource.flow (slice "default" ⟨"test", "uid"⟩)).MadeFor flowTest
        ⟨"test", "uid"⟩ := ⟨_, .flow, .refl _⟩
    exact ⟨rfl, Option.some.inj (labeled.symm.trans made.labels_eq)⟩

theorem hosts_watching : busy.cluster.Hosts (watching .running 1) where
  stored := rfl
  plain := by decide
  references := references_busy rfl
  made key resource found labeled := by
    obtain ⟨rfl, -⟩ := eq_slice_of_get?_busy found labeled
    exact ⟨⟨"test", "uid"⟩, rfl, _, .flow, .refl _⟩

theorem hosts_another : busy.cluster.Hosts another where
  stored := rfl
  plain := by decide
  references := references_busy rfl
  made key resource found labeled := by
    obtain ⟨-, other⟩ := eq_slice_of_get?_busy found labeled
    exact absurd other (by decide)

def phases (cluster : Cluster) : List (Option FlowTestPhase) :=
  cluster.flowTests.values.map (·.phase?)

end Sample

/-- One flow test is completed and another one provisioned, in either order. -/
theorem reconciliations_commute_of_sample :
    let complete := Controller.reconcile {} ⟨100, 0⟩ (Sample.watching .running 1)
    let provision := Controller.reconcile {} ⟨200, 0⟩ Sample.another
    let provisionedLast := ((Sample.busy.run complete).2.run provision).2
    let completedLast := ((Sample.busy.run provision).2.run complete).2
    Sample.phases provisionedLast.cluster = [some .running, some .completed] ∧
    provisionedLast.cluster.flowTests = completedLast.cluster.flowTests ∧
    ∀ key resource, ¬ resource.IsShared →
      (provisionedLast.cluster.resources.get? key = some resource ↔
        completedLast.cluster.resources.get? key = some resource) := by
  obtain ⟨-, -, -, -, same⟩ :=
    @reconciliations_commute {} (Sample.watching .running 1) Sample.another Sample.busy
      Sample.isCoherent_busy Sample.hosts_watching Sample.hosts_another (by decide) (by decide)
      ⟨100, 0⟩ ⟨200, 0⟩
  refine And.intro ?_ same
  decide +kernel

end FlowTesting
