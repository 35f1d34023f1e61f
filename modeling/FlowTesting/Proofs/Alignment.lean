import FlowTesting.Proofs.FilterResults

set_option autoImplicit false

/-!
# Alignment of flags

Flags are allotted to the entries that a reference has when its slices are deployed, but a pass
sets them by the entries that it has by then. An edit in between that moves an entry can let a
flag be set for an entry that no slice with results tests; which edits do so is told here.
-/

namespace FlowTesting

namespace Marking

/-- No first entries of one list, put after a rule, claim a later place in another list, just when
each entry of that one occurs more often up to its place than in what comes before it there. -/
theorem claims_cons_take_lt_iff {reference edited : List Rule} {rule : Rule} :
    (∀ length, 0 < length → length ≤ reference.length → ∀ place < reference.length,
      place ∈ claims edited [] (rule :: reference.take length) → place < length) ↔
    ∀ place entry, 0 < place → place < reference.length → edited[place]? = some entry →
      (rule :: reference.take place).countP (· == entry) <
        (edited.take (place + 1)).countP (· == entry) := by
  constructor
  · intro before place entry positive within here
    by_cases fewer : (rule :: reference.take place).countP (· == entry) <
        (edited.take (place + 1)).countP (· == entry)
    · exact fewer
    · have claimed := (mem_claims_iff_countP_le here).mpr (Nat.le_of_not_lt fewer)
      have impossible := before place positive (Nat.le_of_lt within) place within claimed
      omega
  · intro fewer length positive within place placed claimed
    obtain ⟨entry, here⟩ : ∃ entry, edited[place]? = some entry :=
      ⟨_, List.getElem?_eq_getElem (lt_length_of_mem_claims claimed)⟩
    have enough := (mem_claims_iff_countP_le here).mp claimed
    by_cases before : place < length
    · exact before
    · have shorter : (rule :: reference.take length).Sublist (rule :: reference.take place) :=
        (List.take_prefix_take_left (Nat.le_of_not_lt before)).sublist.cons_cons rule
      have more := @List.Sublist.countP_le _ (· == entry) _ _ shorter
      have less := fewer place entry (by omega) placed here
      omega

end Marking

namespace PipelineFlow

/-- The same flow with other rules. -/
def withRules (matchRules filters : List Rule) : PipelineFlow → PipelineFlow
  | .flow object => .flow { object with spec := { object.spec with matchRules, filters } }
  | .clusterFlow object =>
    .clusterFlow { object with spec := { object.spec with matchRules, filters } }

variable {matchRules filters : List Rule}

@[simp]
theorem kind_withRules (flow : PipelineFlow) : (flow.withRules matchRules filters).kind = flow.kind := by
  cases flow <;> rfl

@[simp]
theorem labels_withRules (flow : PipelineFlow) :
    (flow.withRules matchRules filters).labels = flow.labels := by
  cases flow <;> rfl

/-- Whether an edited reference has its entries where their flags are. A match rule that is found
again among those with a flag is first found in its own place. A stage with a flag occurs more
often up to its place than in the slices for fewer stages, which begin with the filter for the
records of the test. -/
structure KeepsPlaces (uid : String) (reference edited : PipelineFlow) : Prop where
  matchRules : ∀ own rule place, reference.matchRules[own]? = some rule →
    place < reference.matchRules.length → Marking.Holds edited.matchRules place rule →
    (∀ earlier < place, ¬ Marking.Holds edited.matchRules earlier rule) → place = own
  filters : ∀ place stage, 0 < place → place < reference.filters.length →
    edited.filters[place]? = some stage →
    (SliceTemplate.uidFilter uid :: reference.filters.take place).countP (· == stage) <
      (edited.filters.take (place + 1)).countP (· == stage)

/-- Entries may be added after those with a flag, or dropped from the end, when no two of them are
equal and no stage equals the filter for the records of the test. -/
theorem KeepsPlaces.of_agrees {uid : String} {reference edited : PipelineFlow}
    (differentRules : Marking.AllDifferent reference.matchRules)
    (differentStages : Marking.AllDifferent (SliceTemplate.uidFilter uid :: reference.filters))
    (sameRules : ∀ place < reference.matchRules.length, ∀ rule,
      edited.matchRules[place]? = some rule → reference.matchRules[place]? = some rule)
    (sameStages : ∀ place < reference.filters.length, ∀ stage,
      edited.filters[place]? = some stage → reference.filters[place]? = some stage) :
    reference.KeepsPlaces uid edited where
  matchRules := by
    intro own rule place here within holds _
    obtain ⟨entry, atPlace, equal⟩ := Marking.holds_iff.mp holds
    exact differentRules.eq_of_equalAt
      ⟨rule, here, Marking.holds_iff.mpr ⟨entry, sameRules place within entry atPlace, equal⟩⟩
  filters := by
    intro place stage _ within atPlace
    have here : (SliceTemplate.uidFilter uid :: reference.filters)[place + 1]? = some stage :=
      sameStages place within stage atPlace
    have none := differentStages.countP_take_eq_zero here
    rw [List.take_succ_cons] at none
    rw [none, List.countP_pos_iff]
    have counted : stage ∈ edited.filters.take (place + 1) :=
      List.mem_of_getElem? ((List.getElem?_take_of_lt (Nat.lt_succ_self place)).trans atPlace)
    exact ⟨stage, counted, BEq.rfl⟩

end PipelineFlow

namespace Slice

/-- Whether a slice tests an entry of a reference: it is for that match rule, or for first stages
that reach up to that stage. -/
def Tests (reference : PipelineFlow) (uid : String) (slice : Slice) : TestType → Nat → Prop
  | .matchRule, place =>
    slice.testType = .matchRule ∧ slice.testId = place ∧
      ∃ rule, reference.matchRules[place]? = some rule ∧ slice.flow.matchRules = [rule]
  | .filterStage, place => ∃ length, slice.IsForStages reference uid length ∧ place < length

end Slice

/-- Whether flags are set only for entries that a slice which has delivered tests. -/
def Verification.IsAligned (reference : PipelineFlow) (uid : String) (slices : List Slice)
    (indexes : List Index) (verification : Verification) : Prop :=
  ∀ testType place, (verification.flags testType)[place]? = some true →
    ∃ slice ∈ slices, slice.Tests reference uid testType place ∧
      Index.haveLogs indexes slice.name = true

/-- The surroundings with another flow in the place of the reference of a flow test, and with
another listing. -/
def Surroundings.edited (surroundings : Surroundings) (flowTest : FlowTest)
    (reference : PipelineFlow) (indexes : List Index) : Surroundings where
  cluster :=
    { surroundings.cluster with
      resources := surroundings.cluster.resources.insert
        ⟨reference.kind.flowKind, flowTest.spec.referenceFlow.namespaceName,
          flowTest.spec.referenceFlow.name⟩ (.flow reference) }
  listing := .ok indexes

theorem Verification.Retirable.edited {policy : PassPolicy} {surroundings : Surroundings}
    {slice : PipelineFlow} (retirable : Retirable policy surroundings.cluster slice)
    (flowTest : FlowTest) (reference : PipelineFlow) (indexes : List Index) :
    Retirable policy (surroundings.edited flowTest reference indexes).cluster slice := by
  cases policy with
  | delete => exact retirable
  | deactivate =>
    obtain ⟨stored, found⟩ := retirable
    by_cases same : (Resource.flow slice).key = ⟨reference.kind.flowKind,
        flowTest.spec.referenceFlow.namespaceName, flowTest.spec.referenceFlow.name⟩
    · exact ⟨reference, by rw [Surroundings.edited, same, OrderedMap.get?_insert_self]⟩
    · exact ⟨stored, (OrderedMap.get?_insert_of_ne same).trans found⟩

namespace Slice

section Planned

variable {reference : PipelineFlow} {owner : Owner} {simulationLabels : Labels}
  {endpointBase : String} {slices : List Slice}

theorem eq_of_name_eq {slice other : Slice}
    (planned : plan reference owner simulationLabels endpointBase = .ok slices)
    (member : slice ∈ slices) (otherMember : other ∈ slices) (sameName : slice.name = other.name) :
    slice = other := by
  obtain ⟨template, -, -, rfl⟩ := eq_append_of_plan planned
  rcases List.mem_append.mp member with inMatches | inFilters <;>
    rcases List.mem_append.mp otherMember with otherInMatches | otherInFilters
  · obtain ⟨place, rule, here, rfl⟩ := mem_forMatches_iff.mp inMatches
    obtain ⟨otherPlace, otherRule, otherHere, rfl⟩ := mem_forMatches_iff.mp otherInMatches
    obtain ⟨-, rfl, -⟩ := nameFor_inj sameName
    rw [Option.some.inj (here.symm.trans otherHere)]
  · obtain ⟨place, rule, here, rfl⟩ := mem_forMatches_iff.mp inMatches
    obtain ⟨otherPlace, -, rfl⟩ := mem_forFilters_iff.mp otherInFilters
    cases (nameFor_inj sameName).2.2
  · obtain ⟨place, -, rfl⟩ := mem_forFilters_iff.mp inFilters
    obtain ⟨otherPlace, otherRule, otherHere, rfl⟩ := mem_forMatches_iff.mp otherInMatches
    cases (nameFor_inj sameName).2.2
  · obtain ⟨place, -, rfl⟩ := mem_forFilters_iff.mp inFilters
    obtain ⟨otherPlace, -, rfl⟩ := mem_forFilters_iff.mp otherInFilters
    obtain ⟨-, sameId, -⟩ := nameFor_inj sameName
    obtain rfl : place = otherPlace := by omega
    rfl

end Planned

section Claims

variable {reference edited : PipelineFlow} {uid : String} {slice : Slice} {place : Nat}

theorem tests_matchRule_iff {own : Nat} {rule : Rule}
    (isOwn : slice.testType = .matchRule ∧ slice.testId = own ∧ slice.flow.matchRules = [rule])
    (here : reference.matchRules[own]? = some rule) :
    slice.Tests reference uid .matchRule place ↔ place = own := by
  obtain ⟨testType, testId, rules⟩ := isOwn
  constructor
  · intro tests
    exact tests.2.1.symm.trans testId
  · intro same
    subst same
    exact ⟨testType, testId, rule, here, rules⟩

theorem IsForStages.tests_iff {length : Nat} (stages : slice.IsForStages reference uid length) :
    slice.Tests reference uid .filterStage place ↔ place < length := by
  constructor
  · intro tests
    obtain ⟨other, otherStages, before⟩ := tests
    have sameLength := congrArg List.length (stages.filters.symm.trans otherStages.filters)
    simp only [List.length_cons, List.length_take_of_le stages.within,
      List.length_take_of_le otherStages.within] at sameLength
    omega
  · exact fun before => ⟨length, stages, before⟩

end Claims

/-- An edit keeps places just when no slice claims an entry, among those with a flag, that it does
not test. -/
theorem keepsPlaces_iff_of_plan {reference edited : PipelineFlow} {owner : Owner}
    {simulationLabels : Labels} {endpointBase : String} {slices : List Slice}
    (planned : plan reference owner simulationLabels endpointBase = .ok slices) :
    reference.KeepsPlaces owner.uid edited ↔
      ∀ slice ∈ slices, ∀ place < (reference.entries slice.testType).length,
        place ∈ Marking.claims (edited.entries slice.testType) []
          (slice.flow.entries slice.testType) →
        slice.Tests reference owner.uid slice.testType place := by
  obtain ⟨template, -, uidFilter, rfl⟩ := eq_append_of_plan planned
  have stages := @isForStages_build reference owner simulationLabels template
  constructor
  · intro keeps slice member
    rcases List.mem_append.mp member with inMatches | inFilters
    · obtain ⟨own, rule, here, rfl⟩ := mem_forMatches_iff.mp inMatches
      intro place within claimed
      change place ∈ Marking.claims edited.matchRules [] (PipelineFlow.matchRules _) at claimed
      rw [matchRules_flow_build, Marking.mem_claims_singleton_iff] at claimed
      exact (tests_matchRule_iff ⟨rfl, rfl, matchRules_flow_build⟩ here).mpr
        (keeps.matchRules own rule place here within claimed.1 claimed.2)
    · obtain ⟨last, isStage, rfl⟩ := mem_forFilters_iff.mp inFilters
      intro place within claimed
      change place ∈ Marking.claims edited.filters [] (PipelineFlow.filters _) at claimed
      rw [(@stages last uidFilter isStage).filters] at claimed
      exact (@stages last uidFilter isStage).tests_iff.mpr
        (Marking.claims_cons_take_lt_iff.mpr keeps.filters (last + 1) (Nat.succ_pos last) isStage
          place within claimed)
  · intro tests
    obtain ⟨testsMatches, testsFilters⟩ := List.forall_mem_append.mp tests
    constructor
    · intro own rule place here within holds first
      refine (tests_matchRule_iff ⟨rfl, rfl, matchRules_flow_build⟩ here).mp
        (testsMatches _ (mem_forMatches_iff.mpr ⟨own, rule, here, rfl⟩) place within ?_)
      change place ∈ Marking.claims edited.matchRules [] (PipelineFlow.matchRules _)
      rw [matchRules_flow_build]
      exact Marking.mem_claims_singleton_iff.mpr ⟨holds, first⟩
    · refine Marking.claims_cons_take_lt_iff.mp (fun length positive within place placed claimed => ?_)
      obtain ⟨last, rfl⟩ := Nat.exists_eq_succ_of_ne_zero (Nat.ne_of_gt positive)
      refine (@stages last uidFilter within).tests_iff.mp
        (testsFilters _ (mem_forFilters_iff.mpr ⟨last, within, rfl⟩) place placed ?_)
      change place ∈ Marking.claims edited.filters [] (PipelineFlow.filters _)
      rw [(@stages last uidFilter within).filters]
      exact claimed

namespace Deployment

variable {flowTest : FlowTest} {reference : PipelineFlow} {uid : String} {slices : List Slice}
  {indexes : List Index} {start after : Surroundings} {policy : PassPolicy}

theorem mem_listFlows_edited_iff
    (deployment : Deployment flowTest reference uid slices indexes start after)
    (matchRules filters : List Rule) (others : List Index) {flow : PipelineFlow} :
    flow ∈ (after.edited flowTest (reference.withRules matchRules filters) others).cluster.listFlows
        reference.kind (Selector.flowTest flowTest.name) ↔
      ∃ slice ∈ slices, slice.flow = flow := by
  rw [← deployment.mem_listFlows_iff, Cluster.mem_listFlows_iff, Cluster.mem_listFlows_iff]
  refine exists_congr (fun key => and_congr_right (fun _ => ?_))
  have stored := Cluster.getFlow_eq_some_iff.mp deployment.found
  have unselected : ¬ Selector.selects (Selector.flowTest flowTest.name) reference.labels = true :=
    fun selected => deployment.unlabeled _ reference stored
      ((Selector.selects_flowTest_iff deployment.plain).mp selected)
  simp only [Surroundings.edited, PipelineFlow.kind_withRules]
  by_cases same : key = ⟨reference.kind.flowKind, flowTest.spec.referenceFlow.namespaceName,
      flowTest.spec.referenceFlow.name⟩
  · -- Neither the reference nor what it has become is one of the slices.
    subst same
    rw [OrderedMap.get?_insert_self, (deployment.gains.resources _ _).mpr (.inl stored)]
    simp only [Option.some.injEq, Resource.flow.injEq]
    constructor
    · intro found
      obtain ⟨rfl, selected⟩ := found
      exact absurd (reference.labels_withRules ▸ selected) unselected
    · intro found
      obtain ⟨rfl, selected⟩ := found
      exact absurd selected unselected
  · rw [OrderedMap.get?_insert_of_ne same]

/-- What a pass over an edited reference finds out. -/
theorem exists_run_edited
    (deployment : Deployment flowTest reference uid slices indexes start after)
    (works : policy = .delete → start.cluster.deletesFail = false) (matchRules filters : List Rule)
    (others : List Index) :
    ∃ verification final,
      (after.edited flowTest (reference.withRules matchRules filters) others).run
        (Verification.run flowTest policy) = (.ok verification, final) ∧
      verification.StoredIn flowTest final.cluster ∧
      ∀ testType place, (verification.flags testType)[place]? = some true ↔
        place < (reference.entries testType).length ∧
          ∃ slice ∈ slices, Verification.delivered? others slice.flow = some testType ∧
            place ∈ Marking.claims
              ((reference.withRules matchRules filters).entries testType) []
              (slice.flow.entries testType) := by
  have stored := deployment.stored_after
  have found : (after.edited flowTest (reference.withRules matchRules filters) others).cluster.getFlow
      reference.kind flowTest.spec.referenceFlow.namespaceName flowTest.spec.referenceFlow.name =
      some (reference.withRules matchRules filters) := by
    simp only [Surroundings.edited, PipelineFlow.kind_withRules, Cluster.getFlow_eq_some_iff]
    exact OrderedMap.get?_insert_self _ _ _
  have listed := fun flow => @mem_listFlows_edited_iff _ _ _ _ _ _ _ deployment matchRules filters
    others flow
  obtain ⟨final, ran⟩ := Verification.run_run deployment.ofKind found rfl
    (Option.isSome_iff_exists.mpr ⟨flowTest, stored⟩) (fun flow member => by
      obtain ⟨slice, planned, rfl⟩ := (listed flow).mp member
      exact (deployment.retirable works planned).edited _ _ _)
  obtain ⟨_, storedIn⟩ := (Verification.run_yields flowTest policy [] _).of_run ran
  exact ⟨_, final, ran, storedIn stored,
    deployment.getElem?_flags_of_listed_iff listed⟩

end Deployment

end Slice

/-- Flags stay aligned with the entries that a reference had when its slices were deployed just
when its edit keeps their places. A pass over an edited reference succeeds and stores the flags that
it sets, whatever is listed. If the edit keeps places, these are only flags of entries that a slice
which has delivered tests; if it does not, some listing lets another flag be set. -/
theorem alignment_kept_iff {flowTest : FlowTest} {reference : PipelineFlow} {uid : String}
    {slices : List Slice} {indexes : List Index} {start after : Surroundings} {policy : PassPolicy}
    (deployment : Slice.Deployment flowTest reference uid slices indexes start after)
    (works : policy = .delete → start.cluster.deletesFail = false)
    (matchRules filters : List Rule) :
    let edited := reference.withRules matchRules filters
    (∀ others, ∃ verification final,
      (after.edited flowTest edited others).run (Verification.run flowTest policy) =
        (.ok verification, final) ∧
      verification.StoredIn flowTest final.cluster) ∧
    (reference.KeepsPlaces uid edited ↔ ∀ others verification final,
      (after.edited flowTest edited others).run (Verification.run flowTest policy) =
        (.ok verification, final) →
      verification.IsAligned reference uid slices others) := by
  intro edited
  obtain ⟨simulationLabels, endpointBase, planned⟩ := deployment.planned
  have passes := deployment.exists_run_edited works matchRules filters
  constructor
  · intro others
    obtain ⟨verification, final, ran, storedIn, -⟩ := passes others
    exact ⟨verification, final, ran, storedIn⟩
  rw [Slice.keepsPlaces_iff_of_plan planned]
  constructor
  · intro tests others verification final ran testType place set
    obtain ⟨_, _, ranToo, -, flags⟩ := passes others
    obtain ⟨same, -⟩ := Prod.mk.inj (ran.symm.trans ranToo)
    obtain rfl := Except.ok.inj same
    obtain ⟨within, slice, member, delivered, claimed⟩ := (flags testType place).mp set
    rw [Slice.delivered?_of_mem_plan planned member] at delivered
    obtain ⟨logs, ofType⟩ := Option.ite_none_right_eq_some.mp delivered
    obtain rfl := Option.some.inj ofType
    exact ⟨slice, member, tests slice member place within claimed, logs⟩
  · -- When only one slice has delivered, it has to test all that it claims.
    intro aligned slice member place within claimed
    obtain ⟨verification, final, ran, -, flags⟩ := passes [{ name := slice.name, logCount := 1 }]
    have delivered : Verification.delivered? [{ name := slice.name, logCount := 1 }] slice.flow =
        some slice.testType := by
      rw [Slice.delivered?_of_mem_plan planned member]
      simp [Index.haveLogs]
    have set := (flags slice.testType place).mpr ⟨within, slice, member, delivered, claimed⟩
    obtain ⟨other, otherMember, tested, logs⟩ := aligned _ _ _ ran _ place set
    have sameName : slice.name = other.name := by simpa [Index.haveLogs] using logs
    obtain rfl := Slice.eq_of_name_eq planned member otherMember sameName
    exact tested

/-- A third match rule and a first stage may be added behind two match rules. -/
theorem alignment_kept_by_adding :
    let start := Sample.deploying ["first", "second"] []
    let after := Sample.deployed ["first", "second"] []
    let reference := Sample.flow ["first", "second"]
    let slices := Sample.slices ["first", "second"]
    let edited := reference.withRules (Sample.flow ["first", "second", "third"]).matchRules
      [⟨.text "stage"⟩]
    Slice.Deployment (Sample.watching .running 2) reference "uid" slices [] start after ∧
      reference.KeepsPlaces "uid" edited ∧
      ∀ others verification final,
        (after.edited (Sample.watching .running 2) edited others).run
          (Verification.run (Sample.watching .running 2) .delete) = (.ok verification, final) →
        verification.IsAligned reference "uid" slices others := by
  intro start after reference slices edited
  have deployment := Sample.deployment_two
  have keeps : reference.KeepsPlaces "uid" edited := by
    refine .of_agrees (by decide) (by decide) (fun place within rule found => ?_)
      (fun place within => absurd within (Nat.not_lt_zero place))
    have sameEntry : ∀ place < 2, edited.matchRules[place]? = reference.matchRules[place]? := by
      intro place within
      match place, within with
      | 0, _ => rfl
      | 1, _ => rfl
    exact (sameEntry place within).symm.trans found
  exact ⟨deployment, keeps, (@alignment_kept_iff _ _ _ _ _ _ _ .delete deployment (fun _ => rfl)
    (Sample.flow ["first", "second", "third"]).matchRules [⟨.text "stage"⟩]).2.mp keeps⟩

/-- When two match rules have been swapped, the slice of the first one sets the flag of the
second. -/
theorem alignment_lost_by_swapping :
    let indexes := Sample.counting 1 0
    let start := Sample.deploying ["first", "second"] []
    let after := Sample.deployed ["first", "second"] []
    let reference := Sample.flow ["first", "second"]
    let slices := Sample.slices ["first", "second"]
    let edited := reference.withRules (Sample.flow ["second", "first"]).matchRules []
    Slice.Deployment (Sample.watching .running 2) reference "uid" slices [] start after ∧
      Marking.AllDifferent reference.matchRules ∧ Marking.AllDifferent reference.filters ∧
      Index.haveLogs indexes (Slice.nameFor "uid" 1 .matchRule) = false ∧
      ∃ verification final,
        (after.edited (Sample.watching .running 2) edited indexes).run
          (Verification.run (Sample.watching .running 2) .delete) = (.ok verification, final) ∧
        verification.matchStatus[1]? = some true ∧
        ¬ verification.IsAligned reference "uid" slices indexes := by
  intro indexes start after reference slices edited
  have deployment := Sample.deployment_two
  obtain ⟨verification, final, ran, -, flags⟩ := @Slice.Deployment.exists_run_edited _ _ _ _ _ _ _
    .delete deployment (fun _ => rfl) (Sample.flow ["second", "first"]).matchRules [] indexes
  have set : verification.matchStatus[1]? = some true :=
    (flags .matchRule 1).mpr
      ⟨by decide, slices[0], List.getElem_mem _, by decide, by decide⟩
  refine ⟨deployment, by decide, by decide, by decide, verification, final, ran, set, ?_⟩
  intro aligned
  obtain ⟨slice, member, ⟨testType, testId, -⟩, logs⟩ := aligned .matchRule 1 set
  have silent : ∀ slice ∈ slices, slice.testId = 1 → Index.haveLogs indexes slice.name = false := by
    decide
  rw [silent slice member testId] at logs
  cases logs

end FlowTesting
