import FlowTesting.Proofs.MatchResults

set_option autoImplicit false

/-!
# Results of filter stages

What a pass finds out about the filter stages of a reference once its slices have been deployed.
A filter slice carries the filter for the records of the test and then the first stages, so it
passes just these stages when no stage equals that filter.
-/

namespace FlowTesting

namespace Slice

/-- Whether a slice tests the given number of first stages of a reference. -/
structure IsForStages (reference : PipelineFlow) (uid : String) (length : Nat) (slice : Slice) :
    Prop where
  testType : slice.testType = .filterStage
  filters : slice.flow.filters = SliceTemplate.uidFilter uid :: reference.filters.take length
  within : length ≤ reference.filters.length

/-- The filter in front of the stages claims none of them. -/
theorem IsForStages.mem_claims_iff {reference : PipelineFlow} {uid : String} {length : Nat}
    {slice : Slice} (stages : slice.IsForStages reference uid length)
    (different : ∀ stage ∈ reference.filters, (stage == SliceTemplate.uidFilter uid) = false)
    {place : Nat} :
    place ∈ Marking.claims reference.filters [] slice.flow.filters ↔ place < length := by
  have within := stages.within
  rw [stages.filters, Marking.mem_claims_cons_take_iff different]
  omega

section Planned

variable {reference : PipelineFlow} {owner : Owner} {simulationLabels : Labels}
  {endpointBase : String} {slices : List Slice} {slice : Slice}

theorem delivered?_of_mem_plan
    (planned : plan reference owner simulationLabels endpointBase = .ok slices)
    (member : slice ∈ slices) (indexes : List Index) :
    Verification.delivered? indexes slice.flow =
      if Index.haveLogs indexes slice.name then some slice.testType else none := by
  obtain ⟨template, testId, testType, matchRules, filters, -, rfl⟩ :=
    isBuilt_of_mem_plan planned member
  exact Verification.delivered?_flow_build

theorem isForStages_build {template : SliceTemplate} {place : Nat}
    (uidFilter : template.filters = [SliceTemplate.uidFilter owner.uid])
    (within : place < reference.filters.length) :
    (build template owner (reference.matchRules.length + place) .filterStage
      [.select simulationLabels] (reference.filters.take (place + 1))).IsForStages reference
        owner.uid (place + 1) where
  testType := rfl
  filters := by rw [filters_flow_build, uidFilter, List.singleton_append]
  within := within

theorem exists_isForStages_of_mem_plan
    (planned : plan reference owner simulationLabels endpointBase = .ok slices)
    (member : slice ∈ slices) (testsStages : slice.testType = .filterStage) :
    ∃ length, slice.IsForStages reference owner.uid length := by
  obtain ⟨template, -, uidFilter, rfl⟩ := eq_append_of_plan planned
  rcases List.mem_append.mp member with inMatches | inFilters
  · obtain ⟨place, rule, -, rfl⟩ := mem_forMatches_iff.mp inMatches
    cases testsStages
  · obtain ⟨place, within, rfl⟩ := mem_forFilters_iff.mp inFilters
    exact ⟨place + 1, isForStages_build uidFilter within⟩

end Planned

namespace Deployment

variable {flowTest : FlowTest} {reference : PipelineFlow} {uid : String} {slices : List Slice}
  {indexes : List Index} {start after : Surroundings}

/-- A flag for a filter stage is set when a slice for more stages than come before it has
delivered. -/
theorem getElem?_filterStatus_iff
    (deployment : Deployment flowTest reference uid slices indexes start after)
    (different : ∀ stage ∈ reference.filters, (stage == SliceTemplate.uidFilter uid) = false)
    {place : Nat} :
    (findings flowTest reference indexes after).filterStatus[place]? = some true ↔
      ∃ slice ∈ slices, ∃ length, slice.IsForStages reference uid length ∧ place < length ∧
        Index.haveLogs indexes slice.name = true := by
  obtain ⟨simulationLabels, endpointBase, planned⟩ := deployment.planned
  refine (deployment.getElem?_flags_iff .filterStage place).trans ?_
  constructor
  · intro set
    obtain ⟨-, slice, member, delivered, claimed⟩ := set
    rw [delivered?_of_mem_plan planned member] at delivered
    obtain ⟨logs, testType⟩ := Option.ite_none_right_eq_some.mp delivered
    obtain ⟨length, stages⟩ :=
      exists_isForStages_of_mem_plan planned member (Option.some.inj testType)
    exact ⟨slice, member, length, stages, (stages.mem_claims_iff different).mp claimed, logs⟩
  · intro passed
    obtain ⟨slice, member, length, stages, before, logs⟩ := passed
    refine ⟨Nat.lt_of_lt_of_le before stages.within, slice, member, ?_,
      (stages.mem_claims_iff different).mpr before⟩
    rw [delivered?_of_mem_plan planned member, if_pos logs, stages.testType]

/-- The flags for one type of test depend on nothing but which slices of that type have
delivered. -/
theorem flags_eq_of_haveLogs_eq
    (deployment : Deployment flowTest reference uid slices indexes start after)
    {testType : TestType} {others : List Index}
    (same : ∀ slice ∈ slices, slice.testType = testType →
      Index.haveLogs others slice.name = Index.haveLogs indexes slice.name) :
    (findings flowTest reference others after).flags testType =
      (findings flowTest reference indexes after).flags testType := by
  obtain ⟨simulationLabels, endpointBase, planned⟩ := deployment.planned
  have otherwise := deployment.withListing others
  have delivered_iff : ∀ slice ∈ slices,
      Verification.delivered? others slice.flow = some testType ↔
        Verification.delivered? indexes slice.flow = some testType := by
    intro slice member
    rw [delivered?_of_mem_plan planned member, delivered?_of_mem_plan planned member,
      Option.ite_none_right_eq_some, Option.ite_none_right_eq_some, Option.some.injEq]
    refine and_congr_left (fun ofType => ?_)
    rw [same slice member ofType]
  refine Marking.flags_ext ?_ (fun place => ?_)
  · exact (otherwise.length_flags testType).trans (deployment.length_flags testType).symm
  · refine (otherwise.getElem?_flags_iff testType place).trans
      (Iff.trans ?_ (deployment.getElem?_flags_iff testType place).symm)
    refine and_congr_right (fun _ => exists_congr (fun slice => and_congr_right (fun member => ?_)))
    rw [delivered_iff slice member]

end Deployment

end Slice

/-- The results of filter stages are exact when no stage equals the filter for the records of the
test. After a deployment, a pass succeeds and sets the flag of a stage just when a slice for more
stages than come before it has delivered. Slices of one type never set a flag of the other type:
a pass finds out the same about a type whatever the slices of the other type have delivered. -/
theorem filter_results_exact {flowTest : FlowTest} {reference : PipelineFlow} {uid : String}
    {slices : List Slice} {indexes : List Index} {start after : Surroundings}
    {policy : PassPolicy}
    (deployment : Slice.Deployment flowTest reference uid slices indexes start after)
    (works : policy = .delete → start.cluster.deletesFail = false)
    (different : ∀ stage ∈ reference.filters, (stage == SliceTemplate.uidFilter uid) = false) :
    ∃ verification final,
      after.run (Verification.run flowTest policy) = (.ok verification, final) ∧
      verification.StoredIn flowTest final.cluster ∧
      verification.filterStatus.length = reference.filters.length ∧
      (∀ place, verification.filterStatus[place]? = some true ↔
        ∃ slice ∈ slices, ∃ length, slice.IsForStages reference uid length ∧ place < length ∧
          Index.haveLogs indexes slice.name = true) ∧
      ∀ testType others,
        (∀ slice ∈ slices, slice.testType = testType →
          Index.haveLogs others slice.name = Index.haveLogs indexes slice.name) →
        ∃ other otherFinal,
          ({ after with listing := .ok others } : Surroundings).run
            (Verification.run flowTest policy) = (.ok other, otherFinal) ∧
          other.flags testType = verification.flags testType := by
  obtain ⟨final, verified, storedIn⟩ := deployment.run_verification policy works
  refine ⟨_, final, verified, storedIn, deployment.length_flags .filterStage,
    fun place => deployment.getElem?_filterStatus_iff different, fun testType others same => ?_⟩
  obtain ⟨otherFinal, otherVerified, -⟩ :=
    (deployment.withListing others).run_verification policy works
  exact ⟨_, otherFinal, otherVerified, deployment.flags_eq_of_haveLogs_eq same⟩

namespace Sample

/-- A reference flow with one match rule, and one filter stage for each text. -/
def staged (stages : List String) : PipelineFlow :=
  .flow
    { metadata := .ofNew "flow" "default" ∅
      spec := { matchRules := [⟨.text "first"⟩], filters := stages.map (fun text => ⟨.text text⟩) } }

def watchingStages (stages : Nat) : FlowTest :=
  { watching .running 1 with status? := some (.allocated .running 1 stages) }

def stagedSlices (stages : List String) : List Slice :=
  let owner : Owner := ⟨"test", "uid"⟩
  Slice.forMatches (template "default" owner) owner (staged stages) ++
    Slice.forFilters (template "default" owner) owner (staged stages) ∅

theorem stagedDeployment {stages : List String} {indexes : List Index} {count : Nat}
    (counted : stages.length = count)
    (succeeded : ((Surroundings.alone (watchingStages count) (staged stages) indexes).run
      (Slice.deploy (stagedSlices stages))).1 = .ok ()) :
    Slice.Deployment (watchingStages count) (staged stages) "uid" (stagedSlices stages) indexes
      (.alone (watchingStages count) (staged stages) indexes)
      ((Surroundings.alone (watchingStages count) (staged stages) indexes).run
        (Slice.deploy (stagedSlices stages))).2 := by
  subst counted
  have plain : ',' ∉ "test".toList := by decide
  exact Slice.Deployment.ofAlone plain rfl rfl nofun rfl
    (congrArg (List.replicate · false) (List.length_map _).symm) ⟨∅, "http://aggregator", rfl⟩
    succeeded

end Sample

/-- The slice for two equal stages passes both of them but not the third stage, and it leaves the
match flags as they are when nothing has delivered. -/
theorem filter_results_of_equal_stages :
    let stages := ["same", "same", "other"]
    let indexes : List Index := [{ name := "uid-2-filter", logCount := 5 }]
    let start := Surroundings.alone (Sample.watchingStages 3) (Sample.staged stages) indexes
    let after := (start.run (Slice.deploy (Sample.stagedSlices stages))).2
    Slice.Deployment (Sample.watchingStages 3) (Sample.staged stages) "uid"
        (Sample.stagedSlices stages) indexes start after ∧
      (∀ stage ∈ (Sample.staged stages).filters,
        (stage == SliceTemplate.uidFilter "uid") = false) ∧
      ∃ verification final,
        after.run (Verification.run (Sample.watchingStages 3) .deactivate) =
          (.ok verification, final) ∧
        verification.filterStatus[1]? = some true ∧
        verification.filterStatus[2]? ≠ some true ∧
        ∃ other otherFinal,
          ({ after with listing := .ok [] } : Surroundings).run
            (Verification.run (Sample.watchingStages 3) .deactivate) = (.ok other, otherFinal) ∧
          other.matchStatus = verification.matchStatus := by
  have deployed : ((Surroundings.alone (Sample.watchingStages 3)
      (Sample.staged ["same", "same", "other"]) [{ name := "uid-2-filter", logCount := 5 }]).run
        (Slice.deploy (Sample.stagedSlices ["same", "same", "other"]))).1 = .ok () := rfl
  intro stages indexes start after
  have deployment := @Sample.stagedDeployment stages indexes 3 rfl deployed
  have different : ∀ stage ∈ (Sample.staged stages).filters,
      (stage == SliceTemplate.uidFilter "uid") = false := by decide
  obtain ⟨verification, final, verified, -, -, passed, apart⟩ :=
    @filter_results_exact _ _ _ _ _ _ _ .deactivate deployment nofun different
  refine ⟨deployment, different, verification, final, verified, ?_, ?_,
    apart .matchRule [] (by decide)⟩
  · exact (passed 1).mpr ⟨(Sample.stagedSlices stages)[2], List.getElem_mem _, 2,
      ⟨rfl, rfl, by decide⟩, by decide, by decide⟩
  · intro set
    obtain ⟨slice, member, length, tested, before, logs⟩ := (passed 2).mp set
    have only : ∀ slice ∈ Sample.stagedSlices stages, Index.haveLogs indexes slice.name = true →
        slice.flow.filters.length = 3 := by decide
    have counted := congrArg List.length tested.filters
    rw [only slice member logs, List.length_cons, List.length_take_of_le tested.within] at counted
    omega

end FlowTesting
