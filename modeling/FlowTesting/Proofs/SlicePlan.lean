import FlowTesting.Proofs.Slices
import Mathlib.Data.List.DropRight

set_option autoImplicit false

/-!
# Slice plans

What a plan holds at each of its places. The match slices come first, and the slice at a place is
numbered by it, so the names of a plan and the addresses that its outputs deliver to are all
different.
-/

namespace FlowTesting

/-- All that a flow delivers to. -/
def PipelineFlow.destinations : PipelineFlow → List (Kind × String)
  | .flow object => object.spec.localOutputRefs.map (Kind.output, ·) ++
      object.spec.globalOutputRefs.map (Kind.clusterOutput, ·)
  | .clusterFlow object => object.spec.globalOutputRefs.map (Kind.clusterOutput, ·)

namespace SliceTemplate

/-- The template for a reference in a namespace. -/
def forReference (reference : PipelineFlow) (owner : Owner) (namespaceName stem : String) :
    SliceTemplate :=
  { kind := reference.kind
    namespaceName
    referenceName := reference.name
    filters := [uidFilter owner.uid]
    endpointBase := stem
    buffer := fastBuffer }

end SliceTemplate

namespace Slice

open SliceTemplate

variable {reference : PipelineFlow} {owner : Owner} {simulationLabels : Labels}
  {endpointBase namespaceName stem : String} {place other : Nat} {slice otherSlice : Slice}
  {slices : List Slice}

theorem plan_of_no_namespace (homeless : reference.namespaceName? = none) :
    plan reference owner simulationLabels endpointBase = .error (.validation owner.name
      s!"reference {reference.kind.text} {reference.name} has no namespace") := by
  simp [plan, ofReference, homeless, bind, Except.bind]

theorem plan_of_namespace (located : reference.namespaceName? = some namespaceName) :
    plan reference owner simulationLabels endpointBase =
      let template := forReference reference owner namespaceName
        (withoutTrailingSlashes endpointBase)
      .ok (forMatches template owner reference ++
        forFilters template owner reference simulationLabels) := by
  simp [plan, ofReference, located, forReference, bind, Except.bind, pure, Except.pure]

theorem namespaceName?_of_plan
    (planned : plan reference owner simulationLabels endpointBase = .ok slices) :
    ∃ namespaceName, reference.namespaceName? = some namespaceName := by
  cases located : reference.namespaceName? with
  | none =>
    rw [plan_of_no_namespace located] at planned
    cases planned
  | some namespaceName => exact ⟨namespaceName, rfl⟩

section Places

variable {template : SliceTemplate}

@[simp]
theorem length_forMatches :
    (forMatches template owner reference).length = reference.matchRules.length := by
  simp [forMatches]

@[simp]
theorem length_forFilters :
    (forFilters template owner reference simulationLabels).length =
      reference.filters.length := by
  simp [forFilters]

theorem getElem?_of_rule {rule : Rule} (found : reference.matchRules[place]? = some rule) :
    (forMatches template owner reference ++
      forFilters template owner reference simulationLabels)[place]? =
        some (build template owner place .matchRule [rule] []) := by
  have early : place < reference.matchRules.length := (List.getElem?_eq_some_iff.mp found).1
  rw [List.getElem?_append_left (by simpa using early)]
  simp [forMatches, found]

theorem getElem?_of_stage {stage : Nat} (applied : stage < reference.filters.length) :
    (forMatches template owner reference ++
      forFilters template owner reference simulationLabels)[reference.matchRules.length + stage]? =
        some (build template owner (reference.matchRules.length + stage) .filterStage
          [.select simulationLabels] (reference.filters.take (stage + 1))) := by
  rw [List.getElem?_append_right (by simp), length_forMatches, Nat.add_sub_cancel_left]
  simp [forFilters, applied]

/-- What stands at a place of a plan has been built for that place. -/
theorem exists_build_of_getElem?
    (found : (forMatches template owner reference ++
      forFilters template owner reference simulationLabels)[place]? = some slice) :
    ∃ testType matchRules filters,
      build template owner place testType matchRules filters = slice := by
  have bound := (List.getElem?_eq_some_iff.mp found).1
  simp only [List.length_append, length_forMatches, length_forFilters] at bound
  by_cases early : place < reference.matchRules.length
  · rw [getElem?_of_rule (List.getElem?_eq_getElem early)] at found
    exact ⟨_, _, _, Option.some.inj found⟩
  · have split : reference.matchRules.length + (place - reference.matchRules.length) = place := by
      omega
    have applied : place - reference.matchRules.length < reference.filters.length := by omega
    have stands := @getElem?_of_stage reference owner simulationLabels template _ applied
    rw [split, found] at stands
    exact ⟨_, _, _, (Option.some.inj stands).symm⟩

end Places

/-- What the slice at a place of a plan has in common with the others: its number, its name, where
it is, how it is labelled, and that its flow delivers to its output and nowhere else, which in turn
delivers to an address of its own. -/
structure Fills (reference : PipelineFlow) (owner : Owner) (namespaceName stem : String)
    (place : Nat) (slice : Slice) : Prop where
  testId : slice.testId = place
  name : slice.name = nameFor owner.uid place slice.testType
  kind_flow : slice.flow.kind = reference.kind
  kind_output : slice.output.kind = reference.kind
  metadata_flow : slice.flow.metadata = .ofNew slice.name namespaceName
    (Labels.slice reference.name owner place slice.testType)
  metadata_output : slice.output.metadata = slice.flow.metadata
  destinations : slice.flow.destinations = [(reference.kind.outputKind, slice.name)]
  spec_output : slice.output.spec =
    ⟨some { endpoint := stem ++ "/" ++ slice.name ++ "/", buffer? := some fastBuffer }⟩

theorem fills_build {testType : TestType} {matchRules filters : List Rule} :
    Fills reference owner namespaceName stem place
      (build (forReference reference owner namespaceName stem) owner place testType matchRules
        filters) := by
  constructor
  case testId => rfl
  case name => rfl
  case kind_flow => exact kind_flow_build
  case kind_output => exact kind_output_build
  case metadata_flow => exact metadata_flow_build
  case metadata_output => rw [metadata_output_build, metadata_flow_build]
  case destinations =>
    simp only [build, SliceTemplate.flow, forReference]
    cases reference.kind <;> rfl
  case spec_output =>
    simp only [build, SliceTemplate.output, forReference]
    cases reference.kind <;> rfl

namespace Fills

theorem place_eq_of_name_eq (fills : slice.Fills reference owner namespaceName stem place)
    (otherFills : otherSlice.Fills reference owner namespaceName stem other)
    (same : slice.name = otherSlice.name) : place = other := by
  rw [fills.name, otherFills.name] at same
  exact (nameFor_inj same).2.1

end Fills

theorem fills_of_plan (located : reference.namespaceName? = some namespaceName)
    (planned : plan reference owner simulationLabels endpointBase = .ok slices)
    (found : slices[place]? = some slice) :
    slice.Fills reference owner namespaceName (withoutTrailingSlashes endpointBase) place := by
  rw [plan_of_namespace located] at planned
  cases planned
  obtain ⟨testType, matchRules, filters, rfl⟩ := exists_build_of_getElem? found
  exact fills_build

theorem length_plan (located : reference.namespaceName? = some namespaceName)
    (planned : plan reference owner simulationLabels endpointBase = .ok slices) :
    slices.length = reference.matchRules.length + reference.filters.length := by
  rw [plan_of_namespace located] at planned
  cases planned
  simp

/-- What tells the places of a plan apart is different for each of its slices. -/
theorem nodup_map_of_plan {α : Type} {read : Slice → α}
    (located : reference.namespaceName? = some namespaceName)
    (planned : plan reference owner simulationLabels endpointBase = .ok slices)
    (tells : ∀ stem place other left right, Fills reference owner namespaceName stem place left →
      Fills reference owner namespaceName stem other right → read left = read right →
        place = other) : (slices.map read).Nodup := by
  apply List.pairwise_iff_getElem.mpr
  intro place other early late less same
  simp only [List.length_map] at early late
  simp only [List.getElem_map] at same
  have placed := tells _ place other _ _
    (fills_of_plan located planned (List.getElem?_eq_getElem early))
    (fills_of_plan located planned (List.getElem?_eq_getElem late)) same
  omega

theorem nodup_names_of_plan (located : reference.namespaceName? = some namespaceName)
    (planned : plan reference owner simulationLabels endpointBase = .ok slices) :
    (slices.map (·.name)).Nodup :=
  nodup_map_of_plan located planned (fun _ _ _ _ _ => Fills.place_eq_of_name_eq)

end Slice

end FlowTesting
