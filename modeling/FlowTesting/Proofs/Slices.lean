import FlowTesting.Proofs.Ownership
import FlowTesting.Slice.Plan

set_option autoImplicit false

/-!
# Planned slices

What a slice is built from can be read off its name and its flow, and every planned slice is built
for one match rule or for one filter stage of the reference.
-/

namespace FlowTesting

/-- The key of the output that is next to a flow and has its name. -/
def PipelineFlow.outputKey (flow : PipelineFlow) : ResourceKey :=
  { kind := flow.kind.outputKind
    namespaceName := flow.namespaceName?.getD ""
    name := flow.name }

end FlowTesting

namespace FlowTesting.Slice

section Names

/-- What stands before and after the last dash of a text is determined by the text. -/
private theorem dashed_inj {left right first second : String} (plainFirst : '-' ∉ first.toList)
    (plainSecond : '-' ∉ second.toList) (same : left ++ "-" ++ first = right ++ "-" ++ second) :
    left = right ∧ first = second := by
  have reversed : first.toList.reverse ++ '-' :: left.toList.reverse =
      second.toList.reverse ++ '-' :: right.toList.reverse := by
    simpa using congrArg (fun text : String => text.toList.reverse) same
  have parts := congrArg (Text.splitOnce? '-') reversed
  rw [Text.splitOnce?_append _ (by simpa using plainFirst),
    Text.splitOnce?_append _ (by simpa using plainSecond)] at parts
  simp only [Option.some.injEq, Prod.mk.injEq, List.reverse_inj, String.toList_inj] at parts
  exact ⟨parts.2, parts.1⟩

/-- Texts with different parts after their last dashes are different. -/
theorem dashed_ne {left right first second : String} (plainFirst : '-' ∉ first.toList)
    (plainSecond : '-' ∉ second.toList) (different : first ≠ second) :
    left ++ "-" ++ first ≠ right ++ "-" ++ second :=
  fun same => different (dashed_inj plainFirst plainSecond same).2

private theorem dash_notMem_testType (testType : TestType) : '-' ∉ testType.text.toList := by
  cases testType <;> decide

private theorem dash_notMem_number (number : Nat) : '-' ∉ (toString number).toList := by
  intro member
  have digit : '-'.isDigit = true := by
    refine Nat.isDigit_of_mem_toDigits (b := 10) (n := number) (by decide) (by decide) ?_
    simpa [Nat.repr] using member
  exact absurd digit (by decide)

private theorem text_injective {testType otherType : TestType}
    (same : testType.text = otherType.text) : testType = otherType := by
  have read := congrArg TestType.ofText? same
  rw [TestType.ofText?_text, TestType.ofText?_text] at read
  exact Option.some.inj read

private theorem number_injective {number other : Nat} (same : toString number = toString other) :
    number = other := by
  have digits : Nat.toDigits 10 number = Nat.toDigits 10 other := String.ofList_inj.mp same
  have read := congrArg (Nat.ofDigitChars 10 · 0) digits
  simpa only [Nat.ofDigitChars_ten_toDigits] using read

/-- The name of a slice tells all that it has been made from. -/
theorem nameFor_inj {uid other : String} {testId otherId : Nat} {testType otherType : TestType}
    (same : nameFor uid testId testType = nameFor other otherId otherType) :
    uid = other ∧ testId = otherId ∧ testType = otherType := by
  obtain ⟨sameStem, sameType⟩ :=
    dashed_inj (dash_notMem_testType testType) (dash_notMem_testType otherType) same
  obtain ⟨sameUid, sameNumber⟩ :=
    dashed_inj (dash_notMem_number testId) (dash_notMem_number otherId) sameStem
  exact ⟨sameUid, number_injective sameNumber, text_injective sameType⟩

theorem ne_nameFor_of_suffix {stem suffix uid : String} {testId : Nat}
    {testType : TestType} (plain : '-' ∉ suffix.toList) (other : suffix ≠ testType.text) :
    stem ++ "-" ++ suffix ≠ nameFor uid testId testType :=
  dashed_ne plain (dash_notMem_testType testType) other

end Names

section Build

variable {template : SliceTemplate} {owner : Owner} {testId : Nat} {testType : TestType}
  {matchRules filters : List Rule}

theorem metadata_flow_build :
    (build template owner testId testType matchRules filters).flow.metadata =
      .ofNew (nameFor owner.uid testId testType) template.namespaceName
        (Labels.slice template.referenceName owner testId testType) := by
  simp only [build, SliceTemplate.flow]
  cases template.kind <;> rfl

theorem metadata_output_build :
    (build template owner testId testType matchRules filters).output.metadata =
      .ofNew (nameFor owner.uid testId testType) template.namespaceName
        (Labels.slice template.referenceName owner testId testType) := by
  simp only [build, SliceTemplate.output]
  cases template.kind <;> rfl

@[simp]
theorem name_flow_build :
    (build template owner testId testType matchRules filters).flow.name =
      nameFor owner.uid testId testType := by
  rw [PipelineFlow.name, metadata_flow_build]
  rfl

@[simp]
theorem labels_flow_build :
    (build template owner testId testType matchRules filters).flow.labels =
      Labels.slice template.referenceName owner testId testType := by
  rw [PipelineFlow.labels, metadata_flow_build]
  rfl

@[simp]
theorem kind_flow_build :
    (build template owner testId testType matchRules filters).flow.kind = template.kind := by
  simp only [build, SliceTemplate.flow]
  cases template.kind <;> rfl

@[simp]
theorem kind_output_build :
    (build template owner testId testType matchRules filters).output.kind = template.kind := by
  simp only [build, SliceTemplate.output]
  cases template.kind <;> rfl

@[simp]
theorem matchRules_flow_build :
    (build template owner testId testType matchRules filters).flow.matchRules = matchRules := by
  simp only [build, SliceTemplate.flow]
  cases template.kind <;> rfl

@[simp]
theorem filters_flow_build :
    (build template owner testId testType matchRules filters).flow.filters =
      template.filters ++ filters := by
  simp only [build, SliceTemplate.flow]
  cases template.kind <;> rfl

@[simp]
theorem isActive_flow_build :
    (build template owner testId testType matchRules filters).flow.isActive = true := by
  simp only [build, SliceTemplate.flow]
  cases template.kind <;> rfl

@[simp]
theorem testType?_flow_build :
    (build template owner testId testType matchRules filters).flow.testType? = some testType := by
  rw [PipelineFlow.testType?, labels_flow_build, Labels.get?_testTypeKey_slice]
  exact TestType.ofText?_text testType

end Build

section Plan

variable {template : SliceTemplate} {reference : PipelineFlow} {owner : Owner}
  {simulationLabels : Labels} {endpointBase : String} {slices : List Slice} {slice : Slice}

theorem mem_forMatches_iff :
    slice ∈ forMatches template owner reference ↔ ∃ place rule,
      reference.matchRules[place]? = some rule ∧
        build template owner place .matchRule [rule] [] = slice := by
  simp only [forMatches, List.mem_map, Prod.exists, List.mem_zipIdx_iff_getElem?]
  exact exists_comm

theorem mem_forFilters_iff :
    slice ∈ forFilters template owner reference simulationLabels ↔
      ∃ place, place < reference.filters.length ∧
        build template owner (reference.matchRules.length + place) .filterStage
          [.select simulationLabels] (reference.filters.take (place + 1)) = slice := by
  simp only [forFilters, List.mem_map, List.mem_range]

/-- A plan is made from one template, which is of the kind of the reference. -/
theorem eq_append_of_plan (planned : plan reference owner simulationLabels endpointBase = .ok slices) :
    ∃ template : SliceTemplate, template.kind = reference.kind ∧
      template.filters = [SliceTemplate.uidFilter owner.uid] ∧
      slices = forMatches template owner reference ++
        forFilters template owner reference simulationLabels := by
  cases templated : SliceTemplate.ofReference reference owner endpointBase with
  | error failure =>
    simp [plan, templated, bind, Except.bind] at planned
  | ok template =>
    simp only [plan, templated, bind, Except.bind, pure, Except.pure, Except.ok.injEq] at planned
    refine ⟨template, ?_, ?_, planned.symm⟩
    all_goals
      unfold SliceTemplate.ofReference at templated
      split at templated <;> cases templated
      rfl

/-- Whether a slice is built for an owner from a template of the given kind. -/
def IsBuilt (owner : Owner) (kind : PipelineKind) (slice : Slice) : Prop :=
  ∃ template testId testType matchRules filters, template.kind = kind ∧
    build template owner testId testType matchRules filters = slice

theorem isBuilt_of_mem_plan
    (planned : plan reference owner simulationLabels endpointBase = .ok slices)
    (member : slice ∈ slices) : slice.IsBuilt owner reference.kind := by
  obtain ⟨template, sameKind, -, rfl⟩ := eq_append_of_plan planned
  rcases List.mem_append.mp member with inMatches | inFilters
  · obtain ⟨place, rule, -, rfl⟩ := mem_forMatches_iff.mp inMatches
    exact ⟨_, _, _, _, _, sameKind, rfl⟩
  · obtain ⟨place, -, rfl⟩ := mem_forFilters_iff.mp inFilters
    exact ⟨_, _, _, _, _, sameKind, rfl⟩

theorem IsBuilt.kind_flow {kind : PipelineKind} (built : slice.IsBuilt owner kind) :
    slice.flow.kind = kind := by
  obtain ⟨template, testId, testType, matchRules, filters, rfl, rfl⟩ := built
  exact kind_flow_build

theorem IsBuilt.isLabeledFor {kind : PipelineKind} (built : slice.IsBuilt owner kind) :
    (Resource.flow slice.flow).IsLabeledFor owner.name := by
  obtain ⟨template, testId, testType, matchRules, filters, -, rfl⟩ := built
  rw [Resource.IsLabeledFor, Resource.labels, Resource.metadata, metadata_flow_build]
  exact Labels.get?_flowTestKey_ownership _ _ _

theorem IsBuilt.isLabeledFor_output {kind : PipelineKind} (built : slice.IsBuilt owner kind) :
    (Resource.output slice.output).IsLabeledFor owner.name := by
  obtain ⟨template, testId, testType, matchRules, filters, -, rfl⟩ := built
  rw [Resource.IsLabeledFor, Resource.labels, Resource.metadata, metadata_output_build]
  exact Labels.get?_flowTestKey_ownership _ _ _

theorem IsBuilt.outputRefs_flow {kind : PipelineKind} (built : slice.IsBuilt owner kind) :
    slice.flow.outputRefs = [slice.flow.name] := by
  obtain ⟨template, testId, testType, matchRules, filters, -, rfl⟩ := built
  rw [name_flow_build]
  simp only [build, SliceTemplate.flow]
  cases template.kind <;> rfl

/-- The output of a slice is the one that its flow delivers to. -/
theorem IsBuilt.key_output {kind : PipelineKind} (built : slice.IsBuilt owner kind) :
    (Resource.output slice.output).key = slice.flow.outputKey := by
  obtain ⟨template, testId, testType, matchRules, filters, -, rfl⟩ := built
  simp only [PipelineFlow.outputKey, Resource.key, Resource.kind, Resource.namespaceName?,
    Resource.name, Resource.metadata, PipelineFlow.namespaceName?, PipelineFlow.name,
    metadata_flow_build, metadata_output_build, kind_flow_build, kind_output_build]

end Plan

end FlowTesting.Slice
