import FlowTesting.Proofs.Ownership
import FlowTesting.Simulation

set_option autoImplicit false

/-!
# Ownership labels

Which value each key of the labels of an object has, whatever the maps bring along that
are merged into them, and what follows for selectors: the one of a flow test selects the
objects made for it and no others, the simulation has the labels that it is selected by
over those of the reference pod, and no flow test lays claim to the log aggregator.
-/

namespace FlowTesting

/-- Whether labels have every label of others, with the same value. -/
def Labels.Extends (labels others : Labels) : Prop :=
  ∀ key value, others.get? key = some value → labels.get? key = some value

/-- Where no maps are merged in, an object has the labels of its maker and of its owner alone. -/
theorem Labels.get?_ownership_nil_iff {name : String} {owner : Option Owner}
    {key value : String} :
    (ownership name owner []).get? key = some value ↔ (key, value) ∈ fixed name owner := by
  refine ⟨fun found => ?_, get?_ownership_of_mem⟩
  by_cases isFixed : key ∈ (fixed name owner).map Prod.fst
  · obtain ⟨⟨_, fixedValue⟩, member, rfl⟩ := List.mem_map.mp isFixed
    rw [get?_ownership_of_mem member] at found
    exact Option.some.inj found ▸ member
  · rw [get?_ownership_of_free isFixed] at found
    cases found

/-- Maps that are merged in take away none of the labels that an object has without them. -/
theorem Labels.ownership_extends (name : String) (owner : Option Owner) (extras : List Labels) :
    (ownership name owner extras).Extends (ownership name owner []) :=
  fun _ _ found => get?_ownership_of_mem (get?_ownership_nil_iff.mp found)

/-- The simulation takes the labels of any reference pod that has a container, and is made
for no other. -/
theorem Simulation.pod_cases (flowTest : FlowTest) (owner : Owner) (reference : Pod)
    (image : Image) :
    (reference.containers = [] ∧
        ∃ failure, Simulation.pod flowTest owner reference image = .error failure) ∨
      (reference.containers ≠ [] ∧
        ∃ pod, Simulation.pod flowTest owner reference image = .ok pod ∧
          pod.metadata.labels =
            Labels.ownership componentName (some owner) [reference.metadata.labels]) := by
  unfold Simulation.pod
  cases reference.containers with
  | nil => exact .inl ⟨rfl, _, rfl⟩
  | cons first others => exact .inr ⟨List.cons_ne_nil _ _, _, rfl, rfl⟩

/-- The labels of an object made for a flow test, in the presence of any other maps: the five
keys of the maker and of the owner have their own values, and every other key has its value
in the last map that has it, if there is one. A selector made from a name without a comma
selects them exactly when the flow test has that name. The simulation is selected by the labels
of its component, of the maker and of the owner, and the simulation of a reference pod with a
container has all of these. The labels of the log aggregator are selected by no selector for a
flow test. -/
theorem ownership_exact (name : String) (owner : Owner) (extras : List Labels) :
    let labels := Labels.ownership name (some owner) extras
    (labels.get? Labels.nameKey = some name ∧
      labels.get? Labels.createdByKey = some Labels.createdBy ∧
      labels.get? Labels.managedByKey = some Labels.managedBy ∧
      labels.get? Labels.flowTestKey = some owner.name ∧
      labels.get? Labels.flowTestUidKey = some owner.uid) ∧
    (∀ key, key ∉ [Labels.nameKey, Labels.createdByKey, Labels.managedByKey, Labels.flowTestKey,
      Labels.flowTestUidKey] → labels.get? key = Labels.lastValue? extras key) ∧
    (∀ wanted : String, ',' ∉ wanted.toList →
      (Selector.selects (Selector.flowTest wanted) labels = true ↔ wanted = owner.name)) ∧
    (∀ key value, (Simulation.selectorLabels owner).get? key = some value ↔
      (key, value) ∈ [(Labels.nameKey, Simulation.componentName),
        (Labels.createdByKey, Labels.createdBy), (Labels.managedByKey, Labels.managedBy),
        (Labels.flowTestKey, owner.name), (Labels.flowTestUidKey, owner.uid)]) ∧
    (∀ (flowTest : FlowTest) (reference : Pod) (image : Image),
      (reference.containers = [] ∧
        ∃ failure, Simulation.pod flowTest owner reference image = .error failure) ∨
      ∃ pod, Simulation.pod flowTest owner reference image = .ok pod ∧
        pod.metadata.labels.Extends (Simulation.selectorLabels owner)) ∧
    ∀ aggregatorName wanted : String,
      Selector.selects (Selector.flowTest wanted) (Labels.aggregator aggregatorName) = false := by
  intro labels
  have fixedValue : ∀ {key value}, (key, value) ∈ Labels.fixed name (some owner) →
      labels.get? key = some value := Labels.get?_ownership_of_mem
  have owned : labels.get? Labels.flowTestKey = some owner.name :=
    Labels.get?_flowTestKey_ownership name owner extras
  refine ⟨⟨fixedValue ?_, fixedValue ?_, fixedValue ?_, owned,
    Labels.get?_flowTestUidKey_ownership name owner extras⟩, ?_, ?_, ?_, ?_, ?_⟩
  · simp [Labels.fixed]
  · simp [Labels.fixed]
  · simp [Labels.fixed]
  · exact fun key free => Labels.get?_ownership_of_free free
  · intro wanted plain
    rw [Selector.selects_flowTest_iff plain, owned, Option.some.injEq, eq_comm]
  · exact fun key value => Labels.get?_ownership_nil_iff
  · intro flowTest reference image
    rcases Simulation.pod_cases flowTest owner reference image with
      refused | ⟨-, pod, built, labelled⟩
    · exact .inl refused
    · exact .inr ⟨pod, built, labelled ▸ Labels.ownership_extends _ _ _⟩
  · intro aggregatorName wanted
    refine Bool.eq_false_iff.mpr (fun selected => ?_)
    have labelled := Selector.get?_of_selects_flowTest selected
    rw [Labels.get?_flowTestKey_aggregator] at labelled
    cases labelled

/-- A map with the keys of the owner and of the maker takes nothing over: the flow test of an
unusual name keeps its object, and of two values for another key the later one stays. -/
theorem ownership_exact_over_hostile_labels :
    let owner : Owner := ⟨"a=b", "uid"⟩
    let hostile : Labels := .ofList
      [(Labels.flowTestKey, "other"), (Labels.nameKey, "spoofed"), ("tier", "early")]
    let labels := Labels.ownership "name" (some owner) [hostile, .ofList [("tier", "late")]]
    labels.get? Labels.nameKey = some "name" ∧ labels.get? "tier" = some "late" ∧
      Selector.selects (Selector.flowTest "a=b") labels = true ∧
      Selector.selects (Selector.flowTest "other") labels = false := by
  intro owner hostile labels
  obtain ⟨⟨named, -⟩, others, selected, -⟩ :=
    ownership_exact "name" owner [hostile, .ofList [("tier", "late")]]
  refine ⟨named, (others "tier" (by decide)).trans (by decide),
    (selected "a=b" (by decide)).mpr rfl, Bool.eq_false_iff.mpr (fun other => ?_)⟩
  have renamed : "other" = "a=b" := (selected "other" (by decide)).mp other
  exact absurd renamed (by decide)

end FlowTesting
