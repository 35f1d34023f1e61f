import FlowTesting.Proofs.Slices
import FlowTesting.Simulation
import Mathlib.Logic.Function.Defs

set_option autoImplicit false

/-!
# Names made from identifiers

The objects of a flow test are named after its identifier, with a dash between it and what tells
them apart. Identifiers may have dashes of their own. Still no two names are the same, since the
dashes that were put there are the last ones.
-/

namespace FlowTesting

namespace Simulation

theorem configMapName_eq (uid : String) : configMapName uid = uid ++ "-" ++ "configmap" := by
  rw [String.append_assoc]
  rfl

theorem podName_eq (uid : String) : podName uid = uid ++ "-" ++ "simulation" := by
  rw [String.append_assoc]
  rfl

theorem configMapName_injective : Function.Injective configMapName :=
  fun _ _ same => (String.append_left_inj _).mp same

theorem podName_injective : Function.Injective podName :=
  fun _ _ same => (String.append_left_inj _).mp same

theorem configMapName_ne_podName (uid other : String) : configMapName uid ≠ podName other := by
  rw [configMapName_eq, podName_eq]
  exact Slice.dashed_ne (by decide) (by decide) (by decide)

theorem configMapName_ne_nameFor (uid other : String) (testId : Nat) (testType : TestType) :
    configMapName uid ≠ Slice.nameFor other testId testType := by
  rw [configMapName_eq]
  cases testType <;> exact Slice.ne_nameFor_of_suffix (by decide) (by decide)

theorem podName_ne_nameFor (uid other : String) (testId : Nat) (testType : TestType) :
    podName uid ≠ Slice.nameFor other testId testType := by
  rw [podName_eq]
  cases testType <;> exact Slice.ne_nameFor_of_suffix (by decide) (by decide)

theorem podName_ne_aggregatorName (uid : String) : podName uid ≠ Configuration.aggregatorName := by
  have parted : Configuration.aggregatorName = "logging-plumber-log" ++ "-" ++ "aggregator" := rfl
  rw [podName_eq, parted]
  exact Slice.dashed_ne (by decide) (by decide) (by decide)

end Simulation

/-- A name tells the identifier and the object that it has been made for. -/
theorem derived_names_distinct :
    (∀ (uid other : String) (testId otherId : Nat) (testType otherType : TestType),
      Slice.nameFor uid testId testType = Slice.nameFor other otherId otherType ↔
        uid = other ∧ testId = otherId ∧ testType = otherType) ∧
    Function.Injective Simulation.configMapName ∧
    Function.Injective Simulation.podName ∧
    (∀ uid : String, Simulation.podName uid ≠ Configuration.aggregatorName) ∧
    ∀ (uid other : String) (testId : Nat) (testType : TestType),
      Simulation.configMapName uid ≠ Simulation.podName other ∧
      Simulation.configMapName uid ≠ Slice.nameFor other testId testType ∧
      Simulation.podName uid ≠ Slice.nameFor other testId testType := by
  refine ⟨fun uid other testId otherId testType otherType => ⟨Slice.nameFor_inj, ?_⟩,
    Simulation.configMapName_injective, Simulation.podName_injective,
    Simulation.podName_ne_aggregatorName, fun uid other testId testType =>
      ⟨Simulation.configMapName_ne_podName uid other,
        Simulation.configMapName_ne_nameFor uid other testId testType,
        Simulation.podName_ne_nameFor uid other testId testType⟩⟩
  intro same
  obtain ⟨rfl, rfl, rfl⟩ := same
  rfl

end FlowTesting
