import FlowTesting.Call
import FlowTesting.Slice.Template

set_option autoImplicit false

/-!
# Slices

A reference pipeline is tested by slices that are routed independently. A match slice
keeps one match rule and so delivers when that rule alone selects the simulation. A
filter slice selects the simulation by its labels and applies the first filter stages,
so it delivers when records survive them. The slices are numbered, matches first.
-/

namespace FlowTesting

/-- One test pipeline: a flow and the output of its own. -/
structure Slice where
  name : String
  testId : Nat
  testType : TestType
  flow : PipelineFlow
  output : PipelineOutput

namespace Slice

/-- The name of a slice's flow and output. -/
def nameFor (uid : String) (testId : Nat) (testType : TestType) : String :=
  uid ++ "-" ++ toString testId ++ "-" ++ testType.text

def build (template : SliceTemplate) (owner : Owner) (testId : Nat) (testType : TestType)
    (matchRules filters : List Rule) : Slice :=
  let name := nameFor owner.uid testId testType
  let labels := Labels.slice template.referenceName owner testId testType
  { name
    testId
    testType
    flow := template.flow name labels matchRules filters
    output := template.output name labels }

def forMatches (template : SliceTemplate) (owner : Owner) (reference : PipelineFlow) : List Slice :=
  reference.matchRules.zipIdx.map (fun (rule, place) =>
    build template owner place .matchRule [rule] [])

/-- One slice for each filter stage, with the stages up to it. -/
def forFilters (template : SliceTemplate) (owner : Owner) (reference : PipelineFlow)
    (simulationLabels : Labels) : List Slice :=
  (List.range reference.filters.length).map (fun place =>
    build template owner (reference.matchRules.length + place) .filterStage
      [.select simulationLabels] (reference.filters.take (place + 1)))

def plan (reference : PipelineFlow) (owner : Owner) (simulationLabels : Labels)
    (endpointBase : String) : Except Failure (List Slice) := do
  let template ← SliceTemplate.ofReference reference owner endpointBase
  return forMatches template owner reference ++ forFilters template owner reference simulationLabels

/-- Creates every slice, its output before its flow, up to the first failure. -/
def deploy : List Slice → Procedure Unit
  | [] => return ()
  | slice :: rest => do
    Call.make (.create (.output slice.output))
    Call.make (.create (.flow slice.flow))
    deploy rest

end Slice

end FlowTesting
