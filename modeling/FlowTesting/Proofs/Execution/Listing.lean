import FlowTesting.Proofs.Execution.Calls
import FlowTesting.Proofs.Execution.Procedure

set_option autoImplicit false

/-!
# What the log aggregator lists

A program ignores an index when it goes on in the same way whether that index is listed or
not. Then its executions remain executions when the index is taken out of every listing.
-/

namespace FlowTesting

/-- A reply with the index of a name taken out of it. -/
def withoutIndex (name : String) : (asked : ControllerRequest) →
    controllerInterface.Reply asked → controllerInterface.Reply asked
  | .call .listIndexes, outcome => outcome.map (List.filter (fun index => index.name != name))
  | _, reply => reply

theorem withoutIndex_of_ne {name : String} {asked : ControllerRequest}
    (other : asked ≠ .call .listIndexes) (reply : controllerInterface.Reply asked) :
    withoutIndex name asked reply = reply := by
  unfold withoutIndex
  split
  · exact absurd rfl other
  · rfl

def Occurrence.withoutIndex (name : String) (occurrence : Occurrence) : Occurrence :=
  { occurrence with reply := FlowTesting.withoutIndex name occurrence.request occurrence.reply }

/-- The log aggregator might as well not have listed the index. -/
theorem Cluster.Answers.withoutIndex {before after : Cluster} {asked : ControllerRequest}
    {reply : controllerInterface.Reply asked} (answers : before.Answers asked reply after)
    (name : String) : before.Answers asked (FlowTesting.withoutIndex name asked reply) after := by
  by_cases listing : asked = .call .listIndexes
  · subst listing
    obtain rfl := answers.listIndexes
    exact .inr ⟨_, rfl⟩
  · rwa [withoutIndex_of_ne listing]

namespace Program

variable {α β : Type} {name : String}

/-- Whether a program goes on in the same way without the index of a name, whatever its
requests come to. -/
def Ignores (name : String) : Program controllerInterface α → Cluster → Prop
  | .done _, _ => True
  | .request asked next, cluster => ∀ reply after, cluster.Answers asked reply after →
      next (withoutIndex name asked reply) = next reply ∧ Ignores name (next reply) after

theorem Ignores.bind {program : Program controllerInterface α}
    {next : α → Program controllerInterface β} {cluster : Cluster}
    (ignores : program.Ignores name cluster)
    (nextIgnores : ∀ value cluster, (next value).Ignores name cluster) :
    (program.bind next).Ignores name cluster := by
  induction program generalizing cluster with
  | done value => exact nextIgnores value cluster
  | request asked reply ih =>
    intro answer after answers
    obtain ⟨same, rest⟩ := ignores answer after answers
    exact ⟨congrArg (Program.bind · next) same, ih answer rest⟩

theorem Assures.ignores {wanted : α → List Occurrence → Cluster → Prop}
    {program : Program controllerInterface α} {past : List Occurrence} {cluster : Cluster}
    (assured : program.Assures (fun _ occurrence => occurrence.request ≠ .call .listIndexes) wanted
      past cluster) : program.Ignores name cluster := by
  induction program generalizing past cluster with
  | done value => trivial
  | request asked next ih =>
    intro reply after answers
    obtain ⟨other, rest⟩ := assured reply after answers
    exact ⟨congrArg next (withoutIndex_of_ne other reply), ih reply rest⟩

end Program

theorem Execution.withoutIndex {α : Type} {name : String}
    {program rest : Program controllerInterface α} {before after : Cluster}
    {occurrences : List Occurrence}
    (execution : Execution program before occurrences rest after)
    (ignores : program.Ignores name before) :
    Execution program before (occurrences.map (Occurrence.withoutIndex name)) rest after := by
  induction execution with
  | idle program cluster => exact .idle program cluster
  | @request before middle after asked next reply occurrences rest answers _ ih =>
    obtain ⟨same, restIgnores⟩ := ignores reply middle answers
    exact .request (answers.withoutIndex name) (same ▸ ih restIgnores)

namespace Procedure

variable {α β : Type} {name : String} {cluster : Cluster}

def Ignores (name : String) (procedure : Procedure α) (cluster : Cluster) : Prop :=
  Program.Ignores name procedure.run cluster

theorem Ignores.bind {first : Procedure α} {next : α → Procedure β}
    (ignores : first.Ignores name cluster)
    (nextIgnores : ∀ value cluster, (next value).Ignores name cluster) :
    (first >>= next).Ignores name cluster := by
  refine Program.Ignores.bind ignores (fun outcome cluster => ?_)
  cases outcome with
  | ok value => exact nextIgnores value cluster
  | error failure => trivial

theorem Ignores.lift {procedure : Procedure α} (ignores : procedure.Ignores name cluster) :
    Ignores name (ExceptT.lift procedure.run) cluster :=
  Program.Ignores.bind ignores (fun _ _ => trivial)

theorem Assures.ignores {wanted : Except Failure α → List Occurrence → Cluster → Prop}
    {procedure : Procedure α} {past : List Occurrence}
    (assured : procedure.Assures (fun _ occurrence => occurrence.request ≠ .call .listIndexes)
      wanted past cluster) : procedure.Ignores name cluster :=
  Program.Assures.ignores assured

theorem Makes.ignores {procedure : Procedure α}
    (makes : procedure.Makes (· ≠ .call .listIndexes)) (cluster : Cluster) :
    procedure.Ignores name cluster :=
  (makes.assures [] cluster).ignores

/-- What comes after a call has to ignore the index if the call is answered. -/
theorem ignores_make_bind (call : Call) {next : call.Answer → Procedure β}
    (other : call ≠ .listIndexes)
    (ignores : ∀ answer after, cluster.Answers (.call call) (Except.ok answer) after →
      (next answer).Ignores name after) : (call.make >>= next).Ignores name cluster := by
  intro outcome after answers
  refine ⟨congrArg _ (withoutIndex_of_ne (fun same => other (ControllerRequest.call.inj same)) _), ?_⟩
  cases outcome with
  | ok answer => exact ignores answer after answers
  | error failure => trivial

/-- What comes after a listing has to be the same without the index. -/
theorem ignores_listing_bind {next : List Index → Procedure β}
    (same : ∀ indexes, next (indexes.filter (fun index => index.name != name)) = next indexes)
    (ignores : ∀ indexes after, (next indexes).Ignores name after) :
    (Call.listIndexes.make >>= next).Ignores name cluster := by
  intro outcome after answers
  cases outcome with
  | ok indexes => exact ⟨congrArg (fun procedure => procedure.run) (same indexes), ignores indexes after⟩
  | error failure => exact ⟨rfl, trivial⟩

end Procedure

end FlowTesting
