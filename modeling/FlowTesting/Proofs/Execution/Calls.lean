import FlowTesting.Proofs.Execution.Basic

set_option autoImplicit false

/-!
# What calls come to

One lemma for each call: either it has been rejected, or it has done what is said here and
nothing else.
-/

namespace FlowTesting.Cluster.Answers

variable {before after : Cluster}

/-- A call whose answer does not depend on the listing of the log aggregator. -/
private theorem settled {call : Call} {outcome : Except Failure call.Answer}
    (answers : before.Answers (.call call) outcome after)
    (result : Except Failure call.Answer × Cluster)
    (answered : ∀ listing,
      (⟨before, listing⟩ : Surroundings).answer call = (result.1, ⟨result.2, listing⟩)) :
    Rejected before outcome after ∨ result = (outcome, after) := by
  rcases answers with rejected | ⟨listing, answeredHere⟩
  · exact .inl rejected
  · rw [answered listing] at answeredHere
    obtain ⟨sameOutcome, sameSurroundings⟩ := Prod.mk.inj answeredHere
    obtain ⟨sameCluster, -⟩ := Surroundings.mk.inj sameSurroundings
    exact .inr (Prod.ext sameOutcome sameCluster)

theorem patchStatus {flowTest : FlowTest} {status : FlowTestStatus}
    {outcome : Except Failure Unit}
    (answers : before.Answers (.call (.patchStatus flowTest status)) outcome after) :
    Rejected before outcome after ∨ outcome = .ok () ∧ ∃ stored,
      before.flowTests.get? flowTest.name = some stored ∧
        after = before.putFlowTest flowTest.name
          { stored with status? := some (stored.status.merge status) } := by
  rcases answers.settled (before.patchStatus flowTest status) (fun _ => rfl) with
    rejected | answered
  · exact .inl rejected
  · unfold Cluster.patchStatus at answered
    split at answered <;> cases answered
    next missing => exact .inl ⟨⟨_, rfl⟩, rfl⟩
    next stored found => exact .inr ⟨rfl, stored, found, rfl⟩

theorem addFinalizer {flowTest : FlowTest} {finalizer : String} {outcome : Except Failure Unit}
    (answers : before.Answers (.call (.addFinalizer flowTest finalizer)) outcome after) :
    Rejected before outcome after ∨ outcome = .ok () ∧ ∃ stored,
      before.flowTests.get? flowTest.name = some stored ∧
        after = before.putFlowTest flowTest.name { stored with metadata := { stored.metadata with
          finalizers? := some (withFinalizer stored.metadata.finalizers finalizer) } } := by
  rcases answers.settled (before.addFinalizer flowTest finalizer) (fun _ => rfl) with
    rejected | answered
  · exact .inl rejected
  · unfold Cluster.addFinalizer at answered
    split at answered <;> cases answered
    next missing => exact .inl ⟨⟨_, rfl⟩, rfl⟩
    next stored found => exact .inr ⟨rfl, stored, found, rfl⟩

theorem removeFinalizer {flowTest : FlowTest} {finalizer : String} {outcome : Except Failure Unit}
    (answers : before.Answers (.call (.removeFinalizer flowTest finalizer)) outcome after) :
    Rejected before outcome after ∨ outcome = .ok () ∧
      (before.flowTests.get? flowTest.name = none ∧ after = before ∨ ∃ stored,
        before.flowTests.get? flowTest.name = some stored ∧
          after = before.putFlowTest flowTest.name { stored with metadata := { stored.metadata with
            finalizers? := stored.metadata.finalizers?.map (·.filter (· != finalizer)) } }) := by
  rcases answers.settled (before.removeFinalizer flowTest finalizer) (fun _ => rfl) with
    rejected | answered
  · exact .inl rejected
  · unfold Cluster.removeFinalizer at answered
    split at answered <;> cases answered
    next missing => exact .inr ⟨rfl, .inl ⟨missing, rfl⟩⟩
    next stored found => exact .inr ⟨rfl, .inr ⟨stored, found, rfl⟩⟩

theorem listFlowTests {outcome : Except Failure (List FlowTest)}
    (answers : before.Answers (.call .listFlowTests) outcome after) :
    Rejected before outcome after ∨ outcome = .ok before.flowTests.values ∧ after = before := by
  rcases answers.settled (.ok before.flowTests.values, before) (fun _ => rfl) with
    rejected | answered
  · exact .inl rejected
  · cases answered
    exact .inr ⟨rfl, rfl⟩

theorem getPod {namespaceName name : String} {outcome : Except Failure (Option Pod)}
    (answers : before.Answers (.call (.getPod namespaceName name)) outcome after) :
    Rejected before outcome after ∨
      outcome = .ok (before.getPod namespaceName name) ∧ after = before := by
  rcases answers.settled (.ok (before.getPod namespaceName name), before)
    (fun _ => rfl) with rejected | answered
  · exact .inl rejected
  · cases answered
    exact .inr ⟨rfl, rfl⟩

theorem getFlow {kind : PipelineKind} {namespaceName name : String}
    {outcome : Except Failure (Option PipelineFlow)}
    (answers : before.Answers (.call (.getFlow kind namespaceName name)) outcome after) :
    Rejected before outcome after ∨
      outcome = .ok (before.getFlow kind namespaceName name) ∧ after = before := by
  rcases answers.settled (.ok (before.getFlow kind namespaceName name), before)
    (fun _ => rfl) with rejected | answered
  · exact .inl rejected
  · cases answered
    exact .inr ⟨rfl, rfl⟩

theorem create {resource : Resource} {outcome : Except Failure Unit}
    (answers : before.Answers (.call (.create resource)) outcome after) :
    Rejected before outcome after ∨ outcome = .ok () ∧
      before.resources.get? resource.key = none ∧ after = before.addResource resource := by
  rcases answers.settled (before.create resource) (fun _ => rfl) with
    rejected | answered
  · exact .inl rejected
  · unfold Cluster.create at answered
    split at answered <;> cases answered
    next taken => exact .inl ⟨⟨_, rfl⟩, rfl⟩
    next free => exact .inr ⟨rfl, by simpa [OrderedMap.contains] using free, rfl⟩

theorem listFlows {kind : PipelineKind} {selector : String}
    {outcome : Except Failure (List PipelineFlow)}
    (answers : before.Answers (.call (.listFlows kind selector)) outcome after) :
    Rejected before outcome after ∨
      outcome = .ok (before.listFlows kind selector) ∧ after = before := by
  rcases answers.settled (.ok (before.listFlows kind selector), before)
    (fun _ => rfl) with rejected | answered
  · exact .inl rejected
  · cases answered
    exact .inr ⟨rfl, rfl⟩

theorem deleteFlow {flow : PipelineFlow} {outcome : Except Failure Unit}
    (answers : before.Answers (.call (.deleteFlow flow)) outcome after) :
    Rejected before outcome after ∨ outcome = .ok () ∧
      after = { before with resources := before.resources.erase (Resource.flow flow).key } := by
  rcases answers.settled (before.deleteFlow flow) (fun _ => rfl) with
    rejected | answered
  · exact .inl rejected
  · unfold Cluster.deleteFlow at answered
    split at answered <;> cases answered
    next fails => exact .inl ⟨⟨_, rfl⟩, rfl⟩
    next works => exact .inr ⟨rfl, rfl⟩

theorem deactivateFlow {flow : PipelineFlow} {outcome : Except Failure Unit}
    (answers : before.Answers (.call (.deactivateFlow flow)) outcome after) :
    Rejected before outcome after ∨ outcome = .ok () ∧ ∃ stored : PipelineFlow,
      before.resources.get? (Resource.flow flow).key = some (.flow stored) ∧
        after = { before with
          resources := before.resources.insert (Resource.flow flow).key
            (.flow (stored.withStatus { active? := some false })) } := by
  rcases answers.settled (before.deactivateFlow flow) (fun _ => rfl) with
    rejected | answered
  · exact .inl rejected
  · simp only [Cluster.deactivateFlow] at answered
    split at answered <;> cases answered
    next stored found => exact .inr ⟨rfl, stored, found, rfl⟩
    next missing => exact .inl ⟨⟨_, rfl⟩, rfl⟩

theorem deleteLabeled {kind : Kind} {selector : String} {outcome : Except Failure Nat}
    (answers : before.Answers (.call (.deleteLabeled kind selector)) outcome after) :
    Rejected before outcome after ∨
      outcome = .ok (before.resources.size - after.resources.size) ∧
        after = { before with resources := before.resources.filter (fun key resource =>
          !isSelected kind selector key resource) } := by
  rcases answers.settled (before.deleteLabeled kind selector) (fun _ => rfl) with
    rejected | answered
  · exact .inl rejected
  · unfold Cluster.deleteLabeled at answered
    split at answered <;> cases answered
    next fails => exact .inl ⟨⟨_, rfl⟩, rfl⟩
    next works => exact .inr ⟨rfl, rfl⟩

theorem listIndexes {outcome : Except Failure (List Index)}
    (answers : before.Answers (.call .listIndexes) outcome after) : after = before := by
  rcases answers with rejected | ⟨listing, answered⟩
  · exact rejected.2
  · cases answered
    rfl

end FlowTesting.Cluster.Answers
