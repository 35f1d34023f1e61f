import FlowTesting.Proofs.CreationOrder
import FlowTesting.Proofs.Execution.Monitoring

set_option autoImplicit false

/-!
# The standing of a flow test

A flow test is provisioned once: its reference is read, its flags are allocated, its slices are
made, and the end of that is stored as its phase. Reconciliations go through these stages in this
order, whatever becomes of the cluster in between, and afterwards they never store other numbers
of flags.
-/

namespace FlowTesting

/-- Whether a patch leaves the numbers of flags of a status as they are. -/
structure FlowTestStatus.Suits (patch status : FlowTestStatus) : Prop where
  matchLength : patch.matchStatus = [] ∨
    patch.matchStatus.length = status.matchStatus.length
  filterLength : patch.filterStatus = [] ∨
    patch.filterStatus.length = status.filterStatus.length

/-- How far a flow test has come: the reference that has been read to provision it, and whether
the flags have been allocated and the provisioning has ended. -/
structure Standing where
  read? : Option PipelineFlow := none
  allocated : Bool := false
  ended : Bool := false

/-- Whether a request can make no difference to the standing of a flow test. -/
def FlowTest.IgnoredBy (flowTest : FlowTest) : ControllerRequest → Prop
  | .call (.patchStatus _ _) => False
  | .call (.create (.flow _)) => False
  | .call (.getFlow _ _ _) => ¬ flowTest.Provisions
  | _ => True

/-- How the requests of a reconciliation change the standing of its flow test. -/
inductive Standing.Moves (flowTest : FlowTest) (standing : Standing) :
    (asked : ControllerRequest) → controllerInterface.Reply asked → Standing → Prop where
  | stay {asked : ControllerRequest} {reply : controllerInterface.Reply asked} :
      flowTest.IgnoredBy asked → Moves flowTest standing asked reply standing
  | accept : flowTest.phase? = none →
      Moves flowTest standing (.call (.patchStatus flowTest (.ofPhase .created))) (.ok ()) standing
  | read {kind : PipelineKind} {reference : PipelineFlow} :
      flowTest.Provisions → flowTest.pipelineKind = .ok kind → standing.read? = none →
      Moves flowTest standing (.call (.getFlow kind flowTest.spec.referenceFlow.namespaceName
        flowTest.spec.referenceFlow.name)) (.ok (some reference))
        { standing with read? := some reference }
  | miss {kind : PipelineKind} {namespaceName name : String}
      {outcome : Except Failure (Option PipelineFlow)} :
      flowTest.Provisions → (∀ reference, outcome ≠ .ok (some reference)) →
      Moves flowTest standing (.call (.getFlow kind namespaceName name)) outcome standing
  | allocate {reference : PipelineFlow} :
      flowTest.Provisions → standing.read? = some reference → standing.allocated = false →
      standing.ended = false →
      Moves flowTest standing (.call (.patchStatus flowTest (.allocated .created
        reference.matchRules.length reference.filters.length))) (.ok ())
        { standing with allocated := true }
  | deploy {flow : PipelineFlow} {outcome : Except Failure Unit} :
      flowTest.Provisions → (Resource.flow flow).IsLabeledFor flowTest.name →
      standing.allocated = true →
      Moves flowTest standing (.call (.create (.flow flow))) outcome standing
  | run : flowTest.Provisions → standing.allocated = true →
      Moves flowTest standing (.call (.patchStatus flowTest (.ofPhase .running))) (.ok ())
        { standing with ended := true }
  | fail : flowTest.Provisions →
      Moves flowTest standing (.call (.patchStatus flowTest (.ofPhase .error))) (.ok ())
        { standing with ended := true }
  | store {status : FlowTestStatus} :
      flowTest.phase? = some .running →
      status.phase? = some .running ∨ status.phase? = some .completed →
      status.Suits flowTest.status →
      Moves flowTest standing (.call (.patchStatus flowTest status)) (.ok ()) standing

/-- Every request may fail but the ones that store a status. -/
def Standing.Possible : (asked : ControllerRequest) → controllerInterface.Reply asked → Prop
  | .call (.patchStatus _ _), outcome => outcome = .ok ()
  | _, _ => True

def Standing.monitor (flowTest : FlowTest) : Monitor Standing where
  possible := Possible
  moves := Moves flowTest

section Following

variable {α β : Type} {flowTest : FlowTest} {configuration : Configuration} {standing : Standing}
  {wanted : Except Failure β → Standing → Prop}

/-- Requests that are ignored leave the standing as it is. -/
theorem Standing.follows_of_ignored {procedure : Procedure α}
    (ignored : procedure.Makes flowTest.IgnoredBy) :
    procedure.Follows (monitor flowTest) (fun _ later => later = standing) standing :=
  ignored.follows (fun _ _ => .stay)

theorem Standing.follows_ignored_bind {first : Procedure α} {next : α → Procedure β}
    (ignored : first.Makes flowTest.IgnoredBy)
    (goesOn : ∀ value, (next value).Follows (monitor flowTest) wanted standing)
    (fails : ∀ failure, wanted (.error failure) standing) :
    (first >>= next).Follows (monitor flowTest) wanted standing :=
  (follows_of_ignored ignored).bind (fun value _ same => same ▸ goesOn value)
    (fun failure _ same => same ▸ fails failure)

/-- A status that is stored moves the standing, and the program goes on. -/
theorem Standing.follows_patch_bind {status : FlowTestStatus} {moved : Standing}
    {next : Unit → Procedure β}
    (moves : Moves flowTest standing (.call (.patchStatus flowTest status)) (.ok ()) moved)
    (goesOn : (next ()).Follows (monitor flowTest) wanted moved) :
    (Call.make (.patchStatus flowTest status) >>= next).Follows (monitor flowTest) wanted
      standing := by
  have stores : (Call.make (.patchStatus flowTest status)).Follows (monitor flowTest)
      (fun outcome later => outcome = .ok () ∧ later = moved) standing := by
    refine Procedure.follows_make (fun outcome possible => ?_)
    obtain rfl : outcome = .ok () := possible
    exact ⟨moved, moves, rfl, rfl⟩
  refine stores.bind (fun _ _ reached => reached.2 ▸ goesOn) (fun _ _ reached => ?_)
  cases reached.1

theorem FlowTest.ignoredBy_of_event {asked : ControllerRequest}
    (announces : ∃ event, asked = .publish event) : flowTest.IgnoredBy asked := by
  obtain ⟨event, rfl⟩ := announces
  trivial

namespace Provisioning

theorem getReferencePod_ignored : (getReferencePod flowTest).Makes flowTest.IgnoredBy := by
  refine (Procedure.makes_make trivial).bind (fun found => ?_)
  cases found with
  | some pod => exact Procedure.makes_pure _
  | none => exact Procedure.makes_throw _

theorem ensure_ignored {part : Resource} (other : ¬ part.IsPipeline) :
    (ensure part).Makes flowTest.IgnoredBy := by
  refine (Procedure.makes_attempt ?_).bind (fun _ => Procedure.makes_outcome _)
  cases part with
  | flow => exact (other trivial).elim
  | pod | configMap | service | output => trivial

/-- The reference is read once. -/
theorem getReference_follows (provisions : flowTest.Provisions) {kind : PipelineKind}
    (known : flowTest.pipelineKind = .ok kind) :
    (flowTest.getReference kind).Follows (Standing.monitor flowTest)
      (fun outcome later => ∀ reference, outcome = .ok reference →
        later = { read? := some reference }) {} := by
  have reads : (Call.make (.getFlow kind flowTest.spec.referenceFlow.namespaceName
      flowTest.spec.referenceFlow.name)).Follows (Standing.monitor flowTest)
      (fun outcome later => ∀ reference, outcome = .ok (some reference) →
        later = { read? := some reference }) {} := by
    refine Procedure.follows_make (fun outcome _ => ?_)
    by_cases found : ∃ reference, outcome = .ok (some reference)
    · obtain ⟨reference, rfl⟩ := found
      refine ⟨_, .read provisions known rfl, fun other same => ?_⟩
      rw [Option.some.inj (Except.ok.inj same)]
    · have missed := not_exists.mp found
      exact ⟨{}, .miss provisions missed, fun reference same => absurd same (missed reference)⟩
  refine reads.bind (fun found later reached => ?_) (fun _ _ _ _ impossible => by cases impossible)
  cases found with
  | some reference =>
    intro other same
    rw [reached reference rfl, Except.ok.inj same]
  | none =>
    intro other impossible
    cases impossible

theorem deploy_follows (provisions : flowTest.Provisions) (allocated : standing.allocated = true)
    {slices : List Slice}
    (labeled : ∀ slice ∈ slices, (Resource.flow slice.flow).IsLabeledFor flowTest.name) :
    (Slice.deploy slices).Follows (Standing.monitor flowTest)
      (fun _ later => later = standing) standing := by
  induction slices with
  | nil => rfl
  | cons slice rest ih =>
    obtain ⟨labeledHere, labeledRest⟩ := List.forall_mem_cons.mp labeled
    refine Standing.follows_ignored_bind (Procedure.makes_make trivial) (fun _ => ?_)
      (fun _ => rfl)
    have flow : (Call.make (.create (.flow slice.flow))).Follows (Standing.monitor flowTest)
        (fun _ later => later = standing) standing :=
      Procedure.follows_make (fun _ _ => ⟨standing, .deploy provisions labeledHere allocated, rfl⟩)
    refine flow.bind (fun _ later same => ?_) (fun _ _ same => same)
    rw [same]
    exact ih labeledRest

/-- Provisioning succeeds only with the flags allocated. -/
theorem run_follows (provisions : flowTest.Provisions) :
    (run flowTest configuration).Follows (Standing.monitor flowTest)
      (fun outcome later => ∀ status, outcome = .ok status → later.allocated = true) {} := by
  have fails : ∀ (later : Standing) (failure : Failure) (status : FlowTestStatus),
      Except.error failure = Except.ok status → later.allocated = true := by
    intro _ _ _ impossible
    cases impossible
  refine Procedure.follows_outcome_bind (fun owner required => ?_) (fails _)
  have identified := FlowTest.name_of_owner? (owner?_of_requireOwner required)
  refine Procedure.follows_outcome_bind (fun kind known => ?_) (fails _)
  refine Standing.follows_ignored_bind getReferencePod_ignored (fun referencePod => ?_) (fails _)
  refine Procedure.follows_outcome_bind (fun pod _ => ?_) (fails _)
  refine Standing.follows_ignored_bind (Procedure.makes_make trivial) (fun _ => ?_) (fails _)
  refine Standing.follows_ignored_bind (Procedure.makes_make trivial) (fun _ => ?_) (fails _)
  refine Standing.follows_ignored_bind ?_ (fun _ => ?_) (fails _)
  · exact (ensure_ignored (SharedAggregator.Part.pod).not_isPipeline).bind
      (fun _ => ensure_ignored (SharedAggregator.Part.service).not_isPipeline)
  refine (getReference_follows provisions known).bind (fun reference later reached => ?_)
    (fun failure later _ => fails later failure)
  rw [reached reference rfl]
  refine Standing.follows_patch_bind (.allocate provisions rfl rfl rfl) ?_
  refine Procedure.follows_outcome_bind (fun slices planned => ?_) (fails _)
  have labeled : ∀ slice ∈ slices, (Resource.flow slice.flow).IsLabeledFor flowTest.name :=
    fun slice member => identified ▸ (Slice.isBuilt_of_mem_plan planned member).isLabeledFor
  refine (deploy_follows provisions rfl labeled).bind (fun _ later same => ?_)
    (fun failure later _ => fails later failure)
  intro _ _
  rw [same]

end Provisioning

namespace Verification

/-- A pass keeps the numbers of flags. -/
theorem retireDelivered_follows {policy : PassPolicy} {reference : PipelineFlow}
    {indexes : List Index} {slices : List PipelineFlow} {progress : Progress}
    (tracks : Tracks flowTest.status progress) :
    (retireDelivered policy reference indexes progress slices).Follows (Standing.monitor flowTest)
      (fun outcome later => later = standing ∧
        ∀ result, outcome = .ok result → Tracks flowTest.status result) standing := by
  induction slices generalizing progress with
  | nil => exact ⟨rfl, fun result same => Except.ok.inj same ▸ tracks⟩
  | cons slice rest ih =>
    unfold retireDelivered
    split
    next => exact ih tracks
    next testType delivered =>
      have retires : (retire policy slice).Makes flowTest.IgnoredBy := by
        cases policy <;> exact Procedure.makes_attempt trivial
      refine Standing.follows_ignored_bind retires (fun outcome => ?_)
        (fun _ => ⟨rfl, fun _ impossible => by cases impossible⟩)
      cases outcome with
      | error failure =>
        refine ⟨rfl, fun result same => ?_⟩
        rw [← Except.ok.inj same]
        exact ⟨tracks.matchLength, tracks.filterLength, tracks.unchanged⟩
      | ok _ => exact ih (tracks.record reference slice testType)

theorem suits_updatedStatus {progress : Progress} (tracks : Tracks flowTest.status progress) :
    (updatedStatus flowTest progress.verification).Suits flowTest.status :=
  ⟨.inr tracks.matchLength, .inr tracks.filterLength⟩

theorem finish_follows {progress : Progress} (running : flowTest.phase? = some .running)
    (tracks : Tracks flowTest.status progress) :
    (finish flowTest progress).Follows (Standing.monitor flowTest)
      (fun _ later => later = standing) standing := by
  unfold finish
  by_cases flipped : 0 < progress.flipped
  · simp only [flipped, ↓reduceIte]
    refine Standing.follows_patch_bind
      (.store running (.inl (flowTest.phase?_status.trans running)) (suits_updatedStatus tracks)) ?_
    split <;> rfl
  · simp only [flipped, ↓reduceIte]
    split <;> rfl

theorem run_follows {policy : PassPolicy} (running : flowTest.phase? = some .running) :
    (run flowTest policy).Follows (Standing.monitor flowTest) (fun _ later => later = standing)
      standing := by
  have notProvisions : ¬ flowTest.Provisions := by
    rintro ⟨-, created⟩
    rw [running] at created
    cases created
  refine Procedure.follows_outcome_bind (fun kind _ => ?_) (fun _ => rfl)
  refine Standing.follows_ignored_bind
    (FlowTest.getReference_makes (fun _ _ => notProvisions) flowTest) (fun reference => ?_)
    (fun _ => rfl)
  refine Standing.follows_ignored_bind (Procedure.makes_make trivial) (fun slices => ?_)
    (fun _ => rfl)
  refine Standing.follows_ignored_bind (Procedure.makes_make trivial) (fun indexes => ?_)
    (fun _ => rfl)
  have tracks : Tracks flowTest.status ⟨⟨flowTest.status.matchStatus,
      flowTest.status.filterStatus, []⟩, 0, none⟩ := ⟨rfl, rfl, fun _ => ⟨rfl, rfl⟩⟩
  refine (retireDelivered_follows tracks).bind (fun progress later reached => ?_)
    (fun _ _ reached => reached.1)
  rw [reached.1]
  exact finish_follows running (reached.2 progress rfl)

end Verification

namespace Controller

variable {now : Timestamp}

theorem publish_follows_bind {type : EventType} {reason : EventReason} {action : EventAction}
    {note : String} {next : Unit → Procedure β}
    (goesOn : (next ()).Follows (Standing.monitor flowTest) wanted standing) :
    (publish flowTest type reason action note >>= next).Follows (Standing.monitor flowTest) wanted
      standing :=
  fun _ _ => ⟨standing, .stay trivial, goesOn⟩

theorem markCreated_follows (new : flowTest.phase? = none) :
    (markCreated flowTest).Follows (Standing.monitor flowTest) (fun _ later => later = standing)
      standing := by
  have accepts : Procedure.Follows (Standing.monitor flowTest) (fun _ later => later = standing)
      (do
        Call.make (.patchStatus flowTest (.ofPhase .created))
        publish flowTest .normal .created .reconcile "flow test accepted"
        return Action.requeue .zero) standing :=
    Standing.follows_patch_bind (.accept new) (publish_follows_bind rfl)
  rw [markCreated]
  split
  next =>
    exact Standing.follows_ignored_bind (Procedure.makes_make trivial) (fun _ => accepts)
      (fun _ => rfl)
  next => exact accepts

/-- When the provisioning is over, a phase has been stored that tells so. -/
theorem provision_follows (provisions : flowTest.Provisions) :
    (provision configuration now flowTest).Follows (Standing.monitor flowTest)
      (fun _ later => later.ended = true) {} := by
  refine (Provisioning.run_follows provisions).lift_bind (fun outcome later reached => ?_)
  cases outcome with
  | ok status =>
    exact Standing.follows_patch_bind (.run provisions (reached status rfl))
      (publish_follows_bind rfl)
  | error failure =>
    exact publish_follows_bind (Standing.follows_patch_bind (.fail provisions) rfl)

theorem complete_follows (running : flowTest.phase? = some .running) :
    (complete flowTest).Follows (Standing.monitor flowTest) (fun _ later => later = standing)
      standing := by
  refine Standing.follows_patch_bind (.store running (.inr rfl) ⟨.inl rfl, .inl rfl⟩) ?_
  exact publish_follows_bind rfl

theorem announcePassed_follows_bind {slices : List String} {next : Unit → Procedure β}
    (goesOn : (next ()).Follows (Standing.monitor flowTest) wanted standing) :
    (announcePassed flowTest slices >>= next).Follows (Standing.monitor flowTest) wanted
      standing := by
  induction slices with
  | nil => exact goesOn
  | cons slice rest ih =>
    rw [announcePassed, bind_assoc]
    exact publish_follows_bind ih

theorem checkRunning_follows (running : flowTest.phase? = some .running) :
    (checkRunning configuration now flowTest).Follows (Standing.monitor flowTest)
      (fun _ later => later = standing) standing := by
  unfold checkRunning
  split
  next => exact complete_follows running
  next => rfl
  next next _ =>
    refine (Verification.run_follows running).lift_bind (fun outcome later same => ?_)
    rw [same]
    cases outcome with
    | ok verification =>
      refine announcePassed_follows_bind ?_
      split
      next => exact complete_follows running
      next => rfl
    | error failure => exact publish_follows_bind rfl

theorem publish_ignored {type : EventType} {reason : EventReason} {action : EventAction}
    {note : String} : (publish flowTest type reason action note).Makes flowTest.IgnoredBy :=
  publish_makes.mono (fun _ => FlowTest.ignoredBy_of_event)

theorem cleanUp_ignored (flowTest : FlowTest) : (cleanUp flowTest).Makes flowTest.IgnoredBy := by
  have deletes : ∀ selector kinds, (Cleanup.deleteKinds selector kinds).Makes flowTest.IgnoredBy :=
    fun _ _ => Cleanup.deleteKinds_makes (fun _ _ => trivial)
  have tearsDown : Cleanup.teardownAggregator.Makes flowTest.IgnoredBy := by
    refine (Procedure.makes_make trivial).bind (fun flowTests => ?_)
    split
    next => exact Procedure.makes_pure _
    next => exact (deletes _ _).bind (fun _ => Procedure.makes_pure _)
  have cleans : (Cleanup.run flowTest).Makes flowTest.IgnoredBy :=
    (deletes _ _).bind (fun _ => tearsDown.bind (fun _ => Procedure.makes_pure _))
  refine cleans.lift.bind (fun outcome => ?_)
  cases outcome with
  | ok report =>
    simp only []
    split
    next => exact publish_ignored.bind (fun _ => Procedure.makes_pure _)
    next => exact Procedure.makes_pure _
  | error failure => exact publish_ignored.bind (fun _ => Procedure.makes_pure _)

/-- Every reconciliation moves the standing of its flow test as it may, and no other than a
provisioning moves it at all. -/
theorem reconcile_follows (ready : flowTest.Provisions → standing = {}) :
    (reconcile configuration now flowTest).Follows (Standing.monitor flowTest)
      (fun _ later => (flowTest.Provisions → later.ended = true) ∧
        (¬ flowTest.Provisions → later = standing)) standing := by
  have leaves : ¬ flowTest.Provisions → ∀ {procedure : Procedure Action},
      procedure.Follows (Standing.monitor flowTest) (fun _ later => later = standing) standing →
      procedure.Follows (Standing.monitor flowTest)
        (fun _ later => (flowTest.Provisions → later.ended = true) ∧
          (¬ flowTest.Provisions → later = standing)) standing :=
    fun other _ follows => follows.mono
      (fun _ _ same => ⟨fun provisions => absurd provisions other, fun _ => same⟩)
  have unprovisioned : ∀ {phase?}, flowTest.phase? = phase? → phase? ≠ some .created →
      ¬ flowTest.Provisions :=
    fun inPhase other provisions => other (inPhase.symm.trans provisions.2)
  unfold reconcile
  split
  next deleting =>
    refine leaves (fun provisions => ?_) (Standing.follows_of_ignored ?_)
    · rw [provisions.1] at deleting
      cases deleting
    · unfold handleDeletion
      split
      next => exact Procedure.makes_pure _
      next =>
        refine (cleanUp_ignored flowTest).bind (fun works => ?_)
        cases works with
        | true => exact (Procedure.makes_make trivial).bind (fun _ => Procedure.makes_pure _)
        | false => exact Procedure.makes_pure _
  next kept =>
    split
    next new => exact leaves (unprovisioned new nofun) (markCreated_follows new)
    next created =>
      have provisions : flowTest.Provisions := ⟨by simpa using kept, created⟩
      rw [ready provisions]
      exact (provision_follows provisions).mono
        (fun _ _ ended => ⟨fun _ => ended, fun other => absurd provisions other⟩)
    next running => exact leaves (unprovisioned running nofun) (checkRunning_follows running)
    next completed =>
      refine leaves (unprovisioned completed nofun) (Standing.follows_of_ignored ?_)
      refine (cleanUp_ignored flowTest).bind (fun works => ?_)
      cases works <;> exact Procedure.makes_pure _
    next failed => exact leaves (unprovisioned failed nofun) rfl

end Controller

end Following

end FlowTesting
