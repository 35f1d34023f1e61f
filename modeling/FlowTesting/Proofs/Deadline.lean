import FlowTesting.CommandLine.Invocation
import FlowTesting.Proofs.Reconcile
import FlowTesting.Proofs.Run
import FlowTesting.Proofs.RunningSchedule

set_option autoImplicit false

/-!
# Waits before the deadline

When the next reconciliation of a running test is asked for. Verification is never put off past the
deadline, but warming up is not cut short by it: a test that warms up for longer than it may run is
only looked at again when its deadline has passed.
-/

namespace FlowTesting

/-- Whether the delay that an action asks for is allowed. -/
def Action.Delays (allowed : Duration → Prop) : Action → Prop
  | .awaitChange => True
  | .requeue delay => allowed delay

theorem Action.Delays.mono {allowed permitted : Duration → Prop} {action : Action}
    (delays : action.Delays allowed) (permits : ∀ delay, allowed delay → permitted delay) :
    action.Delays permitted := by
  cases action with
  | awaitChange => trivial
  | requeue delay => exact permits delay delays

/-- When a flow test is due. -/
def FlowTest.deadline (flowTest : FlowTest) (configuration : Configuration) (now : Timestamp) :
    Timestamp :=
  (flowTest.createdAt now).after configuration.timeout

/-- Outside leap seconds, what is left until the deadline is what has not passed of the timeout. -/
theorem FlowTest.total_after_le_deadline_iff {flowTest : FlowTest} {configuration : Configuration}
    {now : Timestamp} {delay : Duration} (plain : (flowTest.createdAt now).isLeap = false)
    (ordinary : now.isLeap = false) (begun : (flowTest.createdAt now).total ≤ now.total) :
    (now.after delay).total ≤ (flowTest.deadline configuration now).total ↔
      (flowTest.elapsed now).nanoseconds + delay.nanoseconds ≤
        configuration.timeout.nanoseconds := by
  have above := now.le_since (flowTest.createdAt now)
  have below := now.since_le (flowTest.createdAt now)
  rw [Timestamp.leeway_of_not_isLeap ordinary] at above
  rw [Timestamp.leeway_of_not_isLeap plain] at below
  rw [flowTest.since_createdAt] at above below
  simp only [FlowTest.deadline, Timestamp.total_after]
  omega

namespace Controller

/-- How long a reconciliation may wait for a test that has run for some time: not at all, or as
the step tells which is due. -/
def Waits (configuration : Configuration) (elapsed delay : Duration) : Prop :=
  delay = .zero ∨ ∃ step : RunningStep, step.Due configuration elapsed ∧ step.wait? = some delay

variable {configuration : Configuration} {now : Timestamp} {flowTest : FlowTest}
  {past : List Occurrence} {cluster : Cluster} {elapsed delay : Duration}

theorem Waits.within_iff (waits : Waits configuration elapsed delay) :
    delay = .zero ∨
        elapsed.nanoseconds + delay.nanoseconds ≤ configuration.timeout.nanoseconds ↔
      configuration.warmup.nanoseconds ≤ configuration.timeout.nanoseconds ∨ delay = .zero := by
  rcases waits with immediate | ⟨step, due, asked⟩
  · simp [immediate]
  · rw [due.within_iff asked, or_comm]

theorem due_step {status : FlowTestStatus} (unfinished : status.allPassed = false) :
    (runningStep (flowTest.createdAt now) now status configuration).Due configuration
      (flowTest.elapsed now) := by
  rw [← flowTest.since_createdAt]
  exact due_runningStep unfinished

theorem complete_delays :
    (complete flowTest).Yields (fun action _ _ => action.Delays (· = .zero)) past cluster := by
  rw [complete]
  apply Procedure.yields_bind_extended
  intro _ later changed _
  apply Procedure.yields_bind_extended
  intro _ later changed _
  exact (Procedure.yields_pure _).mpr rfl

theorem verify_delays (next : Duration) :
    (verify configuration flowTest next).Yields
      (fun action _ _ => action.Delays (fun delay => delay = .zero ∨ delay = next))
      past cluster := by
  rw [verify]
  apply Procedure.yields_bind_extended
  intro outcome later changed _
  cases outcome with
  | error failure =>
    apply Procedure.yields_bind_extended
    intro _ later changed _
    exact (Procedure.yields_pure _).mpr (.inr rfl)
  | ok verification =>
    apply Procedure.yields_bind_extended
    intro _ later changed _
    cases passed : verification.allPassed with
    | false => exact (Procedure.yields_pure _).mpr (.inr rfl)
    | true => exact complete_delays.mono fun _ _ _ delays => delays.mono fun _ => .inl

theorem checkRunning_delays (unfinished : flowTest.status.allPassed = false) :
    (checkRunning configuration now flowTest).Yields
      (fun action _ _ => action.Delays (Waits configuration (flowTest.elapsed now)))
      past cluster := by
  have due : (runningStep (flowTest.createdAt now) now flowTest.status configuration).Due
      configuration (flowTest.elapsed now) := due_step unfinished
  rw [checkRunning]
  cases step : runningStep (flowTest.createdAt now) now flowTest.status configuration with
  | complete => exact complete_delays.mono fun _ _ _ delays => delays.mono fun _ => .inl
  | warmUp wait =>
    rw [step] at due
    exact (Procedure.yields_pure _).mpr (.inr ⟨_, due, rfl⟩)
  | verify next =>
    rw [step] at due
    refine (verify_delays next).mono fun _ _ _ delays => delays.mono ?_
    rintro delay (rfl | rfl)
    · exact .inl rfl
    · exact .inr ⟨_, due, rfl⟩

theorem waits_afterProvisioning (status : FlowTestStatus) :
    Waits configuration (flowTest.elapsed now)
      (waitAfterProvisioning (runningStep (flowTest.createdAt now) now status configuration)) := by
  cases passed : status.allPassed with
  | true =>
    left
    simp [runningStep, passed, waitAfterProvisioning]
  | false =>
    have due : (runningStep (flowTest.createdAt now) now status configuration).Due
        configuration (flowTest.elapsed now) := due_step passed
    cases step : runningStep (flowTest.createdAt now) now status configuration with
    | complete => exact .inl rfl
    | warmUp wait =>
      rw [step] at due
      exact .inr ⟨_, due, rfl⟩
    | verify next => exact .inl rfl

theorem provision_delays :
    (provision configuration now flowTest).Yields
      (fun action _ _ => action.Delays (Waits configuration (flowTest.elapsed now)))
      past cluster := by
  rw [provision]
  apply Procedure.yields_bind_extended
  intro outcome later changed _
  cases outcome with
  | ok status =>
    apply Procedure.yields_bind_extended
    intro _ later changed _
    apply Procedure.yields_bind_extended
    intro _ later changed _
    exact (Procedure.yields_pure _).mpr (waits_afterProvisioning status)
  | error failure =>
    apply Procedure.yields_bind_extended
    intro _ later changed _
    apply Procedure.yields_bind_extended
    intro _ later changed _
    exact (Procedure.yields_pure _).mpr trivial

theorem handleDeletion_delays (past : List Occurrence) (cluster : Cluster) :
    (handleDeletion configuration flowTest).Yields
      (fun action _ _ => action.Delays (· = configuration.pollInterval)) past cluster := by
  rw [handleDeletion]
  split
  · exact (Procedure.yields_pure _).mpr trivial
  · apply Procedure.yields_bind_extended
    intro works later changed _
    cases works with
    | true =>
      apply Procedure.yields_bind_extended
      intro _ later changed _
      exact (Procedure.yields_pure _).mpr trivial
    | false => exact (Procedure.yields_pure _).mpr rfl

/-- What a reconciliation of an accepted or of a running test waits for. -/
theorem reconcile_delays (past : List Occurrence) (cluster : Cluster)
    (undeleted : flowTest.isDeleting = false)
    (active : flowTest.phase? = some .created ∨
      (flowTest.phase? = some .running ∧ flowTest.status.allPassed = false)) :
    (reconcile configuration now flowTest).Yields
      (fun action _ _ => action.Delays (Waits configuration (flowTest.elapsed now)))
      past cluster := by
  rcases active with created | ⟨running, unfinished⟩
  · simp only [reconcile, undeleted, created]
    exact provision_delays
  · simp only [reconcile, undeleted, running]
    exact checkRunning_delays unfinished

variable {start after : Cluster} {occurrences : List Occurrence}

/-- A wait for a test ends before its deadline just when there is none or the test may run for at
least as long as it warms up. Only the deletion of a test, which comes before its phase, waits for
as long as between two verifications, whenever it is due. -/
theorem requeue_within_deadline_iff
    (active : flowTest.phase? = some .created ∨
      (flowTest.phase? = some .running ∧ flowTest.status.allPassed = false))
    (execution : Execution (reconcile configuration now flowTest).run start occurrences
      (.done (.ok (.requeue delay))) after) :
    (flowTest.isDeleting = true → delay = configuration.pollInterval) ∧
    (flowTest.isDeleting = false →
      (delay = .zero ∨ (flowTest.elapsed now).nanoseconds + delay.nanoseconds ≤
          configuration.timeout.nanoseconds ↔
        configuration.warmup.nanoseconds ≤ configuration.timeout.nanoseconds ∨ delay = .zero) ∧
      ((flowTest.createdAt now).isLeap = false → now.isLeap = false →
        (flowTest.createdAt now).total ≤ now.total →
        now.total < (flowTest.deadline configuration now).total →
        ((now.after delay).total ≤ (flowTest.deadline configuration now).total ↔
          configuration.warmup.nanoseconds ≤ configuration.timeout.nanoseconds ∨
            delay = .zero))) := by
  constructor
  · intro deleting
    simp only [reconcile, deleting, if_true] at execution
    exact (handleDeletion_delays [] start).of_execution execution
  · intro undeleted
    have waits : Waits configuration (flowTest.elapsed now) delay :=
      (reconcile_delays [] start undeleted active).of_execution execution
    refine ⟨waits.within_iff, fun plain ordinary begun early => ?_⟩
    rw [← waits.within_iff, or_iff_right_of_imp]
    · exact FlowTest.total_after_le_deadline_iff plain ordinary begun
    · rintro rfl
      rw [← FlowTest.total_after_le_deadline_iff plain ordinary begun, Timestamp.total_after]
      simpa [Duration.zero] using early.le

/-- Twenty seconds after its creation, a running test with the usual settings waits until a
minute has passed, long before its deadline. -/
theorem requeue_within_deadline_warming :
    Execution (reconcile {} ⟨20, 0⟩ (Sample.watching .running 1)).run Sample.cluster []
      (.done (.ok (.requeue (.ofSeconds 40)))) Sample.cluster ∧
    (Timestamp.after ⟨20, 0⟩ (.ofSeconds 40)).total ≤
      ((Sample.watching .running 1).deadline {} ⟨20, 0⟩).total := by
  have execution : Execution (reconcile {} ⟨20, 0⟩ (Sample.watching .running 1)).run
      Sample.cluster [] (.done (.ok (.requeue (.ofSeconds 40)))) Sample.cluster := .idle _ _
  obtain ⟨-, waits⟩ := requeue_within_deadline_iff (.inr ⟨rfl, rfl⟩) execution
  obtain ⟨-, within⟩ := waits rfl
  exact ⟨execution, (within rfl rfl (by decide) (by decide)).mpr (.inl (by decide))⟩

/-- The command line takes a time to warm up that is longer than a test may run, and then the
first wait of a running test goes past its deadline. -/
theorem requeue_past_deadline :
    ∃ (options : Options) (delay : Duration),
      Options.parse ["--warmup-secs=600"] (fun _ => none) = .ok options ∧
      (Sample.watching .running 1).phase? = some .running ∧
      (Sample.watching .running 1).isDeleting = false ∧
      (Sample.watching .running 1).status.allPassed = false ∧
      (Sample.watching .running 1).metadata.creationTimestamp? = some ⟨0, 0⟩ ∧
      Timestamp.total ⟨0, 0⟩ <
        ((Sample.watching .running 1).deadline options.configuration ⟨0, 0⟩).total ∧
      Execution (reconcile options.configuration ⟨0, 0⟩ (Sample.watching .running 1)).run
        Sample.cluster [] (.done (.ok (.requeue delay))) Sample.cluster ∧
      ((Sample.watching .running 1).deadline options.configuration ⟨0, 0⟩).total <
        (Timestamp.after ⟨0, 0⟩ delay).total := by
  exact ⟨{ configuration := { warmup := .ofSeconds 600 } }, .ofSeconds 600, rfl, rfl, rfl, rfl,
    rfl, by decide, .idle _ _, by decide⟩

end Controller

end FlowTesting
