import FlowTesting.Controller.Schedule
import Mathlib.Data.Nat.Find
import Mathlib.Order.MinMax

set_option autoImplicit false

/-!
# Running schedules

A test that never passes is run until its deadline: each step but the last asks for a wait, the
clock is read again after exactly that long, and the last step completes the test. Differences of
instants take account of leap seconds, which the count of nanoseconds does not, so a schedule that
begins in a leap second may end up to one second off its deadline, and one whose test was created in
it up to one second early.
-/

namespace FlowTesting

namespace Timestamp

variable {earlier later : Timestamp}

/-- By how much a difference may be off for an instant that stands in a leap second. -/
def leeway (instant : Timestamp) : Int :=
  if instant.isLeap then Duration.nanosecondsPerSecond else 0

theorem leeway_nonneg (instant : Timestamp) : 0 ≤ instant.leeway := by
  by_cases leap : instant.isLeap = true <;> simp [leeway, leap]

theorem leeway_of_not_isLeap (ordinary : later.isLeap = false) : later.leeway = 0 := by
  simp [leeway, ordinary]

@[simp]
theorem total_after (instant : Timestamp) (wait : Duration) :
    (instant.after wait).total = instant.total + wait.nanoseconds := by
  simp only [total, after, Duration.nanosecondsPerSecond]
  omega

theorem isLeap_eq_false_iff :
    later.isLeap = false ↔ later.nanoseconds < Duration.nanosecondsPerSecond := by
  rw [isLeap, decide_eq_false_iff_not, Nat.not_le]

@[simp]
theorem isLeap_after (instant : Timestamp) (wait : Duration) :
    (instant.after wait).isLeap = false := by
  rw [isLeap_eq_false_iff]
  simp only [after, Duration.nanosecondsPerSecond]
  omega

/-- Outside leap seconds, the count of nanoseconds tells instants apart. -/
theorem eq_of_total_eq (ordinary : earlier.isLeap = false) (plain : later.isLeap = false)
    (same : earlier.total = later.total) : earlier = later := by
  cases earlier with
  | mk seconds nanoseconds =>
    cases later with
    | mk laterSeconds laterNanoseconds =>
      simp only [isLeap_eq_false_iff, Duration.nanosecondsPerSecond] at ordinary plain
      simp only [total, Duration.nanosecondsPerSecond] at same
      simp only [mk.injEq]
      omega

theorem le_leapSecondsSince (later earlier : Timestamp) :
    -later.leeway ≤ later.leapSecondsSince earlier * Duration.nanosecondsPerSecond := by
  by_cases leap : later.isLeap = true
  · simp only [leeway, leap, leapSecondsSince]
    split_ifs <;> simp [Duration.nanosecondsPerSecond]
  · simp only [leeway, leap, leapSecondsSince]
    split_ifs <;> simp_all [Duration.nanosecondsPerSecond]

theorem leapSecondsSince_le (later earlier : Timestamp) :
    later.leapSecondsSince earlier * Duration.nanosecondsPerSecond ≤ earlier.leeway := by
  by_cases leap : earlier.isLeap = true
  · simp only [leeway, leap, leapSecondsSince]
    split_ifs <;> simp [Duration.nanosecondsPerSecond]
  · simp only [leeway, leap, leapSecondsSince]
    split_ifs <;> simp_all [Duration.nanosecondsPerSecond]

theorem le_since (later earlier : Timestamp) :
    later.total - earlier.total - later.leeway ≤ (later.since earlier).nanoseconds := by
  have below := le_leapSecondsSince later earlier
  simp only [since]
  omega

theorem since_le (later earlier : Timestamp) :
    ((later.since earlier).nanoseconds : Int) ≤
      max 0 (later.total - earlier.total + earlier.leeway) := by
  have above := leapSecondsSince_le later earlier
  simp only [since]
  omega

/-- The later of two instants. -/
def latest (left right : Timestamp) : Timestamp :=
  if left.total ≤ right.total then right else left

end Timestamp

namespace RunningStep

/-- The wait that a step asks for; none once the test is complete. -/
def wait? : RunningStep → Option Duration
  | .complete => none
  | .warmUp wait => some wait
  | .verify wait => some wait

/-- Which step is due for a test that has not passed after some time, and how long it waits. Only
what has not passed is left of the time to warm up and of the time until the deadline. -/
inductive Due (configuration : Configuration) (elapsed : Duration) : RunningStep → Prop where
  | complete (late : configuration.timeout.nanoseconds ≤ elapsed.nanoseconds) :
      Due configuration elapsed .complete
  | warmUp {wait : Duration} (early : elapsed.nanoseconds < configuration.timeout.nanoseconds)
      (cold : elapsed.nanoseconds < configuration.warmup.nanoseconds)
      (left : elapsed.nanoseconds + wait.nanoseconds = configuration.warmup.nanoseconds) :
      Due configuration elapsed (.warmUp wait)
  | verify {rest : Duration} (early : elapsed.nanoseconds < configuration.timeout.nanoseconds)
      (warm : configuration.warmup.nanoseconds ≤ elapsed.nanoseconds)
      (left : elapsed.nanoseconds + rest.nanoseconds = configuration.timeout.nanoseconds) :
      Due configuration elapsed (.verify (configuration.pollInterval.shorter rest))

end RunningStep

/-- The step at any instant of a test that has not passed. -/
theorem due_runningStep {created now : Timestamp} {status : FlowTestStatus}
    {configuration : Configuration} (unfinished : status.allPassed = false) :
    (runningStep created now status configuration).Due configuration (now.since created) := by
  by_cases late : configuration.timeout.nanoseconds ≤ (now.since created).nanoseconds
  · simp only [runningStep, late, decide_true, Bool.true_or, if_true]
    exact .complete late
  · by_cases cold : (now.since created).nanoseconds < configuration.warmup.nanoseconds
    · simp only [runningStep, late, unfinished, cold, decide_false, Bool.or_self,
        Bool.false_eq_true, if_false, if_true]
      apply RunningStep.Due.warmUp (by omega) cold
      simp only [Duration.minus]
      omega
    · simp only [runningStep, late, unfinished, cold, decide_false, Bool.or_self,
        Bool.false_eq_true, if_false]
      apply RunningStep.Due.verify (by omega) (by omega)
      simp only [Duration.minus]
      omega

/-- The settings of a schedule that waits at each step and never past the deadline. -/
structure Configuration.Paces (configuration : Configuration) : Prop where
  polls : 0 < configuration.pollInterval.nanoseconds
  ends : 0 < configuration.timeout.nanoseconds
  warms : configuration.warmup.nanoseconds ≤ configuration.timeout.nanoseconds

namespace RunningStep.Due

variable {configuration : Configuration} {elapsed wait : Duration} {step : RunningStep}

theorem complete_of_wait? (due : step.Due configuration elapsed) (idle : step.wait? = none) :
    step = .complete ∧ configuration.timeout.nanoseconds ≤ elapsed.nanoseconds := by
  cases due with
  | complete late => exact ⟨rfl, late⟩
  | warmUp early cold left => simp [wait?] at idle
  | verify early warm left => simp [wait?] at idle

theorem wait_pos (due : step.Due configuration elapsed) (paces : configuration.Paces)
    (waits : step.wait? = some wait) : 0 < wait.nanoseconds := by
  cases due with
  | complete late => simp [wait?] at waits
  | warmUp early cold left =>
    cases waits
    omega
  | verify early warm left =>
    cases waits
    have polls := paces.polls
    simp only [Duration.shorter]
    omega

/-- A wait goes past the deadline just when warming up takes longer than a test may run. -/
theorem within_iff (due : step.Due configuration elapsed) (waits : step.wait? = some wait) :
    elapsed.nanoseconds + wait.nanoseconds ≤ configuration.timeout.nanoseconds ↔
      configuration.warmup.nanoseconds ≤ configuration.timeout.nanoseconds := by
  cases due with
  | complete late => simp [wait?] at waits
  | warmUp early cold left =>
    cases waits
    omega
  | verify early warm left =>
    cases waits
    simp only [Duration.shorter]
    omega

end RunningStep.Due

/-- The life of a running test: when it was created, from which instant on it is looked at, and
its status at each of its steps. -/
structure Schedule where
  configuration : Configuration
  created : Timestamp
  start : Timestamp
  statuses : Nat → FlowTestStatus

namespace Schedule

/-- What the clock reads at a step: after each of the steps before, it has moved by exactly the
wait that the step has asked for. -/
def now (schedule : Schedule) : Nat → Timestamp
  | 0 => schedule.start
  | place + 1 =>
    match (runningStep schedule.created (schedule.now place) (schedule.statuses place)
      schedule.configuration).wait? with
    | none => schedule.now place
    | some wait => (schedule.now place).after wait

def step (schedule : Schedule) (place : Nat) : RunningStep :=
  runningStep schedule.created (schedule.now place) (schedule.statuses place)
    schedule.configuration

def elapsed (schedule : Schedule) (place : Nat) : Duration :=
  (schedule.now place).since schedule.created

def deadline (schedule : Schedule) : Timestamp :=
  schedule.created.after schedule.configuration.timeout

/-- The test does not pass before its deadline. -/
def Unfinished (schedule : Schedule) : Prop :=
  ∀ place, (schedule.statuses place).allPassed = false

variable {schedule : Schedule} {place : Nat} {wait : Duration}

@[simp]
theorem now_zero : schedule.now 0 = schedule.start := rfl

theorem now_succ_of_wait (waits : (schedule.step place).wait? = some wait) :
    schedule.now (place + 1) = (schedule.now place).after wait := by
  rw [step] at waits
  simp [now, waits]

theorem due_step (unfinished : schedule.Unfinished) (place : Nat) :
    (schedule.step place).Due schedule.configuration (schedule.elapsed place) :=
  due_runningStep (unfinished place)

theorem exists_wait (unfinished : schedule.Unfinished) (goesOn : schedule.step place ≠ .complete) :
    ∃ wait, (schedule.step place).wait? = some wait := by
  cases waits : (schedule.step place).wait? with
  | none => exact absurd ((due_step unfinished place).complete_of_wait? waits).1 goesOn
  | some wait => exact ⟨wait, rfl⟩

/-- Only the first reading may stand in a leap second. -/
theorem leeway_now_le (schedule : Schedule) (place : Nat) :
    (schedule.now place).leeway ≤ schedule.start.leeway := by
  induction place with
  | zero => exact le_rfl
  | succ place ih =>
    rw [now]
    split
    · exact ih
    · rw [Timestamp.leeway_of_not_isLeap (Timestamp.isLeap_after _ _)]
      exact schedule.start.leeway_nonneg

theorem isLeap_now (ordinary : schedule.start.isLeap = false) (place : Nat) :
    (schedule.now place).isLeap = false := by
  induction place with
  | zero => exact ordinary
  | succ place ih =>
    rw [now]
    split
    · exact ih
    · exact Timestamp.isLeap_after _ _

section Paced

variable (paces : schedule.configuration.Paces) (unfinished : schedule.Unfinished)

include paces unfinished

theorem start_add_le {count : Nat} (goesOn : ∀ place < count, schedule.step place ≠ .complete) :
    schedule.start.total + count ≤ (schedule.now count).total := by
  induction count with
  | zero => simp
  | succ count ih =>
    obtain ⟨wait, waits⟩ := exists_wait unfinished (goesOn count (by omega))
    have positive := (due_step unfinished count).wait_pos paces waits
    have reached := ih fun place earlier => goesOn place (by omega)
    rw [now_succ_of_wait waits, Timestamp.total_after]
    push_cast
    omega

theorem total_now_succ_le (waits : (schedule.step place).wait? = some wait) :
    (schedule.now (place + 1)).total ≤ schedule.deadline.total + schedule.start.leeway := by
  have within := ((due_step unfinished place).within_iff waits).mpr paces.warms
  have measured := (schedule.now place).le_since schedule.created
  have leeway := schedule.leeway_now_le place
  rw [now_succ_of_wait waits, Timestamp.total_after, deadline, Timestamp.total_after]
  simp only [elapsed] at within
  omega

/-- The clock moves at each step and is never moved far past the deadline, so the steps end. -/
theorem exists_complete : ∃ place, schedule.step place = .complete := by
  by_contra endless
  push Not at endless
  have far : ∀ count : Nat, schedule.start.total + count ≤ (schedule.now count).total :=
    fun count => start_add_le paces unfinished fun place _ => endless place
  have near : ∀ count : Nat,
      (schedule.now (count + 1)).total ≤ schedule.deadline.total + schedule.start.leeway := by
    intro count
    obtain ⟨wait, waits⟩ := exists_wait unfinished (endless count)
    exact total_now_succ_le paces unfinished waits
  let count := (schedule.deadline.total + schedule.start.leeway - schedule.start.total).toNat
  have beyond := far (count + 1)
  have bounded := near count
  push_cast at beyond
  omega

/-- A test is completed no earlier than it is looked at or due, and not after both. -/
theorem completed_near_deadline {last : Nat} (complete : schedule.step last = .complete)
    (first : ∀ place < last, schedule.step place ≠ .complete) :
    max schedule.start.total (schedule.deadline.total - schedule.created.leeway) ≤
      (schedule.now last).total ∧
    (schedule.now last).total ≤
      max schedule.start.total (schedule.deadline.total + schedule.start.leeway) := by
  have started := start_add_le paces unfinished first
  have late := ((due_step unfinished last).complete_of_wait? (by simp [complete,
    RunningStep.wait?])).2
  have measured := (schedule.now last).since_le schedule.created
  have ends := paces.ends
  constructor
  · apply max_le
    · omega
    · simp only [elapsed] at late
      simp only [deadline, Timestamp.total_after]
      omega
  · cases last with
    | zero => exact le_max_left _ _
    | succ place =>
      obtain ⟨wait, waits⟩ := exists_wait unfinished (first place (by omega))
      exact le_max_of_le_right (total_now_succ_le paces unfinished waits)

/-- Outside leap seconds a test is completed just when it is due. -/
theorem completed_at_deadline {last : Nat} (complete : schedule.step last = .complete)
    (first : ∀ place < last, schedule.step place ≠ .complete)
    (plain : schedule.created.isLeap = false) (ordinary : schedule.start.isLeap = false) :
    schedule.now last = schedule.start.latest schedule.deadline := by
  obtain ⟨above, below⟩ := completed_near_deadline paces unfinished complete first
  rw [Timestamp.leeway_of_not_isLeap plain] at above
  rw [Timestamp.leeway_of_not_isLeap ordinary] at below
  apply Timestamp.eq_of_total_eq (isLeap_now ordinary last)
  · rw [Timestamp.latest]
    split_ifs
    · exact Timestamp.isLeap_after _ _
    · exact ordinary
  · rw [Timestamp.latest]
    split_ifs with due <;> omega

/-- A test that does not pass is completed after finitely many steps, each of them after exactly
the wait that the step before has asked for. It is completed when it is due, or at the first step
if that comes later, or off by one leap second. -/
theorem completes_when_due :
    (∀ place, (schedule.step place).Due schedule.configuration (schedule.elapsed place)) ∧
    ∃ last, schedule.step last = .complete ∧
      (∀ place < last, ∃ wait, (schedule.step place).wait? = some wait ∧ 0 < wait.nanoseconds ∧
        schedule.now (place + 1) = (schedule.now place).after wait) ∧
      max schedule.start.total (schedule.deadline.total - schedule.created.leeway) ≤
        (schedule.now last).total ∧
      (schedule.now last).total ≤
        max schedule.start.total (schedule.deadline.total + schedule.start.leeway) ∧
      (schedule.created.isLeap = false → schedule.start.isLeap = false →
        schedule.now last = schedule.start.latest schedule.deadline) := by
  have ends := exists_complete paces unfinished
  have first : ∀ place < Nat.find ends, schedule.step place ≠ .complete :=
    fun place => Nat.find_min ends
  have near := completed_near_deadline paces unfinished (Nat.find_spec ends) first
  refine ⟨due_step unfinished, Nat.find ends, Nat.find_spec ends, ?_, near.1, near.2,
    completed_at_deadline paces unfinished (Nat.find_spec ends) first⟩
  intro place earlier
  obtain ⟨wait, waits⟩ := exists_wait unfinished (first place earlier)
  exact ⟨wait, waits, (due_step unfinished place).wait_pos paces waits, now_succ_of_wait waits⟩

end Paced

end Schedule

/-- A test with the usual settings that is first looked at half a minute before its creation, by
a clock that is behind. -/
def Sample.skewed : Schedule where
  configuration := {}
  created := ⟨1646128800, 0⟩
  start := ⟨1646128770, 0⟩
  statuses _ := { phase? := some .running, matchStatus := [false] }

/-- It is completed five minutes after its creation, at its deadline to the second. -/
theorem Schedule.completes_when_due_skewed :
    Sample.skewed.configuration.Paces ∧ Sample.skewed.Unfinished ∧
    ∃ last, Sample.skewed.step last = .complete ∧
      Sample.skewed.now last = ⟨1646129100, 0⟩ := by
  have paces : Sample.skewed.configuration.Paces := ⟨by decide, by decide, by decide⟩
  have unfinished : Sample.skewed.Unfinished := fun _ => rfl
  obtain ⟨-, last, complete, -, -, -, punctual⟩ := completes_when_due paces unfinished
  exact ⟨paces, unfinished, last, complete, punctual (by decide) (by decide)⟩

/-- A test that is due half a second before a leap second begins, and is first looked at when it
begins. -/
def Sample.leaping : Schedule where
  configuration := { warmup := .zero, timeout := ⟨79259500000000⟩ }
  created := ⟨1646136000, 0⟩
  start := ⟨1646215259, 1000000000⟩
  statuses _ := { phase? := some .running, matchStatus := [false] }

/-- In a leap second less time has passed since the creation than the clock tells. -/
theorem Schedule.completes_late_leaping :
    Sample.leaping.configuration.Paces ∧ Sample.leaping.Unfinished ∧
    Sample.leaping.deadline.total < Sample.leaping.start.total ∧
    ¬ ∃ last, Sample.leaping.step last = .complete ∧
      (∀ place < last, Sample.leaping.step place ≠ .complete) ∧
      Sample.leaping.now last = Sample.leaping.start.latest Sample.leaping.deadline := by
  have paces : Sample.leaping.configuration.Paces := ⟨by decide, by decide, by decide⟩
  have unfinished : Sample.leaping.Unfinished := fun _ => rfl
  refine ⟨paces, unfinished, by decide, ?_⟩
  rintro ⟨last, complete, first, reading⟩
  have started := start_add_le paces unfinished first
  have due : Sample.leaping.start.latest Sample.leaping.deadline = Sample.leaping.start := by
    decide
  rw [reading, due] at started
  have initial : last = 0 := by omega
  subst initial
  revert complete
  decide

end FlowTesting
