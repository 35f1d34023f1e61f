import FlowTesting.Proofs.Cleanup
import FlowTesting.Proofs.Run

set_option autoImplicit false

/-!
# Reports of cleanups

What the report of a cleanup says about the cluster that it leaves behind. The number in it
is that of the objects of the flow test that are gone. The report counts as a change whenever
the check for the log aggregator has found nobody that needs it, and so also when nothing was
there to be removed: a cleanup that is done again changes nothing and still announces itself.
-/

namespace FlowTesting

/-- The objects of a cluster that a later one no longer has. -/
def Cluster.removed (before after : Cluster) : List (ResourceKey × Resource) :=
  before.resources.entries.filter (fun entry => !after.resources.contains entry.1)

theorem Cluster.removed_self (cluster : Cluster) : cluster.removed cluster = [] := by
  refine List.filter_eq_nil_iff.mpr (fun entry member => ?_)
  have stored : cluster.resources.get? entry.1 = some entry.2 :=
    OrderedMap.get?_eq_some_iff.mpr member
  simp [OrderedMap.contains, stored]

namespace Cleanup

/-- Whether a deletion of some kinds by a selector reaches an object. -/
def isReached (selector : String) (kinds : List Kind) (entry : ResourceKey × Resource) : Bool :=
  kinds.any (fun kind => Cluster.isSelected kind selector entry.1 entry.2)

/-- Whether an object passes for one of a flow test. -/
def isProduct (flowTest : FlowTest) : ResourceKey × Resource → Bool :=
  isReached (Selector.flowTest flowTest.name) testKinds

/-- Whether an object passes for a part of the log aggregator. -/
def isPart : ResourceKey × Resource → Bool := isReached Selector.aggregator aggregatorKinds

/-- Whether a cleanup finds nothing to delete. -/
structure IsClean (flowTest : FlowTest) (cluster : Cluster) : Prop where
  products : ∀ entry ∈ cluster.resources.entries, isProduct flowTest entry = false
  parts : aggregatorInUse cluster.flowTests.values = false →
    ∀ entry ∈ cluster.resources.entries, isPart entry = false

section Counting

theorem size_without (selector : String) (kinds : List Kind) (cluster : Cluster) :
    cluster.resources.entries.countP (isReached selector kinds) +
      (without selector kinds cluster).resources.size = cluster.resources.size :=
  cluster.resources.countP_add_size_filter
    (fun key resource => isReached selector kinds (key, resource))

/-- The answers to the deletions of some kinds add up to the number of objects that are gone. -/
theorem deleteKinds_counts (selector : String) (kinds : List Kind) (past : List Occurrence)
    (cluster : Cluster) :
    Procedure.Yields (fun count _ after => after = without selector kinds cluster ∧
      count + after.resources.size = cluster.resources.size) (deleteKinds selector kinds)
      past cluster := by
  induction kinds generalizing past cluster with
  | nil =>
    rw [deleteKinds, Procedure.yields_pure, without_nil]
    exact ⟨rfl, Nat.zero_add _⟩
  | cons kind rest ih =>
    refine (Procedure.yields_bind _ _).mpr ?_
    refine Procedure.yields_make (.deleteLabeled kind selector) (fun (deleted : Nat) middle answers => ?_)
    obtain ⟨⟨failure, impossible⟩, -⟩ | ⟨counted, becomes⟩ := answers.deleteLabeled
    · cases impossible
    -- The other kinds are counted in the cluster that this deletion has left.
    refine (Procedure.yields_bind _ _).mpr ((ih _ middle).mono ?_)
    rintro others later after ⟨rfl, countedRest⟩
    have fewer : middle.resources.size ≤ cluster.resources.size := by
      rw [becomes]
      exact List.length_filter_le _ _
    have deletedHere : deleted = cluster.resources.size - middle.resources.size :=
      Except.ok.inj counted
    rw [Procedure.yields_pure, without_cons, ← becomes]
    exact ⟨rfl, by omega⟩

theorem teardownAggregator_tells (past : List Occurrence) (cluster : Cluster) :
    Procedure.Yields (fun removed _ after =>
      removed = !aggregatorInUse cluster.flowTests.values ∧
        after = if aggregatorInUse cluster.flowTests.values then cluster
          else without Selector.aggregator aggregatorKinds cluster)
      teardownAggregator past cluster := by
  rw [teardownAggregator, Procedure.yields_bind]
  refine Procedure.yields_make .listFlowTests (fun flowTests after answers => ?_)
  obtain ⟨⟨failure, impossible⟩, -⟩ | ⟨listed, rfl⟩ := answers.listFlowTests
  · cases impossible
  obtain rfl : flowTests = after.flowTests.values := Except.ok.inj listed
  cases used : aggregatorInUse after.flowTests.values with
  | true =>
    simp only [↓reduceIte]
    rw [Procedure.yields_pure]
    exact ⟨rfl, rfl⟩
  | false =>
    simp only [Bool.false_eq_true, ↓reduceIte]
    refine (Procedure.yields_bind _ _).mpr ((deleteKinds_counts _ _ _ _).mono ?_)
    rintro count later last ⟨rfl, -⟩
    rw [Procedure.yields_pure]
    exact ⟨rfl, rfl⟩

/-- The report of a cleanup, and the cluster that it leaves. -/
theorem run_reports (flowTest : FlowTest) (past : List Occurrence) (cluster : Cluster) :
    Procedure.Yields (fun report _ after => after = cleaned flowTest cluster ∧
      report.testResources = cluster.resources.entries.countP (isProduct flowTest) ∧
      report.aggregatorRemoved = !aggregatorInUse cluster.flowTests.values)
      (run flowTest) past cluster := by
  rw [run, testResources, Procedure.yields_bind]
  refine (deleteKinds_counts _ _ past cluster).mono ?_
  rintro count middle between ⟨rfl, counted⟩
  refine (Procedure.yields_bind _ _).mpr ((teardownAggregator_tells middle _).mono ?_)
  rintro removed later after ⟨rfl, rfl⟩
  rw [Procedure.yields_pure]
  refine ⟨rfl, ?_, rfl⟩
  have parted := size_without (Selector.flowTest flowTest.name) testKinds cluster
  exact Nat.add_right_cancel (counted.trans parted.symm)

end Counting

section Removal

/-- Whether a cleanup takes an object away. -/
def isTaken (flowTest : FlowTest) (cluster : Cluster) (entry : ResourceKey × Resource) : Bool :=
  isProduct flowTest entry || (!aggregatorInUse cluster.flowTests.values && isPart entry)

theorem resources_cleaned (flowTest : FlowTest) (cluster : Cluster) :
    (cleaned flowTest cluster).resources =
      cluster.resources.filter (fun key resource => !isTaken flowTest cluster (key, resource)) := by
  apply OrderedMap.ext
  intro key
  cases used : aggregatorInUse cluster.flowTests.values <;>
    simp [cleaned, used, without, OrderedMap.get?_filter, Option.filter_filter, isTaken,
      isProduct, isPart, isReached]

theorem removed_cleaned (flowTest : FlowTest) (cluster : Cluster) :
    cluster.removed (cleaned flowTest cluster) =
      cluster.resources.entries.filter (isTaken flowTest cluster) := by
  refine List.filter_congr (fun entry member => ?_)
  have stored : cluster.resources.get? entry.1 = some entry.2 :=
    OrderedMap.get?_eq_some_iff.mpr member
  simp [OrderedMap.contains, resources_cleaned, OrderedMap.get?_filter, stored]

/-- All objects of the flow test are among those that are taken away. -/
theorem countP_removed (flowTest : FlowTest) (cluster : Cluster) :
    (cluster.removed (cleaned flowTest cluster)).countP (isProduct flowTest) =
      cluster.resources.entries.countP (isProduct flowTest) := by
  rw [removed_cleaned, List.countP_filter]
  refine List.countP_congr (fun entry _ => ?_)
  cases product : isProduct flowTest entry <;> simp [isTaken, product]

theorem changed_iff {flowTest : FlowTest} {cluster : Cluster} {report : Report}
    (counted : report.testResources = cluster.resources.entries.countP (isProduct flowTest))
    (tornDown : report.aggregatorRemoved = !aggregatorInUse cluster.flowTests.values) :
    report.changed = true ↔ cluster.removed (cleaned flowTest cluster) ≠ [] ∨
      aggregatorInUse cluster.flowTests.values = false := by
  cases used : aggregatorInUse cluster.flowTests.values with
  | false => simp [Report.changed, tornDown, used]
  | true =>
    have taken : isTaken flowTest cluster = isProduct flowTest := by
      funext entry
      simp [isTaken, used]
    rw [removed_cleaned, taken]
    simp [Report.changed, tornDown, used, counted, List.countP_eq_length_filter,
      List.length_pos_iff]

theorem flowTests_cleaned (flowTest : FlowTest) (cluster : Cluster) :
    (cleaned flowTest cluster).flowTests = cluster.flowTests := by
  unfold cleaned
  split <;> rfl

theorem isClean_cleaned (flowTest : FlowTest) (cluster : Cluster) :
    IsClean flowTest (cleaned flowTest cluster) := by
  have spared : ∀ entry ∈ (cleaned flowTest cluster).resources.entries,
      isTaken flowTest cluster entry = false := by
    intro entry member
    rw [resources_cleaned] at member
    simpa using (List.mem_filter.mp member).2
  refine ⟨fun entry member => ?_, fun unused entry member => ?_⟩
  · exact (Bool.or_eq_false_iff.mp (spared entry member)).1
  · rw [flowTests_cleaned] at unused
    simpa [unused] using (Bool.or_eq_false_iff.mp (spared entry member)).2

theorem IsClean.countP_isProduct {flowTest : FlowTest} {cluster : Cluster}
    (clean : IsClean flowTest cluster) :
    cluster.resources.entries.countP (isProduct flowTest) = 0 :=
  List.countP_eq_zero.mpr (fun entry member => by simp [clean.products entry member])

theorem IsClean.cleaned_eq {flowTest : FlowTest} {cluster : Cluster}
    (clean : IsClean flowTest cluster) : cleaned flowTest cluster = cluster := by
  have nothing : ∀ entry ∈ cluster.resources.entries, isTaken flowTest cluster entry = false := by
    intro entry member
    cases used : aggregatorInUse cluster.flowTests.values with
    | true => simp [isTaken, used, clean.products entry member]
    | false => simp [isTaken, clean.products entry member, clean.parts used entry member]
  have sameResources : (cleaned flowTest cluster).resources = cluster.resources := by
    rw [resources_cleaned]
    exact OrderedMap.filter_eq_self (fun entry member => by simp [nothing entry member])
  have others : cleaned flowTest cluster =
      { cluster with resources := (cleaned flowTest cluster).resources } := by
    unfold cleaned
    split <;> rfl
  rw [others, sameResources]

end Removal

section Repetition

variable {flowTest : FlowTest} {start : Cluster}

/-- A deletion that reaches nothing changes nothing. -/
theorem after_eq_of_unreached {selector : String} {kind : Kind} {kinds : List Kind}
    {before after : Cluster} {outcome : Except Failure Nat}
    (answers : before.Answers (.call (.deleteLabeled kind selector)) outcome after)
    (member : kind ∈ kinds)
    (unreached : ∀ entry ∈ before.resources.entries, isReached selector kinds entry = false) :
    after = before := by
  obtain ⟨-, same⟩ | ⟨-, rfl⟩ := answers.deleteLabeled
  · exact same
  · have kept : before.resources.filter (fun key resource =>
        !Cluster.isSelected kind selector key resource) = before.resources :=
      OrderedMap.filter_eq_self (fun entry stored => by
        simpa using List.any_eq_false.mp (unreached entry stored) kind member)
    rw [kept]

/-- Whether nothing has been changed or published since a cluster was found. -/
def IsIdle (start : Cluster) (past : List Occurrence) (cluster : Cluster) : Prop :=
  cluster = start ∧ ∀ occurrence ∈ past,
    occurrence.Lawful ∧ occurrence.before = start ∧ occurrence.event? = none

theorem IsIdle.next (clean : IsClean flowTest start) {past : List Occurrence}
    {occurrence : Occurrence} (idle : IsIdle start past occurrence.before)
    (asks : Asks flowTest past occurrence.request) (lawful : occurrence.Lawful) :
    IsIdle start (past ++ [occurrence]) occurrence.after := by
  obtain ⟨before, asked, reply, after⟩ := occurrence
  obtain ⟨rfl, earlier⟩ := idle
  have unchanged : after = before ∧ Occurrence.event? ⟨before, asked, reply, after⟩ = none := by
    cases asks with
    | deleteProducts member => exact ⟨after_eq_of_unreached lawful member clean.products, rfl⟩
    | listFlowTests =>
      obtain ⟨-, same⟩ | ⟨-, same⟩ := Cluster.Answers.listFlowTests lawful
      · exact ⟨same, rfl⟩
      · exact ⟨same, rfl⟩
    | @deleteParts _ flowTests member answered unused =>
      obtain ⟨here, there, listing⟩ := answered
      -- Nothing has changed since the flow tests were listed.
      obtain ⟨listed, rfl, -⟩ := earlier _ listing
      obtain ⟨⟨failure, impossible⟩, -⟩ | ⟨same, -⟩ := Cluster.Answers.listFlowTests listed
      · cases impossible
      · have unreached := clean.parts (Except.ok.inj same ▸ unused)
        exact ⟨after_eq_of_unreached lawful member unreached, rfl⟩
  refine ⟨unchanged.1, fun occurrence member => ?_⟩
  rcases List.mem_append.mp member with before | last
  · exact earlier occurrence before
  · obtain rfl := List.mem_singleton.mp last
    exact ⟨lawful, rfl, unchanged.2⟩

/-- Where a cleanup finds nothing to delete, it changes nothing, wherever it stops. -/
theorem run_unchanging (clean : IsClean flowTest start) :
    (run flowTest).Assures (fun _ _ => True)
      (fun _ later after => after = start ∧ published later = []) [] start := by
  have startsIdle : IsIdle start [] start := ⟨rfl, by simp⟩
  refine ((run_asks flowTest [] start).keeping (IsIdle start)
    (fun _ _ idle asks lawful => ⟨trivial, idle.next clean asks lawful⟩) startsIdle).mono
      (fun _ _ => id) ?_
  rintro outcome later after ⟨-, same, calls⟩
  exact ⟨same, List.filterMap_eq_nil_iff.mpr (fun occurrence member => (calls occurrence member).2.2)⟩

theorem deleteKinds_failsByCalls (selector : String) (kinds : List Kind) :
    Procedure.FailsByCalls (deleteKinds selector kinds) := by
  induction kinds with
  | nil => exact Procedure.failsByCalls_pure _
  | cons kind rest ih =>
    exact (Procedure.failsByCalls_make _).bind (fun deleted =>
      ih.bind (fun others => Procedure.failsByCalls_pure _))

theorem run_failsByCalls (flowTest : FlowTest) : Procedure.FailsByCalls (run flowTest) := by
  refine (deleteKinds_failsByCalls _ _).bind (fun count => ?_)
  refine Procedure.FailsByCalls.bind ?_ (fun removed => Procedure.failsByCalls_pure _)
  refine (Procedure.failsByCalls_make _).bind (fun flowTests => ?_)
  split
  next => exact Procedure.failsByCalls_pure _
  next =>
    exact (deleteKinds_failsByCalls _ _).bind (fun parts => Procedure.failsByCalls_pure _)

end Repetition

end Cleanup

namespace Controller

variable {flowTest : FlowTest} {start : Cluster}

/-- Whether a cleanup has been announced. -/
def AnnouncesCleanup (past : List Occurrence) : Prop :=
  ∃ event ∈ published past, event.reason = .cleanedUp

theorem announcesCleanup_append_publish {past : List Occurrence} (silent : published past = [])
    (before after : Cluster) (event : Event) :
    AnnouncesCleanup (past ++ [⟨before, .publish event, (), after⟩]) ↔
      event.reason = .cleanedUp := by
  simp [AnnouncesCleanup, silent]

/-- A cleanup that finds nothing to delete is announced unless somebody needs the log aggregator
or it fails. -/
theorem cleanUp_repeated (clean : Cleanup.IsClean flowTest start) :
    (cleanUp flowTest).Assures (fun _ _ => True) (fun _ later after => after = start ∧
      (AnnouncesCleanup later ↔ Cleanup.aggregatorInUse start.flowTests.values = false ∧
        ∀ occurrence ∈ later, occurrence.Succeeded)) [] start := by
  rw [cleanUp, Procedure.assures_bind, Procedure.assures_lift]
  refine ((((Cleanup.run_unchanging clean).and (Cleanup.run_failsByCalls flowTest [] start)).yielding
    (Cleanup.run_reports flowTest [] start)).yielding
      (Cleanup.run_yields flowTest [] start)).mono (fun _ _ _ => trivial) ?_
  rintro outcome later after ⟨⟨⟨⟨rfl, silent⟩, fails⟩, reports⟩, finishes⟩
  cases outcome with
  | error failure =>
    obtain ⟨occurrence, member, failed⟩ := fails failure rfl
    refine (Procedure.assures_bind _ _).mpr ((Procedure.assures_publish _).mpr
      ⟨trivial, rfl, ?_⟩)
    rw [announcesCleanup_append_publish silent]
    refine ⟨fun announced => ?_, fun worked => ?_⟩
    · cases announced
    · exact absurd (worked.2 occurrence (List.mem_append_left _ member)) failed
  | ok report =>
    obtain ⟨-, counted, removed⟩ := reports report rfl
    have none : report.testResources = 0 := counted.trans clean.countP_isProduct
    have changed : report.changed = !Cleanup.aggregatorInUse after.flowTests.values := by
      simp [Cleanup.Report.changed, none, removed]
    have succeeded : ∀ occurrence ∈ later, occurrence.Succeeded := fun occurrence member =>
      ((finishes report rfl).succeeded occurrence member).resolve_left List.not_mem_nil
    simp only [Procedure.Between, changed]
    cases used : Cleanup.aggregatorInUse after.flowTests.values with
    | true =>
      refine ⟨rfl, ⟨fun announced => ?_, fun worked => ?_⟩⟩
      · simp [AnnouncesCleanup, silent] at announced
      · cases worked.1
    | false =>
      refine (Procedure.assures_bind _ _).mpr ((Procedure.assures_publish _).mpr
        ⟨trivial, rfl, ?_⟩)
      rw [announcesCleanup_append_publish silent]
      refine ⟨fun _ => ⟨rfl, fun occurrence member => ?_⟩, fun _ => rfl⟩
      rcases List.mem_append.mp member with before | last
      · exact succeeded occurrence before
      · exact List.mem_singleton.mp last ▸ trivial

/-- The same for a whole reconciliation of a completed flow test. One that is being deleted
keeps the log aggregator itself. -/
theorem reconcile_repeated (clean : Cleanup.IsClean flowTest start)
    (completed : flowTest.phase? = some .completed)
    (stored : start.flowTests.get? flowTest.name = some flowTest) (configuration : Configuration)
    (now : Timestamp) :
    (reconcile configuration now flowTest).Assures (fun _ _ => True)
      (fun _ later after => after.resources = start.resources ∧
        (AnnouncesCleanup later ↔ Cleanup.aggregatorInUse start.flowTests.values = false ∧
          ∀ occurrence ∈ later, occurrence.Succeeded)) [] start := by
  unfold reconcile
  split
  next deleting =>
    have used : Cleanup.aggregatorInUse start.flowTests.values = true :=
      List.any_eq_true.mpr ⟨flowTest, OrderedMap.mem_values_iff.mpr ⟨_, stored⟩,
        by simp [Cleanup.needsAggregator, deleting]⟩
    simp only [used, Bool.true_eq_false, false_and, iff_false]
    rw [handleDeletion]
    split
    next => exact ⟨rfl, by simp [AnnouncesCleanup, published]⟩
    next =>
      refine (Procedure.assures_bind _ _).mpr
        ((cleanUp_repeated clean).mono (fun _ _ => id) ?_)
      rintro outcome later after ⟨rfl, announced⟩
      have silent : ¬ AnnouncesCleanup later := by simp [announced, used]
      cases outcome with
      | error failure => exact ⟨rfl, silent⟩
      | ok works =>
        cases works with
        | false => exact ⟨rfl, silent⟩
        | true =>
          refine (Procedure.assures_bind _ _).mpr
            ((Procedure.assures_make (.removeFinalizer flowTest finalizer)).mpr ?_)
          intro outcome last answers
          have sameResources : last.resources = after.resources := by
            obtain ⟨-, rfl⟩ | ⟨-, ⟨-, rfl⟩ | ⟨_, -, rfl⟩⟩ := answers.removeFinalizer <;> rfl
          have stillSilent : ¬ AnnouncesCleanup
              (later ++ [⟨after, .call (.removeFinalizer flowTest finalizer), outcome, last⟩]) := by
            simpa [AnnouncesCleanup] using silent
          refine ⟨trivial, ?_⟩
          cases outcome <;> exact ⟨sameResources, stillSilent⟩
  next =>
    rw [completed]
    refine (Procedure.assures_bind _ _).mpr ((cleanUp_repeated clean).mono (fun _ _ => id) ?_)
    rintro outcome later after ⟨rfl, announced⟩
    rcases outcome with failure | works
    · exact ⟨rfl, announced⟩
    · cases works <;> exact ⟨rfl, announced⟩

end Controller

/-- What a cleanup that has succeeded reports, and what happens when it is done again. The number
in the report is that of the objects of the flow test that are gone. The report counts as a change
if any object is gone, but also whenever nobody needs the log aggregator, whether or not there
was one. So a second cleanup removes nothing, and it reports a change, which a reconciliation of
the completed flow test announces, unless somebody needs the log aggregator or a call fails. -/
theorem cleanup_reports_exactly {flowTest : FlowTest} {before after : Cluster}
    {occurrences : List Occurrence} {report : Cleanup.Report}
    (succeeded : Execution (Cleanup.run flowTest).run before occurrences (.done (.ok report))
      after) :
    let isNeeded := Cleanup.aggregatorInUse before.flowTests.values
    after = Cleanup.cleaned flowTest before ∧
    report.testResources = (before.removed after).countP (Cleanup.isProduct flowTest) ∧
    (report.changed = true ↔ before.removed after ≠ [] ∨ isNeeded = false) ∧
    (∀ second later last,
      Execution (Cleanup.run flowTest).run after later (.done (.ok second)) last →
        last = after ∧ after.removed last = [] ∧ second.testResources = 0 ∧
          (second.changed = true ↔ isNeeded = false)) ∧
    ∀ (configuration : Configuration) (now : Timestamp) (again : FlowTest) later outcome last,
      again.name = flowTest.name → again.phase? = some .completed →
      after.flowTests.get? again.name = some again →
      Execution (Controller.reconcile configuration now again).run after later (.done outcome) last →
        last.resources = after.resources ∧
          (Controller.AnnouncesCleanup later ↔
            isNeeded = false ∧ ∀ occurrence ∈ later, occurrence.Succeeded) := by
  intro isNeeded
  obtain ⟨rfl, counted, tornDown⟩ := (Cleanup.run_reports flowTest [] before).of_execution succeeded
  have clean := Cleanup.isClean_cleaned flowTest before
  have stillNeeded : Cleanup.aggregatorInUse
      (Cleanup.cleaned flowTest before).flowTests.values = isNeeded := by
    rw [Cleanup.flowTests_cleaned]
  refine ⟨rfl, counted.trans (Cleanup.countP_removed flowTest before).symm,
    Cleanup.changed_iff counted tornDown, ?_, ?_⟩
  · intro second later last again
    obtain ⟨rfl, countedAgain, tornDownAgain⟩ :=
      (Cleanup.run_reports flowTest [] _).of_execution again
    have none : second.testResources = 0 := countedAgain.trans clean.countP_isProduct
    have changed := Cleanup.changed_iff countedAgain tornDownAgain
    rw [clean.cleaned_eq] at changed ⊢
    have nothing := Cluster.removed_self (Cleanup.cleaned flowTest before)
    exact ⟨rfl, nothing, none, by simpa [nothing, stillNeeded] using changed⟩
  · intro configuration now again later outcome last sameName completed stored execution
    have cleanAgain : Cleanup.IsClean again (Cleanup.cleaned flowTest before) := by
      refine ⟨fun entry member => ?_, clean.parts⟩
      rw [Cleanup.isProduct, sameName]
      exact clean.products entry member
    have repeated := (execution.assured
      (Controller.reconcile_repeated cleanAgain completed stored configuration now)).2
    rw [stillNeeded] at repeated
    exact repeated

/-- A cluster with a completed flow test and nothing else. -/
def Sample.bare : Cluster := Cluster.addFlowTest {} (Sample.inPhase .completed)

/-- The same with the reference flow, a slice for the flow test and the log aggregator. -/
def Sample.stocked : Cluster :=
  let owner : Owner := ⟨"test", "uid"⟩
  let slice :=
    Slice.build (Sample.template "default" owner) owner 0 .matchRule [⟨.text "first"⟩] []
  [.flow (Sample.flow ["first"]), .flow slice.flow, .output slice.output,
    .pod (SharedAggregator.pod {}), .service (SharedAggregator.service {})].foldl
      Cluster.addResource Sample.bare

/-- The cleanup takes all but the reference flow, and counts the flow and the output of the slice
alone. Another one finds nothing and still reports a change, and a reconciliation after it
announces one. -/
theorem cleanup_reports_exactly_stocked :
    let cleanup := Cleanup.run (Sample.inPhase .completed)
    ∃ after occurrences repeated later outcome last,
      Execution cleanup.run Sample.stocked occurrences (.done (.ok ⟨2, true⟩)) after ∧
      (Sample.stocked.removed after).countP
        (Cleanup.isProduct (Sample.inPhase .completed)) = 2 ∧
      after.resources.entries.map Prod.fst = [⟨.flow, "default", "flow"⟩] ∧
      Execution cleanup.run after repeated (.done (.ok ⟨0, true⟩)) after ∧
      Execution (Controller.reconcile {} ⟨0, 0⟩ (Sample.inPhase .completed)).run after later
        (.done outcome) last ∧
      last.resources = after.resources ∧
      (Controller.AnnouncesCleanup later ↔ ∀ occurrence ∈ later, occurrence.Succeeded) := by
  intro cleanup
  have unneeded : Cleanup.aggregatorInUse Sample.stocked.flowTests.values = false := rfl
  obtain ⟨occurrences, cleaned⟩ := Execution.of_run { cluster := Sample.stocked } cleanup
  have reports : (Surroundings.run { cluster := Sample.stocked } cleanup).1 = .ok ⟨2, true⟩ := rfl
  rw [reports] at cleaned
  obtain ⟨becomes, counted, -, idempotent, announced⟩ := cleanup_reports_exactly cleaned
  rw [becomes] at cleaned counted idempotent announced
  obtain ⟨repeated, again⟩ := Execution.of_run
    { cluster := Cleanup.cleaned (Sample.inPhase .completed) Sample.stocked } cleanup
  have reportsAgain : (Surroundings.run
      { cluster := Cleanup.cleaned (Sample.inPhase .completed) Sample.stocked } cleanup).1 =
        .ok ⟨0, true⟩ := rfl
  rw [reportsAgain] at again
  obtain ⟨unchanged, -⟩ := idempotent _ _ _ again
  obtain ⟨later, reconciled⟩ := Execution.of_run
    { cluster := Cleanup.cleaned (Sample.inPhase .completed) Sample.stocked }
    (Controller.reconcile {} ⟨0, 0⟩ (Sample.inPhase .completed))
  obtain ⟨kept, announces⟩ := announced _ _ (Sample.inPhase .completed) _ _ _ rfl rfl rfl reconciled
  rw [unchanged] at again
  refine ⟨_, occurrences, repeated, later, _, _, cleaned, counted.symm, by decide +kernel,
    again, reconciled, kept, ?_⟩
  rw [announces, unneeded]
  exact and_iff_right rfl

/-- There, no cleanup removes anything, yet the report of each says that it has, and each
reconciliation of the completed flow test announces one. -/
theorem cleanup_announced_without_removal :
    ¬ (∀ (flowTest : FlowTest) (before after : Cluster) occurrences report,
        Execution (Cleanup.run flowTest).run before occurrences (.done (.ok report)) after →
          (report.changed = true ↔ before.removed after ≠ [])) ∧
    let reconciled (trial : Trial) : Trial :=
      (trial.withoutRecords.run (Controller.reconcile {} ⟨0, 0⟩ (Sample.inPhase .completed))).2
    let once := reconciled { surroundings := { cluster := Sample.bare } }
    let twice := reconciled once
    once.surroundings.cluster.resources.isEmpty = true ∧
      twice.events.map (fun event => (event.reason, event.note)) =
        [(.cleanedUp, "removed 0 test resources and the shared log aggregator")] := by
  refine ⟨fun claimed => ?_, by decide +kernel, by decide +kernel⟩
  obtain ⟨occurrences, execution⟩ :=
    Execution.of_run { cluster := Sample.bare } (Cleanup.run (Sample.inPhase .completed))
  have agrees := claimed _ Sample.bare Sample.bare occurrences ⟨0, true⟩ execution
  exact agrees.mp rfl (Cluster.removed_self Sample.bare)

end FlowTesting
