import FlowTesting.Proofs.OutdatedVersions
import FlowTesting.Proofs.RepeatedPass
import Mathlib.Data.List.Flatten

set_option autoImplicit false

/-!
# Announcements of slices

The slices that have delivered are retired one by one, and they are announced together once the
pass has succeeded. So no slice is announced twice or without having been retired; but when a pass
breaks off, the slices that it has retired until then are never announced, for no later pass finds
them again.
-/

namespace FlowTesting

/-- The flow that a call retires, if it does so. -/
def Call.retired? : Call → Option PipelineFlow
  | .deleteFlow flow => some flow
  | .deactivateFlow flow => some flow
  | _ => none

/-- The flow that has been retired here, if one has. -/
def Occurrence.retired? : Occurrence → Option PipelineFlow
  | ⟨_, .call call, .ok _, _⟩ => call.retired?
  | ⟨_, .call _, .error _, _⟩ => none
  | ⟨_, .publish _, _, _⟩ => none

/-- The flows that have been retired, in order. -/
def retirements (past : List Occurrence) : List PipelineFlow := past.filterMap Occurrence.retired?

/-- The events that announce a slice, in order. -/
def announcements (past : List Occurrence) : List Event :=
  (published past).filter (·.reason = .slicePassed)

/-- The writes of a pass: it retires flows, and it stores a status that leaves its flow test
running. -/
inductive Verification.Writes : ControllerRequest → Prop where
  | deleteFlow (flow : PipelineFlow) : Writes (.call (.deleteFlow flow))
  | deactivateFlow (flow : PipelineFlow) : Writes (.call (.deactivateFlow flow))
  | store {flowTest : FlowTest} {status : FlowTestStatus} :
      flowTest.phase? = some .running → status.phase? = some .running →
      Writes (.call (.patchStatus flowTest status))

/-- Whether a write of a pass has been rejected. -/
def BrokenOff (past : List Occurrence) : Prop :=
  ∃ occurrence ∈ past, Verification.Writes occurrence.request ∧ ¬ occurrence.Succeeded

/-- The event that announces a slice. -/
def FlowTest.announcement (flowTest : FlowTest) (slice : String) : Event where
  type := .normal
  reason := .slicePassed
  action := .verify
  note := s!"slice {slice} delivered logs"
  regarding := flowTest.reference

/-- The announcement of some slices. -/
def FlowTest.announcing (flowTest : FlowTest) (slices : List String) (cluster : Cluster) :
    List Occurrence :=
  slices.map (fun slice => ⟨cluster, .publish (flowTest.announcement slice), (), cluster⟩)

namespace Reconciliation

/-- Whether a reconciliation has come to its end. -/
def IsFinished (reconciliation : Reconciliation) : Prop :=
  ∃ outcome, Execution reconciliation.procedure.run reconciliation.start
    reconciliation.occurrences (.done outcome) reconciliation.finish

/-- The slices that a reconciliation has retired, in order. -/
def retired (reconciliation : Reconciliation) : List PipelineFlow :=
  retirements reconciliation.occurrences

/-- The events by which a reconciliation has announced slices, in order. -/
def announced (reconciliation : Reconciliation) : List Event :=
  announcements reconciliation.occurrences

/-- One announcement for each slice that a reconciliation has retired. -/
def due (reconciliation : Reconciliation) : List Event :=
  reconciliation.retired.map (fun slice => reconciliation.flowTest.announcement slice.name)

end Reconciliation

section Accounting

variable {past later : List Occurrence} {occurrence : Occurrence}

@[simp]
theorem retirements_append (past later : List Occurrence) :
    retirements (past ++ later) = retirements past ++ retirements later :=
  List.filterMap_append

@[simp]
theorem announcements_append (past later : List Occurrence) :
    announcements (past ++ later) = announcements past ++ announcements later := by
  rw [announcements, published_append, List.filter_append]
  rfl

theorem brokenOff_append : BrokenOff (past ++ later) ↔ BrokenOff past ∨ BrokenOff later := by
  simp [BrokenOff, or_and_right, exists_or]

theorem Call.eq_of_retired? {call : Call} {flow : PipelineFlow}
    (retired : call.retired? = some flow) : call = .deleteFlow flow ∨ call = .deactivateFlow flow := by
  unfold retired? at retired
  split at retired
  next => exact .inl (by rw [Option.some.inj retired])
  next => exact .inr (by rw [Option.some.inj retired])
  next => cases retired

theorem Occurrence.exists_eq_of_retired? {flow : PipelineFlow}
    (retired : occurrence.retired? = some flow) :
    ∃ before call answer after, occurrence = ⟨before, .call call, Except.ok answer, after⟩ ∧
      (call = .deleteFlow flow ∨ call = .deactivateFlow flow) := by
  unfold retired? at retired
  split at retired
  next before call answer after =>
    exact ⟨before, call, answer, after, rfl, Call.eq_of_retired? retired⟩
  next => cases retired
  next => cases retired

theorem Occurrence.request_of_event? {event : Event} (published : occurrence.event? = some event) :
    occurrence.request = .publish event := by
  unfold event? at published
  split at published
  next => rw [Option.some.inj published]
  next => cases published

/-- The requests that neither write the results of a pass nor announce them. -/
def ControllerRequest.IsAside (asked : ControllerRequest) : Prop :=
  ¬ Verification.Writes asked ∧ ∀ event, asked = .publish event → event.reason ≠ .slicePassed

theorem ControllerRequest.isAside_call {call : Call}
    (harmless : ¬ Verification.Writes (.call call)) : IsAside (.call call) :=
  ⟨harmless, fun _ same => nomatch same⟩

theorem ControllerRequest.isAside_publish {event : Event} (other : event.reason ≠ .slicePassed) :
    IsAside (.publish event) := by
  refine ⟨fun writes => ?_, fun _ same => ?_⟩
  · cases writes
  · cases same
    exact other

theorem retirements_of_isAside (aside : ∀ occurrence ∈ past, occurrence.request.IsAside) :
    retirements past = [] := by
  refine List.filterMap_eq_nil_iff.mpr (fun occurrence member => ?_)
  refine Option.eq_none_iff_forall_ne_some.mpr (fun flow retired => ?_)
  obtain ⟨harmless, -⟩ := aside occurrence member
  obtain ⟨before, _, answer, after, rfl, rfl | rfl⟩ := Occurrence.exists_eq_of_retired? retired
  · exact harmless (.deleteFlow flow)
  · exact harmless (.deactivateFlow flow)

theorem announcements_of_isAside (aside : ∀ occurrence ∈ past, occurrence.request.IsAside) :
    announcements past = [] := by
  refine List.filter_eq_nil_iff.mpr (fun event member => ?_)
  obtain ⟨occurrence, member, published⟩ := List.mem_filterMap.mp member
  simpa using (aside occurrence member).2 event (Occurrence.request_of_event? published)

theorem not_brokenOff_of_isAside (aside : ∀ occurrence ∈ past, occurrence.request.IsAside) :
    ¬ BrokenOff past :=
  fun ⟨occurrence, member, writes, _⟩ => (aside occurrence member).1 writes

theorem announcements_of_silent (silent : published past = []) : announcements past = [] := by
  rw [announcements, silent]
  rfl

theorem retirements_announcing (flowTest : FlowTest) (slices : List String) (cluster : Cluster) :
    retirements (flowTest.announcing slices cluster) = [] := by
  simp [retirements, FlowTest.announcing, Occurrence.retired?]

theorem announcements_announcing (flowTest : FlowTest) (slices : List String)
    (cluster : Cluster) :
    announcements (flowTest.announcing slices cluster) = slices.map flowTest.announcement := by
  have allPublished : published (flowTest.announcing slices cluster) =
      slices.map flowTest.announcement := by
    rw [published, FlowTest.announcing, List.filterMap_map]
    exact congrFun List.filterMap_eq_map slices
  rw [announcements, allPublished, List.filter_eq_self]
  simp [FlowTest.announcement]

theorem not_brokenOff_announcing (flowTest : FlowTest) (slices : List String)
    (cluster : Cluster) : ¬ BrokenOff (flowTest.announcing slices cluster) := by
  rintro ⟨occurrence, member, writes, -⟩
  obtain ⟨slice, -, rfl⟩ := List.mem_map.mp member
  cases writes

end Accounting

namespace Verification

variable {policy : PassPolicy} {reference : PipelineFlow} {indexes : List Index}

/-- A retirement is one request, which succeeds or is rejected. -/
theorem retire_occurs (policy : PassPolicy) (slice : PipelineFlow) (past : List Occurrence)
    (cluster : Cluster) :
    Procedure.Assures (fun _ _ => True) (fun outcome later _ => ∃ occurrence,
      later = past ++ [occurrence] ∧ occurrence.event? = none ∧ Writes occurrence.request ∧
        ((∃ failure, outcome = .ok (.error failure)) ∧ occurrence.retired? = none ∧
            ¬ occurrence.Succeeded ∨
          outcome = .ok (.ok ()) ∧ occurrence.retired? = some slice ∧ occurrence.Succeeded))
      (retire policy slice) past cluster := by
  cases policy with
  | delete =>
    intro outcome after _
    refine ⟨trivial, _, rfl, rfl, .deleteFlow slice, ?_⟩
    cases outcome with
    | error failure => exact .inl ⟨⟨failure, rfl⟩, rfl, nofun⟩
    | ok answer => exact .inr ⟨rfl, rfl, answer, rfl⟩
  | deactivate =>
    intro outcome after _
    refine ⟨trivial, _, rfl, rfl, .deactivateFlow slice, ?_⟩
    cases outcome with
    | error failure => exact .inl ⟨⟨failure, rfl⟩, rfl, nofun⟩
    | ok answer => exact .inr ⟨rfl, rfl, answer, rfl⟩

/-- What has happened while slices that are due were retired, from where a pass stood to where it
stands then: it has noted the names of those that are retired, and a failure just when it has
broken off. -/
structure Retires (indexes : List Index) (slices : List PipelineFlow) (before after : Progress)
    (occurrences : List Occurrence) : Prop where
  listed : (retirements occurrences).Sublist slices
  due : ∀ slice ∈ retirements occurrences, slice.IsDue indexes
  silent : published occurrences = []
  passed : after.verification.passed =
    before.verification.passed ++ (retirements occurrences).map (·.name)
  brokenOff_iff : BrokenOff occurrences ↔ after.failure?.isSome = true

theorem Retires.nil {slices : List PipelineFlow} {progress : Progress}
    (unfailed : progress.failure? = none) : Retires indexes slices progress progress [] where
  listed := List.nil_sublist slices
  due := by simp [retirements]
  silent := rfl
  passed := by simp [retirements]
  brokenOff_iff := by simp [BrokenOff, unfailed]

/-- A slice that is retired comes before those that are retired after it. -/
theorem Retires.cons {slice : PipelineFlow} {rest : List PipelineFlow}
    {before between after : Progress} {occurrence : Occurrence} {occurrences : List Occurrence}
    (retires : Retires indexes rest between after occurrences) (due : slice.IsDue indexes)
    (silent : occurrence.event? = none) (retired : occurrence.retired? = some slice)
    (succeeded : occurrence.Succeeded)
    (noted : between.verification.passed = before.verification.passed ++ [slice.name]) :
    Retires indexes (slice :: rest) before after (occurrence :: occurrences) := by
  have oneMore : retirements (occurrence :: occurrences) = slice :: retirements occurrences :=
    List.filterMap_cons_some retired
  constructor
  case listed => exact oneMore ▸ retires.listed.cons_cons slice
  case due => exact oneMore ▸ List.forall_mem_cons.mpr ⟨due, retires.due⟩
  case silent => exact (List.filterMap_cons_none silent).trans retires.silent
  case passed => rw [oneMore, retires.passed, noted, List.append_assoc]; rfl
  case brokenOff_iff =>
    rw [← retires.brokenOff_iff]
    simp [BrokenOff, succeeded]

theorem passed_record (reference slice : PipelineFlow) (testType : TestType)
    (verification : Verification) :
    (record reference slice testType verification).1.passed =
      verification.passed ++ [slice.name] := by
  cases testType <;> rfl

theorem retireDelivered_retires (slices : List PipelineFlow) (progress : Progress)
    (unfailed : progress.failure? = none) (past : List Occurrence) (cluster : Cluster) :
    Procedure.Assures (fun _ _ => True) (fun outcome later _ => ∃ result occurrences,
      outcome = .ok result ∧ later = past ++ occurrences ∧
        Retires indexes slices progress result occurrences)
      (retireDelivered policy reference indexes progress slices) past cluster := by
  induction slices generalizing progress past cluster with
  | nil => exact ⟨progress, [], rfl, (List.append_nil past).symm, .nil unfailed⟩
  | cons slice rest ih =>
    unfold retireDelivered
    split
    next =>
      refine (ih progress unfailed past cluster).mono (fun _ _ => id) ?_
      rintro outcome later _ ⟨result, occurrences, done, same, retires⟩
      exact ⟨result, occurrences, done, same, { retires with listed := retires.listed.cons slice }⟩
    next testType delivered =>
      rw [Procedure.assures_bind]
      refine (retire_occurs policy slice past cluster).mono (fun _ _ => id) ?_
      rintro outcome _ between ⟨occurrence, rfl, silent, writes, attempted⟩
      obtain ⟨⟨failure, rfl⟩, none, failed⟩ | ⟨rfl, retired, succeeded⟩ := attempted
      · -- The pass goes no further: neither this slice nor one after it is retired.
        have noneRetired : retirements [occurrence] = [] := List.filterMap_cons_none none
        have unpublished : published [occurrence] = [] := List.filterMap_cons_none silent
        refine (Procedure.assures_pure _).mpr ⟨_, [occurrence], rfl, rfl, ?_⟩
        refine ⟨by simp [noneRetired], by simp [noneRetired], unpublished, by simp [noneRetired], ?_⟩
        simp [BrokenOff, writes, failed]
      · refine (ih _ ?_ _ between).mono (fun _ _ => id) ?_
        · exact unfailed
        rintro outcome _ after ⟨result, occurrences, done, rfl, retires⟩
        refine ⟨result, occurrence :: occurrences, done, List.append_assoc .., ?_⟩
        exact retires.cons (delivered?_eq_some_iff.mp delivered).1 silent retired succeeded
          (passed_record reference slice testType progress.verification)

theorem Reads.isAside {asked : ControllerRequest} (reads : Reads asked) : asked.IsAside := by
  cases reads <;> exact ControllerRequest.isAside_call nofun

theorem published_of_reads {occurrences : List Occurrence}
    (onlyReads : ∀ occurrence ∈ occurrences, Reads occurrence.request) :
    published occurrences = [] := by
  refine List.filterMap_eq_nil_iff.mpr (fun occurrence member => ?_)
  refine Option.eq_none_iff_forall_ne_some.mpr (fun event published => ?_)
  have reads := onlyReads occurrence member
  rw [Occurrence.request_of_event? published] at reads
  cases reads

theorem retirements_of_reads {occurrences : List Occurrence}
    (onlyReads : ∀ occurrence ∈ occurrences, Reads occurrence.request) :
    retirements occurrences = [] :=
  retirements_of_isAside (fun occurrence member => (onlyReads occurrence member).isAside)

/-- What has happened in a pass over a running flow test. It tells the names of the slices that it
has retired, unless it has broken off. -/
structure Reports (flowTest : FlowTest) (start : Cluster)
    (outcome : Except Failure Verification) (occurrences : List Occurrence) : Prop where
  listed : ∃ kind, (retirements occurrences).Sublist
    (start.listFlows kind (Selector.flowTest flowTest.name))
  due : ∀ slice ∈ retirements occurrences,
    ∃ indexes, Answered occurrences .listIndexes indexes ∧ slice.IsDue indexes
  silent : published occurrences = []
  failed : ∀ failure, outcome = .error failure →
    BrokenOff occurrences ∨ retirements occurrences = []
  passed : ∀ verification, outcome = .ok verification →
    ¬ BrokenOff occurrences ∧ verification.passed = (retirements occurrences).map (·.name)

section Passes

variable {flowTest : FlowTest} {start : Cluster} {reads retiring ending : List Occurrence}
  {outcome : Except Failure Verification}

theorem reports_of_reads (onlyReads : ∀ occurrence ∈ reads, Reads occurrence.request)
    (failure : Failure) : Reports flowTest start (.error failure) reads where
  listed := ⟨.flow, by simp [retirements_of_reads onlyReads]⟩
  due := by simp [retirements_of_reads onlyReads]
  silent := published_of_reads onlyReads
  failed _ _ := .inr (retirements_of_reads onlyReads)
  passed _ impossible := nomatch impossible

theorem Retires.reports {kind : PipelineKind} {result : Progress}
    (retires : Retires indexes (start.listFlows kind (Selector.flowTest flowTest.name))
      (.start flowTest.status) result retiring)
    (onlyReads : ∀ occurrence ∈ reads, Reads occurrence.request)
    (listing : Answered reads .listIndexes indexes)
    (noneRetired : retirements ending = []) (silent : published ending = [])
    (failed : ∀ failure, outcome = .error failure →
      BrokenOff ending ∨ result.failure?.isSome = true)
    (passed : ∀ verification, outcome = .ok verification →
      ¬ BrokenOff ending ∧ result.failure? = none ∧ verification = result.verification) :
    Reports flowTest start outcome (reads ++ retiring ++ ending) := by
  have retired : retirements (reads ++ retiring ++ ending) = retirements retiring := by
    simp [retirements_of_reads onlyReads, noneRetired]
  have unbroken : ¬ BrokenOff reads :=
    not_brokenOff_of_isAside (fun occurrence member => (onlyReads occurrence member).isAside)
  have brokenOff_iff : BrokenOff (reads ++ retiring ++ ending) ↔
      result.failure?.isSome = true ∨ BrokenOff ending := by
    simp [brokenOff_append, unbroken, retires.brokenOff_iff]
  constructor
  case listed => exact ⟨kind, retired ▸ retires.listed⟩
  case due =>
    intro slice member
    refine ⟨indexes, listing.mono ?_, retires.due slice (retired ▸ member)⟩
    simp [List.append_assoc]
  case silent => simp [published_of_reads onlyReads, retires.silent, silent]
  case failed => exact fun failure same => .inl (brokenOff_iff.mpr (failed failure same).symm)
  case passed =>
    intro verification same
    obtain ⟨kept, unfailed, rfl⟩ := passed verification same
    refine ⟨?_, retired ▸ retires.passed⟩
    rw [brokenOff_iff]
    simp [kept, unfailed]

theorem run_reports (running : flowTest.phase? = some .running) (policy : PassPolicy) :
    Procedure.Assures (fun _ _ => True) (fun outcome later _ => Reports flowTest start outcome later)
      (run flowTest policy) [] start := by
  refine assures_reading (fun _ _ _ => trivial) [] (fun failure reads onlyReads => ?_) ?_
  · exact reports_of_reads onlyReads failure
  intro kind reference indexes reads _ _ onlyReads listing
  refine (Procedure.assures_bind _ _).mpr
    ((retireDelivered_retires _ (.start flowTest.status) rfl _ start).mono (fun _ _ => id) ?_)
  rintro _ _ middle ⟨result, retiring, rfl, rfl, retires⟩
  have ends : ∀ ending, retirements ending = [] → published ending = [] → ¬ BrokenOff ending →
      Reports flowTest start result.outcome (reads ++ retiring ++ ending) := by
    intro ending noneRetired silent kept
    refine retires.reports onlyReads listing noneRetired silent (fun failure failed => .inr ?_) ?_
    · rw [Progress.failure?_of_outcome failed]
      rfl
    · exact fun verification passes => ⟨kept, Progress.passes_of_outcome passes⟩
  refine assures_finish (fun _ => ?_) (fun _ outcome after _ => ⟨trivial, ?_⟩)
  · simpa using ends [] rfl rfl (by simp [BrokenOff])
  cases outcome with
  | ok answer =>
    refine ends [_] rfl rfl ?_
    rintro ⟨occurrence, member, -, failed⟩
    obtain rfl := List.mem_singleton.mp member
    exact failed ⟨answer, rfl⟩
  | error failure =>
    have writes : Writes (.call (.patchStatus flowTest
        (updatedStatus flowTest result.verification))) :=
      .store running (flowTest.phase?_status.trans running)
    refine retires.reports onlyReads listing rfl rfl (fun _ _ => .inl ?_) nofun
    exact ⟨_, List.mem_singleton_self _, writes, nofun⟩

end Passes

end Verification

/-- What has happened in a reconciliation: only slices that are due are retired, only of a running
flow test, and all of them are announced in order, or none if a write of the pass was rejected. -/
structure Accounts (flowTest : FlowTest) (start : Cluster) (occurrences : List Occurrence) :
    Prop where
  listed : ∃ kind, (retirements occurrences).Sublist
    (start.listFlows kind (Selector.flowTest flowTest.name))
  due : ∀ slice ∈ retirements occurrences,
    ∃ indexes, Answered occurrences .listIndexes indexes ∧ slice.IsDue indexes
  running : retirements occurrences ≠ [] → flowTest.phase? = some .running
  dropped : BrokenOff occurrences → announcements occurrences = []
  announced : ¬ BrokenOff occurrences →
    announcements occurrences =
      (retirements occurrences).map (fun slice => flowTest.announcement slice.name)

namespace Accounts

variable {flowTest : FlowTest} {start : Cluster} {past later : List Occurrence}

theorem append_aside (accounts : Accounts flowTest start past)
    (aside : ∀ occurrence ∈ later, occurrence.request.IsAside) :
    Accounts flowTest start (past ++ later) := by
  have sameRetired : retirements (past ++ later) = retirements past := by
    simp [retirements_of_isAside aside]
  have sameAnnounced : announcements (past ++ later) = announcements past := by
    simp [announcements_of_isAside aside]
  have sameEnd : BrokenOff (past ++ later) ↔ BrokenOff past := by
    simp [brokenOff_append, not_brokenOff_of_isAside aside]
  refine ⟨sameRetired ▸ accounts.listed, fun slice member => ?_, sameRetired ▸ accounts.running,
    ?_, ?_⟩
  · obtain ⟨indexes, listing, due⟩ := accounts.due slice (sameRetired ▸ member)
    exact ⟨indexes, listing.mono (List.subset_append_left _ _), due⟩
  · rw [sameEnd, sameAnnounced]
    exact accounts.dropped
  · rw [sameEnd, sameAnnounced, sameRetired]
    exact accounts.announced

theorem nil (flowTest : FlowTest) (start : Cluster) : Accounts flowTest start [] where
  listed := ⟨.flow, by simp [retirements]⟩
  due := by simp [retirements]
  running := by simp [retirements]
  dropped _ := rfl
  announced _ := rfl

/-- A pass that has succeeded is accounted for once the slices that it tells are announced. -/
theorem of_passes {verification : Verification}
    (reports : Verification.Reports flowTest start (.ok verification) past)
    (running : flowTest.phase? = some .running) (cluster : Cluster) :
    Accounts flowTest start (past ++ flowTest.announcing verification.passed cluster) := by
  obtain ⟨kept, passed⟩ := reports.passed verification rfl
  have sameRetired : retirements (past ++ flowTest.announcing verification.passed cluster) =
      retirements past := by
    simp [retirements_announcing]
  refine ⟨sameRetired ▸ reports.listed, fun slice member => ?_, fun _ => running,
    fun broken => absurd broken ?_, fun _ => ?_⟩
  · obtain ⟨indexes, listing, due⟩ := reports.due slice (sameRetired ▸ member)
    exact ⟨indexes, listing.mono (List.subset_append_left _ _), due⟩
  · simp [brokenOff_append, kept, not_brokenOff_announcing]
  · rw [announcements_append, announcements_of_silent reports.silent, announcements_announcing,
      sameRetired, passed, List.map_map]
    rfl

/-- Requests aside from a pass change nothing of what a reconciliation accounts for. -/
theorem of_assures {α : Type} {procedure : Procedure α} {cluster : Cluster}
    (assured : procedure.Assures (fun _ occurrence => occurrence.request.IsAside)
      (fun _ _ _ => True) past cluster) (accounts : Accounts flowTest start past) :
    procedure.Assures (fun _ _ => True) (fun _ later _ => Accounts flowTest start later) past
      cluster := by
  refine assured.appending.mono (fun _ _ _ => trivial) ?_
  rintro _ _ _ ⟨-, more, rfl, aside⟩
  exact accounts.append_aside aside

end Accounts

namespace Controller

variable {flowTest : FlowTest} {start : Cluster}

theorem isAside_patchStatus {status : FlowTestStatus}
    (other : flowTest.phase? ≠ some .running ∨ status.phase? ≠ some .running) :
    ControllerRequest.IsAside (.call (.patchStatus flowTest status)) := by
  refine ControllerRequest.isAside_call ?_
  rintro ⟨⟩
  next running stays => rcases other with other | other <;> exact other ‹_›

/-- Notes are aside of a pass unless they announce slices, or set a running flow test to running. -/
theorem Notes.isAside {phases : List FlowTestPhase} {reasons : List EventReason}
    {asked : ControllerRequest} (quiet : .slicePassed ∉ reasons)
    (other : flowTest.phase? ≠ some .running ∨ .running ∉ phases)
    (notes : Notes flowTest phases reasons asked) : asked.IsAside := by
  cases notes with
  | attach => exact ControllerRequest.isAside_call nofun
  | store listed =>
    refine isAside_patchStatus (other.imp_right (fun unlisted same => unlisted ?_))
    exact Option.some.inj same ▸ listed
  | publish listed =>
    exact ControllerRequest.isAside_publish (fun same => quiet (same ▸ listed))

theorem complete_aside (flowTest : FlowTest) :
    (complete flowTest).Makes ControllerRequest.IsAside :=
  (complete_makes flowTest).mono (fun _ => Notes.isAside (by simp) (.inr (by simp)))

theorem provision_aside (created : flowTest.phase? = some .created)
    (configuration : Configuration) (now : Timestamp) :
    (provision configuration now flowTest).Makes ControllerRequest.IsAside := by
  have notRunning : flowTest.phase? ≠ some .running := by simp [created]
  have runs : (Provisioning.run flowTest configuration).Makes ControllerRequest.IsAside := by
    refine (Provisioning.run_makes flowTest configuration).mono (fun asked asks => ?_)
    cases asks with
    | allocate => exact isAside_patchStatus (.inl notRunning)
    | _ => exact ControllerRequest.isAside_call nofun
  exact runs.lift.bind (fun outcome => (afterProvisioning_makes configuration now flowTest
    outcome).mono (fun _ => Notes.isAside (by simp) (.inl notRunning)))

theorem cleanUp_aside (flowTest : FlowTest) (past : List Occurrence) (cluster : Cluster) :
    (cleanUp flowTest).Assures (fun _ occurrence => occurrence.request.IsAside)
      (fun _ _ _ => True) past cluster := by
  rw [cleanUp, Procedure.assures_bind, Procedure.assures_lift]
  refine (Cleanup.run_asks flowTest past cluster).mono ?_ (fun outcome past cluster _ => ?_)
  · rintro _ ⟨_, asked, _, _⟩ (asks : Cleanup.Asks flowTest _ asked)
    cases asks <;> exact ControllerRequest.isAside_call (by rintro ⟨⟩)
  · exact ((afterCleanup_makes flowTest outcome).mono
      (fun _ => Notes.isAside (by simp) (.inr (by simp)))).assures past cluster

/-- Only the reconciliation of a running flow test retires or announces anything. -/
theorem reconcile_aside (other : flowTest.isDeleting = true ∨ flowTest.phase? ≠ some .running)
    (configuration : Configuration) (now : Timestamp) :
    (reconcile configuration now flowTest).Assures (fun _ occurrence => occurrence.request.IsAside)
      (fun _ _ _ => True) [] start := by
  unfold reconcile
  split
  next =>
    unfold handleDeletion
    split
    next => trivial
    next =>
      refine (cleanUp_aside flowTest [] start).bind (fun works past cluster => ?_)
      split
      next =>
        exact ((Procedure.makes_make (ControllerRequest.isAside_call (by nofun))).bind
          (fun _ => Procedure.makes_pure _)).assures past cluster
      next => trivial
  next kept =>
    split
    next =>
      exact ((markCreated_makes flowTest).mono
        (fun _ => Notes.isAside (by simp) (.inr (by simp)))).assures [] start
    next created => exact (provision_aside created configuration now).assures [] start
    next running => exact absurd running (other.resolve_left kept)
    next =>
      refine (cleanUp_aside flowTest [] start).bind (fun works past cluster => ?_)
      cases works <;> trivial
    next => trivial

/-- The events that announce the slices of a pass are published one after the other. -/
theorem announcePassed_occurs (flowTest : FlowTest) (slices : List String)
    (past : List Occurrence) (cluster : Cluster) :
    (announcePassed flowTest slices).Assures (fun _ _ => True) (fun outcome later after =>
      outcome = .ok () ∧ after = cluster ∧
        later = past ++ flowTest.announcing slices cluster) past cluster := by
  induction slices generalizing past with
  | nil => exact ⟨rfl, rfl, (List.append_nil past).symm⟩
  | cons slice rest ih =>
    refine (Procedure.assures_bind _ _).mpr ((Procedure.assures_publish _).mpr ⟨trivial, ?_⟩)
    refine (ih _).mono (fun _ _ => id) ?_
    rintro outcome _ _ ⟨rfl, rfl, rfl⟩
    exact ⟨rfl, rfl, List.append_assoc ..⟩

theorem verify_accounts (running : flowTest.phase? = some .running)
    (configuration : Configuration) (next : Duration) :
    (verify configuration flowTest next).Assures (fun _ _ => True)
      (fun _ later _ => Accounts flowTest start later) [] start := by
  rw [verify, Procedure.assures_bind, Procedure.assures_lift]
  refine (Verification.run_reports running configuration.passPolicy).mono (fun _ _ => id) ?_
  intro outcome later after reports
  have unannounced := announcements_of_silent reports.silent
  cases outcome with
  | error failure =>
    have accounts : Accounts flowTest start later := by
      refine ⟨reports.listed, reports.due, fun _ => running, fun _ => unannounced, fun kept => ?_⟩
      rw [unannounced, (reports.failed failure rfl).resolve_left kept]
      rfl
    have rest : Procedure.Makes ControllerRequest.IsAside (do
        publish flowTest .warning .verificationFailed .verify failure.message
        return Action.requeue next) :=
      (Procedure.makes_publish (ControllerRequest.isAside_publish (by simp))).bind
        (fun _ => Procedure.makes_pure _)
    exact Accounts.of_assures (rest.assures later after) accounts
  | ok verification =>
    refine (Procedure.assures_bind _ _).mpr
      ((announcePassed_occurs flowTest verification.passed later after).mono (fun _ _ => id) ?_)
    rintro _ _ _ ⟨rfl, rfl, rfl⟩
    have rest : Procedure.Makes ControllerRequest.IsAside
        (if verification.allPassed then complete flowTest else return .requeue next) := by
      split
      next => exact complete_aside flowTest
      next => exact Procedure.makes_pure _
    exact Accounts.of_assures (rest.assures _ _) (.of_passes reports running _)

/-- What every reconciliation that comes to its end accounts for. -/
theorem reconcile_accounts (configuration : Configuration) (now : Timestamp) (flowTest : FlowTest)
    (start : Cluster) :
    (reconcile configuration now flowTest).Assures (fun _ _ => True)
      (fun _ later _ => Accounts flowTest start later) [] start := by
  by_cases other : flowTest.isDeleting = true ∨ flowTest.phase? ≠ some .running
  · exact Accounts.of_assures (reconcile_aside other configuration now) (.nil flowTest start)
  · obtain ⟨undeleted, running⟩ : flowTest.isDeleting = false ∧ flowTest.phase? = some .running := by
      simpa using other
    simp only [reconcile, undeleted, running, Bool.false_eq_true, ↓reduceIte]
    unfold checkRunning
    split
    next =>
      exact Accounts.of_assures ((complete_aside flowTest).assures [] start) (.nil flowTest start)
    next => exact Accounts.nil flowTest start
    next next _ => exact verify_accounts running configuration next

end Controller

section Repetition

/-- No two flows of a listing have the same key. -/
theorem Cluster.IsCoherent.nodup_listFlows {cluster : Cluster} (coherent : cluster.IsCoherent)
    (kind : PipelineKind) (selector : String) :
    ((cluster.listFlows kind selector).map (fun flow => (Resource.flow flow).key)).Nodup := by
  let selected := cluster.resources.filter (isSelected kind.flowKind selector)
  have kept : ∀ entry ∈ selected.entries, entry.2.key = entry.1 := fun entry member =>
    coherent _ _ (OrderedMap.get?_eq_some_iff.mpr (List.mem_filter.mp member).1)
  have distinct : selected.entries.Pairwise (fun entry other => entry.2.key ≠ other.2.key) := by
    refine (List.pairwise_map.mp selected.nodup_keys).imp_of_mem ?_
    intro entry other member otherMember differs
    rwa [kept entry member, kept other otherMember]
  refine List.pairwise_map.mpr (List.pairwise_filterMap.mpr (List.pairwise_map.mpr ?_))
  refine distinct.imp (fun {entry other} differs flow same next sameNext => ?_)
  obtain ⟨_, resource⟩ := entry
  obtain ⟨_, resource'⟩ := other
  cases resource <;> cases same
  cases resource' <;> cases sameNext
  exact differs

theorem UserAction.isCoherent_apply {cluster : Cluster} (coherent : cluster.IsCoherent)
    (action : UserAction) : (action.apply cluster).IsCoherent := by
  cases action with
  | addFlowTest flowTest => exact coherent
  | requestDeletion name instant =>
    simp only [UserAction.apply]
    split <;> exact coherent
  | putPod pod => exact coherent.addResource (.pod pod)
  | putFlow flow => exact coherent.addResource (.flow flow)

theorem LifecycleKept.staysUnderway {configuration : Configuration} {now : Timestamp}
    {flowTest : FlowTest} {past : List Occurrence} {occurrence : Occurrence}
    (kept : LifecycleKept configuration now flowTest past occurrence) :
    occurrence.before.StaysUnderway occurrence.after := by
  intro name underway
  rcases kept.changes with quiet | ⟨-, change⟩
  · rwa [Cluster.IsUnderway, quiet name]
  by_cases same : name = flowTest.name
  · obtain ⟨phase, reached, step⟩ := change.step
    rw [← same] at reached step
    rcases underway with running | completed
    · rw [running] at step
      cases step
      exact .inr reached
    · rw [completed] at step
      cases step
  · rwa [Cluster.IsUnderway, change.alone name same]

/-- Whether a slice that has been retired cannot be found again: what is stored in its place, if
anything, is an inactive flow or one that belongs to no flow test. -/
def PipelineFlow.IsSpent (slice : PipelineFlow) (cluster : Cluster) : Prop :=
  ∀ flow, cluster.resources.get? (Resource.flow slice).key = some (.flow flow) →
    flow.isActive = false ∨ (Resource.flow flow).IsForeign

namespace PipelineFlow.IsSpent

variable {slice : PipelineFlow} {before after : Cluster}

theorem next {asked : ControllerRequest} {reply : controllerInterface.Reply asked}
    (spent : slice.IsSpent before) (answers : before.Answers asked reply after)
    (creates : ∀ resource, asked ≠ .call (.create resource)) : slice.IsSpent after := by
  intro flow found
  rcases answers.provenance found with
    foundBefore | ⟨created, -⟩ | ⟨_, stored, -, -, -, deactivated⟩
  · exact spent flow foundBefore
  · exact absurd created (creates _)
  · obtain rfl := Resource.flow.inj deactivated
    exact .inl (by cases stored <;> rfl)

theorem of_retired? {occurrence : Occurrence} (lawful : occurrence.Lawful)
    (retired : occurrence.retired? = some slice) : slice.IsSpent occurrence.after := by
  have left : occurrence.before.Retired [slice] occurrence.after := by
    obtain ⟨before, _, answer, after, rfl, rfl | rfl⟩ :=
      Occurrence.exists_eq_of_retired? retired
    · exact (Cluster.Answers.retired_of_deleteFlow lawful).2
    · exact (Cluster.Answers.retired_of_deactivateFlow lawful).2
  exact fun flow found => .inl (left.inactive slice (List.mem_singleton_self _) flow found)

theorem addResource (spent : slice.IsSpent before) {resource : Resource}
    (foreign : resource.IsForeign) : slice.IsSpent (before.addResource resource) := by
  intro flow found
  rw [Cluster.addResource] at found
  by_cases same : (Resource.flow slice).key = resource.key
  · rw [same, OrderedMap.get?_insert_self, Option.some.injEq] at found
    exact .inr (found ▸ foreign)
  · exact spent flow ((OrderedMap.get?_insert_of_ne same).symm.trans found)

theorem apply (spent : slice.IsSpent before) {action : UserAction}
    (allowed : action.IsAllowed before) : slice.IsSpent (action.apply before) := by
  cases action with
  | addFlowTest flowTest => exact spent
  | requestDeletion name instant =>
    simp only [UserAction.apply]
    split <;> exact spent
  | putPod pod => exact spent.addResource allowed
  | putFlow flow => exact spent.addResource allowed

/-- No slice that a pass may retire is in the place of one that is spent. -/
theorem key_ne {other : PipelineFlow} {kind : PipelineKind} {name : String}
    {indexes : List Index} (spent : slice.IsSpent before) (coherent : before.IsCoherent)
    (listed : other ∈ before.listFlows kind (Selector.flowTest name)) (due : other.IsDue indexes) :
    (Resource.flow slice).key ≠ (Resource.flow other).key := by
  intro same
  have stored := Cluster.get?_key_of_mem_listFlows coherent listed
  obtain ⟨_, -, -, selected⟩ := Cluster.mem_listFlows_iff.mp listed
  rcases spent other (same ▸ stored) with inactive | foreign
  · rw [due.1] at inactive
    cases inactive
  · have labeled := Selector.get?_of_selects_flowTest selected
    rw [show other.labels.get? Labels.flowTestKey = none from foreign] at labeled
    cases labeled

end PipelineFlow.IsSpent

/-- What a run has left of the slices that it has retired: they are distinct, none of them can be
found again, and their flow test runs or has run, so that none is made again. -/
structure Spent (name : String) (retired : List PipelineFlow) (cluster : Cluster) : Prop where
  coherent : cluster.IsCoherent
  distinct : (retired.map (fun slice => (Resource.flow slice).key)).Nodup
  spent : ∀ slice ∈ retired, slice.IsSpent cluster
  underway : retired ≠ [] → cluster.IsUnderway name

namespace Spent

variable {retired : List PipelineFlow}

theorem start {cluster : Cluster} (coherent : cluster.IsCoherent) (name : String) :
    Spent name [] cluster :=
  ⟨coherent, List.nodup_nil, by simp, by simp⟩

theorem acted {name : String} {cluster : Cluster} {action : UserAction}
    (spent : Spent name retired cluster) (allowed : action.IsAllowed cluster) :
    Spent name retired (action.apply cluster) where
  coherent := UserAction.isCoherent_apply spent.coherent action
  distinct := spent.distinct
  spent slice member := (spent.spent slice member).apply allowed
  underway some := UserAction.staysUnderway_apply allowed name (spent.underway some)

variable {reconciliation : Reconciliation}

theorem underway_start
    (spent : Spent reconciliation.flowTest.name retired reconciliation.start)
    (lawful : reconciliation.Lawful)
    (accounts : Accounts reconciliation.flowTest reconciliation.start reconciliation.occurrences)
    (some : retired ++ retirements reconciliation.occurrences ≠ []) :
    reconciliation.start.IsUnderway reconciliation.flowTest.name := by
  by_cases earlier : retired = []
  · have running := accounts.running (by simpa [earlier] using some)
    exact .inl (by simp [Cluster.phase?, lawful.1, running])
  · exact spent.underway earlier

/-- A reconciliation that creates nothing leaves what has been retired, before and by itself, as it
is. -/
theorem spent_after
    (spent : Spent reconciliation.flowTest.name retired reconciliation.start)
    (lawful : reconciliation.Lawful) (notCreated : reconciliation.flowTest.phase? ≠ some .created) :
    ∀ slice ∈ retired ++ retirements reconciliation.occurrences,
      slice.IsSpent reconciliation.finish := by
  obtain ⟨-, rest, execution⟩ := lawful
  -- The slices retired by the reconciliation itself join the others as it goes on.
  refine execution.invariant (fun past cluster =>
    ∀ slice ∈ retired ++ retirements past, slice.IsSpent cluster)
    (Controller.reconcile_permits _ _ _ _) ?_ (by simpa [retirements] using spent.spent)
  rintro past ⟨before, asked, reply, after⟩ ⟨asks, -⟩ lawful spentBefore slice member
  have creates : ∀ resource, asked ≠ .call (.create resource) := by
    rintro resource rfl
    exact notCreated asks.create.2.1
  rw [retirements_append, ← List.append_assoc] at member
  rcases List.mem_append.mp member with earlier | here
  · exact (spentBefore slice earlier).next lawful creates
  · obtain ⟨occurrence, last, retired⟩ := List.mem_filterMap.mp here
    obtain rfl := List.mem_singleton.mp last
    exact .of_retired? lawful retired

theorem reconciled
    (spent : Spent reconciliation.flowTest.name retired reconciliation.start)
    (lawful : reconciliation.Lawful)
    (accounts : Accounts reconciliation.flowTest reconciliation.start
      reconciliation.occurrences) :
    Spent reconciliation.flowTest.name (retired ++ retirements reconciliation.occurrences)
      reconciliation.finish := by
  obtain ⟨stored, rest, execution⟩ := lawful
  constructor
  case coherent =>
    exact execution.invariant (fun _ cluster => cluster.IsCoherent)
      (Controller.reconcile_permits _ _ _ _) (fun _ _ _ answers => answers.isCoherent)
      spent.coherent
  case distinct =>
    obtain ⟨kind, listed⟩ := accounts.listed
    rw [List.map_append, List.nodup_append]
    refine ⟨spent.distinct,
      (listed.map _).nodup (spent.coherent.nodup_listFlows kind _), ?_⟩
    intro key earlier other here
    obtain ⟨slice, member, rfl⟩ := List.mem_map.mp earlier
    obtain ⟨next, nextMember, rfl⟩ := List.mem_map.mp here
    obtain ⟨indexes, -, due⟩ := accounts.due next nextMember
    -- What is listed now and due is not in the place of anything that was retired before.
    exact (spent.spent slice member).key_ne spent.coherent (listed.subset nextMember) due
  case spent =>
    by_cases created : reconciliation.flowTest.phase? = some .created
    · -- Nothing has been retired before the flow test runs.
      intro slice member
      have underway := spent.underway_start ⟨stored, rest, execution⟩ accounts
        (List.ne_nil_of_mem member)
      simp [Cluster.IsUnderway, Cluster.phase?, stored, created] at underway
    · exact spent.spent_after ⟨stored, rest, execution⟩ created
  case underway =>
    intro some
    exact execution.preserves
      (fun cluster => cluster.IsUnderway reconciliation.flowTest.name)
      (Reconciliation.assures_lifecycle stored)
      (fun _ _ kept => kept.staysUnderway reconciliation.flowTest.name)
      (spent.underway_start ⟨stored, rest, execution⟩ accounts some)

end Spent

theorem Reconciliation.IsFinished.accounts {reconciliation : Reconciliation}
    (finished : reconciliation.IsFinished) :
    Accounts reconciliation.flowTest reconciliation.start reconciliation.occurrences := by
  obtain ⟨outcome, execution⟩ := finished
  exact (execution.assured (Controller.reconcile_accounts _ _ _ _)).2

theorem Run.spent {initial final : Cluster} {reconciliations : List Reconciliation} {name : String}
    (run : Run initial reconciliations final) (coherent : initial.IsCoherent)
    (finished : ∀ reconciliation ∈ reconciliations,
      reconciliation.flowTest.name = name ∧ reconciliation.IsFinished) :
    Spent name (reconciliations.flatMap (·.retired)) final := by
  induction run with
  | start => exact .start coherent name
  | reconciled _ lawful ih =>
    obtain ⟨finishedBefore, last⟩ := List.forall_mem_append.mp finished
    obtain ⟨rfl, finishedHere⟩ := List.forall_mem_singleton.mp last
    rw [List.flatMap_append, List.flatMap_singleton]
    exact (ih finishedBefore).reconciled lawful finishedHere.accounts
  | acted _ allowed ih => exact (ih finished).acted allowed

end Repetition

/-- Lists of parts make up the whole just when each part is whole. -/
theorem flatMap_eq_iff_of_sublist {α β : Type} {items : List α} {part whole : α → List β}
    (within : ∀ item ∈ items, (part item).Sublist (whole item)) :
    items.flatMap part = items.flatMap whole ↔ ∀ item ∈ items, part item = whole item := by
  induction items with
  | nil => simp
  | cons item rest ih =>
    obtain ⟨here, later⟩ := List.forall_mem_cons.mp within
    rw [List.flatMap_cons, List.flatMap_cons, List.forall_mem_cons, ← ih later]
    constructor
    · intro same
      have lengths := congrArg List.length same
      rw [List.length_append, List.length_append] at lengths
      have shorter := here.length_le
      have shorterLater := (List.Sublist.flatMap_right rest later).length_le
      exact List.append_inj same (by omega)
    · rintro ⟨sameHere, sameLater⟩
      rw [sameHere, sameLater]

/-- What becomes of the slices that are retired in a run of reconciliations of one flow test. Each of
them has delivered by a listing that the reconciliation has read, and none is retired twice. They
are announced once each, in order, and nothing else is, but for the slices of reconciliations in
which a write of the pass was rejected: those are not announced at all. So everything that is due is
announced just when no such reconciliation has retired a slice. -/
theorem retired_slices_announced {initial final : Cluster} {reconciliations : List Reconciliation}
    {name : String} (run : Run initial reconciliations final) (coherent : initial.IsCoherent)
    (finished : ∀ reconciliation ∈ reconciliations,
      reconciliation.flowTest.name = name ∧ reconciliation.IsFinished) :
    let retired := reconciliations.flatMap (·.retired)
    let announced := reconciliations.flatMap (·.announced)
    let due := reconciliations.flatMap (·.due)
    (retired.map (fun slice => (Resource.flow slice).key)).Nodup ∧
    (∀ reconciliation ∈ reconciliations,
      (∀ slice ∈ reconciliation.retired, ∃ indexes,
        Answered reconciliation.occurrences .listIndexes indexes ∧ slice.IsDue indexes) ∧
      (BrokenOff reconciliation.occurrences → reconciliation.announced = []) ∧
      (¬ BrokenOff reconciliation.occurrences →
        reconciliation.announced = reconciliation.due)) ∧
    announced.Sublist due ∧
    (announced = due ↔ ∀ reconciliation ∈ reconciliations,
      BrokenOff reconciliation.occurrences → reconciliation.retired = []) := by
  have accounts := fun reconciliation member =>
    (finished reconciliation member).2.accounts
  have within : ∀ reconciliation ∈ reconciliations,
      reconciliation.announced.Sublist reconciliation.due := by
    intro reconciliation member
    by_cases broken : BrokenOff reconciliation.occurrences
    · rw [Reconciliation.announced, (accounts _ member).dropped broken]
      exact List.nil_sublist _
    · have all : reconciliation.announced = reconciliation.due :=
        (accounts _ member).announced broken
      rw [all]
  refine ⟨(run.spent coherent finished).distinct, fun reconciliation member => ?_,
    .flatMap_right _ within, ?_⟩
  · exact ⟨(accounts _ member).due, (accounts _ member).dropped, (accounts _ member).announced⟩
  · refine (flatMap_eq_iff_of_sublist within).trans (forall₂_congr (fun reconciliation member => ?_))
    by_cases broken : BrokenOff reconciliation.occurrences
    · have none : reconciliation.announced = [] := (accounts _ member).dropped broken
      rw [none]
      exact ⟨fun same _ => List.map_eq_nil_iff.mp same.symm,
        fun gone => (List.map_eq_nil_iff.mpr (gone broken)).symm⟩
    · exact iff_of_true ((accounts _ member).announced broken) (fun holds => absurd holds broken)

namespace Sample

/-- The running flow test after the deployment of two slices that have both delivered, when the
second deletion of a flow is refused. -/
def refusal : Trial where
  surroundings := deployed ["first", "second"] (counting 1 1)
  faults := [{ operation := .deleteFlow, failure := .refused Cluster.injected, skip := 1 }]

/-- What is stored of the flow test in a trial. -/
def stored (trial : Trial) : FlowTest :=
  (trial.surroundings.cluster.flowTests.get? "test").getD flowTest

def reconciling (trial : Trial) : Procedure Action :=
  Controller.reconcile {} ⟨100, 0⟩ (stored trial)

/-- The trial after that reconciliation. -/
def later (trial : Trial) : Trial := (trial.run (reconciling trial)).2

/-- The reconciliation of the flow test as it is stored in a trial. -/
def reconciliation (trial : Trial) : Reconciliation where
  configuration := {}
  now := ⟨100, 0⟩
  flowTest := stored trial
  start := trial.surroundings.cluster
  occurrences := Trial.trace (reconciling trial).run trial
  finish := (later trial).surroundings.cluster

theorem isFinished_reconciliation (trial : Trial) : (reconciliation trial).IsFinished :=
  ⟨_, (Execution.of_trace trial (reconciling trial)).1⟩

theorem lawful_reconciliation {trial : Trial}
    (found : (trial.surroundings.cluster.flowTests.get? "test").any (·.name == "test") = true) :
    (reconciliation trial).Lawful ∧ (reconciliation trial).flowTest.name = "test" := by
  obtain ⟨flowTest, found, named⟩ := (Option.any_eq_true _ _).mp found
  have same : stored trial = flowTest := by rw [stored, found, Option.getD_some]
  have name : (stored trial).name = "test" := by rw [same, beq_iff_eq.mp named]
  refine ⟨⟨?_, _, (Execution.of_trace trial (reconciling trial)).1⟩, name⟩
  change trial.surroundings.cluster.flowTests.get? (stored trial).name = some (stored trial)
  rw [name, found, same]

/-- The reconciliation that meets the refusal, and the one after it. -/
def reconciliations : List Reconciliation :=
  [reconciliation refusal, reconciliation (later refusal)]

theorem stored_refusal :
    (refusal.surroundings.cluster.flowTests.get? "test").any (·.name == "test") = true := by
  decide +kernel

theorem stored_later :
    ((later refusal).surroundings.cluster.flowTests.get? "test").any
      (·.name == "test") = true := by
  decide +kernel

theorem run_reconciliations :
    Run refusal.surroundings.cluster reconciliations (reconciliation (later refusal)).finish := by
  have first : Run refusal.surroundings.cluster [reconciliation refusal]
      (reconciliation refusal).finish :=
    @Run.reconciled _ [] (reconciliation refusal) .start (lawful_reconciliation stored_refusal).1
  exact @Run.reconciled _ [reconciliation refusal] (reconciliation (later refusal)) first
    (lawful_reconciliation stored_later).1

theorem finished_reconciliations : ∀ reconciliation ∈ reconciliations,
    reconciliation.flowTest.name = "test" ∧ reconciliation.IsFinished := by
  have first := (lawful_reconciliation stored_refusal).2
  have second := (lawful_reconciliation stored_later).2
  exact List.forall_mem_cons.mpr ⟨⟨first, isFinished_reconciliation refusal⟩,
    List.forall_mem_singleton.mpr ⟨second, isFinished_reconciliation (later refusal)⟩⟩

theorem isCoherent_refusal : refusal.surroundings.cluster.IsCoherent := by
  have deploying : (deploying ["first", "second"] (counting 1 1)).cluster.IsReachable :=
    .addFlowTest _ (.addFlow _ .empty)
  exact (deploying.run (Slice.deploy (slices ["first", "second"]))).isCoherent

/-- The pass breaks off at the second of two slices that have delivered, and retires this one when
it is done again. -/
theorem names_reconciliations :
    (reconciliations.flatMap (·.retired)).map (·.name) = ["uid-0-match", "uid-1-match"] ∧
      (reconciliations.flatMap (·.announced)).map (·.note) =
        ["slice uid-1-match delivered logs"] := by
  decide +kernel

theorem unannounced_reconciliations :
    reconciliations.flatMap (·.announced) ≠ reconciliations.flatMap (·.due) := by
  intro same
  have one : (reconciliations.flatMap (·.announced)).length = 1 := by
    rw [← List.length_map, names_reconciliations.2]
    rfl
  have two : (reconciliations.flatMap (·.retired)).length = 2 := by
    rw [← List.length_map, names_reconciliations.1]
    rfl
  have asMany : (reconciliations.flatMap (·.due)).length =
      (reconciliations.flatMap (·.retired)).length := by
    simp [Reconciliation.due, List.length_flatMap]
  rw [same] at one
  omega

end Sample

/-- There a slice is lost: the reconciliation that has retired it has broken off. -/
theorem retired_slices_announced_after_refusal :
    Run Sample.refusal.surroundings.cluster Sample.reconciliations
        (Sample.reconciliation (Sample.later Sample.refusal)).finish ∧
      Sample.refusal.surroundings.cluster.IsCoherent ∧
      (∀ reconciliation ∈ Sample.reconciliations,
        reconciliation.flowTest.name = "test" ∧ reconciliation.IsFinished) ∧
      ∃ reconciliation ∈ Sample.reconciliations,
        BrokenOff reconciliation.occurrences ∧ reconciliation.retired ≠ [] := by
  obtain ⟨-, -, -, announced_iff⟩ := retired_slices_announced Sample.run_reconciliations
    Sample.isCoherent_refusal Sample.finished_reconciliations
  refine ⟨Sample.run_reconciliations, Sample.isCoherent_refusal, Sample.finished_reconciliations, ?_⟩
  have lost := (not_congr announced_iff).mp Sample.unannounced_reconciliations
  simpa using lost

/-- Not every slice that is retired is announced: of two slices that are retired one after the
other, only the second is, for the pass that has retired the first breaks off there. -/
theorem retired_slice_unannounced :
    ¬ (∀ (initial final : Cluster) (reconciliations : List Reconciliation) (name : String),
      Run initial reconciliations final → initial.IsCoherent →
      (∀ reconciliation ∈ reconciliations,
        reconciliation.flowTest.name = name ∧ reconciliation.IsFinished) →
      reconciliations.flatMap (·.announced) = reconciliations.flatMap (·.due)) ∧
    (Sample.reconciliations.flatMap (·.retired)).map (·.name) = ["uid-0-match", "uid-1-match"] ∧
      (Sample.reconciliations.flatMap (·.announced)).map (·.note) =
        ["slice uid-1-match delivered logs"] := by
  refine ⟨fun claimed => ?_, Sample.names_reconciliations⟩
  exact Sample.unannounced_reconciliations (claimed _ _ _ _ Sample.run_reconciliations
    Sample.isCoherent_refusal Sample.finished_reconciliations)

end FlowTesting
