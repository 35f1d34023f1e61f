import FlowTesting.Proofs.Activity
import FlowTesting.Proofs.Routing
import FlowTesting.Proofs.Standing

set_option autoImplicit false

/-!
# Allocation of flags

The flags of a flow test are allocated once, from the reference flow as it is read when the flow
test is provisioned, and there are as many of them ever after. They are stored before the first
slice is made. Neither the reference nor any other object needs to stay as it is meanwhile.
-/

namespace FlowTesting

/-- Whether there are as many flags as the reference has match rules and filter stages. -/
structure FlowTestStatus.Fits (status : FlowTestStatus) (reference : PipelineFlow) : Prop where
  matchLength : status.matchStatus.length = reference.matchRules.length
  filterLength : status.filterStatus.length = reference.filters.length

/-- The status that is stored under a name; where nothing is stored, it is the empty one. -/
def Cluster.statusOf (cluster : Cluster) (name : String) : FlowTestStatus :=
  ((cluster.flowTests.get? name).map FlowTest.status).getD {}

theorem Cluster.statusOf_of_stored {cluster : Cluster} {name : String} {stored : FlowTest}
    (found : cluster.flowTests.get? name = some stored) :
    cluster.statusOf name = stored.status := by
  rw [statusOf, found]
  rfl

section Clusters

variable {before after : Cluster} {asked : ControllerRequest}
  {reply : controllerInterface.Reply asked} {flowTest : FlowTest} {status : FlowTestStatus}

theorem Cluster.Answers.statusOf_eq (answers : before.Answers asked reply after) {name : String}
    (other : ∀ (flowTest : FlowTest) (status : FlowTestStatus),
      asked = .call (.patchStatus flowTest status) → flowTest.name ≠ name) :
    after.statusOf name = before.statusOf name := by
  cases found : before.flowTests.get? name with
  | some stored =>
    obtain ⟨next, foundAfter, becomes⟩ := answers.becomes_of_stored found
    rw [Cluster.statusOf_of_stored found, Cluster.statusOf_of_stored foundAfter]
    refine becomes.status.resolve_right ?_
    rintro ⟨flowTest, status, asks, named, -⟩
    exact other flowTest status asks named
  | none =>
    cases foundAfter : after.flowTests.get? name with
    | some next =>
      obtain ⟨stored, impossible, -⟩ := answers.becomes_to_stored foundAfter
      rw [found] at impossible
      cases impossible
    | none => rw [Cluster.statusOf, Cluster.statusOf, found, foundAfter]

theorem Cluster.Answers.statusOf_patch
    (answers : before.Answers (.call (.patchStatus flowTest status)) (.ok ()) after) :
    after.statusOf flowTest.name = (before.statusOf flowTest.name).merge status := by
  obtain ⟨⟨_, impossible⟩, -⟩ | ⟨-, stored, found, rfl⟩ := answers.patchStatus
  · cases impossible
  · rw [Cluster.statusOf_of_stored found, Cluster.putFlowTest,
      Cluster.statusOf_of_stored (OrderedMap.get?_insert_self _ _ _)]
    rfl

end Clusters

section Standings

variable {before after : Cluster} {asked : ControllerRequest}
  {reply : controllerInterface.Reply asked} {flowTest : FlowTest} {status : FlowTestStatus}
  {standing next : Standing} {reference : PipelineFlow}

/-- What the standing of a flow test tells about its flags. -/
structure Standing.Counts (standing : Standing) (status : FlowTestStatus) : Prop where
  unallocated : standing.allocated = false → status.matchStatus = [] ∧ status.filterStatus = []
  allocated : standing.allocated = true →
    ∃ reference, standing.read? = some reference ∧ status.Fits reference

/-- What the standing of a flow test tells about its status. -/
structure Standing.Accounts (standing : Standing) (status : FlowTestStatus) : Prop
    extends standing.Counts status where
  early : standing.ended = false → status.phase? = none ∨ status.phase? = some .created
  late : standing.ended = true → status.phase? = some .error ∨
    (status.phase? = some .running ∨ status.phase? = some .completed) ∧ standing.allocated = true

/-- What the standing of a flow test is while that is reconciled. -/
structure Standing.Admits (standing : Standing) (flowTest : FlowTest) : Prop where
  new : flowTest.phase? = none → standing.ended = false
  running : flowTest.phase? = some .running → standing.ended = true ∧ standing.allocated = true ∧
    ∃ reference, standing.read? = some reference ∧ flowTest.status.Fits reference

theorem FlowTestStatus.Fits.merge {patch : FlowTestStatus} (fits : status.Fits reference)
    (suits : patch.Suits status) : (status.merge patch).Fits reference := by
  have length_eq : ∀ {flags stored : List Bool}, flags = [] ∨ flags.length = stored.length →
      (if flags.isEmpty then stored else flags).length = stored.length := by
    intro flags stored suits
    cases flags with
    | nil => rfl
    | cons flag flags => exact suits.resolve_left nofun
  exact ⟨(length_eq suits.matchLength).trans fits.matchLength,
    (length_eq suits.filterLength).trans fits.filterLength⟩

/-- It does not matter which of two statuses a patch suits that fit the same reference. -/
theorem FlowTestStatus.Suits.of_fits {patch other : FlowTestStatus} (suits : patch.Suits status)
    (fits : status.Fits reference) (otherFits : other.Fits reference) : patch.Suits other where
  matchLength := suits.matchLength.imp_right
    (fun same => same.trans (fits.matchLength.trans otherFits.matchLength.symm))
  filterLength := suits.filterLength.imp_right
    (fun same => same.trans (fits.filterLength.trans otherFits.filterLength.symm))

theorem FlowTestStatus.fits_merge_allocated (noMatch : status.matchStatus = [])
    (noFilter : status.filterStatus = []) (phase : FlowTestPhase) (reference : PipelineFlow) :
    (status.merge (.allocated phase reference.matchRules.length
      reference.filters.length)).Fits reference := by
  have length_eq : ∀ count, (if (List.replicate count false).isEmpty then []
      else List.replicate count false).length = count := by
    intro count
    cases count <;> simp
  constructor
  · rw [merge, noMatch]
    exact length_eq _
  · rw [merge, noFilter]
    exact length_eq _

theorem FlowTestStatus.suits_ofPhase (phase : FlowTestPhase) :
    (ofPhase phase).Suits status := ⟨.inl rfl, .inl rfl⟩

theorem Standing.Counts.merge_ofPhase (counts : standing.Counts status) (phase : FlowTestPhase) :
    standing.Counts (status.merge (.ofPhase phase)) where
  unallocated := counts.unallocated
  allocated allocated := by
    obtain ⟨reference, read, fits⟩ := counts.allocated allocated
    exact ⟨reference, read, fits.merge (FlowTestStatus.suits_ofPhase phase)⟩

theorem Standing.Moves.eq_of_not_provisions
    (moves : Standing.Moves flowTest standing asked reply next)
    (other : ¬ flowTest.Provisions) : next = standing := by
  cases moves with
  | stay | accept | store => rfl
  | read provisions => exact absurd provisions other
  | miss provisions => exact absurd provisions other
  | allocate provisions => exact absurd provisions other
  | deploy provisions => exact absurd provisions other
  | run provisions => exact absurd provisions other
  | fail provisions => exact absurd provisions other

theorem Standing.Moves.admits (moves : Standing.Moves flowTest standing asked reply next)
    (admits : standing.Admits flowTest) : next.Admits flowTest := by
  by_cases provisions : flowTest.Provisions
  · constructor <;> intro phase <;> rw [provisions.2] at phase <;> cases phase
  · rw [moves.eq_of_not_provisions provisions]
    exact admits

theorem Standing.Moves.accounts (moves : Standing.Moves flowTest standing asked reply next)
    (answers : before.Answers asked reply after) (admits : standing.Admits flowTest)
    (accounts : standing.Accounts (before.statusOf flowTest.name)) :
    next.Accounts (after.statusOf flowTest.name) := by
  have unchanged : (∀ (other : FlowTest) (status : FlowTestStatus),
      asked ≠ .call (.patchStatus other status)) →
      after.statusOf flowTest.name = before.statusOf flowTest.name :=
    fun notPatch => answers.statusOf_eq (fun other status same => absurd same (notPatch other status))
  cases moves with
  | stay ignored =>
    rw [unchanged (fun other status same => by subst same; exact ignored)]
    exact accounts
  | miss =>
    rw [unchanged (fun _ _ impossible => by cases impossible)]
    exact accounts
  | deploy =>
    rw [unchanged (fun _ _ impossible => by cases impossible)]
    exact accounts
  | read _ _ unread =>
    rw [unchanged (fun _ _ impossible => by cases impossible)]
    refine { accounts with allocated := fun allocated => ?_ }
    obtain ⟨reference, read, -⟩ := accounts.allocated allocated
    rw [unread] at read
    cases read
  | accept new =>
    rw [answers.statusOf_patch]
    refine ⟨accounts.toCounts.merge_ofPhase .created, fun _ => .inr rfl, fun ended => ?_⟩
    rw [admits.new new] at ended
    cases ended
  | allocate _ read unallocated working =>
    rw [answers.statusOf_patch]
    obtain ⟨noMatch, noFilter⟩ := accounts.unallocated unallocated
    have fits := FlowTestStatus.fits_merge_allocated noMatch noFilter
    refine ⟨⟨fun impossible => ?_, fun _ => ⟨_, read, fits _ _⟩⟩, fun _ => .inr rfl, fun ended => ?_⟩
    · cases impossible
    · rw [working] at ended
      cases ended
  | run _ allocated =>
    rw [answers.statusOf_patch]
    obtain ⟨unallocated, allocates⟩ := accounts.toCounts.merge_ofPhase .running
    refine ⟨⟨unallocated, allocates⟩, fun impossible => ?_, fun _ => .inr ⟨.inl rfl, allocated⟩⟩
    cases impossible
  | fail =>
    rw [answers.statusOf_patch]
    obtain ⟨unallocated, allocates⟩ := accounts.toCounts.merge_ofPhase .error
    refine ⟨⟨unallocated, allocates⟩, fun impossible => ?_, fun _ => .inl rfl⟩
    cases impossible
  | @store patch running phase suits =>
    -- The patch suits the status that was handed over, which fits the same reference as the
    -- stored one does by now.
    rw [answers.statusOf_patch]
    obtain ⟨ended, allocated, reference, read, fits⟩ := admits.running running
    obtain ⟨other, readOther, fitsStored⟩ := accounts.allocated allocated
    obtain rfl : reference = other := Option.some.inj (read.symm.trans readOther)
    have fitsAfter := fitsStored.merge (suits.of_fits fits fitsStored)
    refine ⟨⟨fun impossible => ?_, fun _ => ⟨reference, read, fitsAfter⟩⟩, fun impossible => ?_,
      fun _ => .inr ⟨?_, allocated⟩⟩
    · rw [allocated] at impossible
      cases impossible
    · rw [ended] at impossible
      cases impossible
    · rcases phase with phase | phase <;> simp [FlowTestStatus.merge, phase]

/-- A status is stored for no other flow test. -/
theorem Standing.Moves.patches_own {patched : FlowTest}
    {outcome : controllerInterface.Reply (.call (.patchStatus patched status))}
    (moves : Standing.Moves flowTest standing (.call (.patchStatus patched status)) outcome next) :
    patched = flowTest := by
  cases moves with
  | stay ignored => exact ignored.elim
  | accept | allocate | run | fail | store => rfl

end Standings

def Task.IsDone (task : Task) : Prop := ∃ outcome, task.rest = .done outcome

/-- Whether a task provisions its flow test and has read this as the reference. -/
def Task.Reads (task : Task) (reference : PipelineFlow) : Prop :=
  task.flowTest.Provisions ∧ ∃ kind, task.flowTest.pipelineKind = .ok kind ∧
    Answered task.past (.getFlow kind task.flowTest.spec.referenceFlow.namespaceName
      task.flowTest.spec.referenceFlow.name) (some reference)

def Task.MakesFlow (task : Task) : Prop :=
  ∃ flow, Performed task.past (.create (.flow flow))

/-- Whether this has been read as the reference when a flow test was provisioned. -/
def ReadFor (tasks : List Task) (name : String) (reference : PipelineFlow) : Prop :=
  ∃ task ∈ tasks, task.flowTest.name = name ∧ task.Reads reference

def FlowMadeFor (tasks : List Task) (name : String) : Prop :=
  ∃ task ∈ tasks, task.flowTest.name = name ∧ task.MakesFlow

/-- Whether this and nothing else has been read as the reference of a flow test. -/
def OnlyReadFor (tasks : List Task) (name : String) (reference : PipelineFlow) : Prop :=
  ∀ other, ReadFor tasks name other ↔ other = reference

/-- Whether an occurrence is the reading of a reference to provision a flow test. -/
def Occurrence.Reads (occurrence : Occurrence) (flowTest : FlowTest) (reference : PipelineFlow) :
    Prop :=
  flowTest.Provisions ∧ ∃ kind before after, flowTest.pipelineKind = .ok kind ∧
    occurrence = ⟨before, .call (.getFlow kind flowTest.spec.referenceFlow.namespaceName
      flowTest.spec.referenceFlow.name), Except.ok (some reference), after⟩

/-- Whether an occurrence is the making of a flow. -/
def Occurrence.MakesFlow (occurrence : Occurrence) : Prop :=
  ∃ flow before after, occurrence = ⟨before, .call (.create (.flow flow)), Except.ok (), after⟩

section Tasks

variable {task : Task} {occurrence : Occurrence}
  {rest : Program controllerInterface (Except Failure Action)} {reference : PipelineFlow}

theorem Task.reads_advance_iff : (task.advance occurrence rest).Reads reference ↔
    task.Reads reference ∨ occurrence.Reads task.flowTest reference := by
  constructor
  · rintro ⟨provisions, kind, known, answered⟩
    rcases Answered.of_append answered with earlier | ⟨before, after, here⟩
    · exact .inl ⟨provisions, kind, known, earlier⟩
    · exact .inr ⟨provisions, kind, before, after, known, here⟩
  · rintro (⟨provisions, kind, known, answered⟩ | ⟨provisions, kind, before, after, known, rfl⟩)
    · exact ⟨provisions, kind, known, answered.mono (List.subset_append_left _ _)⟩
    · exact ⟨provisions, kind, known, .last _ _ _ _⟩

theorem Task.makesFlow_advance_iff :
    (task.advance occurrence rest).MakesFlow ↔ task.MakesFlow ∨ occurrence.MakesFlow := by
  constructor
  · rintro ⟨flow, performed⟩
    rcases Performed.of_append performed with earlier | ⟨before, answer, after, here⟩
    · exact .inl ⟨flow, earlier⟩
    · exact .inr ⟨flow, before, after, here⟩
  · rintro (⟨flow, performed⟩ | ⟨flow, before, after, rfl⟩)
    · exact ⟨flow, performed.mono (List.subset_append_left _ _)⟩
    · exact ⟨flow, (), .last _ _ _ _⟩

theorem exists_mem_replace {earlier later : List Task} {old new : Task} {holds : Task → Prop}
    {more : Prop} (replaced : holds new ↔ holds old ∨ more) :
    (∃ task ∈ earlier ++ new :: later, holds task) ↔
      (∃ task ∈ earlier ++ old :: later, holds task) ∨ more := by
  simp only [List.mem_append, List.mem_cons, or_and_right, exists_or, exists_eq_left, replaced]
  grind

theorem readFor_advance_iff {earlier later : List Task} {name : String} :
    ReadFor (earlier ++ task.advance occurrence rest :: later) name reference ↔
      ReadFor (earlier ++ task :: later) name reference ∨
        task.flowTest.name = name ∧ occurrence.Reads task.flowTest reference := by
  refine exists_mem_replace ?_
  rw [Task.reads_advance_iff, and_or_left]
  rfl

theorem flowMadeFor_advance_iff {earlier later : List Task} {name : String} :
    FlowMadeFor (earlier ++ task.advance occurrence rest :: later) name ↔
      FlowMadeFor (earlier ++ task :: later) name ∨
        task.flowTest.name = name ∧ occurrence.MakesFlow := by
  refine exists_mem_replace ?_
  rw [Task.makesFlow_advance_iff, and_or_left]
  rfl

end Tasks

section Readings

variable {flowTest : FlowTest} {standing next : Standing} {before after : Cluster}
  {asked : ControllerRequest} {reply : controllerInterface.Reply asked}
  {reference : PipelineFlow}

theorem not_reads_of_ne (other : ∀ kind namespaceName name,
    asked ≠ .call (.getFlow kind namespaceName name)) :
    ¬ (⟨before, asked, reply, after⟩ : Occurrence).Reads flowTest reference := by
  rintro ⟨-, kind, _, _, -, same⟩
  exact other _ _ _ (congrArg Occurrence.request same)

/-- The standing tells what has been read. -/
theorem Standing.Moves.reads_iff (moves : Standing.Moves flowTest standing asked reply next) :
    standing.read? = some reference ∨
      (⟨before, asked, reply, after⟩ : Occurrence).Reads flowTest reference ↔
        next.read? = some reference := by
  cases moves with
  | stay ignored =>
    refine or_iff_left ?_
    rintro ⟨provisions, kind, _, _, -, same⟩
    cases same
    exact ignored provisions
  | read provisions known unread =>
    rw [unread]
    constructor
    · rintro (impossible | ⟨-, _, _, _, -, same⟩)
      · cases impossible
      · cases same
        rfl
    · rintro same
      rw [← Option.some.inj same]
      exact .inr ⟨provisions, _, _, _, known, rfl⟩
  | miss _ missed =>
    refine or_iff_left ?_
    rintro ⟨-, _, _, _, -, same⟩
    cases same
    exact missed reference rfl
  | accept | allocate | deploy | run | fail | store =>
    exact or_iff_left (not_reads_of_ne (fun _ _ _ impossible => by cases impossible))

/-- No flow is made before the flags are allocated. -/
theorem Standing.Moves.allocated_of_makesFlow
    (moves : Standing.Moves flowTest standing asked reply next)
    (made : standing.allocated = true ∨
      (⟨before, asked, reply, after⟩ : Occurrence).MakesFlow) : next.allocated = true := by
  rcases made with allocated | ⟨_, _, _, same⟩
  · cases moves with
    | allocate => rfl
    | stay | accept | read | miss | deploy | run | fail | store => exact allocated
  · cases same
    cases moves with
    | stay ignored => exact ignored.elim
    | deploy _ _ allocated => exact allocated

theorem PipelineFlow.Continues.labels_eq {flow old : PipelineFlow}
    (continues : flow.Continues old) : flow.labels = old.labels := by
  obtain rfl | ⟨status, rfl⟩ := continues
  · rfl
  · exact (Resource.continues_withStatus old status).sameLabels

/-- A flow that is there has been there, or is made for the flow test and labelled so. -/
theorem Standing.Moves.flow_origin (moves : Standing.Moves flowTest standing asked reply next)
    (answers : before.Answers asked reply after) {key : ResourceKey} {flow : PipelineFlow}
    (found : after.resources.get? key = some (.flow flow)) :
    (∃ old, before.resources.get? key = some (.flow old) ∧ flow.Continues old) ∨
      (Resource.flow flow).IsLabeledFor flowTest.name ∧
        (⟨before, asked, reply, after⟩ : Occurrence).MakesFlow := by
  rcases answers.flow_provenance found with foundBefore | rfl
  · exact .inl foundBefore
  · obtain ⟨-, rfl⟩ | ⟨rfl, -, -⟩ := answers.create
    · exact .inl ⟨flow, found, .inl rfl⟩
    · cases moves with
      | stay ignored => exact ignored.elim
      | deploy _ labeled => exact .inr ⟨labeled, flow, before, after, rfl⟩

end Readings

/-- Flow tests are reconciled as they are stored, each by one task at a time. Calls may fail, but
statuses get stored. Users may do anything to objects at any time, save that flows that they put
have labels of theirs; and flow tests they neither drop nor give another status. -/
def Regime.allocating (owns : Labels → Prop) : Regime where
  begins tasks cluster flowTest := cluster.flowTests.get? flowTest.name = some flowTest ∧
    ∀ task ∈ tasks, task.flowTest.name = flowTest.name → task.IsDone
  answers before asked reply after := before.Answers asked reply after ∧
    ((∃ flowTest status, asked = .call (.patchStatus flowTest status)) →
      (⟨before, asked, reply, after⟩ : Occurrence).IsAnswered)
  acts before after :=
    (∀ name, after.statusOf name = before.statusOf name ∧
      (before.flowTests.contains name = true → after.flowTests.contains name = true)) ∧
    ∀ key flow, after.resources.get? key = some (.flow flow) →
      before.resources.get? key = some (.flow flow) ∨ owns flow.labels

/-- What is left of a task, as far as the standing of its flow test goes. -/
structure Task.Abides (task : Task) (standing : Standing) : Prop
    extends standing.Admits task.flowTest where
  follows : task.rest.Follows (Standing.monitor task.flowTest)
    (fun _ later => later.ended = false → later.read? = none) standing

/-- What the standing of a flow test tells about the tasks that there have been for it. -/
structure Standing.Describes (standing : Standing) (tasks : List Task) (name : String) : Prop where
  reads : ∀ reference, ReadFor tasks name reference ↔ standing.read? = some reference
  made : FlowMadeFor tasks name → standing.allocated = true
  idle : (∀ task ∈ tasks, task.flowTest.name = name → task.IsDone) → standing.ended = false →
    standing.read? = none
  active : ∀ task ∈ tasks, task.flowTest.name = name → ¬ task.IsDone → task.Abides standing

/-- What holds of all tasks and of the cluster that they share. -/
structure Allocating (owns : Labels → Prop) (tasks : List Task) (cluster : Cluster) : Prop where
  single : tasks.Pairwise (fun newer older =>
    newer.flowTest.name = older.flowTest.name → older.IsDone)
  stored : ∀ task ∈ tasks, cluster.flowTests.contains task.flowTest.name = true
  origin : ∀ key flow, cluster.resources.get? key = some (.flow flow) → owns flow.labels ∨
    ∃ name, (Resource.flow flow).IsLabeledFor name ∧ FlowMadeFor tasks name
  described : ∀ name, ∃ standing : Standing,
    standing.Accounts (cluster.statusOf name) ∧ standing.Describes tasks name

section Beginning

variable {standing : Standing} {flowTest : FlowTest} {tasks : List Task} {name : String}

theorem Standing.Accounts.admits (accounts : standing.Accounts flowTest.status) :
    standing.Admits flowTest where
  new new := by
    cases ended : standing.ended with
    | false => rfl
    | true =>
      have late := accounts.late ended
      simp [flowTest.phase?_status, new] at late
  running running := by
    cases ended : standing.ended with
    | false =>
      have early := accounts.early ended
      simp [flowTest.phase?_status, running] at early
    | true =>
      have late := accounts.late ended
      simp only [flowTest.phase?_status, running, Option.some.injEq, reduceCtorEq, false_or,
        or_false, true_and] at late
      exact ⟨rfl, late, accounts.allocated late⟩

/-- Nothing has been read for a flow test that is yet to be provisioned. -/
theorem Standing.Accounts.eq_empty (accounts : standing.Accounts flowTest.status)
    (idle : standing.ended = false → standing.read? = none) (provisions : flowTest.Provisions) :
    standing = {} := by
  obtain ⟨read?, allocated, ended⟩ := standing
  have notEnded : ended = false := by
    cases ended with
    | false => rfl
    | true =>
      have late := accounts.late rfl
      simp [flowTest.phase?_status, provisions.2] at late
  obtain rfl : read? = none := idle notEnded
  obtain rfl : allocated = false := by
    cases allocated with
    | false => rfl
    | true =>
      obtain ⟨_, impossible, -⟩ := accounts.allocated rfl
      cases impossible
  rw [notEnded]

theorem Task.abides_ofReconciliation (accounts : standing.Accounts flowTest.status)
    (idle : standing.ended = false → standing.read? = none) (configuration : Configuration)
    (now : Timestamp) : (ofReconciliation configuration now flowTest).Abides standing where
  toAdmits := accounts.admits
  follows := by
    refine (Controller.reconcile_follows (accounts.eq_empty idle)).mono ?_
    rintro outcome later ⟨ends, stays⟩ ended
    by_cases provisions : flowTest.Provisions
    · rw [ends provisions] at ended
      cases ended
    · rw [stays provisions] at ended ⊢
      exact idle ended

theorem Task.reads_ofReconciliation (configuration : Configuration) (now : Timestamp)
    (reference : PipelineFlow) : ¬ (ofReconciliation configuration now flowTest).Reads reference := by
  rintro ⟨-, _, -, _, _, member⟩
  cases member

theorem Task.makesFlow_ofReconciliation (configuration : Configuration) (now : Timestamp) :
    ¬ (ofReconciliation configuration now flowTest).MakesFlow := by
  rintro ⟨_, _, _, _, member⟩
  cases member

theorem readFor_began (configuration : Configuration) (now : Timestamp)
    (reference : PipelineFlow) :
    ReadFor (.ofReconciliation configuration now flowTest :: tasks) name reference ↔
      ReadFor tasks name reference := by
  simp [ReadFor, Task.reads_ofReconciliation]

theorem flowMadeFor_began (configuration : Configuration) (now : Timestamp) :
    FlowMadeFor (.ofReconciliation configuration now flowTest :: tasks) name ↔
      FlowMadeFor tasks name := by
  simp [FlowMadeFor, Task.makesFlow_ofReconciliation]

end Beginning

section Advancing

variable {earlier later : List Task} {task : Task} {name : String} {standing moved : Standing}

theorem mem_of_mem_replace {old new other : Task} (member : other ∈ earlier ++ new :: later)
    (differs : other ≠ new) : other ∈ earlier ++ old :: later := by
  simp only [List.mem_append, List.mem_cons, differs, false_or] at member ⊢
  exact member.imp_right .inr

theorem Standing.Describes.advance {before after : Cluster} {asked : ControllerRequest}
    {reply : controllerInterface.Reply asked}
    {rest : Program controllerInterface (Except Failure Action)}
    (describes : standing.Describes (earlier ++ task :: later) task.flowTest.name)
    (moves : Moves task.flowTest standing asked reply moved) (admits : standing.Admits task.flowTest)
    (follows : rest.Follows (monitor task.flowTest)
      (fun _ last => last.ended = false → last.read? = none) moved)
    (others : ∀ other ∈ earlier ++ later, other.flowTest.name = task.flowTest.name →
      other.IsDone) :
    moved.Describes (earlier ++ task.advance ⟨before, asked, reply, after⟩ rest :: later)
      task.flowTest.name where
  reads reference := by
    rw [readFor_advance_iff, describes.reads, and_iff_right rfl]
    exact moves.reads_iff
  made made := by
    rw [flowMadeFor_advance_iff] at made
    exact moves.allocated_of_makesFlow (made.imp describes.made And.right)
  idle done := by
    obtain ⟨outcome, finished⟩ := done _ (List.mem_append_right _ List.mem_cons_self) rfl
    obtain rfl : rest = .done outcome := finished
    exact follows
  active other member same working := by
    by_cases here : other = task.advance ⟨before, asked, reply, after⟩ rest
    · subst here
      exact ⟨moves.admits admits, follows⟩
    · refine absurd (others other ?_ same) working
      simpa [here] using member

theorem Standing.Describes.aside {occurrence : Occurrence}
    {rest : Program controllerInterface (Except Failure Action)}
    (describes : standing.Describes (earlier ++ task :: later) name)
    (differs : task.flowTest.name ≠ name) :
    standing.Describes (earlier ++ task.advance occurrence rest :: later) name where
  reads reference := by
    rw [readFor_advance_iff, or_iff_left (fun here => differs here.1)]
    exact describes.reads reference
  made made := by
    rw [flowMadeFor_advance_iff, or_iff_left (fun here => differs here.1)] at made
    exact describes.made made
  idle done := by
    refine describes.idle (fun other member same => done other (mem_of_mem_replace member ?_) same)
    rintro rfl
    exact differs same
  active other member same := by
    refine describes.active other (mem_of_mem_replace member ?_) same
    rintro rfl
    exact differs same

end Advancing

namespace Allocating

variable {owns : Labels → Prop} {tasks earlier later : List Task} {cluster before after : Cluster}
  {task : Task} {flowTest : FlowTest} {asked : ControllerRequest}
  {next : controllerInterface.Reply asked → Program controllerInterface (Except Failure Action)}
  {reply : controllerInterface.Reply asked} {name : String}

theorem start {initial : Cluster}
    (new : ∀ name stored, initial.flowTests.get? name = some stored → stored.status? = none)
    (owned : ∀ key flow, initial.resources.get? key = some (.flow flow) → owns flow.labels) :
    Allocating owns [] initial where
  single := .nil
  stored := by simp
  origin key flow found := .inl (owned key flow found)
  described name := by
    have empty : initial.statusOf name = {} := by
      cases found : initial.flowTests.get? name with
      | none => rw [Cluster.statusOf, found]; rfl
      | some stored =>
        rw [Cluster.statusOf_of_stored found, FlowTest.status, new name stored found]
        rfl
    rw [empty]
    refine ⟨{}, ⟨⟨fun _ => ⟨rfl, rfl⟩, nofun⟩, fun _ => .inl rfl, nofun⟩, ?_⟩
    exact
      { reads := by simp [ReadFor]
        made := by simp [FlowMadeFor]
        idle := fun _ _ => rfl
        active := by simp }

theorem acted (allocating : Allocating owns tasks before)
    (acts : (Regime.allocating owns).acts before after) : Allocating owns tasks after where
  single := allocating.single
  stored task member := (acts.1 _).2 (allocating.stored task member)
  origin key flow found := (acts.2 key flow found).elim (allocating.origin key flow) .inl
  described name := (acts.1 name).1 ▸ allocating.described name

theorem began (allocating : Allocating owns tasks cluster) (configuration : Configuration)
    (now : Timestamp) (begins : (Regime.allocating owns).begins tasks cluster flowTest) :
    Allocating owns (.ofReconciliation configuration now flowTest :: tasks) cluster where
  single := by
    refine List.pairwise_cons.mpr ⟨fun task member same => ?_, allocating.single⟩
    exact begins.2 task member same.symm
  stored := by
    refine List.forall_mem_cons.mpr ⟨?_, allocating.stored⟩
    simp [OrderedMap.contains, Task.ofReconciliation, begins.1]
  origin := by
    simp only [flowMadeFor_began]
    exact allocating.origin
  described name := by
    obtain ⟨standing, accounts, describes⟩ := allocating.described name
    refine ⟨standing, accounts, ?_, ?_, ?_, List.forall_mem_cons.mpr ⟨?_, describes.active⟩⟩
    · exact fun reference => (readFor_began _ _ _).trans (describes.reads reference)
    · exact fun made => describes.made ((flowMadeFor_began _ _).mp made)
    · exact fun done => describes.idle (fun task member => done task (List.mem_cons_of_mem _ member))
    · rintro rfl -
      rw [Task.ofReconciliation, Cluster.statusOf_of_stored begins.1] at accounts
      exact Task.abides_ofReconciliation accounts (describes.idle begins.2) configuration now

section Requests

theorem done_of_same_name (allocating : Allocating owns (earlier ++ task :: later) before)
    (working : ¬ task.IsDone) {other : Task} (member : other ∈ earlier ++ later)
    (same : other.flowTest.name = task.flowTest.name) : other.IsDone := by
  obtain ⟨-, ofLater, ofEarlier⟩ := List.pairwise_append.mp allocating.single
  rcases List.mem_append.mp member with inEarlier | inLater
  · exact absurd (ofEarlier other inEarlier task List.mem_cons_self same) working
  · exact (List.pairwise_cons.mp ofLater).1 other inLater same.symm

theorem single_advance (allocating : Allocating owns (earlier ++ task :: later) before)
    (working : ¬ task.IsDone) (occurrence : Occurrence)
    (rest : Program controllerInterface (Except Failure Action)) :
    (earlier ++ task.advance occurrence rest :: later).Pairwise (fun newer older =>
      newer.flowTest.name = older.flowTest.name → older.IsDone) := by
  obtain ⟨amongEarlier, fromTask, between⟩ := List.pairwise_append.mp allocating.single
  obtain ⟨toLater, amongLater⟩ := List.pairwise_cons.mp fromTask
  refine List.pairwise_append.mpr ⟨amongEarlier, List.pairwise_cons.mpr ⟨toLater, amongLater⟩, ?_⟩
  intro newer inEarlier
  refine List.forall_mem_cons.mpr ⟨fun same => ?_, fun older inLater => ?_⟩
  · exact absurd (between newer inEarlier task List.mem_cons_self same) working
  · exact between newer inEarlier older (List.mem_cons_of_mem _ inLater)

theorem possible (allocating : Allocating owns (earlier ++ task :: later) before)
    (abides : ∃ standing, task.Abides standing) (under : task.rest = .request asked next)
    (answers : (Regime.allocating owns).answers before asked reply after) :
    Standing.Possible asked reply := by
  obtain ⟨standing, -, follows⟩ := abides
  rw [under] at follows
  cases asked with
  | publish event => trivial
  | call call =>
    cases call with
    | patchStatus patched status =>
      obtain ⟨_, moves, -⟩ := follows (.ok ()) rfl
      obtain rfl := moves.patches_own
      have member : task ∈ earlier ++ task :: later := List.mem_append_right _ List.mem_cons_self
      obtain ⟨stored, found⟩ := Option.isSome_iff_exists.mp (allocating.stored task member)
      obtain ⟨listing, answered⟩ := answers.2 ⟨_, _, rfl⟩ _ _ _ _ rfl
      have outcome : (before.patchStatus task.flowTest status).1 = reply :=
        congrArg Prod.fst answered
      rw [Cluster.patchStatus, found] at outcome
      exact outcome.symm
    | _ => trivial

theorem requested (allocating : Allocating owns (earlier ++ task :: later) before)
    (under : task.rest = .request asked next)
    (answers : (Regime.allocating owns).answers before asked reply after) :
    Allocating owns (earlier ++ task.advance ⟨before, asked, reply, after⟩ (next reply) :: later)
      after := by
  have working : ¬ task.IsDone := by
    rintro ⟨_, done⟩
    rw [under] at done
    cases done
  have member : task ∈ earlier ++ task :: later := List.mem_append_right _ List.mem_cons_self
  obtain ⟨standing, accounts, describes⟩ := allocating.described task.flowTest.name
  have abides := describes.active task member rfl working
  have follows := abides.follows
  rw [under] at follows
  obtain ⟨moved, moves, rest⟩ :=
    follows reply (allocating.possible ⟨standing, abides⟩ under answers)
  refine ⟨allocating.single_advance working _ _, fun other inAll => ?_, ?_, fun name => ?_⟩
  -- No flow test is dropped.
  · obtain ⟨old, inOld, same⟩ : ∃ old ∈ earlier ++ task :: later,
        old.flowTest.name = other.flowTest.name := by
      by_cases here : other = task.advance ⟨before, asked, reply, after⟩ (next reply)
      · exact ⟨task, member, here ▸ rfl⟩
      · exact ⟨other, mem_of_mem_replace inAll here, rfl⟩
    obtain ⟨stored, found⟩ := Option.isSome_iff_exists.mp (allocating.stored old inOld)
    obtain ⟨_, foundAfter, -⟩ := answers.1.becomes_of_stored found
    rw [← same, OrderedMap.contains, foundAfter]
    rfl
  -- A flow was there before, or the task has just made it.
  · intro key flow found
    rcases moves.flow_origin answers.1 found with ⟨old, foundBefore, continues⟩ | ⟨labeled, makes⟩
    · refine (allocating.origin key old foundBefore).imp (continues.labels_eq ▸ ·) ?_
      rintro ⟨name, labeled, made⟩
      exact ⟨name, continues.isLabeledFor_iff.mpr labeled, flowMadeFor_advance_iff.mpr (.inl made)⟩
    · exact .inr ⟨_, labeled, flowMadeFor_advance_iff.mpr (.inr ⟨rfl, makes⟩)⟩
  -- Only the standing of the task's own flow test moves.
  · by_cases same : task.flowTest.name = name
    · subst same
      refine ⟨moved, moves.accounts answers.1 abides.toAdmits accounts, ?_⟩
      exact describes.advance moves abides.toAdmits rest
        (fun other => allocating.done_of_same_name working)
    · obtain ⟨kept, accountsKept, describesKept⟩ := allocating.described name
      refine ⟨kept, ?_, describesKept.aside same⟩
      rw [answers.1.statusOf_eq]
      · exact accountsKept
      · rintro patched status rfl
        exact moves.patches_own ▸ same

end Requests

end Allocating

theorem Activity.allocating {owns : Labels → Prop} {initial cluster : Cluster} {tasks : List Task}
    (activity : Activity (.allocating owns) initial tasks cluster)
    (new : ∀ name stored, initial.flowTests.get? name = some stored → stored.status? = none)
    (owned : ∀ key flow, initial.resources.get? key = some (.flow flow) → owns flow.labels) :
    Allocating owns tasks cluster := by
  induction activity with
  | start => exact .start new owned
  | began configuration now _ begins ih => exact ih.began configuration now begins
  | requested _ under answers ih => exact ih.requested under answers
  | acted _ acts ih => exact ih.acted acts

/-- Once the flags are allocated there are as many of them as the only reference that has ever
been read to provision the flow test has match rules and filter stages. -/
theorem Standing.Describes.fits {standing : Standing} {tasks : List Task} {name : String}
    {status : FlowTestStatus} (describes : standing.Describes tasks name)
    (accounts : standing.Accounts status) (allocated : standing.allocated = true) :
    ∃ reference, OnlyReadFor tasks name reference ∧ status.Fits reference := by
  obtain ⟨reference, read, fits⟩ := accounts.allocated allocated
  refine ⟨reference, fun other => (describes.reads other).trans ?_, fits⟩
  rw [read, Option.some.injEq, eq_comm]

/-- From flow tests without a status on, whatever becomes of references meanwhile: a flow test
that runs or is completed has as many flags as the reference had match rules and filter stages
when it was read, once, to provision the flow test; and wherever there is a flow that is not of
users, it is labelled for a flow test whose flags are already stored. -/
theorem flags_allocated_once {owns : Labels → Prop} {initial cluster : Cluster}
    {tasks : List Task}
    (new : ∀ name stored, initial.flowTests.get? name = some stored → stored.status? = none)
    (owned : ∀ key flow, initial.resources.get? key = some (.flow flow) → owns flow.labels)
    (activity : Activity (.allocating owns) initial tasks cluster) :
    (∀ name stored, cluster.flowTests.get? name = some stored →
      stored.phase? = some .running ∨ stored.phase? = some .completed →
        ∃ reference, OnlyReadFor tasks name reference ∧ stored.status.Fits reference) ∧
    ∀ key flow, cluster.resources.get? key = some (.flow flow) → owns flow.labels ∨
      ∃ name stored reference, (Resource.flow flow).IsLabeledFor name ∧
        cluster.flowTests.get? name = some stored ∧ OnlyReadFor tasks name reference ∧
          stored.status.Fits reference := by
  have allocating := activity.allocating new owned
  constructor
  · intro name stored found phase
    obtain ⟨standing, accounts, describes⟩ := allocating.described name
    rw [Cluster.statusOf_of_stored found] at accounts
    refine describes.fits accounts ?_
    cases ended : standing.ended with
    | false =>
      have early := accounts.early ended
      rw [stored.phase?_status] at early
      rcases phase with phase | phase <;> simp [phase] at early
    | true =>
      have late := accounts.late ended
      rw [stored.phase?_status] at late
      rcases phase with phase | phase <;> simpa [phase] using late
  · intro key flow found
    refine (allocating.origin key flow found).imp_right ?_
    rintro ⟨name, labeled, made⟩
    obtain ⟨standing, accounts, describes⟩ := allocating.described name
    have allocated := describes.made made
    obtain ⟨task, member, rfl, -⟩ := made
    obtain ⟨stored, foundStored⟩ := Option.isSome_iff_exists.mp (allocating.stored task member)
    rw [Cluster.statusOf_of_stored foundStored] at accounts
    obtain ⟨reference, only, fits⟩ := describes.fits accounts allocated
    exact ⟨_, stored, reference, labeled, foundStored, only, fits⟩

/-- The replies of the cluster itself are among those that calls may come to. -/
theorem Surroundings.allocating_respond (owns : Labels → Prop) (surroundings : Surroundings)
    (asked : ControllerRequest) :
    (Regime.allocating owns).answers surroundings.cluster asked (surroundings.respond asked).1
      (surroundings.respond asked).2.cluster := by
  refine ⟨surroundings.answers_respond asked, fun _ before call outcome after same => ?_⟩
  cases same
  exact ⟨surroundings.listing, surroundings.answer_eq call⟩

/-- A stored flow test may be reconciled, undisturbed, when no task is left to end. -/
theorem Activity.reconciled {owns : Labels → Prop} {initial : Cluster} {tasks : List Task}
    {surroundings : Surroundings} {flowTest : FlowTest}
    (activity : Activity (.allocating owns) initial tasks surroundings.cluster)
    (idle : ∀ task ∈ tasks, task.IsDone)
    (stored : surroundings.cluster.flowTests.get? flowTest.name = some flowTest)
    (configuration : Configuration) (now : Timestamp) :
    ∃ later, Activity (.allocating owns) initial later
        (surroundings.run (Controller.reconcile configuration now flowTest)).2.cluster ∧
      ∀ task ∈ later, task.IsDone := by
  have begins := activity.began configuration now ⟨stored, fun task member _ => idle task member⟩
  obtain ⟨outcome, past, finished⟩ := begins.finished (Surroundings.allocating_respond owns)
  exact ⟨_, finished, List.forall_mem_cons.mpr ⟨⟨outcome, rfl⟩, idle⟩⟩

namespace Sample

/-- What becomes of a new flow test by its first two reconciliations. -/
def provisioned : Surroundings :=
  ((Surroundings.run ⟨cluster, .ok []⟩ (reconcile flowTest)).2.run (reconcile (inPhase .created))).2

/-- The same when users have replaced the reference. -/
def edited : Cluster := provisioned.cluster.addResource (.flow (flow ["third"]))

def IsUnlabeled (labels : Labels) : Prop := labels.get? Labels.flowTestKey = none

theorem allocating_edited :
    ∃ tasks, Activity (.allocating IsUnlabeled) cluster tasks edited := by
  have starts : Activity (.allocating IsUnlabeled) cluster []
      (⟨cluster, .ok []⟩ : Surroundings).cluster := .start
  obtain ⟨first, accepted, idle⟩ := starts.reconciled (by simp)
    (show cluster.flowTests.get? flowTest.name = some flowTest from rfl) {} ⟨0, 0⟩
  have stored : (Surroundings.run ⟨cluster, .ok []⟩ (reconcile flowTest)).2.cluster.flowTests.get?
      (inPhase .created).name = some (inPhase .created) := rfl
  obtain ⟨second, provisions, -⟩ := accepted.reconciled idle stored {} ⟨0, 0⟩
  refine ⟨second, provisions.acted ⟨fun name => ⟨rfl, id⟩, fun key flow found => ?_⟩⟩
  by_cases labeled : IsUnlabeled flow.labels
  · exact .inr labeled
  · obtain ⟨name, labeledFor⟩ := Option.ne_none_iff_exists'.mp labeled
    exact .inl (Cluster.get?_addResource_flow (by rfl) found labeledFor)

end Sample

/-- The slices are there, and there are flags for the two match rules that the reference had,
though it has but one now. -/
theorem flags_allocated_once_when_edited :
    (∃ flow, Sample.edited.resources.get? ⟨.flow, "default", "uid-1-match"⟩ = some (.flow flow) ∧
      ¬ (Resource.flow flow).IsForeign) ∧
    ∃ (tasks : List Task) (stored : FlowTest) (reference : PipelineFlow),
      Sample.edited.flowTests.get? "test" = some stored ∧ stored.phase? = some .running ∧
      OnlyReadFor tasks "test" reference ∧ stored.status.Fits reference ∧
      reference.matchRules.length = 2 := by
  have slice : (Sample.edited.resources.get? ⟨.flow, "default", "uid-1-match"⟩).any
      Sample.isSliceFlow = true := by
    decide +kernel
  have summary : (Sample.edited.flowTests.get? "test").map
      (fun stored => (stored.phase?, stored.status.matchStatus.length)) = some (some .running, 2) := by
    decide +kernel
  obtain ⟨resource, found, isSlice⟩ := (Option.any_eq_true _ _).mp slice
  obtain ⟨flow, rfl, -, labeled⟩ := Sample.eq_flow_of_isSliceFlow isSlice
  obtain ⟨stored, foundStored, same⟩ := Option.map_eq_some_iff.mp summary
  obtain ⟨running, two⟩ := Prod.mk.inj same
  obtain ⟨tasks, activity⟩ := Sample.allocating_edited
  obtain ⟨fits, -⟩ := flags_allocated_once
    (fun name stored found => (Sample.isUntouched_cluster.flowTests name stored found).2.1)
    (fun key flow found => Sample.isUntouched_cluster.resources key _ found) activity
  obtain ⟨reference, only, fit⟩ := fits "test" stored foundStored (.inl running)
  exact ⟨⟨flow, found, labeled⟩, tasks, stored, reference, foundStored, running, only, fit,
    fit.matchLength.symm.trans two⟩

end FlowTesting
