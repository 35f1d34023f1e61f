import FlowTesting.Cluster.Basic

set_option autoImplicit false

/-!
# Executions

What happens when programs of the controller run against a cluster in which any call may
fail before it reaches anything. An execution may stand still anywhere, so what holds of
every execution holds between any two requests.
-/

namespace FlowTesting

/-- Whether a call has failed and changed nothing. -/
def Rejected {α : Type} (before : Cluster) (outcome : Except Failure α) (after : Cluster) : Prop :=
  (∃ failure, outcome = .error failure) ∧ after = before

/-- What a request can come to. A call is answered by the cluster, with the log aggregator
listing whatever it likes, or fails without effect; an event changes nothing. -/
def Cluster.Answers (before : Cluster) :
    (request : ControllerRequest) → controllerInterface.Reply request → Cluster → Prop
  | .call call, outcome, after =>
    Rejected before outcome after ∨
      ∃ listing, (⟨before, listing⟩ : Surroundings).answer call = (outcome, ⟨after, listing⟩)
  | .publish _, _, after => after = before

/-- One request, the reply to it, and the clusters around it. -/
structure Occurrence where
  before : Cluster
  request : ControllerRequest
  reply : controllerInterface.Reply request
  after : Cluster

namespace Occurrence

/-- Whether the request can have come to this. -/
def Lawful (occurrence : Occurrence) : Prop :=
  occurrence.before.Answers occurrence.request occurrence.reply occurrence.after

/-- Whether no call has failed here. -/
def Succeeded : Occurrence → Prop
  | ⟨_, .call _, outcome, _⟩ => ∃ answer, outcome = .ok answer
  | ⟨_, .publish _, _, _⟩ => True

/-- The event that has been published here, if this is not a call. -/
def event? : Occurrence → Option Event
  | ⟨_, .publish event, _, _⟩ => some event
  | ⟨_, .call _, _, _⟩ => none

end Occurrence

/-- The events that have been published, in order. -/
def published (past : List Occurrence) : List Event := past.filterMap Occurrence.event?

@[simp]
theorem published_append (past later : List Occurrence) :
    published (past ++ later) = published past ++ published later :=
  List.filterMap_append

@[simp]
theorem published_publish (before after : Cluster) (event : Event) :
    published [⟨before, .publish event, (), after⟩] = [event] := rfl

@[simp]
theorem published_call (before after : Cluster) (call : Call)
    (outcome : Except Failure call.Answer) :
    published [⟨before, .call call, outcome, after⟩] = [] := rfl

/-- Whether a call has been made and answered. -/
def Answered (past : List Occurrence) (call : Call) (answer : call.Answer) : Prop :=
  ∃ before after, ⟨before, .call call, Except.ok answer, after⟩ ∈ past

theorem Answered.mono {past later : List Occurrence} {call : Call} {answer : call.Answer}
    (answered : Answered past call answer) (kept : past ⊆ later) :
    Answered later call answer := by
  obtain ⟨before, after, member⟩ := answered
  exact ⟨before, after, kept member⟩

theorem Answered.last (past : List Occurrence) (before after : Cluster) {call : Call}
    (answer : call.Answer) :
    Answered (past ++ [⟨before, .call call, Except.ok answer, after⟩]) call answer :=
  ⟨before, after, List.mem_append_right past List.mem_cons_self⟩

def Performed (past : List Occurrence) (call : Call) : Prop := ∃ answer, Answered past call answer

theorem Performed.mono {past later : List Occurrence} {call : Call} (performed : Performed past call)
    (kept : past ⊆ later) : Performed later call := by
  obtain ⟨answer, answered⟩ := performed
  exact ⟨answer, answered.mono kept⟩

theorem Answered.of_append {past : List Occurrence} {occurrence : Occurrence} {call : Call}
    {answer : call.Answer} (answered : Answered (past ++ [occurrence]) call answer) :
    Answered past call answer ∨ ∃ before after,
      occurrence = ⟨before, .call call, Except.ok answer, after⟩ := by
  obtain ⟨before, after, member⟩ := answered
  rcases List.mem_append.mp member with earlier | last
  · exact .inl ⟨before, after, earlier⟩
  · exact .inr ⟨before, after, (List.mem_singleton.mp last).symm⟩

theorem Answered.of_cons {occurrence : Occurrence} {later : List Occurrence} {call : Call}
    {answer : call.Answer} (answered : Answered (occurrence :: later) call answer) :
    Answered later call answer ∨ ∃ before after,
      occurrence = ⟨before, .call call, Except.ok answer, after⟩ := by
  obtain ⟨before, after, member⟩ := answered
  rcases List.mem_cons.mp member with here | earlier
  · exact .inr ⟨before, after, here.symm⟩
  · exact .inl ⟨before, after, earlier⟩

theorem Performed.of_append {past : List Occurrence} {occurrence : Occurrence} {call : Call}
    (performed : Performed (past ++ [occurrence]) call) :
    Performed past call ∨ ∃ before answer after,
      occurrence = ⟨before, .call call, Except.ok answer, after⟩ := by
  obtain ⟨answer, answered⟩ := performed
  rcases answered.of_append with earlier | ⟨before, after, here⟩
  · exact .inl ⟨answer, earlier⟩
  · exact .inr ⟨before, answer, after, here⟩

/-- The first requests of a program, and what is left of it after them. -/
inductive Execution {α : Type} : Program controllerInterface α → Cluster → List Occurrence →
    Program controllerInterface α → Cluster → Prop where
  | idle (program : Program controllerInterface α) (cluster : Cluster) :
      Execution program cluster [] program cluster
  | request {before middle after : Cluster} {asked : ControllerRequest}
      {next : controllerInterface.Reply asked → Program controllerInterface α}
      {reply : controllerInterface.Reply asked} {occurrences : List Occurrence}
      {rest : Program controllerInterface α} :
      before.Answers asked reply middle → Execution (next reply) middle occurrences rest after →
      Execution (.request asked next) before (⟨before, asked, reply, middle⟩ :: occurrences)
        rest after

namespace Program

variable {α β : Type} {permitted allowed : List Occurrence → Occurrence → Prop}
  {made : ControllerRequest → Prop}

/-- Whatever its requests come to, each occurrence is permitted after those before it, and
the program is done as wanted. -/
def Assures (permitted : List Occurrence → Occurrence → Prop)
    (wanted : α → List Occurrence → Cluster → Prop) :
    Program controllerInterface α → List Occurrence → Cluster → Prop
  | .done value, past, cluster => wanted value past cluster
  | .request asked next, past, cluster => ∀ reply after, cluster.Answers asked reply after →
      permitted past ⟨cluster, asked, reply, after⟩ ∧
        Assures permitted wanted (next reply) (past ++ [⟨cluster, asked, reply, after⟩]) after

/-- Whatever it is replied, the program makes no other requests. -/
def Makes (made : ControllerRequest → Prop) : Program controllerInterface α → Prop
  | .done _ => True
  | .request asked next => made asked ∧ ∀ reply, Makes made (next reply)

theorem assures_bind {wanted : β → List Occurrence → Cluster → Prop}
    (program : Program controllerInterface α) (next : α → Program controllerInterface β)
    (past : List Occurrence) (cluster : Cluster) :
    (program.bind next).Assures permitted wanted past cluster ↔
      program.Assures permitted (fun value past cluster =>
        (next value).Assures permitted wanted past cluster) past cluster := by
  induction program generalizing past cluster with
  | done value => rfl
  | request asked reply ih => simp only [Program.bind, Assures, ih]

theorem Assures.mono {wanted wished : α → List Occurrence → Cluster → Prop}
    {program : Program controllerInterface α} {past : List Occurrence} {cluster : Cluster}
    (assured : program.Assures permitted wanted past cluster)
    (permits : ∀ past occurrence, permitted past occurrence → allowed past occurrence)
    (wants : ∀ value past cluster, wanted value past cluster → wished value past cluster) :
    program.Assures allowed wished past cluster := by
  induction program generalizing past cluster with
  | done value => exact wants value past cluster assured
  | request asked next ih =>
    intro reply after answers
    obtain ⟨permittedHere, rest⟩ := assured reply after answers
    exact ⟨permits _ _ permittedHere, ih reply rest⟩

theorem Assures.and {wanted wished : α → List Occurrence → Cluster → Prop}
    {program : Program controllerInterface α} {past : List Occurrence} {cluster : Cluster}
    (first : program.Assures permitted wanted past cluster)
    (second : program.Assures allowed wished past cluster) :
    program.Assures (fun past occurrence => permitted past occurrence ∧ allowed past occurrence)
      (fun value past cluster => wanted value past cluster ∧ wished value past cluster)
      past cluster := by
  induction program generalizing past cluster with
  | done value => exact ⟨first, second⟩
  | request asked next ih =>
    intro reply after answers
    obtain ⟨permittedHere, firstRest⟩ := first reply after answers
    obtain ⟨allowedHere, secondRest⟩ := second reply after answers
    exact ⟨⟨permittedHere, allowedHere⟩, ih reply firstRest secondRest⟩

/-- An invariant that every occurrence keeps is assured all along. -/
theorem Assures.keeping {wanted : α → List Occurrence → Cluster → Prop}
    {program : Program controllerInterface α} {past : List Occurrence} {cluster : Cluster}
    (assured : program.Assures permitted wanted past cluster)
    (invariant : List Occurrence → Cluster → Prop)
    (kept : ∀ past occurrence, invariant past occurrence.before → permitted past occurrence →
      occurrence.Lawful →
        allowed past occurrence ∧ invariant (past ++ [occurrence]) occurrence.after)
    (holds : invariant past cluster) :
    program.Assures allowed (fun value past cluster => wanted value past cluster ∧
      invariant past cluster) past cluster := by
  induction program generalizing past cluster with
  | done value => exact ⟨assured, holds⟩
  | request asked next ih =>
    intro reply after answers
    obtain ⟨permittedHere, rest⟩ := assured reply after answers
    obtain ⟨allowedHere, holdsAfter⟩ :=
      kept past ⟨cluster, asked, reply, after⟩ holds permittedHere answers
    exact ⟨allowedHere, ih reply rest holdsAfter⟩

theorem Makes.assures {program : Program controllerInterface α} (makes : program.Makes made)
    (past : List Occurrence) (cluster : Cluster) :
    program.Assures (fun _ occurrence => made occurrence.request) (fun _ _ _ => True)
      past cluster := by
  induction program generalizing past cluster with
  | done value => trivial
  | request asked next ih =>
    exact fun reply after _ => ⟨makes.1, ih reply (makes.2 reply) _ after⟩

theorem Makes.mono {program : Program controllerInterface α} {others : ControllerRequest → Prop}
    (makes : program.Makes made) (implies : ∀ asked, made asked → others asked) :
    program.Makes others := by
  induction program with
  | done value => trivial
  | request asked next ih => exact ⟨implies asked makes.1, fun reply => ih reply (makes.2 reply)⟩

theorem Makes.bind {program : Program controllerInterface α}
    {next : α → Program controllerInterface β} (makes : program.Makes made)
    (nextMakes : ∀ value, (next value).Makes made) : (program.bind next).Makes made := by
  induction program with
  | done value => exact nextMakes value
  | request asked reply ih => exact ⟨makes.1, fun answer => ih answer (makes.2 answer)⟩

end Program

namespace Execution

variable {α β : Type}

/-- What a program assures holds of each occurrence of an execution, and what is left of
the program goes on assuring it. -/
theorem assured {permitted : List Occurrence → Occurrence → Prop}
    {wanted : α → List Occurrence → Cluster → Prop}
    {program rest : Program controllerInterface α} {before after : Cluster}
    {occurrences : List Occurrence}
    (execution : Execution program before occurrences rest after) {past : List Occurrence}
    (assures : program.Assures permitted wanted past before) :
    (∀ earlier occurrence later, occurrences = earlier ++ occurrence :: later →
      permitted (past ++ earlier) occurrence) ∧
    rest.Assures permitted wanted (past ++ occurrences) after := by
  induction execution generalizing past with
  | idle program cluster => exact ⟨by simp, by simpa using assures⟩
  | @request before middle after asked next reply occurrences rest answers _ ih =>
    obtain ⟨permittedHere, assuresRest⟩ := assures reply middle answers
    obtain ⟨permittedLater, assuredRest⟩ := ih assuresRest
    refine ⟨?_, by simpa using assuredRest⟩
    intro earlier occurrence later split
    cases earlier with
    | nil =>
      obtain ⟨same, -⟩ := List.cons.inj split
      simpa [← same] using permittedHere
    | cons head earlier =>
      obtain ⟨same, splitRest⟩ := List.cons.inj split
      simpa [← same] using permittedLater earlier occurrence later splitRest

/-- An invariant that every permitted occurrence keeps holds wherever an execution stands. -/
theorem invariant {permitted : List Occurrence → Occurrence → Prop}
    {wanted : α → List Occurrence → Cluster → Prop}
    {program rest : Program controllerInterface α} {before after : Cluster}
    {occurrences : List Occurrence}
    (execution : Execution program before occurrences rest after)
    (holds : List Occurrence → Cluster → Prop) {past : List Occurrence}
    (assures : program.Assures permitted wanted past before)
    (kept : ∀ past occurrence, permitted past occurrence → occurrence.Lawful →
      holds past occurrence.before → holds (past ++ [occurrence]) occurrence.after)
    (start : holds past before) : holds (past ++ occurrences) after := by
  induction execution generalizing past with
  | idle program cluster => simpa using start
  | @request before middle after asked next reply occurrences rest answers _ ih =>
    obtain ⟨permittedHere, assuresRest⟩ := assures reply middle answers
    simpa using ih assuresRest (kept _ _ permittedHere answers start)

/-- A property that every permitted occurrence carries on holds wherever an execution
stands. -/
theorem preserves {permitted : List Occurrence → Occurrence → Prop}
    {wanted : α → List Occurrence → Cluster → Prop}
    {program rest : Program controllerInterface α} {before after : Cluster}
    {occurrences : List Occurrence}
    (execution : Execution program before occurrences rest after) (holds : Cluster → Prop)
    {past : List Occurrence}
    (assures : program.Assures permitted wanted past before)
    (carries : ∀ past occurrence, permitted past occurrence → holds occurrence.before →
      holds occurrence.after)
    (start : holds before) : holds after :=
  execution.invariant (fun _ => holds) assures
    (fun past occurrence permitted _ => carries past occurrence permitted) start

end Execution

end FlowTesting
