import FlowTesting.Proofs.Execution.Basic

set_option autoImplicit false

/-!
# Executions of procedures

The rules by which the requests and the outcome of a procedure are read off its steps.
-/

namespace FlowTesting.Procedure

variable {α β : Type}

/-- What a procedure assures of its occurrences and of its outcome. -/
def Assures (permitted : List Occurrence → Occurrence → Prop)
    (wanted : Except Failure α → List Occurrence → Cluster → Prop) (procedure : Procedure α)
    (past : List Occurrence) (cluster : Cluster) : Prop :=
  Program.Assures permitted wanted procedure.run past cluster

def Makes (made : ControllerRequest → Prop) (procedure : Procedure α) : Prop :=
  Program.Makes made procedure.run

section Assurance

variable {permitted : List Occurrence → Occurrence → Prop}
  {wanted : Except Failure α → List Occurrence → Cluster → Prop} {past : List Occurrence}
  {cluster : Cluster}

theorem assures_outcome (outcome : Except Failure α) :
    Assures permitted wanted (ExceptT.mk (pure outcome)) past cluster ↔
      wanted outcome past cluster := Iff.rfl

theorem assures_pure (value : α) :
    Assures permitted wanted (pure value) past cluster ↔ wanted (.ok value) past cluster := Iff.rfl

theorem assures_throw (failure : Failure) :
    Assures permitted wanted (throw failure) past cluster ↔
      wanted (.error failure) past cluster := Iff.rfl

/-- What has to be assured of a first procedure so that the next one can go on from it. -/
def Between (permitted : List Occurrence → Occurrence → Prop)
    (wanted : Except Failure β → List Occurrence → Cluster → Prop) (next : α → Procedure β) :
    Except Failure α → List Occurrence → Cluster → Prop
  | .ok value, past, cluster => Assures permitted wanted (next value) past cluster
  | .error failure, past, cluster => wanted (.error failure) past cluster

theorem assures_bind {wanted : Except Failure β → List Occurrence → Cluster → Prop}
    (first : Procedure α) (next : α → Procedure β) :
    Assures permitted wanted (first >>= next) past cluster ↔
      Assures permitted (Between permitted wanted next) first past cluster := by
  have unfolded : (first >>= next).run = first.run.bind (ExceptT.bindCont next) := rfl
  unfold Assures
  rw [unfolded, Program.assures_bind]
  constructor <;> refine fun assured => assured.mono (fun _ _ => id) ?_
  all_goals
    intro outcome past cluster
    cases outcome <;> exact id

theorem assures_make (call : Call)
    {wanted : Except Failure call.Answer → List Occurrence → Cluster → Prop} :
    Assures permitted wanted call.make past cluster ↔
      ∀ (outcome : Except Failure call.Answer) (after : Cluster),
        cluster.Answers (.call call) outcome after →
          permitted past ⟨cluster, .call call, outcome, after⟩ ∧
            wanted outcome (past ++ [⟨cluster, .call call, outcome, after⟩]) after := Iff.rfl

theorem assures_publish (event : Event)
    {wanted : Except Failure Unit → List Occurrence → Cluster → Prop} :
    Assures permitted wanted event.publish past cluster ↔
      permitted past ⟨cluster, .publish event, (), cluster⟩ ∧
        wanted (.ok ()) (past ++ [⟨cluster, .publish event, (), cluster⟩]) cluster := by
  constructor
  · exact fun assured => assured () cluster rfl
  · rintro assured _ _ rfl
    exact assured

theorem assures_lift (procedure : Procedure α)
    {wanted : Except Failure (Except Failure α) → List Occurrence → Cluster → Prop} :
    Assures permitted wanted (ExceptT.lift procedure.run) past cluster ↔
      Assures permitted (fun outcome => wanted (.ok outcome)) procedure past cluster := by
  have unfolded : (ExceptT.lift procedure.run : Procedure (Except Failure α)).run =
      procedure.run.bind (fun outcome => .done (.ok outcome)) := rfl
  unfold Assures
  rw [unfolded, Program.assures_bind]
  rfl

theorem Assures.mono {allowed : List Occurrence → Occurrence → Prop}
    {wished : Except Failure α → List Occurrence → Cluster → Prop} {procedure : Procedure α}
    (assured : Assures permitted wanted procedure past cluster)
    (permits : ∀ past occurrence, permitted past occurrence → allowed past occurrence)
    (wants : ∀ outcome past cluster, wanted outcome past cluster → wished outcome past cluster) :
    Assures allowed wished procedure past cluster :=
  Program.Assures.mono assured permits wants

theorem Assures.and {allowed : List Occurrence → Occurrence → Prop}
    {wished : Except Failure α → List Occurrence → Cluster → Prop} {procedure : Procedure α}
    (first : Assures permitted wanted procedure past cluster)
    (second : Assures allowed wished procedure past cluster) :
    Assures (fun past occurrence => permitted past occurrence ∧ allowed past occurrence)
      (fun outcome past cluster => wanted outcome past cluster ∧ wished outcome past cluster)
      procedure past cluster :=
  Program.Assures.and first second

theorem Assures.bind {first : Procedure α} {next : α → Procedure β}
    (assured : Assures permitted (fun _ _ _ => True) first past cluster)
    (nextAssured : ∀ value past cluster,
      Assures permitted (fun _ _ _ => True) (next value) past cluster) :
    Assures permitted (fun _ _ _ => True) (first >>= next) past cluster := by
  refine (assures_bind first next).mpr (assured.mono (fun _ _ => id) ?_)
  intro outcome past cluster _
  cases outcome with
  | ok value => exact nextAssured value past cluster
  | error failure => trivial

theorem Assures.keeping {allowed : List Occurrence → Occurrence → Prop}
    {procedure : Procedure α} (assured : Assures permitted wanted procedure past cluster)
    (invariant : List Occurrence → Cluster → Prop)
    (kept : ∀ past occurrence, invariant past occurrence.before → permitted past occurrence →
      occurrence.Lawful →
        allowed past occurrence ∧ invariant (past ++ [occurrence]) occurrence.after)
    (holds : invariant past cluster) :
    Assures allowed (fun outcome past cluster => wanted outcome past cluster ∧
      invariant past cluster) procedure past cluster :=
  Program.Assures.keeping assured invariant kept holds

/-- What happens comes after what has happened before. -/
theorem Assures.appending {made : ControllerRequest → Prop} {procedure : Procedure α}
    (assured : Assures (fun _ occurrence => made occurrence.request) wanted procedure past
      cluster) :
    Assures (fun _ occurrence => made occurrence.request) (fun outcome later after =>
      wanted outcome later after ∧
        ∃ more, later = past ++ more ∧ ∀ occurrence ∈ more, made occurrence.request)
      procedure past cluster := by
  refine assured.keeping (fun later _ =>
    ∃ more, later = past ++ more ∧ ∀ occurrence ∈ more, made occurrence.request) ?_ ⟨[], by simp⟩
  rintro later occurrence ⟨more, rfl, madeBefore⟩ madeHere _
  refine ⟨madeHere, more ++ [occurrence], List.append_assoc .., ?_⟩
  exact List.forall_mem_append.mpr ⟨madeBefore, List.forall_mem_singleton.mpr madeHere⟩

/-- What has occurred stays so. -/
theorem assures_extended (procedure : Procedure α) :
    Assures (fun _ _ => True) (fun _ later _ => past ⊆ later) procedure past cluster := by
  unfold Assures
  suffices extended : ∀ (program : Program controllerInterface (Except Failure α)) (later cluster),
      past ⊆ later → program.Assures (fun _ _ => True) (fun _ later _ => past ⊆ later) later cluster from
    extended procedure.run past cluster (fun _ => id)
  intro program
  induction program with
  | done value => exact fun later cluster kept => kept
  | request asked next ih =>
    intro later cluster kept reply after _
    exact ⟨trivial, ih reply _ after (List.Subset.trans kept (List.subset_append_left _ _))⟩

end Assurance

section Results

/-- What holds once a procedure has succeeded. -/
def Yields (wanted : α → List Occurrence → Cluster → Prop) (procedure : Procedure α)
    (past : List Occurrence) (cluster : Cluster) : Prop :=
  Assures (fun _ _ => True)
    (fun outcome past cluster => ∀ value, outcome = .ok value → wanted value past cluster)
    procedure past cluster

variable {wanted : α → List Occurrence → Cluster → Prop} {past : List Occurrence}
  {cluster : Cluster}

theorem yields_pure (value : α) :
    Yields wanted (pure value) past cluster ↔ wanted value past cluster := by
  constructor
  · exact fun yields => yields value rfl
  · rintro holds _ ⟨⟩
    exact holds

theorem yields_throw (failure : Failure) : Yields wanted (throw failure) past cluster := by
  intro value impossible
  cases impossible

theorem yields_outcome (outcome : Except Failure α) :
    Yields wanted (ExceptT.mk (pure outcome)) past cluster ↔
      ∀ value, outcome = .ok value → wanted value past cluster := Iff.rfl

theorem Yields.mono {wished : α → List Occurrence → Cluster → Prop} {procedure : Procedure α}
    (yields : Yields wanted procedure past cluster)
    (wants : ∀ value past cluster, wanted value past cluster → wished value past cluster) :
    Yields wished procedure past cluster :=
  Assures.mono yields (fun _ _ => id)
    (fun _ past cluster holds value succeeded => wants value past cluster (holds value succeeded))

theorem yields_bind {wanted : β → List Occurrence → Cluster → Prop} (first : Procedure α)
    (next : α → Procedure β) :
    Yields wanted (first >>= next) past cluster ↔
      Yields (fun value => Yields wanted (next value)) first past cluster := by
  unfold Yields
  rw [assures_bind]
  constructor <;> refine fun yields => yields.mono (fun _ _ => id) ?_
  · rintro _ past cluster between value rfl
    exact between
  · intro outcome past cluster continues
    cases outcome with
    | ok value => exact continues value rfl
    | error failure => exact yields_throw failure

theorem yields_make (call : Call) {wanted : call.Answer → List Occurrence → Cluster → Prop}
    (answered : ∀ answer after, cluster.Answers (.call call) (Except.ok answer) after →
      wanted answer (past ++ [⟨cluster, .call call, Except.ok answer, after⟩]) after) :
    Yields wanted call.make past cluster := by
  intro outcome after answers
  refine ⟨trivial, ?_⟩
  intro answer same
  subst same
  exact answered answer after answers

/-- What has been answered stays so. -/
theorem yields_extended (procedure : Procedure α) :
    Yields (fun _ later _ => past ⊆ later) procedure past cluster :=
  (assures_extended procedure).mono (fun _ _ => id) (fun _ _ _ kept _ _ => kept)

theorem yields_bind_extended {wanted : β → List Occurrence → Cluster → Prop} {first : Procedure α}
    {next : α → Procedure β}
    (yields : ∀ value later cluster, past ⊆ later → Yields wanted (next value) later cluster) :
    Yields wanted (first >>= next) past cluster :=
  (yields_bind first next).mpr ((yields_extended first).mono yields)

theorem yields_outcome_bind {wanted : β → List Occurrence → Cluster → Prop}
    {outcome : Except Failure α} {next : α → Procedure β}
    (yields : ∀ value, outcome = .ok value → Yields wanted (next value) past cluster) :
    Yields wanted (ExceptT.mk (pure outcome) >>= next) past cluster :=
  (yields_bind _ next).mpr ((yields_outcome outcome).mpr yields)

theorem Yields.of_execution {procedure : Procedure α} {value : α} {occurrences : List Occurrence}
    {after : Cluster} (yields : Yields wanted procedure past cluster)
    (execution : Execution procedure.run cluster occurrences (.done (.ok value)) after) :
    wanted value (past ++ occurrences) after :=
  (execution.assured yields).2 value rfl

theorem Assures.yielding {permitted : List Occurrence → Occurrence → Prop}
    {wished : Except Failure α → List Occurrence → Cluster → Prop} {procedure : Procedure α}
    (assured : Assures permitted wished procedure past cluster)
    (yields : Yields wanted procedure past cluster) :
    Assures permitted (fun outcome past cluster => wished outcome past cluster ∧
      ∀ value, outcome = .ok value → wanted value past cluster) procedure past cluster :=
  (assured.and yields).mono (fun _ _ => And.left) (fun _ _ _ => id)

/-- Whether a procedure fails only where a call has failed. -/
def FailsByCalls (procedure : Procedure α) : Prop :=
  ∀ past cluster, Assures (fun _ _ => True) (fun outcome later _ => ∀ failure,
    outcome = .error failure → ∃ occurrence ∈ later, ¬ occurrence.Succeeded) procedure past cluster

theorem failsByCalls_pure (value : α) : FailsByCalls (pure value) :=
  fun _ _ _ impossible => nomatch impossible

theorem failsByCalls_make (call : Call) : FailsByCalls call.make := by
  intro past cluster outcome after answers
  refine ⟨trivial, fun failure failed => ?_⟩
  subst failed
  refine ⟨_, List.mem_append_right past List.mem_cons_self, ?_⟩
  exact fun succeeded => nomatch succeeded

theorem FailsByCalls.bind {first : Procedure α} {next : α → Procedure β}
    (fails : FailsByCalls first) (nextFails : ∀ value, FailsByCalls (next value)) :
    FailsByCalls (first >>= next) := by
  intro past cluster
  refine (assures_bind first next).mpr ((fails past cluster).mono (fun _ _ => id) ?_)
  intro outcome later after failed
  cases outcome with
  | ok value => exact nextFails value later after
  | error failure => exact fun _ _ => failed failure rfl

end Results

section Requests

variable {made : ControllerRequest → Prop}

theorem makes_pure (value : α) : Makes made (pure value : Procedure α) := trivial

theorem makes_throw (failure : Failure) : Makes made (throw failure : Procedure α) := trivial

theorem makes_outcome (outcome : Except Failure α) :
    Makes made (ExceptT.mk (pure outcome) : Procedure α) := trivial

theorem makes_make {call : Call} (permitted : made (.call call)) : Makes made call.make :=
  ⟨permitted, fun _ => trivial⟩

theorem makes_attempt {call : Call} (permitted : made (.call call)) : Makes made call.attempt :=
  ⟨permitted, fun _ => trivial⟩

theorem makes_publish {event : Event} (permitted : made (.publish event)) :
    Makes made event.publish :=
  ⟨permitted, fun _ => trivial⟩

theorem Makes.bind {first : Procedure α} {next : α → Procedure β} (makes : Makes made first)
    (nextMakes : ∀ value, Makes made (next value)) : Makes made (first >>= next) := by
  refine Program.Makes.bind makes (fun outcome => ?_)
  cases outcome with
  | ok value => exact nextMakes value
  | error failure => trivial

theorem Makes.lift {procedure : Procedure α} (makes : Makes made procedure) :
    Makes made (ExceptT.lift procedure.run) :=
  Program.Makes.bind makes (fun _ => trivial)

theorem makes_outcome_bind {outcome : Except Failure α} {next : α → Procedure β}
    (nextMakes : ∀ value, outcome = .ok value → Makes made (next value)) :
    Makes made (ExceptT.mk (pure outcome) >>= next) := by
  cases outcome with
  | ok value => exact nextMakes value rfl
  | error failure => trivial

theorem Makes.mono {others : ControllerRequest → Prop} {procedure : Procedure α}
    (makes : Makes made procedure) (implies : ∀ asked, made asked → others asked) :
    Makes others procedure :=
  Program.Makes.mono makes implies

theorem Makes.assures {procedure : Procedure α} (makes : Makes made procedure)
    (past : List Occurrence) (cluster : Cluster) :
    Assures (fun _ occurrence => made occurrence.request) (fun _ _ _ => True) procedure past
      cluster :=
  Program.Makes.assures makes past cluster

/-- Requests that are justified by an answer stay so. -/
theorem Makes.following {asks : List Occurrence → ControllerRequest → Prop} {call : Call}
    {answer : call.Answer} {procedure : Procedure α}
    (makes : Makes (fun asked => ∀ past, Answered past call answer → asks past asked) procedure)
    {past : List Occurrence} {cluster : Cluster} (answered : Answered past call answer) :
    Assures (fun past occurrence => asks past occurrence.request) (fun _ _ _ => True) procedure
      past cluster := by
  refine ((makes.assures past cluster).keeping
    (fun past _ => Answered past call answer) ?_ answered).mono
      (fun _ _ => id) (fun _ _ _ _ => trivial)
  exact fun past occurrence answered asked _ =>
    ⟨asked past answered, answered.mono (List.subset_append_left _ _)⟩

theorem Makes.keeping {permitted : List Occurrence → Occurrence → Prop}
    {procedure : Procedure α} (makes : Makes made procedure)
    (invariant : List Occurrence → Cluster → Prop)
    (kept : ∀ past occurrence, invariant past occurrence.before → made occurrence.request →
      occurrence.Lawful →
        permitted past occurrence ∧ invariant (past ++ [occurrence]) occurrence.after)
    {past : List Occurrence} {cluster : Cluster} (holds : invariant past cluster) :
    Assures permitted (fun _ => invariant) procedure past cluster :=
  ((makes.assures past cluster).keeping invariant kept holds).mono (fun _ _ => id) (fun _ _ _ => And.right)

end Requests

end FlowTesting.Procedure
