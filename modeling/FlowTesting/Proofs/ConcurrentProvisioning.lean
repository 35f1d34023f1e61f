import FlowTesting.Proofs.Execution.Together
import FlowTesting.Proofs.Places
import FlowTesting.Proofs.Routing
import Mathlib.Logic.ExistsUnique

set_option autoImplicit false

/-!
# Concurrent provisioning

Two flow tests that are provisioned at the same time do not get in each other's way. Each has
its places to itself, and what both make, the log aggregator, is taken for made by whoever
comes second. So the requests of the two may reach the cluster in any order.
-/

namespace FlowTesting

variable {α β : Type}

/-- Whether a program has ended with a failure. -/
def Program.HasFailed (program : Program controllerInterface (Except Failure α)) : Prop :=
  ∃ failure, program = .done (.error failure)

namespace Provisioning

/-- The requests by which a flow test is provisioned, each with the replies that let the program
go on. -/
inductive Step (flowTest : FlowTest) (configuration : Configuration) :
    (asked : ControllerRequest) →
      (controllerInterface.Reply asked → Program controllerInterface (Except Failure α)) →
        Prop where
  | getPod {namespaceName name : String} {next} :
      (∀ outcome, (∀ pod, outcome ≠ .ok (some pod)) → (next outcome).HasFailed) →
      Step flowTest configuration (.call (.getPod namespaceName name)) next
  | getFlow {kind : PipelineKind} {namespaceName name : String} {next} :
      (∀ outcome, (∀ flow, outcome ≠ .ok (some flow)) → (next outcome).HasFailed) →
      Step flowTest configuration (.call (.getFlow kind namespaceName name)) next
  | createProduct {resource : Resource} {owner : Owner} {next} :
      flowTest.owner? = some owner → Product flowTest owner resource →
      (∀ failure, (next (.error failure)).HasFailed) →
      Step flowTest configuration (.call (.create resource)) next
  | createPart {resource : Resource} {next} :
      SharedAggregator.Part configuration resource →
      (∀ outcome, tolerateExisting outcome = .ok () → next outcome = next (.ok ())) →
      Step flowTest configuration (.call (.create resource)) next
  | patchStatus {status : FlowTestStatus} {next} :
      (∀ failure, (next (.error failure)).HasFailed) →
      Step flowTest configuration (.call (.patchStatus flowTest status)) next

/-- Whether a program goes on by such requests only, whatever it is replied. -/
def Proceeds (flowTest : FlowTest) (configuration : Configuration) :
    Program controllerInterface (Except Failure α) → Prop
  | .done _ => True
  | .request asked next => Step flowTest configuration asked next ∧
      ∀ reply, Proceeds flowTest configuration (next reply)

section Proceeding

variable {flowTest : FlowTest} {configuration : Configuration} {owner : Owner}

theorem hasFailed_bind {program : Program controllerInterface (Except Failure α)}
    (failed : program.HasFailed) (next : α → Procedure β) :
    (program.bind (ExceptT.bindCont next)).HasFailed := by
  obtain ⟨failure, rfl⟩ := failed
  exact ⟨failure, rfl⟩

theorem Step.bind {asked : ControllerRequest}
    {first : controllerInterface.Reply asked → Program controllerInterface (Except Failure α)}
    (step : Step flowTest configuration asked first) (next : α → Procedure β) :
    Step flowTest configuration asked
      (fun reply => (first reply).bind (ExceptT.bindCont next)) := by
  cases step with
  | getPod insists =>
    exact .getPod (fun outcome other => hasFailed_bind (insists outcome other) next)
  | getFlow insists =>
    exact .getFlow (fun outcome other => hasFailed_bind (insists outcome other) next)
  | createProduct identified product insists =>
    exact .createProduct identified product (fun failure => hasFailed_bind (insists failure) next)
  | createPart part tolerates =>
    refine .createPart part (fun outcome tolerated => ?_)
    exact congrArg (Program.bind · (ExceptT.bindCont next)) (tolerates outcome tolerated)
  | patchStatus insists =>
    exact .patchStatus (fun failure => hasFailed_bind (insists failure) next)

theorem Proceeds.bind {first : Procedure α} {next : α → Procedure β}
    (proceeds : Proceeds flowTest configuration first.run)
    (nextProceeds : ∀ value, Proceeds flowTest configuration (next value).run) :
    Proceeds flowTest configuration (first >>= next).run := by
  change Proceeds flowTest configuration (Program.bind first.run (ExceptT.bindCont next))
  generalize first.run = program at proceeds ⊢
  induction program with
  | done outcome =>
    cases outcome with
    | ok value => exact nextProceeds value
    | error failure => trivial
  | request asked reply ih =>
    exact ⟨proceeds.1.bind next, fun answer => ih answer (proceeds.2 answer)⟩

theorem proceeds_outcome_bind {outcome : Except Failure α} {next : α → Procedure β}
    (proceeds : ∀ value, outcome = .ok value →
      Proceeds flowTest configuration (next value).run) :
    Proceeds flowTest configuration (ExceptT.mk (pure outcome) >>= next : Procedure β).run := by
  cases outcome with
  | ok value => exact proceeds value rfl
  | error failure => trivial

theorem getReferencePod_proceeds :
    Proceeds flowTest configuration (getReferencePod flowTest).run := by
  constructor
  · refine .getPod (fun outcome other => ?_)
    match outcome with
    | .ok (some pod) => exact absurd rfl (other pod)
    | .ok none => exact ⟨_, rfl⟩
    | .error failure => exact ⟨failure, rfl⟩
  · intro outcome
    match outcome with
    | .ok (some pod) => trivial
    | .ok none => trivial
    | .error failure => trivial

theorem getReference_proceeds (kind : PipelineKind) :
    Proceeds flowTest configuration (flowTest.getReference kind).run := by
  constructor
  · refine .getFlow (fun outcome other => ?_)
    match outcome with
    | .ok (some flow) => exact absurd rfl (other flow)
    | .ok none => exact ⟨_, rfl⟩
    | .error failure => exact ⟨failure, rfl⟩
  · intro outcome
    match outcome with
    | .ok (some flow) => trivial
    | .ok none => trivial
    | .error failure => trivial

theorem create_proceeds {resource : Resource} (identified : flowTest.owner? = some owner)
    (product : Product flowTest owner resource) :
    Proceeds flowTest configuration (Call.make (.create resource)).run :=
  ⟨.createProduct identified product (fun failure => ⟨failure, rfl⟩), fun _ => trivial⟩

theorem ensure_proceeds {resource : Resource}
    (part : SharedAggregator.Part configuration resource) :
    Proceeds flowTest configuration (ensure resource).run :=
  ⟨.createPart part (fun _ tolerated => congrArg Program.done tolerated), fun _ => trivial⟩

theorem deploy_proceeds (identified : flowTest.owner? = some owner) {kind : PipelineKind}
    {slices : List Slice} (built : ∀ slice ∈ slices, slice.IsBuilt owner kind) :
    Proceeds flowTest configuration (Slice.deploy slices).run := by
  induction slices with
  | nil => trivial
  | cons slice rest ih =>
    obtain ⟨⟨template, testId, testType, matchRules, filters, -, rfl⟩, builtRest⟩ :=
      List.forall_mem_cons.mp built
    refine (create_proceeds identified .output).bind (fun _ => ?_)
    exact (create_proceeds identified .flow).bind (fun _ => ih builtRest)

theorem run_proceeds (flowTest : FlowTest) (configuration : Configuration) :
    Proceeds flowTest configuration (run flowTest configuration).run := by
  refine proceeds_outcome_bind (fun owner required => ?_)
  have identified := owner?_of_requireOwner required
  refine proceeds_outcome_bind (fun kind _ => ?_)
  refine getReferencePod_proceeds.bind (fun referencePod => ?_)
  refine proceeds_outcome_bind (fun pod simulated => ?_)
  refine (create_proceeds identified .configMap).bind (fun _ => ?_)
  refine (create_proceeds identified (.pod simulated)).bind (fun _ => ?_)
  refine Proceeds.bind ?_ (fun _ => ?_)
  · exact (ensure_proceeds .pod).bind (fun _ => ensure_proceeds .service)
  refine (getReference_proceeds kind).bind (fun reference => ?_)
  refine Proceeds.bind ?_ (fun _ => ?_)
  · exact ⟨.patchStatus (fun failure => ⟨failure, rfl⟩), fun _ => trivial⟩
  refine proceeds_outcome_bind (fun slices planned => ?_)
  have built : ∀ slice ∈ slices, slice.IsBuilt owner reference.kind :=
    fun slice member => Slice.isBuilt_of_mem_plan planned member
  exact (deploy_proceeds identified built).bind (fun _ => trivial)

end Proceeding

end Provisioning

theorem Cluster.getPod_eq_some_iff {cluster : Cluster} {namespaceName name : String} {pod : Pod} :
    cluster.getPod namespaceName name = some pod ↔
      cluster.resources.get? ⟨.pod, namespaceName, name⟩ = some (.pod pod) := by
  rw [getPod]
  constructor
  · intro found
    split at found
    next pod stored => exact Option.some.inj found ▸ stored
    next => cases found
  · intro stored
    rw [stored]

theorem Surroundings.get?_create (surroundings : Surroundings) (resource : Resource)
    (key : ResourceKey) :
    (surroundings.respond (.call (.create resource))).2.cluster.resources.get? key =
      if key = resource.key then
        some ((surroundings.cluster.resources.get? key).getD resource)
      else surroundings.cluster.resources.get? key := by
  change (surroundings.cluster.create resource).2.resources.get? key = _
  cases found : surroundings.cluster.resources.get? resource.key with
  | some stored =>
    rw [Cluster.create_of_taken found, Cluster.refuse]
    split
    next here => rw [here, found, Option.getD_some]
    next => rfl
  | none =>
    rw [Cluster.create_of_free found, Cluster.addResource]
    split
    next here => rw [here, OrderedMap.get?_insert_self, found, Option.getD_none]
    next other => rw [OrderedMap.get?_insert_of_ne other]

theorem Surroundings.flowTests_create (surroundings : Surroundings) (resource : Resource) :
    (surroundings.respond (.call (.create resource))).2.cluster.flowTests =
      surroundings.cluster.flowTests := by
  change (surroundings.cluster.create resource).2.flowTests = _
  unfold Cluster.create
  split <;> rfl

theorem Surroundings.deletesFail_create (surroundings : Surroundings) (resource : Resource) :
    (surroundings.respond (.call (.create resource))).2.cluster.deletesFail =
      surroundings.cluster.deletesFail := by
  change (surroundings.cluster.create resource).2.deletesFail = _
  unfold Cluster.create
  split <;> rfl

/-- What the provisioning of a flow test makes of surroundings: nothing is taken away, and what
comes is in places of the flow test or belongs to the log aggregator. -/
structure Surroundings.Extends (flowTest : FlowTest) (configuration : Configuration)
    (start after : Surroundings) : Prop where
  kept : ∀ key resource, start.cluster.resources.get? key = some resource →
    after.cluster.resources.get? key = some resource
  gained : ∀ key resource, after.cluster.resources.get? key = some resource →
    start.cluster.resources.get? key = some resource ∨ flowTest.HasPlace key ∨
      SharedAggregator.Part configuration resource ∧ resource.key = key

/-- Whether two flow tests together have come to what each has come to alone. -/
structure Surroundings.Joins (first second : FlowTest) (configuration : Configuration)
    (start left right together : Surroundings) : Prop where
  extendsLeft : start.Extends first configuration left
  extendsRight : start.Extends second configuration right
  listing : together.listing = start.listing
  deletesFail : together.cluster.deletesFail = start.cluster.deletesFail
  resources : ∀ key resource, together.cluster.resources.get? key = some resource ↔
    left.cluster.resources.get? key = some resource ∨
      right.cluster.resources.get? key = some resource
  flowTestOfLeft : together.cluster.flowTests.get? first.name =
    left.cluster.flowTests.get? first.name
  flowTestOfRight : together.cluster.flowTests.get? second.name =
    right.cluster.flowTests.get? second.name
  otherFlowTests : ∀ name, name ≠ first.name → name ≠ second.name →
    together.cluster.flowTests.get? name = start.cluster.flowTests.get? name

theorem Surroundings.not_hasFailed_of_run {surroundings : Surroundings} {value : α}
    {program : Program controllerInterface (Except Failure α)}
    (succeeds : (surroundings.run (ExceptT.mk program)).1 = .ok value) : ¬ program.HasFailed := by
  rintro ⟨failure, rfl⟩
  cases succeeds

namespace Surroundings.Joins

variable {first second : FlowTest} {configuration : Configuration}
  {start left right together : Surroundings}

theorem refl (first second : FlowTest) (configuration : Configuration) (start : Surroundings) :
    start.Joins first second configuration start start start where
  extendsLeft := ⟨fun _ _ => id, fun _ _ => .inl⟩
  extendsRight := ⟨fun _ _ => id, fun _ _ => .inl⟩
  listing := rfl
  deletesFail := rfl
  resources _ _ := (or_self_iff).symm
  flowTestOfLeft := rfl
  flowTestOfRight := rfl
  otherFlowTests _ _ _ := rfl

theorem symm (joins : start.Joins first second configuration left right together) :
    start.Joins second first configuration right left together where
  extendsLeft := joins.extendsRight
  extendsRight := joins.extendsLeft
  listing := joins.listing
  deletesFail := joins.deletesFail
  resources key resource := (joins.resources key resource).trans or_comm
  flowTestOfLeft := joins.flowTestOfRight
  flowTestOfRight := joins.flowTestOfLeft
  otherFlowTests name notSecond notFirst := joins.otherFlowTests name notFirst notSecond

/-- What the two come to together is determined by what each comes to alone. -/
theorem unique {other : Surroundings}
    (joins : start.Joins first second configuration left right together)
    (otherJoins : start.Joins first second configuration left right other) :
    together = other := by
  have sameResources : together.cluster.resources = other.cluster.resources :=
    OrderedMap.ext (fun key => Option.ext (fun resource =>
      (joins.resources key resource).trans (otherJoins.resources key resource).symm))
  have sameFlowTests : together.cluster.flowTests = other.cluster.flowTests := by
    refine OrderedMap.ext (fun name => ?_)
    by_cases isFirst : name = first.name
    · rw [isFirst, joins.flowTestOfLeft, otherJoins.flowTestOfLeft]
    · by_cases isSecond : name = second.name
      · rw [isSecond, joins.flowTestOfRight, otherJoins.flowTestOfRight]
      · rw [joins.otherFlowTests name isFirst isSecond,
          otherJoins.otherFlowTests name isFirst isSecond]
  have sameDeletes := joins.deletesFail.trans otherJoins.deletesFail.symm
  have sameListing := joins.listing.trans otherJoins.listing.symm
  rcases together with ⟨⟨_, _, _⟩, _⟩
  rcases other with ⟨⟨_, _, _⟩, _⟩
  simp_all

theorem get?_of_left (joins : start.Joins first second configuration left right together)
    {key : ResourceKey} {resource : Resource}
    (found : left.cluster.resources.get? key = some resource) :
    together.cluster.resources.get? key = some resource :=
  (joins.resources key resource).mpr (.inl found)

/-- Where the left one has nothing, the right one has at most what it has made. -/
theorem owned_of_free (joins : start.Joins first second configuration left right together)
    {key : ResourceKey} {resource : Resource}
    (free : left.cluster.resources.get? key = none)
    (found : right.cluster.resources.get? key = some resource) :
    second.HasPlace key ∨
      SharedAggregator.Part configuration resource ∧ resource.key = key := by
  refine (joins.extendsRight.gained key resource found).resolve_left (fun already => ?_)
  rw [joins.extendsLeft.kept key resource already] at free
  cases free

/-- The left one creates an object, which only the right one can have created before it. -/
theorem create (joins : start.Joins first second configuration left right together)
    {resource : Resource}
    (owned : first.HasPlace resource.key ∨ SharedAggregator.Part configuration resource)
    (agreed : left.cluster.resources.get? resource.key = none →
      ∀ stored, right.cluster.resources.get? resource.key = some stored → stored = resource) :
    start.Joins first second configuration (left.respond (.call (.create resource))).2 right
      (together.respond (.call (.create resource))).2 where
  extendsLeft := by
    refine ⟨fun key stored found => ?_, fun key stored found => ?_⟩
    · rw [get?_create, joins.extendsLeft.kept key stored found, Option.getD_some, ite_self]
    · rw [get?_create] at found
      split at found
      next here =>
        subst here
        cases already : left.cluster.resources.get? resource.key with
        | some other =>
          rw [already] at found
          exact joins.extendsLeft.gained _ _ (already.trans found)
        | none =>
          rw [already] at found
          obtain rfl := Option.some.inj found
          exact .inr (owned.imp_right (fun part => ⟨part, rfl⟩))
      next => exact joins.extendsLeft.gained key stored found
  extendsRight := joins.extendsRight
  listing := ((together.listing_answer _).trans joins.listing)
  deletesFail := (deletesFail_create together resource).trans joins.deletesFail
  resources key stored := by
    rw [get?_create, get?_create]
    split
    next here =>
      subst here
      cases foundLeft : left.cluster.resources.get? resource.key with
      | some already =>
        rw [joins.get?_of_left foundLeft, Option.getD_some]
        refine (or_iff_left_of_imp (fun foundRight => ?_)).symm
        exact (joins.get?_of_left foundLeft).symm.trans
          ((joins.resources _ _).mpr (.inr foundRight))
      | none =>
        have stays : (together.cluster.resources.get? resource.key).getD resource = resource := by
          cases foundTogether : together.cluster.resources.get? resource.key with
          | none => rfl
          | some already =>
            rcases (joins.resources _ _).mp foundTogether with impossible | foundRight
            · rw [foundLeft] at impossible
              cases impossible
            · exact agreed foundLeft already foundRight
        rw [stays, Option.getD_none]
        refine (or_iff_left_of_imp (fun foundRight => ?_)).symm
        rw [agreed foundLeft stored foundRight]
    next => exact joins.resources key stored
  flowTestOfLeft := by
    rw [flowTests_create, flowTests_create]
    exact joins.flowTestOfLeft
  flowTestOfRight := by
    rw [flowTests_create]
    exact joins.flowTestOfRight
  otherFlowTests := by
    rw [flowTests_create]
    exact joins.otherFlowTests

/-- The left one stores a status of its own. -/
theorem patchStatus (joins : start.Joins first second configuration left right together)
    (different : first.name ≠ second.name) {stored : FlowTest}
    (found : left.cluster.flowTests.get? first.name = some stored) (status : FlowTestStatus) :
    (together.respond (.call (.patchStatus first status))).1 =
        (left.respond (.call (.patchStatus first status))).1 ∧
      start.Joins first second configuration (left.respond (.call (.patchStatus first status))).2
        right (together.respond (.call (.patchStatus first status))).2 := by
  have ranLeft := run_patchStatus found status
  have ranTogether := run_patchStatus (joins.flowTestOfLeft.trans found) status
  have respondLeft : left.respond (.call (.patchStatus first status)) = _ := ranLeft
  have respondTogether : together.respond (.call (.patchStatus first status)) = _ := ranTogether
  rw [respondLeft, respondTogether]
  refine ⟨rfl, { joins with
    extendsLeft := ⟨joins.extendsLeft.kept, joins.extendsLeft.gained⟩
    flowTestOfLeft := ?_
    flowTestOfRight := ?_
    otherFlowTests := ?_ }⟩
  · simp only [Cluster.putFlowTest, OrderedMap.get?_insert_self]
  · exact (OrderedMap.get?_insert_of_ne different.symm).trans joins.flowTestOfRight
  · intro name notFirst notSecond
    exact (OrderedMap.get?_insert_of_ne notFirst).trans
      (joins.otherFlowTests name notFirst notSecond)

/-- The next request of the left one comes to what it comes to when that one is alone. -/
theorem respond (joins : start.Joins first second configuration left right together)
    (different : first.name ≠ second.name)
    (distinct : first.metadata.uid? ≠ second.metadata.uid?) {asked : ControllerRequest}
    {next : controllerInterface.Reply asked → Program controllerInterface (Except Failure α)}
    (step : Provisioning.Step first configuration asked next)
    (goesOn : ¬ (next (left.respond asked).1).HasFailed) :
    next (together.respond asked).1 = next (left.respond asked).1 ∧
      start.Joins first second configuration (left.respond asked).2 right
        (together.respond asked).2 := by
  cases step with
  | @getPod namespaceName name next insists =>
    cases found : left.cluster.getPod namespaceName name with
    | none =>
      refine absurd (insists _ (fun pod same => ?_)) goesOn
      have missing := Except.ok.inj same
      rw [found] at missing
      cases missing
    | some pod =>
      have foundTogether : together.cluster.getPod namespaceName name = some pod :=
        Cluster.getPod_eq_some_iff.mpr (joins.get?_of_left (Cluster.getPod_eq_some_iff.mp found))
      exact ⟨congrArg (fun found => next (.ok found)) (foundTogether.trans found.symm), joins⟩
  | @getFlow kind namespaceName name next insists =>
    cases found : left.cluster.getFlow kind namespaceName name with
    | none =>
      refine absurd (insists _ (fun flow same => ?_)) goesOn
      have missing := Except.ok.inj same
      rw [found] at missing
      cases missing
    | some flow =>
      have foundTogether : together.cluster.getFlow kind namespaceName name = some flow :=
        Cluster.getFlow_eq_some_iff.mpr (joins.get?_of_left (Cluster.getFlow_eq_some_iff.mp found))
      exact ⟨congrArg (fun found => next (.ok found)) (foundTogether.trans found.symm), joins⟩
  | @createProduct resource owner next identified product insists =>
    have place : first.HasPlace resource.key := ⟨owner, resource, identified, product, rfl⟩
    cases found : left.cluster.resources.get? resource.key with
    | some stored =>
      refine absurd ?_ goesOn
      have refused : (left.respond (.call (.create resource))).1 =
          .error (.refused (.alreadyExists (Cluster.existingMessage resource))) :=
        congrArg Prod.fst (Cluster.create_of_taken found)
      rw [refused]
      exact insists _
    | none =>
      -- The place is the left one's own, so the right one has put nothing there.
      have nothing : right.cluster.resources.get? resource.key = none := by
        rw [Option.eq_none_iff_forall_ne_some]
        intro stored foundRight
        rcases joins.owned_of_free found foundRight with otherPlace | ⟨part, here⟩
        · exact place.not_hasPlace distinct otherPlace
        · exact place.not_isPlace configuration ⟨stored, part, here⟩
      have free : together.cluster.resources.get? resource.key = none := by
        rw [Option.eq_none_iff_forall_ne_some]
        intro stored foundTogether
        rcases (joins.resources _ _).mp foundTogether with taken | taken
        · rw [found] at taken
          cases taken
        · rw [nothing] at taken
          cases taken
      refine ⟨congrArg next ?_, joins.create (.inl place) (fun _ stored taken => ?_)⟩
      · exact (congrArg Prod.fst (Cluster.create_of_free free)).trans
          (congrArg Prod.fst (Cluster.create_of_free found)).symm
      · rw [nothing] at taken
        cases taken
  | @createPart resource next part tolerates =>
    have tolerated : ∀ surroundings : Surroundings,
        Provisioning.tolerateExisting (surroundings.respond (.call (.create resource))).1 =
          .ok () := by
      intro surroundings
      change Provisioning.tolerateExisting (surroundings.cluster.create resource).1 = .ok ()
      unfold Cluster.create
      split <;> rfl
    -- Whoever comes second is told so and goes on as if it had come first.
    refine ⟨(tolerates _ (tolerated together)).trans (tolerates _ (tolerated left)).symm, ?_⟩
    refine joins.create (.inr part) (fun free stored taken => ?_)
    rcases joins.owned_of_free free taken with place | ⟨otherPart, here⟩
    · exact absurd ⟨resource, part, rfl⟩ (place.not_isPlace configuration)
    · exact part.eq_of_key_eq otherPart here
  | @patchStatus status next insists =>
    cases found : left.cluster.flowTests.get? first.name with
    | none =>
      refine absurd ?_ goesOn
      have refused : (left.respond (.call (.patchStatus first status))).1 =
          .error (.refused (.notFound first.name)) := by
        change (left.cluster.patchStatus first status).1 = _
        rw [Cluster.patchStatus, found]
        rfl
      rw [refused]
      exact insists _
    | some stored =>
      obtain ⟨sameReply, joinsAfter⟩ := joins.patchStatus different found status
      exact ⟨congrArg next sameReply, joinsAfter⟩

/-- The left one runs to its end as it does when it is alone. -/
theorem run_left (joins : start.Joins first second configuration left right together)
    (different : first.name ≠ second.name)
    (distinct : first.metadata.uid? ≠ second.metadata.uid?)
    {program : Program controllerInterface (Except Failure α)}
    (proceeds : Provisioning.Proceeds first configuration program) {value : α}
    (succeeds : (left.run (ExceptT.mk program)).1 = .ok value) :
    (together.run (ExceptT.mk program)).1 = .ok value ∧
      start.Joins first second configuration (left.run (ExceptT.mk program)).2 right
        (together.run (ExceptT.mk program)).2 := by
  induction program generalizing left together with
  | done outcome => exact ⟨succeeds, joins⟩
  | request asked next ih =>
    rw [run_request] at succeeds
    obtain ⟨sameRest, joinsAfter⟩ := joins.respond different distinct proceeds.1
      (not_hasFailed_of_run succeeds)
    rw [run_request, run_request, sameRest]
    exact ih _ joinsAfter (proceeds.2 _) succeeds

theorem step_left (joins : start.Joins first second configuration left right together)
    (different : first.name ≠ second.name)
    (distinct : first.metadata.uid? ≠ second.metadata.uid?)
    {program : Program controllerInterface (Except Failure α)}
    (proceeds : Provisioning.Proceeds first configuration program) {value : α}
    (succeeds : (left.run (ExceptT.mk program)).1 = .ok value) :
    (together.step program).1 = (left.step program).1 ∧
      Provisioning.Proceeds first configuration (left.step program).1 ∧
      start.Joins first second configuration (left.step program).2 right
        (together.step program).2 := by
  cases program with
  | done outcome => exact ⟨rfl, trivial, joins⟩
  | request asked next =>
    rw [run_request] at succeeds
    obtain ⟨sameRest, joinsAfter⟩ := joins.respond different distinct proceeds.1
      (not_hasFailed_of_run succeeds)
    exact ⟨sameRest, proceeds.2 _, joinsAfter⟩

/-- Whatever the schedule, the two come to what each comes to alone. -/
theorem runTogether (joins : start.Joins first second configuration left right together)
    (different : first.name ≠ second.name)
    (distinct : first.metadata.uid? ≠ second.metadata.uid?)
    {leftProgram : Program controllerInterface (Except Failure α)}
    {rightProgram : Program controllerInterface (Except Failure β)}
    (leftProceeds : Provisioning.Proceeds first configuration leftProgram)
    (rightProceeds : Provisioning.Proceeds second configuration rightProgram)
    {leftValue : α} {rightValue : β}
    (leftSucceeds : (left.run (ExceptT.mk leftProgram)).1 = .ok leftValue)
    (rightSucceeds : (right.run (ExceptT.mk rightProgram)).1 = .ok rightValue)
    (schedule : List Side) :
    (together.runTogether schedule leftProgram rightProgram).1 = (.ok leftValue, .ok rightValue) ∧
      start.Joins first second configuration (left.run (ExceptT.mk leftProgram)).2
        (right.run (ExceptT.mk rightProgram)).2
        (together.runTogether schedule leftProgram rightProgram).2 := by
  induction schedule generalizing left right together leftProgram rightProgram with
  | nil =>
    obtain ⟨leftDone, joinsLeft⟩ := joins.run_left different distinct leftProceeds leftSucceeds
    obtain ⟨rightDone, joinsRight⟩ :=
      joinsLeft.symm.run_left different.symm distinct.symm rightProceeds rightSucceeds
    exact ⟨Prod.ext leftDone rightDone, joinsRight.symm⟩
  | cons side schedule ih =>
    cases side with
    | left =>
      obtain ⟨sameRest, proceeds, joinsAfter⟩ :=
        joins.step_left different distinct leftProceeds leftSucceeds
      rw [← run_step] at leftSucceeds ⊢
      rw [Surroundings.runTogether, sameRest]
      exact ih joinsAfter proceeds rightProceeds leftSucceeds rightSucceeds
    | right =>
      obtain ⟨sameRest, proceeds, joinsAfter⟩ :=
        joins.symm.step_left different.symm distinct.symm rightProceeds rightSucceeds
      rw [← run_step right] at rightSucceeds ⊢
      rw [Surroundings.runTogether, sameRest]
      exact ih joinsAfter.symm leftProceeds proceeds leftSucceeds rightSucceeds

end Surroundings.Joins

section Aggregator

variable {flowTest : FlowTest} {configuration : Configuration} {start : Surroundings}
  {status : FlowTestStatus} {part : Resource}

/-- Provisioning takes nothing away. -/
theorem Provisioning.Asks.not_takes {asked : ControllerRequest} {key : ResourceKey}
    {resource : Resource} (asks : Asks flowTest configuration asked) :
    ¬ Resource.Takes key resource asked := by
  intro takes
  cases takes <;> cases asks

/-- A part of the log aggregator that has been ensured is there. -/
theorem Provisioning.ensured_step {before after : Cluster} {past : List Occurrence}
    {asked : ControllerRequest} {reply : controllerInterface.Reply asked}
    (present : Ensured past part → ∃ stored, before.resources.get? part.key = some stored)
    (asks : Asks flowTest configuration asked) (answers : before.Answers asked reply after)
    (honest : Occurrence.IsHonest ⟨before, asked, reply, after⟩)
    (ensured : Ensured (past ++ [⟨before, asked, reply, after⟩]) part) :
    ∃ stored, after.resources.get? part.key = some stored := by
  obtain ⟨tried, outcome, later, member, tolerated⟩ := ensured
  rcases List.mem_append.mp member with earlier | last
  · obtain ⟨stored, found⟩ := present ⟨_, _, _, earlier, tolerated⟩
    exact ⟨stored, (answers.remains found).resolve_right asks.not_takes⟩
  cases List.mem_singleton.mp last
  obtain ⟨⟨failure, rfl⟩, rfl⟩ | ⟨-, -, rfl⟩ := answers.create
  · simp only [tolerateExisting] at tolerated
    split at tolerated
    next taken => exact honest _ _ _ _ rfl taken
    next => cases tolerated
  · exact ⟨part, OrderedMap.get?_insert_self _ _ _⟩

theorem Provisioning.exists_part_of_run
    (succeeds : (start.run (run flowTest configuration)).1 = .ok status)
    (belongs : SharedAggregator.Part configuration part) : ∃ stored,
      (start.run (run flowTest configuration)).2.cluster.resources.get? part.key = some stored := by
  obtain ⟨occurrences, execution, answered⟩ :=
    Execution.of_run_answered start (run flowTest configuration)
  have present := execution.invariant
    (fun past cluster => (∀ occurrence ∈ past, occurrence.IsHonest) → Ensured past part →
      ∃ stored, cluster.resources.get? part.key = some stored)
    ((run_makes flowTest configuration).assures [] start.cluster) ?_ (by simp [Ensured])
    (fun occurrence member => (answered occurrence member).isHonest)
  · rw [succeeds] at execution
    have ensured := (run_ensures flowTest configuration [] start.cluster).of_execution execution
    exact present (ensured part belongs)
  · intro past occurrence asks answers present honest
    refine ensured_step (present (fun earlier member => honest earlier ?_)) asks answers
      (honest occurrence (by simp))
    exact List.mem_append_left _ member

theorem Surroundings.isCoherent_run {procedure : Procedure α}
    (coherent : start.cluster.IsCoherent) : (start.run procedure).2.cluster.IsCoherent := by
  obtain ⟨occurrences, execution⟩ := Execution.of_run start procedure
  exact execution.invariant (fun _ => Cluster.IsCoherent)
    (@Procedure.assures_extended _ [] _ procedure) (fun _ _ _ answers => answers.isCoherent)
    coherent

end Aggregator

/-- Two flow tests of different names and identifiers that can be provisioned each can be
provisioned at the same time. In whatever order their requests reach the cluster, both succeed
as they do alone, with the same cluster as one after the other and with one log aggregator. -/
theorem provisioning_commutes {configuration : Configuration} {first second : FlowTest}
    {start : Surroundings} {firstStatus secondStatus : FlowTestStatus}
    (coherent : start.cluster.IsCoherent) (different : first.name ≠ second.name)
    (distinct : first.metadata.uid? ≠ second.metadata.uid?)
    (firstSucceeds : (start.run (Provisioning.run first configuration)).1 = .ok firstStatus)
    (secondSucceeds : (start.run (Provisioning.run second configuration)).1 = .ok secondStatus)
    (schedule : List Side) :
    let provisionFirst := Provisioning.run first configuration
    let provisionSecond := Provisioning.run second configuration
    let together := start.runTogether schedule provisionFirst.run provisionSecond.run
    together.1 = (.ok firstStatus, .ok secondStatus) ∧
    together.2 = ((start.run provisionFirst).2.run provisionSecond).2 ∧
    together.2 = ((start.run provisionSecond).2.run provisionFirst).2 ∧
    ∀ part, SharedAggregator.Part configuration part →
      ∃! entry, entry ∈ together.2.cluster.resources.entries ∧ entry.2.key = part.key := by
  intro provisionFirst provisionSecond together
  have joined := (Surroundings.Joins.refl first second configuration start).runTogether different
    distinct (Provisioning.run_proceeds first configuration)
    (Provisioning.run_proceeds second configuration) firstSucceeds secondSucceeds
  have swapped := (Surroundings.Joins.refl second first configuration start).runTogether
    different.symm distinct.symm (Provisioning.run_proceeds second configuration)
    (Provisioning.run_proceeds first configuration) secondSucceeds firstSucceeds
  obtain ⟨succeed, joins⟩ := joined schedule
  have firstThenSecond : together.2 = ((start.run provisionFirst).2.run provisionSecond).2 :=
    joins.unique (joined []).2
  refine ⟨succeed, firstThenSecond, joins.unique (swapped []).2.symm, fun part belongs => ?_⟩
  have coherentTogether : together.2.cluster.IsCoherent := by
    rw [firstThenSecond]
    exact Surroundings.isCoherent_run (Surroundings.isCoherent_run coherent)
  obtain ⟨stored, found⟩ := Provisioning.exists_part_of_run firstSucceeds belongs
  have foundTogether := joins.get?_of_left found
  refine ⟨(part.key, stored), ⟨OrderedMap.get?_eq_some_iff.mp foundTogether,
    coherentTogether _ _ foundTogether⟩, ?_⟩
  rintro ⟨key, resource⟩ ⟨member, sameKey⟩
  have foundHere := OrderedMap.get?_eq_some_iff.mpr member
  obtain rfl : key = part.key := (coherentTogether key resource foundHere).symm.trans sameKey
  rw [Option.some.inj (foundHere.symm.trans foundTogether)]

/-- Two flow tests for the same references that take turns, each of them losing a race for a
part of the log aggregator. -/
theorem provisioning_commutes_of_sample :
    let provisionFirst := Provisioning.run (Sample.inPhase .created) {}
    let provisionSecond := Provisioning.run Sample.another {}
    let schedule : List Side :=
      [.left, .right, .left, .right, .left, .left, .right, .right, .right, .left]
    let together := Sample.shared.runTogether schedule provisionFirst.run provisionSecond.run
    together.1 = (.ok (.allocated .created 1 0), .ok (.allocated .created 1 0)) ∧
    together.2 = ((Sample.shared.run provisionFirst).2.run provisionSecond).2 ∧
    together.2 = ((Sample.shared.run provisionSecond).2.run provisionFirst).2 ∧
    ∀ part, SharedAggregator.Part {} part →
      ∃! entry, entry ∈ together.2.cluster.resources.entries ∧ entry.2.key = part.key :=
  @provisioning_commutes {} (Sample.inPhase .created) Sample.another Sample.shared _ _
    Sample.isPrepared_shared.coherent (by decide) (by decide) rfl rfl
    [.left, .right, .left, .right, .left, .left, .right, .right, .right, .left]

end FlowTesting
