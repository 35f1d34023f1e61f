import FlowTesting.Cluster.Basic
import FlowTesting.Proofs.ApiServer.Patches
import FlowTesting.Proofs.ApiServer.Storage
import FlowTesting.Proofs.Execution.Effects
import FlowTesting.Proofs.FinalizerEdits

set_option autoImplicit false

/-!
# Partial writes

A write of a part of a stored object does over the network what it does in memory: it ends
well in both or in neither, and what is stored then is read as what is kept in memory.
-/

namespace FlowTesting

open ApiServer Decode

/-- A write of a part of an object: of the status or the finalizers of a flow test, or of the
status of a flow. -/
inductive PartialWrite where
  | patchStatus (flowTest : FlowTest) (status : FlowTestStatus)
  | addFinalizer (flowTest : FlowTest) (finalizer : String)
  | removeFinalizer (flowTest : FlowTest) (finalizer : String)
  | deactivateFlow (flow : PipelineFlow)

namespace PartialWrite

def type : PartialWrite → ResourceType
  | .patchStatus .. => .flowTest
  | .addFinalizer .. => .flowTest
  | .removeFinalizer .. => .flowTest
  | .deactivateFlow flow => flow.kind.resourceType

def metadata : PartialWrite → Metadata
  | .patchStatus flowTest _ => flowTest.metadata
  | .addFinalizer flowTest _ => flowTest.metadata
  | .removeFinalizer flowTest _ => flowTest.metadata
  | .deactivateFlow flow => flow.metadata

/-- The write as it is made over the network. -/
def exchange : PartialWrite → Exchange Unit
  | .patchStatus flowTest status => ApiServer.patchStatus flowTest status
  | .addFinalizer flowTest finalizer => ApiServer.addFinalizer flowTest finalizer
  | .removeFinalizer flowTest finalizer => ApiServer.removeFinalizer flowTest finalizer
  | .deactivateFlow flow => ApiServer.deactivateFlow flow

/-- The write as it is made in memory. -/
def onCluster (cluster : Cluster) : PartialWrite → Except Failure Unit × Cluster
  | .patchStatus flowTest status => cluster.patchStatus flowTest status
  | .addFinalizer flowTest finalizer => cluster.addFinalizer flowTest finalizer
  | .removeFinalizer flowTest finalizer => cluster.removeFinalizer flowTest finalizer
  | .deactivateFlow flow => cluster.deactivateFlow flow

/-- The object that is written has a namespace, and the location is its path. -/
def IsAt (write : PartialWrite) (location : String) : Prop :=
  ∃ namespaceName, write.metadata.namespaceName? = some namespaceName ∧
    Addresses write.type namespaceName write.metadata.name location

/-- The server stores what the cluster keeps in the place of the object, or neither has it. -/
def Stores (write : PartialWrite) (stored? : Option Json) (cluster : Cluster) : Prop :=
  match write with
  | .deactivateFlow flow =>
    Option.Rel (Mirrors (PipelineFlow.decode flow.kind)) stored?
      (cluster.getFlow flow.kind (flow.namespaceName?.getD "") flow.name)
  | _ => Option.Rel (Mirrors FlowTest.decode) stored? (cluster.flowTests.get? write.metadata.name)

/-- What comes of a write over the network is what comes of it in memory. -/
def Agrees (write : PartialWrite) (cluster : Cluster) (outcome : Except Failure Unit)
    (stored? : Option Json) : Prop :=
  (outcome = .ok () ↔ (write.onCluster cluster).1 = .ok ()) ∧
    write.Stores stored? (write.onCluster cluster).2

end PartialWrite

section Related

variable {α β : Type} {related : α → β → Prop} {left? : Option α} {right? : Option β}

theorem eq_none_of_rel (relates : Option.Rel related left? right?) (absent : right? = none) :
    left? = none := by
  subst absent
  cases relates
  rfl

theorem exists_of_rel {right : β} (relates : Option.Rel related left? right?)
    (present : right? = some right) : ∃ left, left? = some left ∧ related left right := by
  subst present
  cases relates with
  | some same => exact ⟨_, rfl, same⟩

theorem rel_of_eq_some {left : α} {right : β} (present : right? = some right)
    (same : related left right) : Option.Rel related (some left) right? :=
  present ▸ .some same

end Related

theorem FlowTest.finalizers?_eq {flowTest : FlowTest} {finalizer : String}
    (has : flowTest.hasFinalizer finalizer = true) :
    flowTest.metadata.finalizers? = some flowTest.metadata.finalizers := by
  cases found : flowTest.metadata.finalizers? with
  | none => simp [FlowTest.hasFinalizer, Metadata.finalizers, found] at has
  | some finalizers => simp [Metadata.finalizers, found]

/-- A finalizer that a flow test has need not be added. -/
theorem FlowTest.withFinalizers_of_has {flowTest : FlowTest} {finalizer : String}
    (has : flowTest.hasFinalizer finalizer = true) :
    flowTest.withFinalizers
      (some (Cluster.withFinalizer flowTest.metadata.finalizers finalizer)) = flowTest := by
  have same : Cluster.withFinalizer flowTest.metadata.finalizers finalizer =
      flowTest.metadata.finalizers := if_pos has
  rw [same, ← finalizers?_eq has]
  rfl

/-- A finalizer that a flow test does not have need not be removed. -/
theorem FlowTest.withFinalizers_of_not_has {flowTest : FlowTest} {finalizer : String}
    (has : flowTest.hasFinalizer finalizer = false) :
    flowTest.withFinalizers
      (flowTest.metadata.finalizers?.map (·.filter (· != finalizer))) = flowTest := by
  have same : flowTest.metadata.finalizers?.map (·.filter (· != finalizer)) =
      flowTest.metadata.finalizers? := by
    cases found : flowTest.metadata.finalizers? with
    | none => rfl
    | some finalizers =>
      refine congrArg some (List.filter_eq_self.mpr (fun other member => ?_))
      simp only [FlowTest.hasFinalizer, Metadata.finalizers, found, Option.getD_some,
        List.contains_eq_mem, decide_eq_false_iff_not] at has
      exact bne_iff_ne.mpr (fun same => has (same ▸ member))
  rw [same]
  rfl

namespace PartialWrite

variable {write : PartialWrite} {location namespaceName : String} {cluster : Cluster}
  {stored? : Option Json}

theorem agrees_of_refused {refusal : Refusal}
    (refused : write.onCluster cluster = cluster.refuse refusal)
    (stores : write.Stores none cluster) (failure : Failure) :
    write.Agrees cluster (.error failure) none := by
  unfold Agrees
  rw [refused]
  exact ⟨iff_of_false nofun nofun, stores⟩

theorem agrees_of_written {written : Cluster}
    (writes : write.onCluster cluster = (.ok (), written)) (stores : write.Stores stored? written) :
    write.Agrees cluster (.ok ()) stored? := by
  unfold Agrees
  rw [writes]
  exact ⟨Iff.rfl, stores⟩

section FlowTests

variable {flowTest : FlowTest}

theorem rel_putFlowTest {object : Json} {name : String} {stored : FlowTest}
    (mirrors : Mirrors FlowTest.decode object stored) :
    Option.Rel (Mirrors FlowTest.decode) (some object)
      ((cluster.putFlowTest name stored).flowTests.get? name) :=
  rel_of_eq_some (OrderedMap.get?_insert_self _ _ _) mirrors

theorem requireFlowTestNamespace_eq (namespaced : flowTest.namespaceName? = some namespaceName) :
    requireFlowTestNamespace flowTest = pure namespaceName := by
  simp [requireFlowTestNamespace, requireNamespace, namespaced]

variable (namespaced : flowTest.namespaceName? = some namespaceName)
  (addresses : Addresses .flowTest namespaceName flowTest.name location)
  (stores : Option.Rel (Mirrors FlowTest.decode) stored? (cluster.flowTests.get? flowTest.name))

include namespaced addresses stores

theorem settles_patchStatus (status : FlowTestStatus) :
    Settles location ((patchStatus flowTest status).Agrees cluster)
      (ApiServer.patchStatus flowTest status).run stored? := by
  have builds := addresses.patchStatusRequest (statusPatch status.encode)
  unfold ApiServer.patchStatus
  rw [requireFlowTestNamespace_eq namespaced]
  cases found : cluster.flowTests.get? flowTest.name with
  | none =>
    obtain rfl := eq_none_of_rel stores found
    have refused : cluster.patchStatus flowTest status =
        cluster.refuse (.notFound flowTest.name) := by
      simp only [Cluster.patchStatus, found]
    exact settles_of_absent builds (.merged rfl (.inr rfl) rfl rfl)
      (agrees_of_refused refused stores)
  | some stored =>
    obtain ⟨object, rfl, mirrors⟩ := exists_of_rel stores found
    have patched := mirrors.mergePatch_status status
    have written : cluster.patchStatus flowTest status =
        (.ok (), cluster.putFlowTest flowTest.name
          { stored with status? := some (stored.status.merge status) }) := by
      simp only [Cluster.patchStatus, found]
    exact settles_of_presents builds (.merged rfl (.inr rfl) rfl rfl)
      (fun _ presents => presents.readReply_eq FlowTest.faithful_decode patched.reads)
      (agrees_of_written written (rel_putFlowTest patched))

omit namespaced stores in
theorem settles_setFinalizers {stored : FlowTest} {object : Json} {finalizers : List String}
    {wanted : Except Failure Unit → Option Json → Prop}
    (mirrors : Mirrors FlowTest.decode object stored)
    (ends : wanted (.ok ()) (some (object.mergePatch (finalizersPatch finalizers)))) :
    Settles location wanted (setFinalizers namespaceName flowTest finalizers).run
      (some object) :=
  settles_of_presents (addresses.patchRequest _) (.merged rfl (.inl rfl) rfl rfl)
    (fun _ presents => presents.readReply_eq FlowTest.faithful_decode
      (mirrors.mergePatch_finalizers finalizers).reads) ends

theorem settles_addFinalizer (finalizer : String) :
    Settles location ((addFinalizer flowTest finalizer).Agrees cluster)
      (ApiServer.addFinalizer flowTest finalizer).run stored? := by
  unfold ApiServer.addFinalizer
  rw [requireFlowTestNamespace_eq namespaced]
  cases found : cluster.flowTests.get? flowTest.name with
  | none =>
    obtain rfl := eq_none_of_rel stores found
    have refused : cluster.addFinalizer flowTest finalizer =
        cluster.refuse (.notFound flowTest.name) := by
      simp only [Cluster.addFinalizer, found]
    exact settles_of_absent addresses.getRequest (.shown rfl rfl)
      (agrees_of_refused refused stores)
  | some stored =>
    obtain ⟨object, rfl, mirrors⟩ := exists_of_rel stores found
    have written : cluster.addFinalizer flowTest finalizer =
        (.ok (), cluster.putFlowTest flowTest.name (stored.withFinalizers
          (some (Cluster.withFinalizer stored.metadata.finalizers finalizer)))) := by
      simp only [Cluster.addFinalizer, found]
      rfl
    refine settles_of_presents addresses.getRequest (.shown rfl rfl)
      (fun _ presents => presents.readReply_eq FlowTest.faithful_decode mirrors.reads) ?_
    cases has : stored.hasFinalizer finalizer with
    | true =>
      -- Nothing is sent, and in memory the list stays as it is.
      rw [FlowTest.withFinalizers_of_has has] at written
      exact agrees_of_written written (rel_putFlowTest mirrors)
    | false =>
      have longer : Cluster.withFinalizer stored.metadata.finalizers finalizer =
          stored.metadata.finalizers ++ [finalizer] := if_neg (Bool.eq_false_iff.mp has)
      rw [longer] at written
      exact settles_setFinalizers addresses mirrors
        (agrees_of_written written (rel_putFlowTest (mirrors.mergePatch_finalizers _)))

theorem settles_removeFinalizer (finalizer : String) :
    Settles location ((removeFinalizer flowTest finalizer).Agrees cluster)
      (ApiServer.removeFinalizer flowTest finalizer).run stored? := by
  unfold ApiServer.removeFinalizer
  rw [requireFlowTestNamespace_eq namespaced]
  cases found : cluster.flowTests.get? flowTest.name with
  | none =>
    obtain rfl := eq_none_of_rel stores found
    have ignored : cluster.removeFinalizer flowTest finalizer = (.ok (), cluster) := by
      simp only [Cluster.removeFinalizer, found]
    -- A flow test that is gone is no failure here, unlike for the other writes.
    refine settles_of_misses addresses.getRequest (.shown rfl rfl) (fun reply misses => ?_)
    have missing : orIfMissing none ((readReply FlowTest.decode reply).map some) = .ok none := by
      simp [misses.readReply_eq, Except.map, orIfMissing, misses.absent]
    rw [missing]
    exact agrees_of_written ignored stores
  | some stored =>
    obtain ⟨object, rfl, mirrors⟩ := exists_of_rel stores found
    have written : cluster.removeFinalizer flowTest finalizer =
        (.ok (), cluster.putFlowTest flowTest.name (stored.withFinalizers
          (stored.metadata.finalizers?.map (·.filter (· != finalizer))))) := by
      simp only [Cluster.removeFinalizer, found]
      rfl
    have shown : ∀ reply, Presents reply object →
        orIfMissing none ((readReply FlowTest.decode reply).map some) = .ok (some stored) := by
      intro reply presents
      rw [presents.readReply_eq FlowTest.faithful_decode mirrors.reads]
      rfl
    refine settles_of_presents addresses.getRequest (.shown rfl rfl) shown ?_
    dsimp only
    cases has : stored.hasFinalizer finalizer with
    | false =>
      -- Nothing is sent, and in memory nothing is filtered out, if there is a list at all.
      rw [FlowTest.withFinalizers_of_not_has has] at written
      exact agrees_of_written written (rel_putFlowTest mirrors)
    | true =>
      rw [FlowTest.finalizers?_eq has] at written
      exact settles_setFinalizers addresses mirrors
        (agrees_of_written written (rel_putFlowTest (mirrors.mergePatch_finalizers _)))

end FlowTests

section Flows

variable {flow : PipelineFlow}

theorem deactivateFlow_of_absent
    (absent : cluster.getFlow flow.kind (flow.namespaceName?.getD "") flow.name = none) :
    cluster.deactivateFlow flow = cluster.refuse (.notFound flow.name) := by
  apply Cluster.deactivateFlow_of_missing
  intro kept
  obtain ⟨stored, kept⟩ := kept
  cases absent.symm.trans (Cluster.getFlow_eq_some_iff.mpr kept)

theorem exists_deactivateFlow_eq {stored : PipelineFlow}
    (found : cluster.getFlow flow.kind (flow.namespaceName?.getD "") flow.name = some stored) :
    ∃ left, cluster.deactivateFlow flow = (.ok (), left) ∧
      left.getFlow flow.kind (flow.namespaceName?.getD "") flow.name =
        some (stored.withStatus { active? := some false }) := by
  have kept : cluster.resources.get? (Resource.flow flow).key = some (.flow stored) :=
    Cluster.getFlow_eq_some_iff.mp found
  exact ⟨_, Cluster.deactivateFlow_of_stored kept,
    Cluster.getFlow_eq_some_iff.mpr (OrderedMap.get?_insert_self _ _ _)⟩

theorem settles_deactivateFlow (namespaced : flow.namespaceName? = some namespaceName)
    (addresses : Addresses flow.kind.resourceType namespaceName flow.name location)
    (stores : Option.Rel (Mirrors (PipelineFlow.decode flow.kind)) stored?
      (cluster.getFlow flow.kind (flow.namespaceName?.getD "") flow.name)) :
    Settles location ((deactivateFlow flow).Agrees cluster)
      (ApiServer.deactivateFlow flow).run stored? := by
  have builds :=
    addresses.patchStatusRequest (statusPatch (.ofMembers [("active", .boolean false)]))
  have named : requireNamespace flow.namespaceName?
      (.internal "deactivate" "flow has no namespace") = pure namespaceName := by
    simp [requireNamespace, namespaced]
  unfold ApiServer.deactivateFlow
  rw [named]
  cases found : cluster.getFlow flow.kind (flow.namespaceName?.getD "") flow.name with
  | none =>
    obtain rfl := eq_none_of_rel stores found
    exact settles_of_absent builds (.merged rfl (.inr rfl) rfl rfl)
      (agrees_of_refused (deactivateFlow_of_absent found) stores)
  | some stored =>
    obtain ⟨object, rfl, mirrors⟩ := exists_of_rel stores found
    obtain ⟨left, written, inPlace⟩ := exists_deactivateFlow_eq found
    have patched := mirrors.mergePatch_active
    exact settles_of_presents builds (.merged rfl (.inr rfl) rfl rfl)
      (fun _ presents => presents.readReply_eq (PipelineFlow.faithful_decode _) patched.reads)
      (agrees_of_written written (rel_of_eq_some inPlace patched))

end Flows

end PartialWrite

/-- A partial write ends well over the network just if it does in memory, and leaves an object
that is read as what is left in memory. -/
theorem partial_write_agrees {write : PartialWrite} {location : String} {cluster : Cluster}
    {stored? : Option Json} (isAt : write.IsAt location)
    (stores : write.Stores stored? cluster) :
    Settles location (write.Agrees cluster) write.exchange.run stored? := by
  obtain ⟨namespaceName, namespaced, addresses⟩ := isAt
  cases write with
  | patchStatus flowTest status =>
    exact PartialWrite.settles_patchStatus namespaced addresses stores status
  | addFinalizer flowTest finalizer =>
    exact PartialWrite.settles_addFinalizer namespaced addresses stores finalizer
  | removeFinalizer flowTest finalizer =>
    exact PartialWrite.settles_removeFinalizer namespaced addresses stores finalizer
  | deactivateFlow flow =>
    exact PartialWrite.settles_deactivateFlow namespaced addresses stores

namespace Sample

theorem isAt_location (finalizer : String) :
    (PartialWrite.addFinalizer flowTest finalizer).IsAt location :=
  ⟨"default", rfl, isLocatedAt_flowTest.path, isLocatedAt_flowTest.allowed, by decide +kernel⟩

/-- What the reply about the marked flow test writes may be stored. -/
theorem exists_stored_marked :
    ∃ object stored, Presents marked object ∧ Mirrors FlowTest.decode object stored ∧
      stored.hasFinalizer "example.com/a" = true := by
  have read : (Document.parse? marked.body).any (fun document =>
      document.isTidy && document.value?.any (fun object =>
        decide object.IsResource && (FlowTest.decode (.known object)).toOption.any (fun stored =>
          stored.hasFinalizer "example.com/a"))) = true := by
    decide +kernel
  simp only [Option.any_eq_true, Bool.and_eq_true, decide_eq_true_eq] at read
  obtain ⟨document, parsed, tidy, object, stands, isResource, stored, reads, has⟩ := read
  refine ⟨object, stored, ⟨rfl, document, parsed, tidy, stands⟩, ⟨isResource, ?_⟩, has⟩
  cases decoded : FlowTest.decode (.known object) with
  | error fault =>
    rw [decoded] at reads
    cases reads
  | ok flowTest =>
    rw [decoded] at reads
    exact congrArg _ (Option.some.inj reads)

/-- A flow that has no namespace. -/
def unplaced : PipelineFlow := .flow { metadata := { name? := some "flow" }, spec := {} }

def called (name : String) : FlowTest :=
  { flowTest with metadata := { flowTest.metadata with name? := some name } }

/-- A flow test whose status is a list of its fields. -/
def listed : Json :=
  .ofMembers [
    ("metadata", .ofMembers []),
    ("spec", flowTest.spec.encode),
    ("status", .array [.text "Running", .array [.boolean true], .array []])]

end Sample

/-- A second finalizer is added to the flow test that another client has marked. -/
theorem partial_write_agrees_at_marked :
    ∃ object stored, Presents Sample.marked object ∧
      stored.hasFinalizer "example.com/a" = true ∧
      (PartialWrite.addFinalizer Sample.flowTest Controller.finalizer).IsAt Sample.location ∧
      (PartialWrite.addFinalizer Sample.flowTest Controller.finalizer).Stores (some object)
        (Cluster.putFlowTest {} "test" stored) ∧
      Settles Sample.location
        ((PartialWrite.addFinalizer Sample.flowTest Controller.finalizer).Agrees
          (Cluster.putFlowTest {} "test" stored))
        (PartialWrite.addFinalizer Sample.flowTest Controller.finalizer).exchange.run
        (some object) := by
  obtain ⟨object, stored, presents, mirrors, has⟩ := Sample.exists_stored_marked
  have isAt := Sample.isAt_location Controller.finalizer
  have stores : (PartialWrite.addFinalizer Sample.flowTest Controller.finalizer).Stores
      (some object) (Cluster.putFlowTest {} "test" stored) := PartialWrite.rel_putFlowTest mirrors
  exact ⟨object, stored, presents, has, isAt, stores, partial_write_agrees isAt stores⟩

/-- A flow without a namespace, and flow tests whose names do not go into a path, are written in
memory alone. A patch of a status that is stored as a list does not keep its flags. -/
theorem partial_writes_disagree :
    (((PartialWrite.deactivateFlow Sample.unplaced).onCluster
          (Cluster.addResource {} (.flow Sample.unplaced))).1 = .ok () ∧
      (PartialWrite.deactivateFlow Sample.unplaced).exchange.run =
        .done (.error (.internal "deactivate" "flow has no namespace"))) ∧
    (∀ name ∈ ["", "a b"],
      ((PartialWrite.addFinalizer (Sample.called name) Controller.finalizer).onCluster
          (Cluster.addFlowTest {} (Sample.called name))).1 = .ok () ∧
      ∃ fault, (PartialWrite.addFinalizer (Sample.called name) Controller.finalizer).exchange.run =
        .done (.error (.unbuildable fault))) ∧
    (FlowTest.decode (.known Sample.listed)).toOption.map (fun stored =>
      (stored.status.merge (.ofPhase .completed)).matchStatus) = some [true] ∧
    (FlowTest.decode (.known (Sample.listed.mergePatch
      (statusPatch (FlowTestStatus.ofPhase .completed).encode)))).toOption.map
        (·.status.matchStatus) = some [] := by
  refine ⟨⟨rfl, rfl⟩, ?_, by decide +kernel, by decide +kernel⟩
  exact List.forall_mem_cons.mpr ⟨⟨rfl, .emptyName, rfl⟩,
    List.forall_mem_singleton.mpr ⟨rfl, .invalidCharacter, rfl⟩⟩

end FlowTesting
