import FlowTesting.ApiServer.Client
import FlowTesting.Proofs.ApiServer.Members
import FlowTesting.Proofs.ApiServer.MergePatch

set_option autoImplicit false

/-!
# What is read of patched objects

A patch of a status leaves the fields alone that it does not say, and so the patched object is
read as the old one with the status merged. A patch of the finalizers replaces all of them.
-/

namespace FlowTesting

open ApiServer Decode Decode.Fields

namespace Json

/-- The members of the fields that have a value. -/
def fieldMembers (fields : List (String × Option Json)) : OrderedMap String Json :=
  .ofList (fields.filterMap (fun field => field.2.map (field.1, ·)))

theorem get?_fieldMembers {fields : List (String × Option Json)}
    (distinct : (fields.map (·.1)).Nodup) {key : String} {value? : Option Json}
    (member : (key, value?) ∈ fields) : (fieldMembers fields).get? key = value? := by
  have fewer : ((fields.filterMap (fun field => field.2.map (field.1, ·))).map (·.1)).Sublist
      (fields.map (·.1)) := by
    clear member distinct
    induction fields with
    | nil => exact .slnil
    | cons field rest ih =>
      obtain ⟨name, _ | value⟩ := field
      · exact ih.cons name
      · exact ih.cons_cons name
  refine Option.ext (fun value => ?_)
  rw [fieldMembers, OrderedMap.get?_ofList_eq_some_iff (fewer.nodup distinct), List.mem_filterMap]
  constructor
  · rintro ⟨field, inFields, found⟩
    obtain ⟨_, present, same⟩ := Option.map_eq_some_iff.mp found
    obtain ⟨rfl, rfl⟩ := Prod.mk.inj same
    rw [List.inj_on_of_nodup_map distinct inFields member rfl] at present
    exact present
  · rintro rfl
    exact ⟨_, member, rfl⟩

/-- A patch of one member that is an object leaves the others as they are. -/
theorem mergePatch_single (members : OrderedMap String Json) (key : String)
    (patch : List (String × Json)) :
    (Json.object members.entries).mergePatch (.object [(key, .object patch)]) =
      .object (members.insert key (((members.get? key).getD .null).mergePatch (.object patch))
        ).entries := by
  rw [mergePatch, asMap_object_entries]
  rfl

theorem isRecord_mergePatch (target : Json) (patch : List (String × Json)) :
    (target.mergePatch (.object patch)).IsRecord := by
  rw [mergePatch]
  exact ⟨_, rfl⟩

end Json

section Statuses

variable {α : Type} {part? : Option Json}

/-- A status that is absent or null is patched as one without members. -/
theorem read_asMap {read : Reader α} {initial : α} {value? : Option α}
    (empty : read (.known (.object [])) = .ok initial)
    (isRecord : ∀ part ∈ part?, part = .null ∨ part.IsRecord)
    (reads : Reads (nullable read) (some none) part? value?) :
    read (.known (.object (part?.getD .null).asMap.entries)) = .ok (value?.getD initial) := by
  cases part? with
  | none =>
    obtain rfl := Option.some.inj reads
    exact empty
  | some part =>
    rcases isRecord part rfl with rfl | ⟨members, rfl⟩
    · obtain rfl := Except.ok.inj reads
      exact empty
    · obtain ⟨value, found, rfl⟩ := map_eq_ok_iff.mp
        (show (read (.known (.object members.entries))).map some = .ok value? from reads)
      rw [Option.getD_some, Json.asMap_object_entries]
      exact found

namespace FlowTestStatus

/-- The fields of a status as it is sent. -/
def fields (status : FlowTestStatus) : List (String × Option Json) := [
  ("status", status.phase?.map FlowTestPhase.encode),
  ("matchStatus", Json.unlessEmpty .boolean status.matchStatus),
  ("filterStatus", Json.unlessEmpty .boolean status.filterStatus)]

theorem encode_eq (status : FlowTestStatus) :
    status.encode = .object (Json.fieldMembers status.fields).entries := rfl

theorem nodup_fields (status : FlowTestStatus) : (status.fields.map (·.1)).Nodup := by
  show ["status", "matchStatus", "filterStatus"].Nodup
  decide

/-- A phase that a patch does not say stays. -/
theorem reads_phase {field? : Option Json} {phase? : Option FlowTestPhase}
    (reads : Reads (nullable FlowTestPhase.decode) (some none) field? phase?)
    (patch? : Option FlowTestPhase) :
    Reads (nullable FlowTestPhase.decode) (some none)
      ((patch?.map FlowTestPhase.encode).elim field? (Json.mergeMember field?))
      (patch?.or phase?) := by
  cases patch? with
  | none => exact reads
  | some phase => cases phase <;> rfl

/-- Flags that a patch does not say stay, and others replace all that there are. -/
theorem reads_flags {field? : Option Json} {flags : List Bool}
    (reads : Reads (list boolean) (some []) field? flags) (patch : List Bool) :
    Reads (list boolean) (some [])
      ((Json.unlessEmpty .boolean patch).elim field? (Json.mergeMember field?))
      (if patch.isEmpty then flags else patch) := by
  cases patch with
  | nil => exact reads
  | cons flag rest =>
    have sent : list boolean (.known (.array ((flag :: rest).map .boolean))) =
        .ok (flag :: rest) := list_known (fun _ => rfl) _
    exact sent

theorem decode_mergePatch {status? : Option FlowTestStatus} (patch : FlowTestStatus)
    (isRecord : ∀ part ∈ part?, part = .null ∨ part.IsRecord)
    (reads : Reads (nullable decode) (some none) part? status?) :
    decode (.known ((part?.getD .null).mergePatch patch.encode)) =
      .ok ((status?.getD {}).merge patch) := by
  obtain ⟨phase, matched, filtered⟩ := decode_eq_ok_iff.mp (read_asMap rfl isRecord reads)
  have sent {key : String} {value? : Option Json} (member : (key, value?) ∈ patch.fields) :
      (Json.fieldMembers patch.fields).get? key = value? :=
    Json.get?_fieldMembers patch.nodup_fields member
  rw [encode_eq, Json.mergePatch, decode_eq_ok_iff]
  simp only [Json.get?_mergeMembers_entries]
  rw [sent (.head _), sent (.tail _ (.head _)), sent (.tail _ (.tail _ (.head _)))]
  exact ⟨reads_phase phase patch.phase?, reads_flags matched patch.matchStatus,
    reads_flags filtered patch.filterStatus⟩

end FlowTestStatus

theorem FlowStatus.decode_mergePatch_active (target : Json) :
    decode (.known (target.mergePatch (.object [("active", .boolean false)]))) =
      .ok { active? := some false } := by
  rw [Json.mergePatch, decode_eq_ok_iff]
  exact (congrArg (Reads (nullable boolean) (some none) · (some false))
    (OrderedMap.get?_insert_self target.asMap "active" (.boolean false))).mpr rfl

end Statuses

section Objects

variable {α β γ : Type} {members : OrderedMap String Json}

/-- An object is read with whatever status it is given. -/
theorem record_insert_status {make : Metadata → β → Option γ → α} {spec : Reader β}
    {status : Reader γ} {typeName : String} {surplus : Nat → String} {value : α}
    (decoded : record (make <$> required "metadata" Metadata.decode <*> required "spec" spec
      <*> Fields.optional "status" status) typeName surplus
      (.known (.object members.entries)) = .ok value) :
    ∃ metadata specification status?, make metadata specification status? = value ∧
      Reads (nullable status) (some none) (members.get? "status") status? ∧
      ∀ part new, part.IsRecord → status (.known part) = .ok new →
        record (make <$> required "metadata" Metadata.decode <*> required "spec" spec
          <*> Fields.optional "status" status) typeName surplus
          (.known (.object (members.insert "status" part).entries)) =
            .ok (make metadata specification (some new)) := by
  obtain ⟨metadata, specification, status?, readMetadata, readSpec, readStatus, same⟩ :=
    object_eq_ok_iff.mp decoded
  refine ⟨metadata, specification, status?, same, readStatus, fun part new isRecord reads => ?_⟩
  obtain ⟨entries, rfl⟩ := isRecord
  refine object_eq_ok_iff.mpr ⟨metadata, specification, some new, ?_, ?_, ?_, rfl⟩
  · rwa [OrderedMap.get?_insert_of_ne (by decide)]
  · rwa [OrderedMap.get?_insert_of_ne (by decide)]
  · rw [OrderedMap.get?_insert_self]
    exact congrArg (Except.map some) reads

end Objects

/-- The flow test with other finalizers, or with none listed. -/
def FlowTest.withFinalizers (flowTest : FlowTest) (finalizers? : Option (List String)) : FlowTest :=
  { flowTest with metadata := { flowTest.metadata with finalizers? } }

/-- An object as a server stores it: its metadata and its status are objects, if they are there. -/
structure Json.IsResource (object : Json) : Prop where
  isRecord : object.IsRecord
  metadata : ∀ part ∈ object.asMap.get? "metadata", part.IsRecord
  status : ∀ part ∈ object.asMap.get? "status", part = .null ∨ part.IsRecord

namespace Json.IsResource

variable {object part : Json} {members : OrderedMap String Json}

instance : DecidablePred IsResource := fun object =>
  decidable_of_iff
    (object.IsRecord ∧ (∀ part ∈ object.asMap.get? "metadata", part.IsRecord) ∧
      ∀ part ∈ object.asMap.get? "status", part = .null ∨ part.IsRecord)
    ⟨fun ⟨isRecord, metadata, status⟩ => ⟨isRecord, metadata, status⟩,
      fun ⟨isRecord, metadata, status⟩ => ⟨isRecord, metadata, status⟩⟩

theorem entries_iff : (Json.object members.entries).IsResource ↔
    (∀ part ∈ members.get? "metadata", part.IsRecord) ∧
      ∀ part ∈ members.get? "status", part = .null ∨ part.IsRecord := by
  have members_eq := asMap_object_entries members
  constructor
  · rintro ⟨-, metadata, status⟩
    rw [members_eq] at metadata status
    exact ⟨metadata, status⟩
  · rintro ⟨metadata, status⟩
    refine ⟨⟨members, rfl⟩, ?_, ?_⟩ <;> rw [members_eq]
    exacts [metadata, status]

theorem insert_status (resource : (Json.object members.entries).IsResource)
    (isRecord : part.IsRecord) :
    (Json.object (members.insert "status" part).entries).IsResource := by
  refine entries_iff.mpr ⟨?_, ?_⟩
  · rw [OrderedMap.get?_insert_of_ne (by decide)]
    exact (entries_iff.mp resource).1
  · rw [OrderedMap.get?_insert_self]
    rintro _ ⟨⟩
    exact .inr isRecord

theorem insert_metadata (resource : (Json.object members.entries).IsResource)
    (isRecord : part.IsRecord) :
    (Json.object (members.insert "metadata" part).entries).IsResource := by
  refine entries_iff.mpr ⟨?_, ?_⟩
  · rw [OrderedMap.get?_insert_self]
    rintro _ ⟨⟩
    exact isRecord
  · rw [OrderedMap.get?_insert_of_ne (by decide)]
    exact (entries_iff.mp resource).2

end Json.IsResource

/-- The object is stored where the value is kept in memory. -/
structure Mirrors {α : Type} (read : Reader α) (object : Json) (value : α) : Prop where
  isResource : object.IsResource
  reads : read (.known object) = .ok value

namespace Mirrors

variable {object : Json}

theorem mergePatch_status {stored : FlowTest} (mirrors : Mirrors FlowTest.decode object stored)
    (status : FlowTestStatus) :
    Mirrors FlowTest.decode (object.mergePatch (statusPatch status.encode))
      { stored with status? := some (stored.status.merge status) } := by
  obtain ⟨resource, reads⟩ := mirrors
  obtain ⟨members, rfl⟩ := resource.isRecord
  have patched : (Json.object members.entries).mergePatch (statusPatch status.encode) = _ :=
    Json.mergePatch_single members "status" _
  have isRecord := Json.isRecord_mergePatch ((members.get? "status").getD .null)
    (Json.fieldMembers status.fields).entries
  obtain ⟨metadata, spec, status?, rfl, readStatus, next⟩ := record_insert_status reads
  rw [patched]
  have kept := FlowTestStatus.decode_mergePatch status
    (Json.IsResource.entries_iff.mp resource).2 readStatus
  exact ⟨resource.insert_status isRecord, next _ _ isRecord kept⟩

theorem mergePatch_finalizers {stored : FlowTest} (mirrors : Mirrors FlowTest.decode object stored)
    (finalizers : List String) :
    Mirrors FlowTest.decode (object.mergePatch (finalizersPatch finalizers))
      (stored.withFinalizers (some finalizers)) := by
  obtain ⟨resource, reads⟩ := mirrors
  obtain ⟨members, rfl⟩ := resource.isRecord
  obtain ⟨metadata, spec, status?, readMetadata, readSpec, readStatus, rfl⟩ :=
    object_eq_ok_iff.mp reads
  cases found : members.get? "metadata" with
  | none =>
    rw [found] at readMetadata
    cases readMetadata
  | some part =>
    obtain ⟨inner, rfl⟩ := (Json.IsResource.entries_iff.mp resource).1 part found
    rw [found] at readMetadata
    have patched : (Json.object members.entries).mergePatch (finalizersPatch finalizers) =
        .object (members.insert "metadata"
          (.object (inner.insert "finalizers" (.texts finalizers)).entries)).entries := by
      refine (Json.mergePatch_single members "metadata" _).trans ?_
      rw [found, Option.getD_some, Json.mergePatch, Json.asMap_object_entries]
      rfl
    rw [patched]
    refine ⟨resource.insert_metadata ⟨_, rfl⟩, object_eq_ok_iff.mpr
      ⟨{ metadata with finalizers? := some finalizers }, spec, status?, ?_, ?_, ?_, rfl⟩⟩
    · rw [OrderedMap.get?_insert_self]
      exact Metadata.decode_insert_finalizers readMetadata finalizers
    · rwa [OrderedMap.get?_insert_of_ne (by decide)]
    · rwa [OrderedMap.get?_insert_of_ne (by decide)]

theorem mergePatch_active {kind : PipelineKind} {stored : PipelineFlow}
    (mirrors : Mirrors (PipelineFlow.decode kind) object stored) :
    Mirrors (PipelineFlow.decode kind)
      (object.mergePatch (statusPatch (.ofMembers [("active", .boolean false)])))
      (stored.withStatus { active? := some false }) := by
  obtain ⟨resource, reads⟩ := mirrors
  obtain ⟨members, rfl⟩ := resource.isRecord
  have patched : (Json.object members.entries).mergePatch
      (statusPatch (.ofMembers [("active", .boolean false)])) = _ :=
    Json.mergePatch_single members "status" _
  have isRecord := Json.isRecord_mergePatch ((members.get? "status").getD .null)
    [("active", .boolean false)]
  rw [patched]
  refine ⟨resource.insert_status isRecord, ?_⟩
  cases kind with
  | flow =>
    obtain ⟨flow, readFlow, rfl⟩ := map_eq_ok_iff.mp reads
    obtain ⟨metadata, spec, status?, rfl, -, next⟩ := record_insert_status readFlow
    exact map_eq_ok_iff.mpr
      ⟨_, next _ _ isRecord (FlowStatus.decode_mergePatch_active _), rfl⟩
  | clusterFlow =>
    obtain ⟨flow, readFlow, rfl⟩ := map_eq_ok_iff.mp reads
    obtain ⟨metadata, spec, status?, rfl, -, next⟩ := record_insert_status readFlow
    exact map_eq_ok_iff.mpr
      ⟨_, next _ _ isRecord (FlowStatus.decode_mergePatch_active _), rfl⟩

end Mirrors

end FlowTesting
