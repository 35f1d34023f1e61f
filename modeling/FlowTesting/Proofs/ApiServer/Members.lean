import FlowTesting.Proofs.ApiServer.Fidelity

set_option autoImplicit false

/-!
# Reading the members of an object

What is read of an object with each key once depends on what it has at the keys of the fields,
so a merge patch changes what is read just at the keys that it names.
-/

namespace FlowTesting

namespace Json

/-- Whether a value is an object with each key once. -/
def IsRecord (value : Json) : Prop :=
  ∃ members : OrderedMap String Json, value = .object members.entries

instance : DecidablePred IsRecord
  | .object entries =>
    if ascending : entries.Pairwise (fun left right => compare left.1 right.1 = .lt) then
      isTrue ⟨⟨entries, ascending⟩, rfl⟩
    else isFalse (fun ⟨members, same⟩ =>
      ascending ((Json.object.inj same).symm ▸ members.ascending))
  | .null | .boolean _ | .number _ | .text _ | .array _ => isFalse nofun

instance (value : Json) : Decidable (value = .null) :=
  match value with
  | .null => isTrue rfl
  | .boolean _ | .number _ | .text _ | .array _ | .object _ => isFalse nofun

/-- What a patch leaves at a key. -/
theorem get?_mergeMembers_entries (fields patch : OrderedMap String Json) (key : String) :
    (mergeMembers fields patch.entries).get? key =
      (patch.get? key).elim (fields.get? key) (mergeMember (fields.get? key)) := by
  cases found : patch.get? key with
  | some value =>
    exact get?_mergeMembers_of_mem (OrderedMap.nodup_keys patch)
      (OrderedMap.get?_eq_some_iff.mp found)
  | none =>
    refine get?_mergeMembers_of_notMem (fun present => ?_)
    obtain ⟨⟨_, value⟩, member, rfl⟩ := List.mem_map.mp present
    rw [OrderedMap.get?_eq_some_iff.mpr member] at found
    cases found

end Json

namespace Decode

variable {α β : Type}

/-- What is read of a member, which may be absent if there is a value for that. -/
def Reads (read : Reader α) (absent? : Option α) (part? : Option Json) (value : α) : Prop :=
  match part? with
  | some part => read (.known part) = .ok value
  | none => absent? = some value

theorem map_eq_ok_iff {ε : Type} {function : α → β} {outcome : Except ε α} {value : β} :
    outcome.map function = .ok value ↔ ∃ argument, outcome = .ok argument ∧
      function argument = value := by
  cases outcome <;> simp [Except.map]

theorem list_known {read : Reader α} {encode : α → Json}
    (reads : ∀ value, read (.known (encode value)) = .ok value) (values : List α) :
    list read (.known (.array (values.map encode))) = .ok values := by
  show ((values.map encode).map Document.known).mapM read = .ok values
  rw [mapM_eq_ok_iff, List.map_map, List.forall₂_map_left_iff]
  exact List.forall₂_same.mpr (fun value _ => reads value)

namespace Fields

variable {members : OrderedMap String Json} {key : String} {read : Reader α}

theorem occurrences_ofEntries (members : OrderedMap String Json) (key : String) :
    occurrences key (Document.ofEntries members.entries) =
      ((members.get? key).map Document.known).toList := by
  have once := length_occurrences_le (Document.nodup_ofEntries members.nodup_keys) key
  have occurs : ∀ document, document ∈ occurrences key (Document.ofEntries members.entries) ↔
      ∃ value, members.get? key = some value ∧ document = .known value := by
    intro document
    simp only [occurrences, Document.ofEntries, List.mem_map, List.mem_filter, beq_iff_eq,
      OrderedMap.get?_eq_some_iff]
    constructor
    · rintro ⟨_, ⟨⟨⟨_, value⟩, member, rfl⟩, rfl⟩, rfl⟩
      exact ⟨value, member, rfl⟩
    · rintro ⟨value, member, rfl⟩
      exact ⟨_, ⟨⟨_, member, rfl⟩, rfl⟩, rfl⟩
  cases found : members.get? key with
  | none =>
    refine List.eq_nil_iff_forall_not_mem.mpr (fun document member => ?_)
    obtain ⟨value, impossible, -⟩ := (occurs document).mp member
    rw [found] at impossible
    cases impossible
  | some value =>
    have member := (occurs (.known value)).mpr ⟨value, found, rfl⟩
    cases split : occurrences key (Document.ofEntries members.entries) with
    | nil =>
      rw [split] at member
      cases member
    | cons first rest =>
      rw [split] at member once
      obtain rfl : rest = [] := List.eq_nil_of_length_eq_zero
        (Nat.le_zero.mp (Nat.le_of_succ_le_succ once))
      exact congrArg (fun document => [document]) (List.mem_singleton.mp member).symm

theorem field_eq_ok_iff {absent missingPlace : Option α} {value : α} :
    (field key read absent missingPlace).ofMembers (Document.ofEntries members.entries) =
      .ok value ↔ Reads read absent (members.get? key) value := by
  simp only [field, occurrences_ofEntries]
  cases members.get? key with
  | none => cases absent <;> simp [Reads, readLast]
  | some part =>
    simp only [Option.map_some, Option.toList_some, readLast, Reads]
    cases read (.known part) <;> simp [Except.map]

theorem mapError_eq_ok_iff {ε φ : Type} {function : ε → φ} {outcome : Except ε α} {value : α} :
    outcome.mapError function = .ok value ↔ outcome = .ok value := by
  cases outcome <;> simp [Except.mapError]

theorem record_known_eq_ok_iff {fields : Fields α} {typeName : String}
    {surplus : Nat → String} {value : α} :
    record fields typeName surplus (.known (.object members.entries)) = .ok value ↔
      fields.ofMembers (Document.ofEntries members.entries) = .ok value := by
  have distinct : fields.repeated? (Document.ofEntries members.entries) = none := by
    refine List.find?_eq_none.mpr (fun key _ => ?_)
    have once := length_occurrences_le (Document.nodup_ofEntries members.nodup_keys) key
    simpa using once
  show fields.ofDistinct (Document.ofEntries members.entries) = .ok value ↔ _
  rw [ofDistinct, distinct]
  exact mapError_eq_ok_iff

theorem fromObject_known_eq_ok_iff {fields : Fields α} {expected : String} {value : α} :
    fromObject fields expected (.known (.object members.entries)) = .ok value ↔
      fields.ofMembers (Document.ofEntries members.entries) = .ok value :=
  mapError_eq_ok_iff

end Fields

end Decode

open Decode Decode.Fields

section Records

variable {α : Type} {members : OrderedMap String Json}

theorem FlowTestStatus.decode_eq_ok_iff {status : FlowTestStatus} :
    decode (.known (.object members.entries)) = .ok status ↔
      Reads (nullable FlowTestPhase.decode) (some none) (members.get? "status") status.phase? ∧
      Reads (list boolean) (some []) (members.get? "matchStatus") status.matchStatus ∧
      Reads (list boolean) (some []) (members.get? "filterStatus") status.filterStatus := by
  rw [decode, record_known_eq_ok_iff]
  simp only [ofMembers_seq_eq_ok, ofMembers_map_eq_ok, defaulted, field_eq_ok_iff]
  constructor
  · rintro ⟨_, _, ⟨_, _, ⟨_, phase, rfl⟩, matched, rfl⟩, filtered, rfl⟩
    exact ⟨phase, matched, filtered⟩
  · rintro ⟨phase, matched, filtered⟩
    exact ⟨_, _, ⟨_, _, ⟨_, phase, rfl⟩, matched, rfl⟩, filtered, rfl⟩

theorem FlowStatus.decode_eq_ok_iff {status : FlowStatus} :
    decode (.known (.object members.entries)) = .ok status ↔
      Reads (nullable boolean) (some none) (members.get? "active") status.active? := by
  rw [decode, record_known_eq_ok_iff]
  simp only [ofMembers_map_eq_ok, defaulted, field_eq_ok_iff]
  constructor
  · rintro ⟨_, active, rfl⟩
    exact active
  · exact fun active => ⟨_, active, rfl⟩

/-- The finalizers of an object are read apart from the rest of its metadata. -/
theorem Metadata.decode_insert_finalizers {metadata : Metadata}
    (decoded : decode (.known (.object members.entries)) = .ok metadata)
    (finalizers : List String) :
    decode (.known (.object (members.insert "finalizers" (.texts finalizers)).entries)) =
      .ok { metadata with finalizers? := some finalizers } := by
  have kept : ∀ {α : Type} {key : String} {read : Reader α} {value : Option α}, key ≠ "finalizers" →
      (Fields.optional key read).ofMembers (Document.ofEntries members.entries) = .ok value →
        (Fields.optional key read).ofMembers (Document.ofEntries
          (members.insert "finalizers" (.texts finalizers)).entries) = .ok value := by
    intro α key read value other found
    rw [Fields.optional, field_eq_ok_iff] at found ⊢
    rwa [OrderedMap.get?_insert_of_ne other]
  have replaced : (Fields.optional "finalizers" (list text)).ofMembers (Document.ofEntries
      (members.insert "finalizers" (.texts finalizers)).entries) = .ok (some finalizers) := by
    rw [Fields.optional, field_eq_ok_iff, OrderedMap.get?_insert_self]
    exact congrArg (Except.map some) (list_known (fun _ => rfl) finalizers)
  rw [decode, fromObject_known_eq_ok_iff] at decoded ⊢
  simp only [ofMembers_seq_eq_ok, ofMembers_map_eq_ok] at decoded ⊢
  obtain
    ⟨_, _, ⟨_, _, ⟨_, _, ⟨_, _, ⟨_, _, ⟨_, _, ⟨_, _, ⟨_, _, ⟨_, _, ⟨_, _, ⟨_, _, ⟨_, _, ⟨_, _,
    ⟨_, _, ⟨_, annotations, rfl⟩, created, rfl⟩, grace, rfl⟩, deleted, rfl⟩, -, rfl⟩,
    generateName, rfl⟩, generation, rfl⟩, labels, rfl⟩, managed, rfl⟩, name, rfl⟩, namespaced,
    rfl⟩, owners, rfl⟩, version, rfl⟩, selfLink, rfl⟩, uid, rfl⟩ := decoded
  exact
    ⟨_, _, ⟨_, _, ⟨_, _, ⟨_, _, ⟨_, _, ⟨_, _, ⟨_, _, ⟨_, _, ⟨_, _, ⟨_, _, ⟨_, _, ⟨_, _, ⟨_, _,
    ⟨_, _, ⟨_, kept (by decide) annotations, rfl⟩, kept (by decide) created, rfl⟩, kept (by
    decide) grace, rfl⟩, kept (by decide) deleted, rfl⟩, replaced, rfl⟩, kept (by decide)
    generateName, rfl⟩, kept (by decide) generation, rfl⟩, kept (by decide) labels, rfl⟩, kept
    (by decide) managed, rfl⟩, kept (by decide) name, rfl⟩, kept (by decide) namespaced, rfl⟩,
    kept (by decide) owners, rfl⟩, kept (by decide) version, rfl⟩, kept (by decide) selfLink,
    rfl⟩, kept (by decide) uid, rfl⟩

section Objects

variable {β γ : Type} {make : Metadata → β → Option γ → α} {spec : Reader β} {status : Reader γ}
  {typeName : String} {surplus : Nat → String}

/-- Reads an object with metadata, a specification and a status, which it may lack. -/
theorem object_eq_ok_iff {value : α} :
    record (make <$> required "metadata" Metadata.decode <*> required "spec" spec
        <*> Fields.optional "status" status) typeName surplus
        (.known (.object members.entries)) = .ok value ↔
      ∃ metadata specification status?,
        Reads Metadata.decode none (members.get? "metadata") metadata ∧
        Reads spec none (members.get? "spec") specification ∧
        Reads (nullable status) (some none) (members.get? "status") status? ∧
        make metadata specification status? = value := by
  rw [record_known_eq_ok_iff]
  simp only [ofMembers_seq_eq_ok, ofMembers_map_eq_ok, required, Fields.optional, field_eq_ok_iff]
  constructor
  · rintro ⟨_, _, ⟨_, _, ⟨_, readMetadata, rfl⟩, readSpec, rfl⟩, readStatus, rfl⟩
    exact ⟨_, _, _, readMetadata, readSpec, readStatus, rfl⟩
  · rintro ⟨_, _, _, readMetadata, readSpec, readStatus, rfl⟩
    exact ⟨_, _, ⟨_, _, ⟨_, readMetadata, rfl⟩, readSpec, rfl⟩, readStatus, rfl⟩

end Objects

end Records

end FlowTesting
