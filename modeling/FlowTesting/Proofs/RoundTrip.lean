import FlowTesting.Pipeline.Output
import FlowTesting.Proofs.ApiServer.Patches

set_option autoImplicit false

/-!
# Reading what has been written

A record is written as an object of the fields that have something to say: an option that is
none and a list that is empty are left out, and their absence is read as just that. So each body
of a custom resource is read back as it was, from its written form and from any other order of the
members in it, whatever the opaque rules in it hold.
-/

namespace FlowTesting

theorem Json.ofFields_ne_null (fields : List (String × Option Json)) : ofFields fields ≠ .null := by
  simp [ofFields, ofMembers]

namespace Decode

variable {α β : Type}

/-- Whether a reader reads back what has been written of each value. -/
def Restores (read : Reader α) (encode : α → Json) : Prop :=
  ∀ value, read (.known (encode value)) = .ok value

theorem restores_text : Restores text .text := fun _ => rfl

theorem restores_boolean : Restores boolean .boolean := fun _ => rfl

theorem Restores.of_writes {read : Reader α} {encode : α → Json} (restores : Restores read encode)
    (faithful : Faithful read) {value : α} {document : Document}
    (writes : document.Writes (encode value)) : read document = .ok value := by
  have same := faithful document _ ⟨_, writes, rfl⟩
  rw [restores value] at same
  cases found : read document with
  | error fault =>
    rw [found] at same
    cases same
  | ok other =>
    rw [found] at same
    exact congrArg Except.ok (Option.some.inj same)

section Parts

variable {read : Reader α} {encode : α → Json}

theorem Restores.reads_some (restores : Restores read encode) (absent? : Option α) (value : α) :
    Reads read absent? (some (encode value)) value := restores value

/-- A value that is never written as null may be left out when there is none. -/
theorem Restores.reads_option (restores : Restores read encode)
    (written : ∀ value, encode value ≠ .null) (value? : Option α) :
    Reads (nullable read) (some none) (value?.map encode) value? := by
  cases value? with
  | none => rfl
  | some value =>
    have restored : (read (.known (encode value))).map some = .ok (some value) :=
      congrArg (Except.map some) (restores value)
    have notNull := written value
    show nullable read (.known (encode value)) = .ok (some value)
    cases form : encode value with
    | null => exact absurd form notNull
    | boolean | number | text | array | object =>
      rw [form] at restored
      exact restored

theorem Restores.reads_unlessEmpty (restores : Restores read encode) (values : List α) :
    Reads (list read) (some []) (Json.unlessEmpty encode values) values := by
  cases values with
  | nil => rfl
  | cons value rest => exact list_known restores (value :: rest)

end Parts

namespace Fields

/-- Whether fields are read as a value of every object that has these parts and lacks those that
there are none of. -/
def Recalls (fields : Fields α) (parts : List (String × Option Json)) (value : α) : Prop :=
  ∀ members : OrderedMap String Json, (∀ part ∈ parts, members.get? part.1 = part.2) →
    fields.ofMembers (Document.ofEntries members.entries) = .ok value

variable {parts others : List (String × Option Json)}

theorem recalls_field {key : String} {read : Reader α} {absent : Option α} {part? : Option Json}
    {value : α} (reads : Reads read absent part? value) (missingPlace : Option α) :
    Recalls (field key read absent missingPlace) [(key, part?)] value := by
  intro members told
  rw [field_eq_ok_iff, told _ List.mem_cons_self]
  exact reads

theorem recalls_required {key : String} {read : Reader α} {encode : α → Json}
    (restores : Restores read encode) (value : α) :
    Recalls (required key read) [(key, some (encode value))] value :=
  recalls_field (restores.reads_some none value) none

theorem recalls_defaulted {key : String} {read : Reader α} {absent value : α}
    {part? : Option Json} (reads : Reads read (some absent) part? value) :
    Recalls (defaulted key read absent) [(key, part?)] value := recalls_field reads (some absent)

theorem Recalls.map {fields : Fields α} {argument : α} (recalls : fields.Recalls parts argument)
    (function : α → β) : Recalls (function <$> fields) parts (function argument) :=
  fun members told => ofMembers_map_eq_ok.mpr ⟨argument, recalls members told, rfl⟩

theorem Recalls.seq {first : Fields (α → β)} {second : Fields α} {function : α → β} {argument : α}
    (recallsFirst : first.Recalls parts function)
    (recallsSecond : second.Recalls others argument) :
    Recalls (first <*> second) (parts ++ others) (function argument) := by
  intro members told
  obtain ⟨toldFirst, toldSecond⟩ := List.forall_mem_append.mp told
  exact ofMembers_seq_eq_ok.mpr
    ⟨function, argument, recallsFirst members toldFirst, recallsSecond members toldSecond, rfl⟩

theorem Recalls.ofMembers_fieldMembers {fields : Fields α} {value : α}
    {all : List (String × Option Json)} (recalls : fields.Recalls parts value) (among : parts ⊆ all)
    (distinct : (all.map (·.1)).Nodup) :
    fields.ofMembers (Document.ofEntries (Json.fieldMembers all).entries) = .ok value :=
  recalls _ (fun _ member => Json.get?_fieldMembers distinct (among member))

/-- A record is read back from the object of its fields. -/
theorem Recalls.record {fields : Fields α} {value : α} (recalls : fields.Recalls parts value)
    (distinct : (parts.map (·.1)).Nodup) (typeName : String) (surplus : Nat → String) :
    record fields typeName surplus (.known (.ofFields parts)) = .ok value :=
  record_known_eq_ok_iff.mpr (recalls.ofMembers_fieldMembers (List.Subset.refl _) distinct)

/-- A part of a record is read back from the object of all of its fields. -/
theorem Recalls.recordFromObject {fields : Fields α} {value : α}
    {all : List (String × Option Json)} (recalls : fields.Recalls parts value) (among : parts ⊆ all)
    (distinct : (all.map (·.1)).Nodup) (typeName : String) :
    recordFromObject fields typeName (.known (.ofFields all)) = .ok value := by
  change Fields.record fields typeName surplusInArray (.known (.ofFields all)) = .ok value
  exact record_known_eq_ok_iff.mpr (recalls.ofMembers_fieldMembers among distinct)

theorem Faithful.recordFromObject {fields : Fields α} (faithful : fields.Faithful)
    (typeName : String) : Decode.Faithful (recordFromObject fields typeName) := by
  intro document known alike
  obtain ⟨value, writes, rfl⟩ := alike
  cases writes.writing with
  | known => rfl
  | array => rfl
  | object distinct alike => exact faithful.ofDistinct (occurAlike_of_distinct distinct alike)

end Fields

/-- Whether the values of a type come back from being written. -/
structure RoundTrips (read : Reader α) (encode : α → Json) : Prop where
  written : ∀ value, read (.known (encode value)) = .ok value
  /-- The members of the objects in a written form may stand in any order. -/
  writtenAnyhow : ∀ value document, document.Writes (encode value) → read document = .ok value
  /-- What has been read, from whatever document, is read again from its own written form. -/
  reread : ∀ document value, read document = .ok value → read (.known (encode value)) = .ok value

theorem Restores.roundTrips {read : Reader α} {encode : α → Json}
    (restores : Restores read encode) (faithful : Faithful read) : RoundTrips read encode where
  written := restores
  writtenAnyhow _ _ := restores.of_writes faithful
  reread _ value _ := restores value

end Decode

open Decode Decode.Fields

section Flows

theorem Rule.restores_decode : Restores decode encode := fun _ => rfl

theorem FlowStatus.restores_decode : Restores decode encode := fun status =>
  Recalls.record ((recalls_defaulted
    (restores_boolean.reads_option (by simp) status.active?)).map FlowStatus.mk) (by simp) _ _

theorem FlowSpec.restores_decode : Restores decode encode := fun spec =>
  Recalls.record
    ((recalls_defaulted (Rule.restores_decode.reads_unlessEmpty spec.matchRules)).map FlowSpec.mk
      |>.seq (recalls_defaulted (Rule.restores_decode.reads_unlessEmpty spec.filters))
      |>.seq (recalls_defaulted (restores_text.reads_unlessEmpty spec.localOutputRefs))
      |>.seq (recalls_defaulted (restores_text.reads_unlessEmpty spec.globalOutputRefs)))
    (by simp) _ _

theorem ClusterFlowSpec.restores_decode : Restores decode encode := fun spec =>
  Recalls.record
    ((recalls_defaulted
        (Rule.restores_decode.reads_unlessEmpty spec.matchRules)).map ClusterFlowSpec.mk
      |>.seq (recalls_defaulted (Rule.restores_decode.reads_unlessEmpty spec.filters))
      |>.seq (recalls_defaulted (restores_text.reads_unlessEmpty spec.globalOutputRefs)))
    (by simp) _ _

end Flows

section Outputs

theorem Buffer.restores_decode (surplus : Surplus) : Restores (decode surplus) encode :=
  fun buffer => Recalls.record
    ((recalls_defaulted
        (restores_text.reads_option (by simp) buffer.flushMode?)).map Buffer.mk
      |>.seq (recalls_defaulted
        (restores_text.reads_option (by simp) buffer.flushInterval?)))
    (by simp) _ _

theorem HttpOutput.restores_decode (surplus : Surplus) : Restores (decode surplus) encode :=
  fun http => Recalls.record
    ((recalls_required restores_text http.endpoint).map HttpOutput.mk
      |>.seq (recalls_defaulted
        ((Buffer.restores_decode surplus).reads_option
          (fun _ => Json.ofFields_ne_null _) http.buffer?)))
    (by simp) _ _

theorem OutputSpec.recalls_sections (surplus : Surplus) (spec : OutputSpec) :
    Recalls (sections surplus) spec.parts spec :=
  (recalls_defaulted
    ((HttpOutput.restores_decode surplus).reads_option
      (fun _ => Json.ofFields_ne_null _) spec.http?)).map OutputSpec.mk

theorem OutputSpec.restores_decode : Restores decode encode := fun spec =>
  (OutputSpec.recalls_sections _ spec).record (by simp [OutputSpec.parts]) _ _

/-- Each section finds its own members in the one object that all of them are written into. -/
theorem ClusterOutputSpec.restores_decode : Restores decode encode := by
  intro spec
  have distinct : ((spec.output.parts ++ [("enabledNamespaces",
      Json.unlessEmpty .text spec.enabledNamespaces)]).map (·.1)).Nodup := by
    simp [OutputSpec.parts]
  have namespaces := (recalls_defaulted
    (restores_text.reads_unlessEmpty spec.enabledNamespaces)).recordFromObject
      (List.subset_append_right _ _) distinct "ClusterOutputSpec"
  have output := (OutputSpec.recalls_sections surplusInSequence spec.output).recordFromObject
    (List.subset_append_left _ _) distinct "ClusterOutputSpec"
  show decode (.known (.ofFields _)) = _
  simp only [decode, namespaces, output]
  rfl

theorem Buffer.faithful_decode (surplus : Surplus) : Decode.Faithful (decode surplus) :=
  Faithful.record ((faithful_defaulted faithful_text.nullable _).map
    |>.seq (faithful_defaulted faithful_text.nullable _)) _ _

theorem HttpOutput.faithful_decode (surplus : Surplus) : Decode.Faithful (decode surplus) :=
  Faithful.record ((faithful_required faithful_text).map
    |>.seq (faithful_defaulted (Buffer.faithful_decode surplus).nullable _)) _ _

theorem OutputSpec.faithful_sections (surplus : Surplus) : Fields.Faithful (sections surplus) :=
  (faithful_defaulted (HttpOutput.faithful_decode surplus).nullable _).map

theorem OutputSpec.faithful_decode : Decode.Faithful decode :=
  Faithful.record (faithful_sections _) _ _

theorem ClusterOutputSpec.faithful_decode : Decode.Faithful decode := by
  intro document known alike
  have faithful : Fields.Faithful (defaulted "enabledNamespaces" (Decode.list Decode.text) []) :=
    faithful_defaulted faithful_text.list []
  have namespaces := Faithful.recordFromObject faithful "ClusterOutputSpec" document known alike
  have output := Faithful.recordFromObject (OutputSpec.faithful_sections surplusInSequence)
    "ClusterOutputSpec" document known alike
  obtain ⟨value, writes, rfl⟩ := alike
  have readable : document.isReadable = true := by
    rw [Document.isReadable, writes.stands]
    rfl
  simp only [decode, toOption_bind, namespaces, output, readable]
  rfl

end Outputs

section FlowTests

theorem FlowTestPhase.restores_decode : Restores decode encode := by
  intro phase
  show named phase.text = .ok phase
  rw [named, ofText?_text]

theorem FlowTestStatus.restores_decode : Restores decode encode := fun status =>
  Recalls.record
    ((recalls_defaulted (FlowTestPhase.restores_decode.reads_option
        (by simp [FlowTestPhase.encode]) status.phase?)).map FlowTestStatus.mk
      |>.seq (recalls_defaulted (restores_boolean.reads_unlessEmpty status.matchStatus))
      |>.seq (recalls_defaulted (restores_boolean.reads_unlessEmpty status.filterStatus)))
    status.nodup_fields _ _

theorem ReferenceObject.restores_decode : Restores decode encode := fun reference =>
  Recalls.record
    ((recalls_defaulted (restores_text.reads_some _ reference.kind)).map ReferenceObject.mk
      |>.seq (recalls_required restores_text reference.name)
      |>.seq (recalls_required restores_text reference.namespaceName))
    (by simp) _ _

theorem FlowTestSpec.restores_decode : Restores decode encode := fun spec =>
  Recalls.record
    ((recalls_required ReferenceObject.restores_decode spec.referencePod).map FlowTestSpec.mk
      |>.seq (recalls_required ReferenceObject.restores_decode spec.referenceFlow)
      |>.seq (recalls_defaulted
        (Restores.reads_some (list_known restores_text) _ spec.sentMessages)))
    (by simp) _ _

end FlowTests

/-- Bodies are read back from what has been written of them. -/
theorem bodies_round_trip :
    RoundTrips FlowSpec.decode FlowSpec.encode ∧
    RoundTrips ClusterFlowSpec.decode ClusterFlowSpec.encode ∧
    RoundTrips FlowStatus.decode FlowStatus.encode ∧
    RoundTrips OutputSpec.decode OutputSpec.encode ∧
    RoundTrips ClusterOutputSpec.decode ClusterOutputSpec.encode ∧
    RoundTrips ReferenceObject.decode ReferenceObject.encode ∧
    RoundTrips FlowTestSpec.decode FlowTestSpec.encode ∧
    RoundTrips FlowTestStatus.decode FlowTestStatus.encode :=
  ⟨FlowSpec.restores_decode.roundTrips FlowSpec.faithful_decode,
    ClusterFlowSpec.restores_decode.roundTrips ClusterFlowSpec.faithful_decode,
    FlowStatus.restores_decode.roundTrips FlowStatus.faithful_decode,
    OutputSpec.restores_decode.roundTrips OutputSpec.faithful_decode,
    ClusterOutputSpec.restores_decode.roundTrips ClusterOutputSpec.faithful_decode,
    ReferenceObject.restores_decode.roundTrips ReferenceObject.faithful_decode,
    FlowTestSpec.restores_decode.roundTrips FlowTestSpec.faithful_decode,
    FlowTestStatus.restores_decode.roundTrips FlowTestStatus.faithful_decode⟩

end FlowTesting
