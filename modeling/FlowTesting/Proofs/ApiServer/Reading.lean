import FlowTesting.ApiServer.Client
import FlowTesting.Proofs.ApiServer.MergePatch

set_option autoImplicit false

/-!
# What is read of an object

A record is read from a document that may repeat its keys and hold parts that stand for
nothing. When it stands for a value as a whole, what is read is what the value shows.
-/

namespace FlowTesting

namespace Json

def asText? : Json → Option String
  | .text value => some value
  | _ => none

def asTexts : Json → List String
  | .array elements => elements.filterMap asText?
  | _ => []

@[simp]
theorem asTexts_texts (values : List String) : (texts values).asTexts = values := by
  simp [texts, asTexts, List.filterMap_map, Function.comp_def, asText?]

/-- The finalizers that an object shows in its metadata. -/
def finalizers (object : Json) : List String :=
  ((((object.asMap.get? "metadata").getD .null).asMap.get? "finalizers").getD .null).asTexts

/-- Patching the finalizers replaces all of them, whatever they have been. -/
theorem finalizers_mergePatch (stored : Json) (values : List String) :
    (stored.mergePatch (ApiServer.finalizersPatch values)).finalizers = values := by
  have patched : ApiServer.finalizersPatch values =
      .object [("metadata", .object [("finalizers", texts values)])] := rfl
  unfold finalizers
  rw [patched, get?_mergePatch_single]
  show (((mergePatch _ (.object [("finalizers", texts values)])).asMap.get? "finalizers").getD
    .null).asTexts = values
  rw [get?_mergePatch_single]
  exact asTexts_texts values

end Json

namespace Document

theorem memberValues?_known (members : List (String × Json)) :
    memberValues? (members.map (fun member => (member.1, .known member.2))) = some members := by
  induction members with
  | nil => rfl
  | cons member rest ih => simp [memberValues?, value?, ih]

theorem elementValues?_known (elements : List Json) :
    elementValues? (elements.map .known) = some elements := by
  induction elements with
  | nil => rfl
  | cons element rest ih => simp [elementValues?, value?, ih]

theorem asMap_of_form_object {document : Document} {members : List (String × Document)}
    {value : Json} (form : document.form = .object members)
    (stands : document.value? = some value) :
    ∃ values, memberValues? members = some values ∧ value.asMap = OrderedMap.ofList values := by
  cases document with
  | known known =>
    obtain rfl := Option.some.inj stands
    cases known with
    | object entries =>
      obtain rfl := Form.object.inj form
      exact ⟨entries, memberValues?_known entries, rfl⟩
    | _ => cases form
  | array elements => cases form
  | object members =>
    obtain rfl := Form.object.inj form
    obtain ⟨values, read, rfl⟩ := Option.map_eq_some_iff.mp stands
    exact ⟨values, read, Json.asMap_object_entries _⟩
  | unreadable => cases form

theorem eq_array_of_form_array {document : Document} {elements : List Document}
    {value : Json} (form : document.form = .array elements)
    (stands : document.value? = some value) :
    ∃ values, elementValues? elements = some values ∧ value = .array values := by
  cases document with
  | known known =>
    obtain rfl := Option.some.inj stands
    cases known with
    | array values =>
      obtain rfl := Form.array.inj form
      exact ⟨values, elementValues?_known values, rfl⟩
    | _ => cases form
  | array elements =>
    obtain rfl := Form.array.inj form
    obtain ⟨values, read, rfl⟩ := Option.map_eq_some_iff.mp stands
    exact ⟨values, read, rfl⟩
  | object members => cases form
  | unreadable => cases form

theorem eq_text_of_form_text {document : Document} {text : String} {value : Json}
    (form : document.form = .text text) (stands : document.value? = some value) :
    value = .text text := by
  cases document with
  | known known =>
    obtain rfl := Option.some.inj stands
    cases known <;> cases form
    rfl
  | _ => cases form

theorem eq_null_of_form_null {document : Document} {value : Json}
    (form : document.form = .null) (stands : document.value? = some value) : value = .null := by
  cases document with
  | known known =>
    obtain rfl := Option.some.inj stands
    cases known <;> cases form
    rfl
  | _ => cases form

end Document

namespace Decode

variable {α β : Type}

theorem bind_eq_ok {first : Except DecodeFault α} {next : α → Except DecodeFault β} {value : β} :
    first >>= next = .ok value ↔ ∃ between, first = .ok between ∧ next between = .ok value := by
  cases first <;> simp [bind, Except.bind]

theorem eq_of_text {document : Document} {result : String} {value : Json}
    (decoded : text document = .ok result) (stands : document.value? = some value) :
    value = .text result := by
  unfold text at decoded
  split at decoded
  next found form =>
    obtain rfl := Except.ok.inj decoded
    exact Document.eq_text_of_form_text form stands
  next => cases decoded

/-- A list of texts is what its value shows. -/
theorem asTexts_of_list_text {document : Document} {values : List String} {value : Json}
    (decoded : list text document = .ok values) (stands : document.value? = some value) :
    value.asTexts = values := by
  unfold list at decoded
  split at decoded
  next elements form =>
    obtain ⟨elementValues, read, rfl⟩ := Document.eq_array_of_form_array form stands
    clear form stands
    induction elements generalizing values elementValues with
    | nil =>
      obtain rfl := Except.ok.inj decoded
      obtain rfl := Option.some.inj read
      rfl
    | cons element rest ih =>
      rw [List.mapM_cons] at decoded
      obtain ⟨head, readHead, decodedRest⟩ := bind_eq_ok.mp decoded
      obtain ⟨others, readOthers, same⟩ := bind_eq_ok.mp decodedRest
      obtain rfl := Except.ok.inj same
      obtain ⟨headValue, standsHead, readRest⟩ := Option.bind_eq_some_iff.mp read
      obtain ⟨otherValues, standOthers, same⟩ := Option.bind_eq_some_iff.mp readRest
      obtain rfl := Option.some.inj same
      obtain rfl := eq_of_text readHead standsHead
      exact congrArg (head :: ·) (ih readOthers otherValues standOthers)
  next => cases decoded

namespace Fields

variable {members : List (String × Document)}

theorem ofMembers_seq_eq_ok {first : Fields (α → β)} {second : Fields α} {value : β} :
    (first <*> second).ofMembers members = .ok value ↔ ∃ function argument,
      first.ofMembers members = .ok function ∧ second.ofMembers members = .ok argument ∧
        function argument = value := by
  show (apply first second).ofMembers members = .ok value ↔ _
  simp only [apply]
  generalize first.ofMembers members = left
  generalize second.ofMembers members = right
  cases left <;> cases right <;> simp

theorem ofMembers_map_eq_ok {function : α → β} {fields : Fields α} {value : β} :
    (function <$> fields).ofMembers members = .ok value ↔ ∃ argument,
      fields.ofMembers members = .ok argument ∧ function argument = value := by
  show (apply (pure function) fields).ofMembers members = .ok value ↔ _
  simp only [apply, pure]
  generalize fields.ofMembers members = read
  cases read <;> simp

theorem readLast_eq_ok {read : Reader α} {documents : List Document} {result? : Option α}
    (found : readLast read documents = .ok result?) :
    documents = [] ∧ result? = none ∨ ∃ earlier last result,
      documents = earlier ++ [last] ∧ read last = .ok result ∧ result? = some result := by
  induction documents with
  | nil => exact .inl ⟨rfl, (Except.ok.inj found).symm⟩
  | cons first rest ih =>
    cases rest with
    | nil =>
      unfold readLast at found
      cases decoded : read first with
      | error fault => simp [decoded, Except.map] at found
      | ok result =>
        have kept : result? = some result := by simpa [decoded, Except.map] using found.symm
        exact .inr ⟨[], first, result, rfl, decoded, kept⟩
    | cons second rest =>
      obtain ⟨-, -, foundLater⟩ := bind_eq_ok.mp found
      rcases ih foundLater with ⟨absurd, -⟩ | ⟨earlier, last, result, split, decoded⟩
      · cases absurd
      · exact .inr ⟨first :: earlier, last, result, congrArg (first :: ·) split, decoded⟩

theorem occurrences_cons (key name : String) (document : Document)
    (rest : List (String × Document)) :
    occurrences key ((name, document) :: rest) =
      if name = key then document :: occurrences key rest else occurrences key rest := by
  by_cases named : name = key <;> simp [occurrences, named]

theorem get?_of_occurrences_nil {key : String} {values : List (String × Json)}
    (stand : Document.memberValues? members = some values)
    (absent : occurrences key members = []) (map : OrderedMap String Json) :
    (map.insertAll values).get? key = map.get? key := by
  induction members generalizing values map with
  | nil =>
    obtain rfl := Option.some.inj stand
    rfl
  | cons member rest ih =>
    obtain ⟨value, -, standRest⟩ := Option.bind_eq_some_iff.mp stand
    obtain ⟨others, standOthers, same⟩ := Option.bind_eq_some_iff.mp standRest
    obtain rfl := Option.some.inj same
    rw [occurrences_cons] at absent
    split at absent
    next => cases absent
    next differs =>
      exact (ih standOthers absent _).trans
        (OrderedMap.get?_insert_of_ne (fun same => differs same.symm))

/-- The members have at a key what the last occurrence of it stands for. -/
theorem get?_of_occurrences_append {key : String} {values : List (String × Json)}
    {earlier : List Document} {last : Document}
    (stand : Document.memberValues? members = some values)
    (occur : occurrences key members = earlier ++ [last]) :
    ∃ value, last.value? = some value ∧
      ∀ map : OrderedMap String Json, (map.insertAll values).get? key = some value := by
  induction members generalizing values earlier with
  | nil => simp [occurrences] at occur
  | cons member rest ih =>
    obtain ⟨head, stands, standRest⟩ := Option.bind_eq_some_iff.mp stand
    obtain ⟨others, standOthers, same⟩ := Option.bind_eq_some_iff.mp standRest
    obtain rfl := Option.some.inj same
    have later : ∀ {earlier}, occurrences key rest = earlier ++ [last] → ∃ value,
        last.value? = some value ∧ ∀ map : OrderedMap String Json,
          (map.insertAll ((member.1, head) :: others)).get? key = some value := by
      intro earlier occurLater
      obtain ⟨value, standsLast, kept⟩ := ih standOthers occurLater
      exact ⟨value, standsLast, fun map => kept (map.insert member.1 head)⟩
    rw [occurrences_cons] at occur
    split at occur
    next here =>
      cases earlier with
      | nil =>
        obtain ⟨rfl, absent⟩ := List.cons.inj occur
        refine ⟨head, stands, fun map => (get?_of_occurrences_nil standOthers absent _).trans ?_⟩
        exact here ▸ OrderedMap.get?_insert_self map member.1 head
      | cons first earlier => exact later (List.cons.inj occur).2
    next => exact later occur

theorem ofMembers_of_mapError {fields : Fields α} {value : α}
    (decoded : (fields.ofMembers members).mapError FieldFault.fault = .ok value) :
    fields.ofMembers members = .ok value := by
  cases read : fields.ofMembers members with
  | error fault =>
    rw [read] at decoded
    cases decoded
  | ok result =>
    rw [read] at decoded
    exact congrArg _ (Except.ok.inj decoded)

theorem fromObject_eq_ok {fields : Fields α} {expected : String} {document : Document} {value : α}
    (decoded : fromObject fields expected document = .ok value) :
    ∃ members, document.form = .object members ∧ fields.ofMembers members = .ok value := by
  unfold fromObject at decoded
  split at decoded
  next members form =>
    exact ⟨members, form, ofMembers_of_mapError decoded⟩
  next => cases decoded

/-- Of a document that stands for an object, a record is read by the names of its fields. -/
theorem record_eq_ok {fields : Fields α} {typeName : String} {surplus : Nat → String}
    {document : Document} {value : α} {shown : List (String × Json)}
    (decoded : record fields typeName surplus document = .ok value)
    (stands : document.value? = some (.object shown)) :
    ∃ members, document.form = .object members ∧ fields.ofMembers members = .ok value := by
  unfold record at decoded
  split at decoded
  next members form =>
    unfold ofDistinct at decoded
    split at decoded
    next => cases decoded
    next => exact ⟨members, form, ofMembers_of_mapError decoded⟩
  next elements form =>
    obtain ⟨values, -, different⟩ := Document.eq_array_of_form_array form stands
    cases different
  next => cases decoded

/-- An optional member is absent, null, or read of what the value has at its key. -/
theorem optional_eq_ok {key : String} {read : Reader α} {result? : Option α} {value : Json}
    {document : Document} (form : document.form = .object members)
    (stands : document.value? = some value)
    (decoded : (optional key read).ofMembers members = .ok result?) :
    result? = none ∧ (value.asMap.get? key).getD .null = .null ∨
      ∃ result part shown, result? = some result ∧ read part = .ok result ∧
        part.value? = some shown ∧ value.asMap.get? key = some shown := by
  obtain ⟨values, stand, shows⟩ := Document.asMap_of_form_object form stands
  rw [shows]
  simp only [optional, field] at decoded
  cases found : readLast (nullable read) (occurrences key members) with
  | error fault => simp [found] at decoded
  | ok last? =>
    rw [found] at decoded
    rcases readLast_eq_ok found with ⟨absent, rfl⟩ | ⟨earlier, last, result, occur, readPart, rfl⟩
    · obtain rfl := Except.ok.inj decoded
      exact .inl ⟨rfl, by rw [OrderedMap.ofList, get?_of_occurrences_nil stand absent]; rfl⟩
    · obtain rfl := Except.ok.inj decoded
      obtain ⟨shown, standsLast, kept⟩ := get?_of_occurrences_append stand occur
      unfold nullable at readPart
      split at readPart
      next isNull =>
        obtain rfl := Except.ok.inj readPart
        obtain rfl := Document.eq_null_of_form_null isNull standsLast
        exact .inl ⟨rfl, by rw [OrderedMap.ofList, kept]; rfl⟩
      next =>
        cases readValue : read last with
        | error fault => simp [readValue, Except.map] at readPart
        | ok part =>
          refine .inr ⟨part, last, shown, ?_, readValue, standsLast, kept _⟩
          simpa [readValue, Except.map] using readPart.symm

theorem required_eq_ok {key : String} {read : Reader α} {result : α} {value : Json}
    {document : Document} (form : document.form = .object members)
    (stands : document.value? = some value)
    (decoded : (required key read).ofMembers members = .ok result) :
    ∃ part shown, read part = .ok result ∧ part.value? = some shown ∧
      value.asMap.get? key = some shown := by
  obtain ⟨values, stand, shows⟩ := Document.asMap_of_form_object form stands
  rw [shows]
  simp only [required, field] at decoded
  cases found : readLast read (occurrences key members) with
  | error fault => simp [found] at decoded
  | ok last? =>
    rw [found] at decoded
    rcases readLast_eq_ok found with ⟨-, rfl⟩ | ⟨earlier, last, part, occur, readPart, rfl⟩
    · cases decoded
    · obtain rfl := Except.ok.inj decoded
      obtain ⟨shown, standsLast, kept⟩ := get?_of_occurrences_append stand occur
      exact ⟨last, shown, readPart, standsLast, kept _⟩

end Fields

end Decode

namespace Metadata

/-- The finalizers that are read with the metadata are those that its value shows. -/
theorem finalizers_of_decode {document : Document} {metadata : Metadata} {value : Json}
    (decoded : decode document = .ok metadata) (stands : document.value? = some value) :
    metadata.finalizers = ((value.asMap.get? "finalizers").getD .null).asTexts := by
  obtain ⟨members, form, read⟩ := Decode.Fields.fromObject_eq_ok decoded
  simp only [Decode.Fields.ofMembers_seq_eq_ok, Decode.Fields.ofMembers_map_eq_ok] at read
  obtain ⟨_, _, ⟨_, _, ⟨_, _, ⟨_, _, ⟨_, _, ⟨_, _, ⟨_, _, ⟨_, _, ⟨_, _, ⟨_, _, ⟨_, finalizers?,
    ⟨_, _, ⟨_, _, ⟨_, _, ⟨_, -, rfl⟩, -, rfl⟩, -, rfl⟩, -, rfl⟩, readFinalizers, rfl⟩, -, rfl⟩,
    -, rfl⟩, -, rfl⟩, -, rfl⟩, -, rfl⟩, -, rfl⟩, -, rfl⟩, -, rfl⟩, -, rfl⟩, -, rfl⟩ := read
  show finalizers?.getD [] = _
  rcases Decode.Fields.optional_eq_ok form stands readFinalizers with
    ⟨rfl, isNull⟩ | ⟨finalizers, part, shown, rfl, readPart, standsPart, shows⟩
  · rw [isNull]
    rfl
  · rw [shows]
    exact (Decode.asTexts_of_list_text readPart standsPart).symm

end Metadata

namespace FlowTest

theorem finalizers_of_decode {document : Document} {flowTest : FlowTest}
    {members : List (String × Json)} (decoded : decode document = .ok flowTest)
    (stands : document.value? = some (.object members)) :
    flowTest.metadata.finalizers = (Json.object members).finalizers := by
  obtain ⟨documents, form, read⟩ := Decode.Fields.record_eq_ok decoded stands
  simp only [Decode.Fields.ofMembers_seq_eq_ok, Decode.Fields.ofMembers_map_eq_ok] at read
  obtain ⟨_, _, ⟨_, _, ⟨metadata, readMetadata, rfl⟩, -, rfl⟩, -, rfl⟩ := read
  obtain ⟨part, shown, readPart, standsPart, shows⟩ :=
    Decode.Fields.required_eq_ok form stands readMetadata
  unfold Json.finalizers
  rw [shows]
  exact Metadata.finalizers_of_decode readPart standsPart

end FlowTest

end FlowTesting
