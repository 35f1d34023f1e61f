import FlowTesting.FlowTest.Basic
import FlowTesting.Pipeline.Flow
import FlowTesting.Proofs.ApiServer.Reading
import Mathlib.Data.List.Nodup
import Mathlib.Data.List.Perm.Basic

set_option autoImplicit false

/-!
# Reading a document for its value

An object may be written in many ways, with its members in any order. As long as no key is
repeated, what is read of a document is what is read of the value that it stands for.
-/

namespace FlowTesting

namespace Document

mutual

/-- Whether all of a document stands for values and no object in it repeats a key. -/
def isTidy : Document → Bool
  | .known _ => true
  | .array elements => elementsTidy elements
  | .object members => decide (members.map (·.1)).Nodup && membersTidy members
  | .unreadable => false

def elementsTidy : List Document → Bool
  | [] => true
  | head :: rest => isTidy head && elementsTidy rest

def membersTidy : List (String × Document) → Bool
  | [] => true
  | (_, head) :: rest => isTidy head && membersTidy rest

end

/-- Whether a document is a way to write a value. -/
structure Writes (document : Document) (value : Json) : Prop where
  tidy : document.isTidy = true
  stands : document.value? = some value

/-- Whether a document writes the value that another one is. -/
def Alike (document known : Document) : Prop :=
  ∃ value, document.Writes value ∧ known = .known value

/-- The members of an object, each as a document. -/
def ofEntries (entries : List (String × Json)) : List (String × Document) :=
  entries.map (fun entry => (entry.1, .known entry.2))

def MemberAlike (member known : String × Document) : Prop :=
  member.1 = known.1 ∧ member.2.Alike known.2

theorem alike_of_elements {elements : List Document} {values : List Json}
    (tidy : elementsTidy elements = true) (stand : elementValues? elements = some values) :
    List.Forall₂ Alike elements (values.map .known) := by
  induction elements generalizing values with
  | nil =>
    obtain rfl := Option.some.inj stand
    exact .nil
  | cons head rest ih =>
    obtain ⟨tidyHead, tidyRest⟩ := (Bool.and_eq_true _ _).mp tidy
    obtain ⟨value, stands, standRest⟩ := Option.bind_eq_some_iff.mp stand
    obtain ⟨others, standOthers, same⟩ := Option.bind_eq_some_iff.mp standRest
    obtain rfl := Option.some.inj same
    exact .cons ⟨value, ⟨tidyHead, stands⟩, rfl⟩ (ih tidyRest standOthers)

theorem alike_of_members {members : List (String × Document)} {values : List (String × Json)}
    (tidy : membersTidy members = true) (stand : memberValues? members = some values) :
    List.Forall₂ MemberAlike members (ofEntries values) := by
  induction members generalizing values with
  | nil =>
    obtain rfl := Option.some.inj stand
    exact .nil
  | cons head rest ih =>
    obtain ⟨tidyHead, tidyRest⟩ := (Bool.and_eq_true _ _).mp tidy
    obtain ⟨value, stands, standRest⟩ := Option.bind_eq_some_iff.mp stand
    obtain ⟨others, standOthers, same⟩ := Option.bind_eq_some_iff.mp standRest
    obtain rfl := Option.some.inj same
    exact .cons ⟨rfl, value, ⟨tidyHead, stands⟩, rfl⟩ (ih tidyRest standOthers)

/-- How a document may write a value: it is the value, or it writes its parts. The members of
an object may stand in any order. -/
inductive Writing : Document → Json → Prop where
  | known (value : Json) : Writing (.known value) value
  | array {elements : List Document} {values : List Json} :
      List.Forall₂ Alike elements (values.map .known) → Writing (.array elements) (.array values)
  | object {members : List (String × Document)} {values : List (String × Json)} :
      (values.map (·.1)).Nodup → List.Forall₂ MemberAlike members (ofEntries values) →
      Writing (.object members) (.ofMembers values)

theorem keys_eq_of_alike {members : List (String × Document)} {values : List (String × Json)}
    (alike : List.Forall₂ MemberAlike members (ofEntries values)) :
    members.map (·.1) = values.map (·.1) := by
  induction values generalizing members with
  | nil =>
    cases alike
    rfl
  | cons value values ih =>
    cases alike with
    | cons head rest => exact congrArg₂ List.cons head.1 (ih rest)

theorem Writes.writing {document : Document} {value : Json} (writes : document.Writes value) :
    Writing document value := by
  obtain ⟨tidy, stands⟩ := writes
  cases document with
  | known known =>
    obtain rfl := Option.some.inj stands
    exact .known known
  | array elements =>
    obtain ⟨values, stand, rfl⟩ := Option.map_eq_some_iff.mp stands
    exact .array (alike_of_elements tidy stand)
  | object members =>
    obtain ⟨distinct, tidyMembers⟩ := (Bool.and_eq_true _ _).mp tidy
    obtain ⟨values, stand, rfl⟩ := Option.map_eq_some_iff.mp stands
    have alike := alike_of_members tidyMembers stand
    exact .object (keys_eq_of_alike alike ▸ of_decide_eq_true distinct) alike
  | unreadable => cases tidy

end Document

namespace OrderedMap

variable {κ α : Type} [Ord κ] [Std.TransOrd κ] [Std.LawfulEqOrd κ]

theorem get?_ofList_of_mem {entries : List (κ × α)} (distinct : (entries.map Prod.fst).Nodup)
    {key : κ} {value : α} (member : (key, value) ∈ entries) :
    (ofList entries).get? key = some value :=
  get?_insertAll_of_mem distinct member

theorem get?_ofList_eq_some_iff {entries : List (κ × α)} (distinct : (entries.map (·.1)).Nodup)
    {key : κ} {value : α} : (ofList entries).get? key = some value ↔ (key, value) ∈ entries := by
  refine ⟨fun found => ?_, get?_ofList_of_mem distinct⟩
  by_cases present : ∃ entry ∈ entries, entry.1 = key
  · obtain ⟨entry, member, rfl⟩ := present
    rw [get?_ofList_of_mem distinct member] at found
    exact Option.some.inj found ▸ member
  · have absent : ∀ entry ∈ entries, entry.1 ≠ key :=
      fun entry member same => present ⟨entry, member, same⟩
    rw [ofList, get?_insertAll_of_ne absent] at found
    cases found

theorem perm_entries_ofList {entries : List (κ × α)} (distinct : (entries.map (·.1)).Nodup) :
    (ofList entries).entries.Perm entries := by
  refine (List.perm_ext_iff_of_nodup (List.Nodup.of_map _ (nodup_keys _))
    (List.Nodup.of_map _ distinct)).mpr (fun entry => ?_)
  rw [← get?_eq_some_iff, get?_ofList_eq_some_iff distinct]

theorem ofList_eq_of_perm {left right : List (κ × α)} (distinct : (left.map (·.1)).Nodup)
    (permuted : left.Perm right) : ofList left = ofList right := by
  refine ext (fun key => Option.ext (fun value => ?_))
  rw [get?_ofList_eq_some_iff distinct,
    get?_ofList_eq_some_iff ((permuted.map _).nodup_iff.mp distinct), permuted.mem_iff]

end OrderedMap

namespace Document

theorem nodup_ofEntries {values : List (String × Json)} (distinct : (values.map (·.1)).Nodup) :
    ((ofEntries values).map (·.1)).Nodup := by
  simpa [ofEntries, Function.comp_def] using distinct

theorem perm_ofEntries {values : List (String × Json)} (distinct : (values.map (·.1)).Nodup) :
    (ofEntries values).Perm (ofEntries (OrderedMap.ofList values).entries) :=
  ((OrderedMap.perm_entries_ofList distinct).map _).symm

end Document

namespace Decode

open Document (Alike MemberAlike)

variable {α β : Type}

/-- Whether a reader reads of a document what it reads of the value. -/
def Faithful (read : Reader α) : Prop :=
  ∀ document known, Alike document known → (read document).toOption = (read known).toOption

theorem faithful_text : Faithful text := by
  rintro document _ ⟨value, writes, rfl⟩
  cases writes.writing <;> rfl

theorem faithful_boolean : Faithful boolean := by
  rintro document _ ⟨value, writes, rfl⟩
  cases writes.writing <;> rfl

theorem faithful_integer (typeName : String) (least greatest : Int) :
    Faithful (integer typeName least greatest) := by
  rintro document _ ⟨value, writes, rfl⟩
  cases writes.writing <;> rfl

theorem faithful_timestamp : Faithful timestamp := by
  rintro document _ ⟨value, writes, rfl⟩
  cases writes.writing <;> rfl

theorem faithful_json : Faithful json := by
  rintro document _ ⟨value, writes, rfl⟩
  simp [json, writes.stands, Document.value?]

theorem toOption_bind {ε : Type} (first : Except ε α) (next : α → Except ε β) :
    (first >>= next).toOption = first.toOption.bind (fun value => (next value).toOption) := by
  cases first <;> rfl

theorem toOption_map {ε : Type} (function : α → β) (outcome : Except ε α) :
    (outcome.map function).toOption = outcome.toOption.map function := by
  cases outcome <;> rfl

theorem toOption_mapError {ε φ : Type} (function : ε → φ) (outcome : Except ε α) :
    (outcome.mapError function).toOption = outcome.toOption := by
  cases outcome <;> rfl

/-- Elements that are read alike each are read alike together. -/
theorem toOption_mapM {γ δ ε : Type} {left : γ → Except ε β} {right : δ → Except ε β}
    {lefts : List γ} {rights : List δ}
    (alike : List.Forall₂ (fun first second => (left first).toOption = (right second).toOption)
      lefts rights) : (lefts.mapM left).toOption = (rights.mapM right).toOption := by
  induction alike with
  | nil => rfl
  | cons head _ ih => simp only [List.mapM_cons, toOption_bind, head, ih]

theorem mapM_eq_ok_iff {γ ε : Type} {read : γ → Except ε β} {elements : List γ}
    {results : List β} :
    elements.mapM read = .ok results ↔
      List.Forall₂ (fun element result => read element = .ok result) elements results := by
  induction elements generalizing results with
  | nil =>
    rw [List.forall₂_nil_left_iff, List.mapM_nil]
    exact ⟨fun same => (Except.ok.inj same).symm, fun same => congrArg _ same.symm⟩
  | cons element rest ih =>
    rw [List.forall₂_cons_left_iff, List.mapM_cons]
    cases read element with
    | error fault => simp [bind, Except.bind]
    | ok head =>
      cases others : rest.mapM read with
      | error fault => simp [bind, Except.bind, others, ← ih]
      | ok results => simp [bind, Except.bind, pure, Except.pure, others, ← ih, eq_comm]

theorem Faithful.list {read : Reader α} (faithful : Faithful read) : Faithful (list read) := by
  rintro document _ ⟨value, writes, rfl⟩
  cases writes.writing with
  | known => rfl
  | object => rfl
  | array alike => exact toOption_mapM (alike.imp faithful)

theorem Faithful.nullable {read : Reader α} (faithful : Faithful read) :
    Faithful (nullable read) := by
  rintro document _ ⟨value, writes, rfl⟩
  have same := faithful document _ ⟨value, writes, rfl⟩
  cases writes.writing with
  | known => rfl
  | array | object =>
    show ((read _).map some).toOption = ((read _).map some).toOption
    rw [toOption_map, toOption_map, same]

/-- Reads a member of an object with its key. -/
def member (read : Reader α) (entry : String × Document) : Except DecodeFault (String × α) :=
  (read entry.2).map (entry.1, ·)

theorem keys_eq_of_mapM {read : Reader α} {members : List (String × Document)}
    {results : List (String × α)} (found : members.mapM (member read) = .ok results) :
    results.map (·.1) = members.map (·.1) := by
  have pairs := mapM_eq_ok_iff.mp found
  clear found
  induction pairs with
  | nil => rfl
  | @cons entry result _ _ head _ ih =>
    refine congrArg₂ List.cons ?_ ih
    unfold member at head
    cases found : read entry.2 with
    | error fault => simp [found, Except.map] at head
    | ok value =>
      rw [found] at head
      exact congrArg Prod.fst (Except.ok.inj head).symm

/-- The members of an object are read alike in any order. -/
theorem exists_mapM_of_perm {read : Reader α} {left right : List (String × Document)}
    {results : List (String × α)} (distinct : (left.map (·.1)).Nodup)
    (permuted : left.Perm right) (found : left.mapM (member read) = .ok results) :
    ∃ others, right.mapM (member read) = .ok others ∧
      OrderedMap.ofList others = OrderedMap.ofList results := by
  obtain ⟨others, finds, same⟩ := List.perm_comp_forall₂ permuted.symm (mapM_eq_ok_iff.mp found)
  refine ⟨others, mapM_eq_ok_iff.mpr finds, (OrderedMap.ofList_eq_of_perm ?_ same.symm).symm⟩
  rw [keys_eq_of_mapM found]
  exact distinct

theorem toOption_mapM_of_perm {read : Reader α} {left right : List (String × Document)}
    (distinct : (left.map (·.1)).Nodup) (permuted : left.Perm right) :
    ((left.mapM (member read)).map OrderedMap.ofList).toOption =
      ((right.mapM (member read)).map OrderedMap.ofList).toOption := by
  cases found : left.mapM (member read) with
  | ok results =>
    obtain ⟨others, foundOthers, same⟩ := exists_mapM_of_perm distinct permuted found
    rw [foundOthers]
    exact congrArg some same.symm
  | error fault =>
    cases foundOthers : right.mapM (member read) with
    | error other => rfl
    | ok others =>
      have distinctRight := (permuted.map _).nodup_iff.mp distinct
      obtain ⟨_, impossible, -⟩ := exists_mapM_of_perm distinctRight permuted.symm foundOthers
      rw [found] at impossible
      cases impossible

theorem Faithful.map {read : Reader α} (faithful : Faithful read) : Faithful (map read) := by
  rintro document _ ⟨value, writes, rfl⟩
  cases writes.writing with
  | known => rfl
  | array => rfl
  | @object members values distinct alike =>
    show ((members.mapM (member read)).map OrderedMap.ofList).toOption =
      (((Document.ofEntries (OrderedMap.ofList values).entries).mapM (member read)).map
        OrderedMap.ofList).toOption
    have inOrder : (members.mapM (member read)).toOption =
        ((Document.ofEntries values).mapM (member read)).toOption := by
      refine toOption_mapM (alike.imp (fun written known same => ?_))
      rw [member, member, toOption_map, toOption_map, same.1, faithful _ _ same.2]
    rw [toOption_map, inOrder, ← toOption_map]
    exact toOption_mapM_of_perm (Document.nodup_ofEntries distinct)
      (Document.perm_ofEntries distinct)

theorem faithful_texts : Faithful texts := faithful_text.map

namespace Fields

/-- Whether two lists of members have alike documents at each key, in the same order. -/
def OccurAlike (members known : List (String × Document)) : Prop :=
  ∀ key, List.Forall₂ Alike (occurrences key members) (occurrences key known)

theorem occurAlike_of_forall₂ {members known : List (String × Document)}
    (alike : List.Forall₂ MemberAlike members known) : OccurAlike members known := by
  intro key
  induction alike with
  | nil => exact .nil
  | @cons left right _ _ head _ ih =>
    rw [occurrences_cons, occurrences_cons, head.1]
    split
    next => exact .cons head.2 ih
    next => exact ih

theorem length_occurrences_le {members : List (String × Document)}
    (distinct : (members.map (·.1)).Nodup) (key : String) :
    (occurrences key members).length ≤ 1 := by
  induction members with
  | nil => exact Nat.zero_le 1
  | cons member rest ih =>
    obtain ⟨fresh, distinctRest⟩ := List.nodup_cons.mp distinct
    rw [occurrences_cons]
    split
    next here =>
      subst here
      have none : occurrences member.1 rest = [] := by
        simp only [occurrences, List.map_eq_nil_iff, List.filter_eq_nil_iff, beq_iff_eq]
        exact fun other inRest same => fresh (List.mem_map.mpr ⟨other, inRest, same⟩)
      simp [none]
    next => exact ih distinctRest

/-- A key that is not repeated occurs alike in any order of the members. -/
theorem occurrences_eq_of_perm {left right : List (String × Document)}
    (distinct : (left.map (·.1)).Nodup) (permuted : left.Perm right) (key : String) :
    occurrences key left = occurrences key right := by
  have occur : (occurrences key left).Perm (occurrences key right) :=
    (permuted.filter _).map _
  have once := length_occurrences_le distinct key
  cases found : occurrences key left with
  | nil => exact (List.nil_perm.mp (found ▸ occur)).symm
  | cons document rest =>
    rw [found] at once occur
    obtain rfl : rest = [] := List.eq_nil_of_length_eq_zero
      (Nat.le_zero.mp (Nat.le_of_succ_le_succ once))
    exact List.singleton_perm.mp occur

theorem occurAlike_of_distinct {members : List (String × Document)}
    {values : List (String × Json)} (distinct : (values.map (·.1)).Nodup)
    (alike : List.Forall₂ MemberAlike members (Document.ofEntries values)) :
    OccurAlike members (Document.ofEntries (OrderedMap.ofList values).entries) := by
  intro key
  rw [← occurrences_eq_of_perm (Document.nodup_ofEntries distinct)
    (Document.perm_ofEntries distinct)]
  exact occurAlike_of_forall₂ alike key

/-- Whether fields are read alike of members that occur alike and of elements that are alike. -/
structure Faithful (fields : Fields α) : Prop where
  members : ∀ {members known : List (String × Document)}, OccurAlike members known →
    (fields.ofMembers members).toOption = (fields.ofMembers known).toOption
  elements : ∀ {elements known : List Document} (place : Nat), List.Forall₂ Alike elements known →
    Option.Rel (fun left right => left.1 = right.1 ∧ List.Forall₂ Alike left.2 right.2)
      (fields.ofElements place elements).toOption (fields.ofElements place known).toOption

theorem faithful_pure (value : α) : Faithful (pure value) where
  members _ := rfl
  elements _ alike := .some ⟨rfl, alike⟩

theorem toOption_readLast {read : Reader α} (faithful : Decode.Faithful read)
    {documents known : List Document} (alike : List.Forall₂ Alike documents known) :
    (readLast read documents).toOption = (readLast read known).toOption := by
  induction alike with
  | nil => rfl
  | cons head rest ih =>
    have same := faithful _ _ head
    cases rest with
    | nil => simp only [readLast, toOption_map, same]
    | cons => simp only [readLast, toOption_bind, same, ih]

theorem faithful_field {key : String} {read : Reader α} (faithful : Decode.Faithful read)
    (absent missingPlace : Option α) : Faithful (field key read absent missingPlace) where
  members {members known} alike := by
    have same := toOption_readLast faithful (alike key)
    simp only [field]
    cases left : readLast read (occurrences key members) <;>
      cases right : readLast read (occurrences key known) <;>
      rw [left, right] at same <;> cases same <;> rfl
  elements {elements known} place alike := by
    cases alike with
    | nil =>
      cases missingPlace with
      | none => exact .none
      | some value => exact .some ⟨rfl, .nil⟩
    | cons head rest =>
      have same := faithful _ _ head
      simp only [field, toOption_map, toOption_mapError, same]
      cases (read _).toOption with
      | none => exact .none
      | some value => exact .some ⟨rfl, rest⟩

theorem rel_bind {γ δ ε φ : Type} {related : γ → δ → Prop} {relatedNext : ε → φ → Prop}
    {left : Option γ} {right : Option δ} {next : γ → Option ε} {nextKnown : δ → Option φ}
    (relates : Option.Rel related left right) (nextRelates : ∀ first second,
      related first second → Option.Rel relatedNext (next first) (nextKnown second)) :
    Option.Rel relatedNext (left.bind next) (right.bind nextKnown) := by
  cases relates with
  | none => exact .none
  | some relates => exact nextRelates _ _ relates

theorem toOption_ofMembers_seq (first : Fields (α → β)) (second : Fields α)
    (members : List (String × Document)) :
    ((first <*> second).ofMembers members).toOption =
      (first.ofMembers members).toOption.bind
        (fun function => (second.ofMembers members).toOption.map function) := by
  show ((apply first second).ofMembers members).toOption = _
  simp only [apply]
  cases first.ofMembers members <;> cases second.ofMembers members <;> rfl

theorem Faithful.seq {first : Fields (α → β)} {second : Fields α} (faithfulFirst : first.Faithful)
    (faithfulSecond : second.Faithful) : Faithful (first <*> second) where
  members alike := by
    rw [toOption_ofMembers_seq, toOption_ofMembers_seq, faithfulFirst.members alike,
      faithfulSecond.members alike]
  elements {elements known} place alike := by
    have reads := faithfulFirst.elements place alike
    show Option.Rel _ ((apply first second).ofElements place elements).toOption
      ((apply first second).ofElements place known).toOption
    simp only [apply, toOption_bind]
    refine rel_bind reads (fun left right same => ?_)
    refine rel_bind (faithfulSecond.elements _ same.2) (fun last lastKnown sameLast => ?_)
    exact .some ⟨by rw [same.1, sameLast.1], sameLast.2⟩

theorem Faithful.map {function : α → β} {fields : Fields α} (faithful : fields.Faithful) :
    Faithful (function <$> fields) := (faithful_pure function).seq faithful

theorem repeated?_eq {fields : Fields α} {members known : List (String × Document)}
    (alike : OccurAlike members known) : fields.repeated? members = fields.repeated? known := by
  simp only [repeated?, (alike _).length_eq]

theorem Faithful.ofDistinct {fields : Fields α} (faithful : fields.Faithful)
    {members known : List (String × Document)} (alike : OccurAlike members known) :
    (fields.ofDistinct members).toOption = (fields.ofDistinct known).toOption := by
  simp only [Fields.ofDistinct, repeated?_eq alike]
  split
  next => rfl
  next => rw [toOption_mapError, toOption_mapError, faithful.members alike]

/-- What is read of an array takes all of its elements. -/
theorem toOption_record_array (fields : Fields α) (typeName : String) (surplus : Nat → String)
    (elements : List Document) :
    (record fields typeName surplus (.array elements)).toOption =
      (fields.ofElements 0 elements).toOption.bind
        (fun read => if read.2.isEmpty then some read.1 else none) := by
  simp only [record, Document.form]
  split
  next found => rw [found]; rfl
  next value rest notEmpty found =>
    rw [found]
    cases rest with
    | nil => exact (notEmpty rfl).elim
    | cons => rfl
  next found => rw [found]; rfl
  next found => rw [found]; rfl

theorem Faithful.record {fields : Fields α} (faithful : fields.Faithful) (typeName : String)
    (surplus : Nat → String) : Decode.Faithful (record fields typeName surplus) := by
  rintro document _ ⟨value, writes, rfl⟩
  cases writes.writing with
  | known => rfl
  | @array elements values alike =>
    rw [toOption_record_array]
    refine Eq.trans ?_ (toOption_record_array fields typeName surplus (values.map .known)).symm
    have reads := faithful.elements 0 alike
    generalize (fields.ofElements 0 elements).toOption = left at reads ⊢
    generalize (fields.ofElements 0 (values.map .known)).toOption = right at reads ⊢
    cases reads with
    | none => rfl
    | some same =>
      have bothEmpty : ∀ {left right : List Document}, List.Forall₂ Alike left right →
          left.isEmpty = right.isEmpty := by
        intro left right alike
        cases alike <;> rfl
      simp only [Option.bind_some, same.1, bothEmpty same.2]
  | object distinct alike => exact faithful.ofDistinct (occurAlike_of_distinct distinct alike)

theorem Faithful.fromObject {fields : Fields α} (faithful : fields.Faithful) (expected : String) :
    Decode.Faithful (fromObject fields expected) := by
  rintro document _ ⟨value, writes, rfl⟩
  cases writes.writing with
  | known => rfl
  | array => rfl
  | @object members values distinct alike =>
    show ((fields.ofMembers members).mapError FieldFault.fault).toOption =
      ((fields.ofMembers (Document.ofEntries (OrderedMap.ofList values).entries)).mapError
        FieldFault.fault).toOption
    rw [toOption_mapError, toOption_mapError,
      faithful.members (occurAlike_of_distinct distinct alike)]

theorem faithful_required {key : String} {read : Reader α} (faithful : Decode.Faithful read) :
    Faithful (required key read) := faithful_field faithful none none

theorem faithful_defaulted {key : String} {read : Reader α} (faithful : Decode.Faithful read)
    (absent : α) : Faithful (defaulted key read absent) :=
  faithful_field faithful (some absent) (some absent)

theorem faithful_optional {key : String} {read : Reader α} (faithful : Decode.Faithful read) :
    Faithful (optional key read) := faithful_field faithful.nullable (some none) none

theorem faithful_tolerant {key : String} {read : Reader α} (faithful : Decode.Faithful read)
    (absent : α) : Faithful (tolerant key read absent) := (faithful_optional faithful).map

end Fields

end Decode

section Records

open Decode Decode.Fields

theorem ManagedFields.faithful_decode : Decode.Faithful decode :=
  Faithful.fromObject ((faithful_optional faithful_text).map
    |>.seq (faithful_optional faithful_text)
    |>.seq (faithful_optional faithful_json)
    |>.seq (faithful_optional faithful_text)
    |>.seq (faithful_optional faithful_text)
    |>.seq (faithful_optional faithful_text)
    |>.seq (faithful_optional faithful_timestamp)) _

theorem OwnerReference.faithful_decode : Decode.Faithful decode :=
  Faithful.fromObject ((faithful_tolerant faithful_text _).map
    |>.seq (faithful_optional faithful_boolean)
    |>.seq (faithful_optional faithful_boolean)
    |>.seq (faithful_tolerant faithful_text _)
    |>.seq (faithful_tolerant faithful_text _)
    |>.seq (faithful_tolerant faithful_text _)) _

theorem Metadata.faithful_decode : Decode.Faithful decode :=
  Faithful.fromObject ((faithful_optional faithful_texts).map
    |>.seq (faithful_optional faithful_timestamp)
    |>.seq (faithful_optional (faithful_integer _ _ _))
    |>.seq (faithful_optional faithful_timestamp)
    |>.seq (faithful_optional faithful_text.list)
    |>.seq (faithful_optional faithful_text)
    |>.seq (faithful_optional (faithful_integer _ _ _))
    |>.seq (faithful_optional faithful_texts)
    |>.seq (faithful_optional ManagedFields.faithful_decode.list)
    |>.seq (faithful_optional faithful_text)
    |>.seq (faithful_optional faithful_text)
    |>.seq (faithful_optional OwnerReference.faithful_decode.list)
    |>.seq (faithful_optional faithful_text)
    |>.seq (faithful_optional faithful_text)
    |>.seq (faithful_optional faithful_text)) _

theorem ReferenceObject.faithful_decode : Decode.Faithful decode :=
  Faithful.record ((faithful_defaulted faithful_text _).map
    |>.seq (faithful_required faithful_text)
    |>.seq (faithful_required faithful_text)) _ _

theorem FlowTestSpec.faithful_decode : Decode.Faithful decode :=
  Faithful.record ((faithful_required ReferenceObject.faithful_decode).map
    |>.seq (faithful_required ReferenceObject.faithful_decode)
    |>.seq (faithful_defaulted faithful_text.list _)) _ _

theorem FlowTestPhase.faithful_decode : Decode.Faithful decode := by
  rintro document _ ⟨value, writes, rfl⟩
  cases writes.writing with
  | known => rfl
  | array => rfl
  | @object members values distinct alike =>
    show (decode (.object members)).toOption =
      (decode (.known (.object (OrderedMap.ofList values).entries))).toOption
    cases values with
    | nil =>
      obtain rfl := List.forall₂_nil_right_iff.mp alike
      rfl
    | cons value values =>
      obtain ⟨member, rest, head, alikeRest, rfl⟩ := List.forall₂_cons_right_iff.mp alike
      cases values with
      | nil =>
        obtain rfl := List.forall₂_nil_right_iff.mp alikeRest
        obtain ⟨name, content⟩ := value
        obtain ⟨rfl, _, writes, same⟩ := head
        obtain rfl := Document.known.inj same
        show (decode (.object [(member.1, member.2)])).toOption =
          (decode (.known (.object [(member.1, content)]))).toOption
        generalize member.1 = name, member.2 = document at writes ⊢
        cases phase : named name <;> cases writes.writing <;>
          simp [decode, Document.form, phase] <;> rfl
      | cons second others =>
        -- More members than one are refused, in whatever order they stand.
        obtain ⟨other, last, -, -, rfl⟩ := List.forall₂_cons_right_iff.mp alikeRest
        have length_eq := (OrderedMap.perm_entries_ofList distinct).length_eq
        cases found : (OrderedMap.ofList (value :: second :: others)).entries with
        | nil => simp [found] at length_eq
        | cons first rest =>
          cases rest with
          | nil => simp [found] at length_eq
          | cons => rfl

theorem FlowTestStatus.faithful_decode : Decode.Faithful decode :=
  Faithful.record ((faithful_defaulted FlowTestPhase.faithful_decode.nullable _).map
    |>.seq (faithful_defaulted faithful_boolean.list _)
    |>.seq (faithful_defaulted faithful_boolean.list _)) _ _

theorem FlowTest.faithful_decode : Decode.Faithful decode :=
  Faithful.record ((faithful_required Metadata.faithful_decode).map
    |>.seq (faithful_required FlowTestSpec.faithful_decode)
    |>.seq (faithful_optional FlowTestStatus.faithful_decode)) _ _

theorem Rule.faithful_decode : Decode.Faithful decode := by
  intro document known alike
  show ((json document).map Rule.mk).toOption = ((json known).map Rule.mk).toOption
  rw [toOption_map, toOption_map, faithful_json _ _ alike]

theorem FlowStatus.faithful_decode : Decode.Faithful decode :=
  Faithful.record (faithful_defaulted faithful_boolean.nullable _).map _ _

theorem FlowSpec.faithful_decode : Decode.Faithful decode :=
  Faithful.record ((faithful_defaulted Rule.faithful_decode.list _).map
    |>.seq (faithful_defaulted Rule.faithful_decode.list _)
    |>.seq (faithful_defaulted faithful_text.list _)
    |>.seq (faithful_defaulted faithful_text.list _)) _ _

theorem ClusterFlowSpec.faithful_decode : Decode.Faithful decode :=
  Faithful.record ((faithful_defaulted Rule.faithful_decode.list _).map
    |>.seq (faithful_defaulted Rule.faithful_decode.list _)
    |>.seq (faithful_defaulted faithful_text.list _)) _ _

theorem Flow.faithful_decode : Decode.Faithful decode :=
  Faithful.record ((faithful_required Metadata.faithful_decode).map
    |>.seq (faithful_required FlowSpec.faithful_decode)
    |>.seq (faithful_optional FlowStatus.faithful_decode)) _ _

theorem ClusterFlow.faithful_decode : Decode.Faithful decode :=
  Faithful.record ((faithful_required Metadata.faithful_decode).map
    |>.seq (faithful_required ClusterFlowSpec.faithful_decode)
    |>.seq (faithful_optional FlowStatus.faithful_decode)) _ _

theorem PipelineFlow.faithful_decode (kind : PipelineKind) : Decode.Faithful (decode kind) := by
  intro document known alike
  cases kind with
  | flow => simp only [decode, toOption_map, Flow.faithful_decode _ _ alike]
  | clusterFlow => simp only [decode, toOption_map, ClusterFlow.faithful_decode _ _ alike]

end Records

end FlowTesting
