import FlowTesting.Resource.Basic
import FlowTesting.Selector

set_option autoImplicit false

/-!
# Ownership

What the labels of an object tell about the flow test that it was made for, and which
objects the selectors of the controller reach. A selector made from a name that has a
comma in it goes on with further terms, of which the first one names the owner.
-/

namespace FlowTesting

namespace Text

theorem splitOn_eq_cons (separator : Char) (characters : List Char) :
    ∃ rest, splitOn separator characters = characters.takeWhile (· != separator) :: rest := by
  induction characters with
  | nil => exact ⟨[], rfl⟩
  | cons character characters ih =>
    by_cases same : character = separator
    · exact ⟨splitOn separator characters, by simp [splitOn, same]⟩
    · obtain ⟨rest, split⟩ := ih
      exact ⟨rest, by simp [splitOn, split, same]⟩

theorem splitOn_of_notMem {separator : Char} {characters : List Char}
    (absent : separator ∉ characters) : splitOn separator characters = [characters] := by
  induction characters with
  | nil => rfl
  | cons character characters ih =>
    obtain ⟨differs, absentRest⟩ := List.ne_and_not_mem_of_not_mem_cons absent
    simp [splitOn, ih absentRest, differs.symm]

theorem splitOnce?_append {separator : Char} {before : List Char} (after : List Char)
    (absent : separator ∉ before) :
    splitOnce? separator (before ++ separator :: after) = some (before, after) := by
  induction before with
  | nil => simp [splitOnce?]
  | cons character before ih =>
    obtain ⟨differs, absentRest⟩ := List.ne_and_not_mem_of_not_mem_cons absent
    simp [splitOnce?, ih absentRest, differs.symm]

end Text

namespace OrderedMap

variable {κ α : Type} [Ord κ] [Std.TransOrd κ] [Std.LawfulEqOrd κ]

theorem get?_insertAll_of_ne {map : OrderedMap κ α} {entries : List (κ × α)} {key : κ}
    (absent : ∀ entry ∈ entries, entry.1 ≠ key) : (map.insertAll entries).get? key = map.get? key := by
  induction entries generalizing map with
  | nil => rfl
  | cons entry entries ih =>
    obtain ⟨differs, absentRest⟩ := List.forall_mem_cons.mp absent
    exact (ih absentRest).trans (get?_insert_of_ne differs.symm)

theorem get?_insertAll_append (map : OrderedMap κ α) (entries : List (κ × α)) (key : κ) (value : α)
    {others : List (κ × α)} (absent : ∀ entry ∈ others, entry.1 ≠ key) :
    (map.insertAll (entries ++ (key, value) :: others)).get? key = some value := by
  have stepwise : map.insertAll (entries ++ (key, value) :: others) =
      ((map.insertAll entries).insert key value).insertAll others := by
    simp [insertAll]
  rw [stepwise, get?_insertAll_of_ne absent, get?_insert_self]

theorem get?_insertAll_of_mem {map : OrderedMap κ α} {entries : List (κ × α)}
    (distinct : (entries.map Prod.fst).Nodup) {key : κ} {value : α}
    (member : (key, value) ∈ entries) : (map.insertAll entries).get? key = some value := by
  obtain ⟨before, after, rfl⟩ := List.append_of_mem member
  refine get?_insertAll_append _ _ _ _ (fun entry later same => ?_)
  rw [List.map_append, List.map_cons, List.nodup_append, List.nodup_cons] at distinct
  exact distinct.2.1.1 (List.mem_map.mpr ⟨entry, later, same⟩)

theorem filter_eq_self {map : OrderedMap κ α} {keep : κ → α → Bool}
    (kept : ∀ entry ∈ map.entries, keep entry.1 entry.2 = true) : map.filter keep = map := by
  apply ext
  intro key
  rw [get?_filter]
  cases found : map.get? key with
  | none => rfl
  | some value =>
    exact Option.filter_eq_some_iff.mpr ⟨rfl, kept (key, value) (get?_eq_some_iff.mp found)⟩

omit [Std.TransOrd κ] [Std.LawfulEqOrd κ] in
theorem countP_add_size_filter (map : OrderedMap κ α) (dropped : κ → α → Bool) :
    map.entries.countP (fun entry => dropped entry.1 entry.2) +
      (map.filter (fun key value => !dropped key value)).size = map.size := by
  have parted := List.length_eq_countP_add_countP
    (fun entry : κ × α => dropped entry.1 entry.2) (l := map.entries)
  simpa [size, filter, List.countP_eq_length_filter] using parted.symm

theorem mem_values_iff {map : OrderedMap κ α} {value : α} :
    value ∈ map.values ↔ ∃ key, map.get? key = some value := by
  simp [values, get?_eq_some_iff]

omit [Std.TransOrd κ] in
theorem nodup_keys (map : OrderedMap κ α) : (map.entries.map Prod.fst).Nodup := by
  refine List.pairwise_map.mpr (map.ascending.imp (fun less same => ?_))
  simp [same, Std.ReflCmp.compare_self] at less

/-- The entries of the map that is stored last hide those of the other one. -/
theorem get?_insertAll_entries (map other : OrderedMap κ α) (key : κ) :
    (map.insertAll other.entries).get? key = (other.get? key).or (map.get? key) := by
  cases found : other.get? key with
  | none =>
    refine get?_insertAll_of_ne (fun entry member same => ?_)
    have stored := get?_eq_some_iff.mpr (same ▸ member : (key, entry.2) ∈ other.entries)
    rw [found] at stored
    cases stored
  | some value => exact get?_insertAll_of_mem (nodup_keys other) (get?_eq_some_iff.mp found)

theorem insertAll_entries (map : OrderedMap κ α) :
    (∅ : OrderedMap κ α).insertAll map.entries = map :=
  ext (fun key => (get?_insertAll_entries ∅ map key).trans Option.or_none)

end OrderedMap

namespace Selector

/-- The part of a name that a selector takes for the owner: all before the first comma. -/
def leading (name : String) : String := String.ofList (name.toList.takeWhile (· != ','))

theorem termHolds_pair {labels : Labels} {key : String} (value : List Char)
    (plain : '=' ∉ key.toList) :
    termHolds labels (key.toList ++ '=' :: value) =
      (labels.get? key == some (String.ofList value)) := by
  simp [termHolds, Text.splitOnce?_append value plain]

theorem selects_pair_iff {labels : Labels} {key value : String}
    (plainKey : '=' ∉ key.toList) (plain : ',' ∉ (key ++ "=" ++ value).toList) :
    selects (key ++ "=" ++ value) labels = true ↔ labels.get? key = some value := by
  have written : (key ++ "=" ++ value).toList = key.toList ++ '=' :: value.toList := by simp
  rw [selects, Text.splitOn_of_notMem plain, written]
  simp [termHolds_pair _ plainKey]

/-- Whatever a flow test is called, the objects that its selector selects are labelled with
the leading part of the name. -/
theorem get?_of_selects_flowTest {name : String} {labels : Labels}
    (selected : selects (flowTest name) labels = true) :
    labels.get? Labels.flowTestKey = some (leading name) := by
  have plainKey : ∀ character ∈ (Labels.flowTestKey ++ "=").toList, character != ',' :=
    List.all_eq_true.mp (by decide)
  have written : (flowTest name).toList.takeWhile (· != ',') =
      Labels.flowTestKey.toList ++ '=' :: name.toList.takeWhile (· != ',') := by
    rw [flowTest, String.toList_append, List.takeWhile_append_of_pos plainKey]
    simp
  obtain ⟨rest, split⟩ := Text.splitOn_eq_cons ',' (flowTest name).toList
  rw [selects, split, written, List.filter_cons_of_pos (by simp), List.all_cons,
    termHolds_pair _ (by decide), Bool.and_eq_true] at selected
  simpa [leading] using selected.1

theorem selects_flowTest_iff {name : String} {labels : Labels} (plain : ',' ∉ name.toList) :
    selects (flowTest name) labels = true ↔ labels.get? Labels.flowTestKey = some name := by
  refine selects_pair_iff (by decide) ?_
  have plainKey : ',' ∉ (Labels.flowTestKey ++ "=").toList := by decide
  simp [String.toList_append] at plainKey ⊢
  exact ⟨plainKey, plain⟩

theorem selects_aggregator_iff {labels : Labels} :
    selects aggregator labels = true ↔
      labels.get? Labels.componentKey = some Labels.aggregatorComponent :=
  selects_pair_iff (by decide) (by decide)

end Selector

namespace Labels

/-- The value of a key in the last map of a list that has it. -/
def lastValue? (maps : List Labels) (key : String) : Option String :=
  maps.reverse.findSome? (fun map => map.get? key)

theorem get?_merged (extras : List Labels) (merged : Labels) (key : String) :
    (extras.foldl (fun labels extra => labels.insertAll extra.entries) merged).get? key =
      (lastValue? extras key).or (merged.get? key) := by
  induction extras generalizing merged with
  | nil => rfl
  | cons extra extras ih =>
    rw [List.foldl_cons, ih, OrderedMap.get?_insertAll_entries]
    simp [lastValue?, List.findSome?_append, Option.or_assoc]

theorem nodup_keys_fixed (name : String) (owner : Option Owner) :
    ((fixed name owner).map Prod.fst).Nodup := by
  cases owner with
  | none => exact (by decide : [nameKey, createdByKey, managedByKey].Nodup)
  | some owner =>
    exact (by decide :
      [nameKey, createdByKey, managedByKey, flowTestKey, flowTestUidKey].Nodup)

/-- The fixed labels are written after every other label. -/
theorem get?_ownership_of_mem {name : String} {owner : Option Owner} {extras : List Labels}
    {key value : String} (isFixed : (key, value) ∈ fixed name owner) :
    (ownership name owner extras).get? key = some value :=
  OrderedMap.get?_insertAll_of_mem (nodup_keys_fixed name owner) isFixed

theorem get?_ownership_of_free {name : String} {owner : Option Owner} {extras : List Labels}
    {key : String} (free : key ∉ (fixed name owner).map Prod.fst) :
    (ownership name owner extras).get? key = lastValue? extras key := by
  rw [ownership, OrderedMap.get?_insertAll_of_ne, get?_merged]
  · exact Option.or_none
  · exact fun entry member same => free (same ▸ List.mem_map_of_mem member)

theorem get?_flowTestKey_ownership (name : String) (owner : Owner) (extras : List Labels) :
    (ownership name (some owner) extras).get? flowTestKey = some owner.name :=
  get?_ownership_of_mem (by simp [fixed, ofOwner])

theorem get?_flowTestUidKey_ownership (name : String) (owner : Owner) (extras : List Labels) :
    (ownership name (some owner) extras).get? flowTestUidKey = some owner.uid :=
  get?_ownership_of_mem (by simp [fixed, ofOwner])

theorem get?_ownership_of_notMem {name : String} {owner : Option Owner} {extra : Labels}
    {key : String} (free : key ∉ (fixed name owner).map Prod.fst) :
    (ownership name owner [extra]).get? key = extra.get? key := by
  rw [get?_ownership_of_free free]
  simp [lastValue?]

theorem get?_flowTestKey_aggregator (name : String) :
    (aggregator name).get? flowTestKey = none := by
  have free : flowTestKey ∉ [nameKey, createdByKey, managedByKey] := by decide
  rw [aggregator, get?_ownership_of_notMem free]
  decide

/-- No slice passes for a part of the log aggregator. -/
theorem get?_componentKey_slice (referenceName : String) (owner : Owner) (testId : Nat)
    (testType : TestType) :
    (slice referenceName owner testId testType).get? componentKey = none := by
  have free : componentKey ∉ [nameKey, createdByKey, managedByKey, flowTestKey, flowTestUidKey] := by
    decide
  have differs : testIdKey ≠ componentKey ∧ testTypeKey ≠ componentKey := by decide
  rw [slice, get?_ownership_of_notMem free]
  refine OrderedMap.get?_insertAll_of_ne (fun entry member => ?_)
  simp only [List.mem_cons, List.not_mem_nil, or_false] at member
  rcases member with rfl | rfl
  · exact differs.1
  · exact differs.2

theorem get?_testTypeKey_slice (referenceName : String) (owner : Owner) (testId : Nat)
    (testType : TestType) :
    (slice referenceName owner testId testType).get? testTypeKey = some testType.text := by
  have free : testTypeKey ∉ [nameKey, createdByKey, managedByKey, flowTestKey, flowTestUidKey] := by
    decide
  rw [slice, get?_ownership_of_notMem free]
  exact OrderedMap.get?_insertAll_append _ [(testIdKey, toString testId)] _ _ (by simp)

end Labels

namespace Resource

/-- Whether the labels of an object name a flow test. -/
def IsLabeledFor (resource : Resource) (name : String) : Prop :=
  resource.labels.get? Labels.flowTestKey = some name

/-- Whether no label of an object names a flow test. -/
def IsForeign (resource : Resource) : Prop := resource.labels.get? Labels.flowTestKey = none

theorem IsForeign.not_isLabeledFor {resource : Resource} (foreign : resource.IsForeign)
    (name : String) : ¬ resource.IsLabeledFor name := by
  rw [IsLabeledFor, foreign]
  exact nofun

end Resource

end FlowTesting
