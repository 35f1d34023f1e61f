set_option autoImplicit false

/-!
# Ordered maps

A finite map kept as a list of entries with strictly ascending keys. The order
of the entries is the order of the keys, so two maps with the same lookups are
equal.
-/

namespace FlowTesting

/-- A finite map from `κ` to `α` whose entries ascend strictly by key. -/
structure OrderedMap (κ α : Type) [Ord κ] where
  entries : List (κ × α)
  ascending : entries.Pairwise (fun left right => compare left.1 right.1 = .lt)

namespace OrderedMap

section Entries

variable {κ α : Type} [Ord κ]

/-- Puts an entry in its place, replacing one of equal key. -/
def insertEntry (key : κ) (value : α) : List (κ × α) → List (κ × α)
  | [] => [(key, value)]
  | entry :: rest =>
    match compare key entry.1 with
    | .lt => (key, value) :: entry :: rest
    | .eq => (key, value) :: rest
    | .gt => entry :: insertEntry key value rest

def findValue? (key : κ) : List (κ × α) → Option α
  | [] => none
  | entry :: rest => if compare key entry.1 = .eq then some entry.2 else findValue? key rest

theorem mem_insertEntry {key : κ} {value : α} {entries : List (κ × α)} {entry : κ × α}
    (member : entry ∈ insertEntry key value entries) :
    entry = (key, value) ∨ entry ∈ entries := by
  induction entries with
  | nil => simpa [insertEntry] using member
  | cons head rest ih =>
    unfold insertEntry at member
    split at member
    · simpa using member
    · rcases List.mem_cons.mp member with same | inRest
      · exact .inl same
      · exact .inr (List.mem_cons_of_mem _ inRest)
    · rcases List.mem_cons.mp member with same | inRest
      · exact .inr (same ▸ List.mem_cons_self)
      · exact (ih inRest).imp_right (List.mem_cons_of_mem _)

theorem pairwise_insertEntry [Std.TransOrd κ] [Std.LawfulEqOrd κ] (key : κ) (value : α)
    {entries : List (κ × α)}
    (ascending : entries.Pairwise (fun left right => compare left.1 right.1 = .lt)) :
    (insertEntry key value entries).Pairwise
      (fun left right => compare left.1 right.1 = .lt) := by
  induction entries with
  | nil => simp [insertEntry]
  | cons head rest ih =>
    obtain ⟨headLess, restAscending⟩ := List.pairwise_cons.mp ascending
    unfold insertEntry
    split
    next less =>
      refine List.pairwise_cons.mpr ⟨fun entry member => ?_, ascending⟩
      rcases List.mem_cons.mp member with same | inRest
      · exact same ▸ less
      · exact Std.TransCmp.lt_trans less (headLess entry inRest)
    next equal =>
      refine List.pairwise_cons.mpr ⟨fun entry member => ?_, restAscending⟩
      have sameKey : key = head.1 := Std.LawfulEqCmp.eq_of_compare equal
      exact sameKey ▸ headLess entry member
    next greater =>
      refine List.pairwise_cons.mpr ⟨fun entry member => ?_, ih restAscending⟩
      rcases mem_insertEntry member with same | inRest
      · exact same ▸ Std.OrientedCmp.gt_iff_lt.mp greater
      · exact headLess entry inRest

theorem findValue?_insertEntry [Std.TransOrd κ] [Std.LawfulEqOrd κ] (key wanted : κ) (value : α)
    (entries : List (κ × α)) :
    findValue? wanted (insertEntry key value entries) =
      if compare wanted key = .eq then some value else findValue? wanted entries := by
  induction entries with
  | nil => simp [insertEntry, findValue?]
  | cons head rest ih =>
    unfold insertEntry
    split
    next less => simp only [findValue?]
    next equal =>
      have sameKey : key = head.1 := Std.LawfulEqCmp.eq_of_compare equal
      simp only [findValue?, ← sameKey]
      split <;> rfl
    next greater =>
      simp only [findValue?, ih]
      by_cases atHead : compare wanted head.1 = .eq
      · have wantedHead : wanted = head.1 := Std.LawfulEqCmp.eq_of_compare atHead
        have notKey : compare wanted key ≠ .eq := fun atKey => by
          have wantedKey : wanted = key := Std.LawfulEqCmp.eq_of_compare atKey
          rw [← wantedKey, atHead] at greater
          cases greater
        simp [atHead, notKey]
      · simp [atHead]

theorem findValue?_eq_some_iff [Std.TransOrd κ] [Std.LawfulEqOrd κ] {key : κ} {value : α}
    {entries : List (κ × α)}
    (ascending : entries.Pairwise (fun left right => compare left.1 right.1 = .lt)) :
    findValue? key entries = some value ↔ (key, value) ∈ entries := by
  induction entries with
  | nil => simp [findValue?]
  | cons head rest ih =>
    obtain ⟨headLess, restAscending⟩ := List.pairwise_cons.mp ascending
    by_cases atHead : compare key head.1 = .eq
    · have sameKey : key = head.1 := Std.LawfulEqCmp.eq_of_compare atHead
      have notInRest : (key, value) ∉ rest := fun inRest => by
        have less := headLess _ inRest
        rw [← sameKey] at less
        simp [Std.ReflCmp.compare_self] at less
      simp only [findValue?, atHead, ↓reduceIte, Option.some.injEq, List.mem_cons, notInRest,
        or_false]
      constructor
      · intro sameValue
        exact Prod.ext sameKey sameValue.symm
      · intro same
        exact (Prod.ext_iff.mp same).2.symm
    · have differs : (key, value) ≠ head := fun same => atHead (by
        rw [← same]
        exact Std.ReflCmp.compare_self)
      simp [findValue?, atHead, ih restAscending, differs]

end Entries

section Maps

variable {κ α : Type} [Ord κ]

def empty : OrderedMap κ α := ⟨[], .nil⟩

instance : EmptyCollection (OrderedMap κ α) := ⟨empty⟩

instance : Inhabited (OrderedMap κ α) := ⟨empty⟩

instance [DecidableEq κ] [DecidableEq α] : DecidableEq (OrderedMap κ α) := fun left right =>
  match left, right with
  | ⟨leftEntries, _⟩, ⟨rightEntries, _⟩ =>
    if same : leftEntries = rightEntries then isTrue (by subst same; rfl)
    else isFalse (fun equal => same (by injection equal))

def get? (map : OrderedMap κ α) (key : κ) : Option α := findValue? key map.entries

def contains (map : OrderedMap κ α) (key : κ) : Bool := (map.get? key).isSome

def isEmpty (map : OrderedMap κ α) : Bool := map.entries.isEmpty

def size (map : OrderedMap κ α) : Nat := map.entries.length

def values (map : OrderedMap κ α) : List α := map.entries.map (·.2)

def filter (map : OrderedMap κ α) (keep : κ → α → Bool) : OrderedMap κ α :=
  ⟨map.entries.filter (fun entry => keep entry.1 entry.2), map.ascending.filter _⟩

def erase (map : OrderedMap κ α) (key : κ) : OrderedMap κ α :=
  map.filter (fun stored _ => compare stored key != .eq)

@[simp]
theorem get?_empty (key : κ) : (empty : OrderedMap κ α).get? key = none := rfl

variable [Std.TransOrd κ] [Std.LawfulEqOrd κ]

def insert (map : OrderedMap κ α) (key : κ) (value : α) : OrderedMap κ α :=
  ⟨insertEntry key value map.entries, pairwise_insertEntry key value map.ascending⟩

/-- Stores every entry of a list in turn, so the last value of a repeated key stays. -/
def insertAll (map : OrderedMap κ α) (entries : List (κ × α)) : OrderedMap κ α :=
  entries.foldl (fun result entry => result.insert entry.1 entry.2) map

def ofList (entries : List (κ × α)) : OrderedMap κ α := empty.insertAll entries

theorem get?_insert (map : OrderedMap κ α) (key wanted : κ) (value : α) :
    (map.insert key value).get? wanted =
      if compare wanted key = .eq then some value else map.get? wanted :=
  findValue?_insertEntry key wanted value map.entries

@[simp]
theorem get?_insert_self (map : OrderedMap κ α) (key : κ) (value : α) :
    (map.insert key value).get? key = some value := by
  simp [get?_insert, Std.ReflCmp.compare_self]

theorem get?_insert_of_ne {map : OrderedMap κ α} {key wanted : κ} {value : α}
    (differs : wanted ≠ key) : (map.insert key value).get? wanted = map.get? wanted := by
  have notEqual : compare wanted key ≠ .eq := fun equal =>
    differs (Std.LawfulEqCmp.eq_of_compare equal)
  simp [get?_insert, notEqual]

theorem get?_eq_some_iff {map : OrderedMap κ α} {key : κ} {value : α} :
    map.get? key = some value ↔ (key, value) ∈ map.entries :=
  findValue?_eq_some_iff map.ascending

theorem get?_filter (map : OrderedMap κ α) (keep : κ → α → Bool) (key : κ) :
    (map.filter keep).get? key = (map.get? key).filter (keep key) := by
  apply Option.ext
  intro value
  rw [get?_eq_some_iff, Option.filter_eq_some_iff, get?_eq_some_iff]
  simp [filter]

theorem get?_erase (map : OrderedMap κ α) (key wanted : κ) :
    (map.erase key).get? wanted =
      if compare wanted key = .eq then none else map.get? wanted := by
  unfold erase
  rw [get?_filter]
  by_cases same : compare wanted key = .eq <;> cases map.get? wanted <;> simp [same]

@[simp]
theorem get?_erase_self (map : OrderedMap κ α) (key : κ) : (map.erase key).get? key = none := by
  rw [get?_erase, if_pos Std.ReflCmp.compare_self]

theorem get?_erase_of_ne {map : OrderedMap κ α} {key wanted : κ} (differs : wanted ≠ key) :
    (map.erase key).get? wanted = map.get? wanted := by
  rw [get?_erase, if_neg (mt Std.LawfulEqCmp.eq_of_compare differs)]

theorem ext {left right : OrderedMap κ α} (same : ∀ key, left.get? key = right.get? key) :
    left = right := by
  have sameMembers : ∀ entry, entry ∈ left.entries ↔ entry ∈ right.entries := fun entry => by
    rw [show entry = (entry.1, entry.2) from rfl, ← get?_eq_some_iff, ← get?_eq_some_iff, same]
  have distinct : ∀ {entries : List (κ × α)},
      entries.Pairwise (fun left right => compare left.1 right.1 = .lt) → entries.Nodup :=
    fun ascending => ascending.imp (fun less equal => by
      simp [equal, Std.ReflCmp.compare_self] at less)
  have permuted : left.entries.Perm right.entries :=
    (List.perm_ext_iff_of_nodup (distinct left.ascending) (distinct right.ascending)).mpr
      sameMembers
  have equalEntries : left.entries = right.entries :=
    permuted.eq_of_pairwise
      (fun first second _ _ less greater => by
        have impossible : compare first.1 first.1 = .lt := Std.TransCmp.lt_trans less greater
        simp [Std.ReflCmp.compare_self] at impossible)
      left.ascending right.ascending
  cases left
  cases right
  cases equalEntries
  rfl

end Maps

end OrderedMap

end FlowTesting
