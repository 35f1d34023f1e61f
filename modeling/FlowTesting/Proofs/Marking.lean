import FlowTesting.Marking

set_option autoImplicit false

/-!
# What marking sets

The flags that a slice sets are those at the places that its rules claim. A single rule claims
the first entry that equals it. Several rules claim as many of the entries that equal them as there
are such rules, so the first entries of the reference claim just themselves.
-/

namespace FlowTesting.Marking

section Flags

variable {flags : List Bool} {place : Nat}

/-- Flags are told apart by which of them are set. -/
theorem flags_ext {left right : List Bool} (sameLength : left.length = right.length)
    (same : ∀ place : Nat, left[place]? = some true ↔ right[place]? = some true) : left = right := by
  refine List.ext_getElem sameLength (fun place inLeft inRight => Bool.eq_iff_iff.mpr ?_)
  simpa [List.getElem?_eq_getElem inLeft, List.getElem?_eq_getElem inRight] using same place

theorem getElem?_mark_iff {marked : Nat} :
    (mark flags marked)[place]? = some true ↔
      flags[place]? = some true ∨ place < flags.length ∧ place = marked := by
  rw [mark, List.getElem?_set]
  by_cases same : marked = place
  · subst same
    by_cases tracked : marked < flags.length <;> simp [tracked]
  · simp [same, Ne.symm same]

theorem getElem?_foldl_mark_iff {places : List Nat} :
    (places.foldl mark flags)[place]? = some true ↔
      flags[place]? = some true ∨ place < flags.length ∧ place ∈ places := by
  induction places generalizing flags with
  | nil => simp
  | cons marked places ih =>
    rw [List.foldl_cons, ih, getElem?_mark_iff, mark, List.length_set, List.mem_cons, and_or_left,
      or_assoc]

theorem getElem?_markPassed_iff {reference sliceRules : List Rule} :
    (markPassed flags reference sliceRules).1[place]? = some true ↔
      flags[place]? = some true ∨
        place < flags.length ∧ place ∈ claims reference [] sliceRules :=
  getElem?_foldl_mark_iff

end Flags

theorem length_markPassed (flags : List Bool) (reference sliceRules : List Rule) :
    (markPassed flags reference sliceRules).1.length = flags.length := by
  simp only [markPassed]
  induction claims reference [] sliceRules generalizing flags with
  | nil => rfl
  | cons place places ih => rw [List.foldl_cons, ih, mark, List.length_set]

theorem mark_eq_self_or_count_lt (flags : List Bool) (place : Nat) :
    mark flags place = flags ∨ flags.count true < (mark flags place).count true := by
  induction flags generalizing place with
  | nil => exact .inl rfl
  | cons flag flags ih =>
    cases place with
    | zero => cases flag <;> simp [mark]
    | succ place =>
      rcases ih place with same | less
      · exact .inl (congrArg (flag :: ·) same)
      · exact .inr (by cases flag <;> simpa [mark] using less)

theorem foldl_mark_eq_self_or_count_lt (flags : List Bool) (places : List Nat) :
    places.foldl mark flags = flags ∨
      flags.count true < (places.foldl mark flags).count true := by
  induction places generalizing flags with
  | nil => exact .inl rfl
  | cons place places ih =>
    rw [List.foldl_cons]
    rcases mark_eq_self_or_count_lt flags place with same | less
    · rw [same]
      exact ih flags
    · rcases ih (mark flags place) with sameRest | lessRest
      · rw [sameRest]
        exact .inr less
      · exact .inr (Nat.lt_trans less lessRest)

theorem markPassed_eq_self {flags : List Bool} {reference sliceRules : List Rule}
    (none : (markPassed flags reference sliceRules).2 = 0) :
    (markPassed flags reference sliceRules).1 = flags := by
  simp only [markPassed] at none ⊢
  rcases foldl_mark_eq_self_or_count_lt flags (claims reference [] sliceRules) with same | less
  · exact same
  · omega

section Claims

variable {reference : List Rule} {rule : Rule} {claimed : List Nat} {place : Nat}

/-- Whether the entry at a place of the reference equals a rule. -/
def Holds (reference : List Rule) (place : Nat) (rule : Rule) : Prop :=
  (reference[place]? == some rule) = true

instance : Decidable (Holds reference place rule) := inferInstanceAs (Decidable (_ = true))

theorem holds_iff :
    Holds reference place rule ↔ ∃ entry, reference[place]? = some entry ∧ (entry == rule) = true := by
  rw [Holds]
  cases reference[place]? with
  | none => simp
  | some entry => simp

theorem Holds.lt_length (holds : Holds reference place rule) : place < reference.length := by
  obtain ⟨_, found, -⟩ := holds_iff.mp holds
  exact List.getElem?_eq_some_iff.mp found |>.1

theorem unclaimed?_eq_some_iff :
    unclaimed? reference claimed rule = some place ↔
      place ∉ claimed ∧ Holds reference place rule ∧
        ∀ earlier < place, Holds reference earlier rule → earlier ∈ claimed := by
  rw [unclaimed?, List.find?_range_eq_some]
  simp only [Bool.and_eq_true, Bool.not_eq_true', List.contains_eq_mem, decide_eq_false_iff_not,
    List.mem_range, Bool.not_and, Bool.not_not, Bool.or_eq_true, decide_eq_true_eq]
  constructor
  · intro unclaimed
    obtain ⟨⟨free, holds⟩, -, first⟩ := unclaimed
    refine ⟨free, holds, fun earlier before holdsEarlier => (first earlier before).resolve_right ?_⟩
    simpa [Holds] using holdsEarlier
  · intro found
    obtain ⟨free, holds, first⟩ := found
    refine ⟨⟨free, holds⟩, holds.lt_length, fun earlier before => ?_⟩
    by_cases holdsEarlier : Holds reference earlier rule
    · exact .inl (first earlier before holdsEarlier)
    · exact .inr (by simpa [Holds] using holdsEarlier)

theorem mem_of_unclaimed?_eq_none (none : unclaimed? reference claimed rule = none)
    (holds : Holds reference place rule) : place ∈ claimed := by
  have taken := List.find?_range_eq_none.mp none place holds.lt_length
  have equal : (reference[place]? == some rule) = true := holds
  simpa [equal] using taken

theorem mem_claims_singleton_iff :
    place ∈ claims reference [] [rule] ↔
      Holds reference place rule ∧ ∀ earlier < place, ¬ Holds reference earlier rule := by
  have first : unclaimed? reference [] rule = some place ↔
      Holds reference place rule ∧ ∀ earlier < place, ¬ Holds reference earlier rule := by
    simp [unclaimed?_eq_some_iff]
  rw [← first]
  cases unclaimed : unclaimed? reference [] rule <;> simp [claims, unclaimed, eq_comm]

theorem lt_length_of_mem_claims {rules : List Rule}
    (claimedHere : place ∈ claims reference claimed rules) :
    place < reference.length := by
  induction rules generalizing claimed with
  | nil => cases claimedHere
  | cons rule rest ih =>
    rw [claims] at claimedHere
    split at claimedHere
    next found unclaimed =>
      rcases List.mem_cons.mp claimedHere with rfl | later
      · exact (unclaimed?_eq_some_iff.mp unclaimed).2.1.lt_length
      · exact ih later
    next => exact ih claimedHere

end Claims

section Counting

variable {reference sliceRules : List Rule} {claimed : List Nat} {place found : Nat}
  {entry rule : Rule}

/-- How many entries up to a place equal a rule and are not claimed. -/
def unclaimedCount (reference : List Rule) (claimed : List Nat) (rule : Rule) (place : Nat) : Nat :=
  (List.range (place + 1)).countP (fun earlier =>
    !claimed.contains earlier && reference[earlier]? == some rule)

theorem unclaimedCount_nil :
    unclaimedCount reference [] rule place = (reference.take (place + 1)).countP (· == rule) := by
  have upTo : ∀ bound, (List.range bound).countP (fun earlier => reference[earlier]? == some rule) =
      (reference.take bound).countP (· == rule) := by
    intro bound
    induction bound with
    | zero => rfl
    | succ bound ih =>
      rw [List.range_succ, List.countP_append, ih, List.take_add_one, List.countP_append,
        List.countP_singleton]
      cases reference[bound]? with
      | none => rfl
      | some here => rw [Option.toList_some, List.countP_singleton, Option.some_beq_some]
  simpa [unclaimedCount] using upTo (place + 1)

theorem unclaimedCount_cons_of_not_holds (other : ¬ Holds reference found rule) :
    unclaimedCount reference (found :: claimed) rule place =
      unclaimedCount reference claimed rule place := by
  refine List.countP_congr (fun earlier _ => ?_)
  by_cases same : earlier = found
  · subst same
    have differs : (reference[earlier]? == some rule) = false := by simpa [Holds] using other
    simp [differs]
  · simp [same]

/-- Claiming an entry takes it out of the count. -/
theorem unclaimedCount_cons (free : found ∉ claimed) (holds : Holds reference found rule)
    (before : found ≤ place) :
    unclaimedCount reference claimed rule place =
      unclaimedCount reference (found :: claimed) rule place + 1 := by
  have equal : (reference[found]? == some rule) = true := holds
  have once : (List.range (place + 1)).count found = 1 := by
    rw [List.count_range, if_pos (by omega)]
  rw [unclaimedCount, List.countP_eq_countP_filter_add _ _ (· == found), Nat.add_comm]
  congr 1
  · rw [List.countP_filter]
    refine List.countP_congr (fun earlier _ => ?_)
    by_cases same : earlier = found <;> simp [same]
  · rw [List.filter_beq, once]
    simp [free, equal]

theorem holds_iff_of_beq (equal : (rule == entry) = true) :
    Holds reference place rule ↔ Holds reference place entry := by
  simp only [holds_iff]
  constructor
  · intro holds
    obtain ⟨other, found, same⟩ := holds
    exact ⟨other, found, PartialEquivBEq.trans same equal⟩
  · intro holds
    obtain ⟨other, found, same⟩ := holds
    exact ⟨other, found, PartialEquivBEq.trans same (BEq.symm equal)⟩

/-- Once the first free entry that equals a rule is claimed, no entry up to it is left to count. -/
theorem unclaimedCount_eq_zero
    (first : ∀ earlier < place, Holds reference earlier entry → earlier ∈ claimed) :
    unclaimedCount reference (place :: claimed) entry place = 0 := by
  rw [unclaimedCount, List.countP_eq_zero]
  intro earlier upTo counted
  simp only [Bool.and_eq_true, Bool.not_eq_true', List.contains_eq_mem, decide_eq_false_iff_not,
    List.mem_cons, not_or] at counted
  obtain ⟨⟨other, free⟩, holds⟩ := counted
  have before : earlier < place := by
    have := List.mem_range.mp upTo
    omega
  exact free (first earlier before holds)

/-- An entry is claimed just when it is free and the rules that equal it are enough for all free
entries up to it that do. -/
theorem mem_claims_iff_unclaimedCount_le (here : reference[place]? = some entry) :
    place ∈ claims reference claimed sliceRules ↔
      place ∉ claimed ∧
        unclaimedCount reference claimed entry place ≤ sliceRules.countP (· == entry) := by
  have holdsHere : Holds reference place entry := holds_iff.mpr ⟨entry, here, BEq.rfl⟩
  induction sliceRules generalizing claimed with
  | nil =>
    simp only [claims, List.not_mem_nil, List.countP_nil, Nat.le_zero, false_iff, not_and]
    intro free none
    have counted := unclaimedCount_cons free holdsHere (Nat.le_refl place)
    omega
  | cons rule rest ih =>
    rw [List.countP_cons]
    cases unclaimed : unclaimed? reference claimed rule with
    | none =>
      simp only [claims, unclaimed, ih]
      by_cases equal : (rule == entry) = true
      · have taken := mem_of_unclaimed?_eq_none unclaimed ((holds_iff_of_beq equal).mpr holdsHere)
        simp [taken]
      · simp [equal]
    | some found =>
      obtain ⟨free, holds, first⟩ := unclaimed?_eq_some_iff.mp unclaimed
      simp only [claims, unclaimed, List.mem_cons, ih, not_or]
      by_cases equal : (rule == entry) = true
      · simp only [equal, ↓reduceIte]
        rcases Nat.lt_trichotomy place found with before | rfl | after
        · have taken := first place before ((holds_iff_of_beq equal).mpr holdsHere)
          simp [taken, Nat.ne_of_lt before]
        · have counted := unclaimedCount_cons free holdsHere (Nat.le_refl place)
          have none := unclaimedCount_eq_zero (fun earlier before holds =>
            first earlier before ((holds_iff_of_beq equal).mpr holds))
          simp only [true_or, free, not_false_eq_true, true_and, true_iff]
          omega
        · have counted := unclaimedCount_cons free ((holds_iff_of_beq equal).mp holds)
            (Nat.le_of_lt after)
          rw [counted]
          simp [Nat.ne_of_gt after]
      · -- The place that is taken has another rule, so it does not count for this entry.
        have otherRule : ¬ Holds reference found entry := by
          intro holdsEntry
          obtain ⟨stored, stands, same⟩ := holds_iff.mp holds
          obtain ⟨_, standsToo, sameEntry⟩ := holds_iff.mp holdsEntry
          obtain rfl := Option.some.inj (stands.symm.trans standsToo)
          exact equal (PartialEquivBEq.trans (BEq.symm same) sameEntry)
        have apart : place ≠ found := fun same => otherRule (same ▸ holdsHere)
        rw [unclaimedCount_cons_of_not_holds otherRule]
        simp [equal, apart]

theorem mem_claims_iff_countP_le (here : reference[place]? = some entry) :
    place ∈ claims reference [] sliceRules ↔
      (reference.take (place + 1)).countP (· == entry) ≤ sliceRules.countP (· == entry) := by
  simp [mem_claims_iff_unclaimedCount_le here, unclaimedCount_nil]

/-- The whole reference claims every entry, also after one more rule. -/
theorem mem_claims_cons (within : place < reference.length) :
    place ∈ claims reference [] (rule :: reference) := by
  refine (mem_claims_iff_countP_le (List.getElem?_eq_getElem within)).mpr ?_
  calc (reference.take (place + 1)).countP (· == reference[place])
      ≤ reference.countP (· == reference[place]) := (List.take_sublist _ _).countP_le
    _ ≤ (rule :: reference).countP (· == reference[place]) := (List.sublist_cons_self _ _).countP_le

/-- The first entries of the reference claim just themselves, also after a rule that equals no
entry. -/
theorem mem_claims_cons_take_iff {length : Nat}
    (different : ∀ entry ∈ reference, (entry == rule) = false) :
    place ∈ claims reference [] (rule :: reference.take length) ↔
      place < length ∧ place < reference.length := by
  by_cases within : place < reference.length
  · have here := List.getElem?_eq_getElem within
    have apart : ¬ (rule == reference[place]) = true := by
      intro equal
      have same := different _ (List.getElem_mem within)
      rw [BEq.symm equal] at same
      cases same
    rw [mem_claims_iff_countP_le here, List.countP_cons, if_neg apart, Nat.add_zero]
    simp only [within, and_true]
    have monotone : ∀ {shorter longer}, shorter ≤ longer →
        (reference.take shorter).countP (· == reference[place]) ≤
          (reference.take longer).countP (· == reference[place]) :=
      fun less => (List.take_prefix_take_left less).sublist.countP_le
    constructor
    · intro enough
      -- The entry itself is counted one more time than the entries before it.
      have counted : (reference.take (place + 1)).countP (· == reference[place]) =
          (reference.take place).countP (· == reference[place]) + 1 := by
        rw [List.take_add_one, List.countP_append, here, Option.toList_some, List.countP_singleton,
          if_pos BEq.rfl]
      by_cases less : place < length
      · exact less
      · have fewer := monotone (Nat.le_of_not_lt less)
        omega
    · exact fun less => monotone less
  · refine iff_of_false (fun claimedHere => within (lt_length_of_mem_claims claimedHere)) ?_
    exact fun both => within both.2

end Counting
section Rules

variable {rules : List Rule} {left middle right place other : Nat}

def EqualAt (rules : List Rule) (left right : Nat) : Prop :=
  ∃ rule, rules[right]? = some rule ∧ Holds rules left rule

/-- Whether a place is the first one with a rule that equals the one at another place. -/
def IsFirstEqual (rules : List Rule) (place other : Nat) : Prop :=
  EqualAt rules place other ∧ ∀ earlier < place, ¬ EqualAt rules earlier other

def AllDifferent (rules : List Rule) : Prop :=
  ∀ left right, left < right → ¬ EqualAt rules left right

theorem equalAt_self (within : place < rules.length) : EqualAt rules place place :=
  ⟨rules[place], List.getElem?_eq_getElem within,
    holds_iff.mpr ⟨_, List.getElem?_eq_getElem within, BEq.rfl⟩⟩

theorem EqualAt.symm (equal : EqualAt rules left right) : EqualAt rules right left := by
  obtain ⟨rightRule, atRight, holds⟩ := equal
  obtain ⟨leftRule, atLeft, same⟩ := holds_iff.mp holds
  exact ⟨leftRule, atLeft, holds_iff.mpr ⟨rightRule, atRight, BEq.symm same⟩⟩

theorem EqualAt.trans (first : EqualAt rules left middle) (second : EqualAt rules middle right) :
    EqualAt rules left right := by
  obtain ⟨middleRule, atMiddle, holdsLeft⟩ := first
  obtain ⟨rightRule, atRight, holdsMiddle⟩ := second
  obtain ⟨leftRule, atLeft, sameLeft⟩ := holds_iff.mp holdsLeft
  obtain ⟨_, atMiddleToo, sameMiddle⟩ := holds_iff.mp holdsMiddle
  obtain rfl := Option.some.inj (atMiddle.symm.trans atMiddleToo)
  exact ⟨rightRule, atRight,
    holds_iff.mpr ⟨leftRule, atLeft, PartialEquivBEq.trans sameLeft sameMiddle⟩⟩

theorem EqualAt.lt_length (equal : EqualAt rules left right) : left < rules.length := by
  obtain ⟨_, -, holds⟩ := equal
  exact holds.lt_length

theorem IsFirstEqual.not_equalAt (first : IsFirstEqual rules place other) :
    ∀ earlier < place, ¬ EqualAt rules earlier place :=
  fun earlier less equal => first.2 earlier less (equal.trans first.1)

theorem allDifferent_iff_pairwise :
    AllDifferent rules ↔ rules.Pairwise (fun earlier later => (earlier == later) = false) := by
  rw [List.pairwise_iff_getElem]
  constructor
  · intro different left right leftWithin rightWithin less
    refine Bool.eq_false_iff.mpr (fun same => different left right less ?_)
    exact ⟨rules[right], List.getElem?_eq_getElem rightWithin,
      holds_iff.mpr ⟨_, List.getElem?_eq_getElem leftWithin, same⟩⟩
  · intro pairwise left right less equal
    obtain ⟨rightRule, atRight, holds⟩ := equal
    obtain ⟨leftRule, atLeft, same⟩ := holds_iff.mp holds
    obtain ⟨rightWithin, rfl⟩ := List.getElem?_eq_some_iff.mp atRight
    obtain ⟨leftWithin, rfl⟩ := List.getElem?_eq_some_iff.mp atLeft
    rw [pairwise left right leftWithin rightWithin less] at same
    cases same

instance : Decidable (AllDifferent rules) := decidable_of_iff _ allDifferent_iff_pairwise.symm

/-- A rule of the reference claims, on its own, the first one that equals it. -/
theorem mem_claims_singleton_iff_isFirstEqual {rule : Rule} (here : rules[other]? = some rule) :
    place ∈ claims rules [] [rule] ↔ IsFirstEqual rules place other := by
  have equal : ∀ earlier, EqualAt rules earlier other ↔ Holds rules earlier rule := by
    simp [EqualAt, here]
  simp only [mem_claims_singleton_iff, IsFirstEqual, equal]

theorem AllDifferent.eq_of_equalAt (different : AllDifferent rules)
    (equal : EqualAt rules left right) : left = right := by
  rcases Nat.lt_trichotomy left right with less | same | greater
  · exact absurd equal (different left right less)
  · exact same
  · exact absurd equal.symm (different right left greater)

theorem AllDifferent.countP_take_eq_zero {rule : Rule} (different : AllDifferent rules)
    (here : rules[place]? = some rule) : (rules.take place).countP (· == rule) = 0 := by
  rw [List.countP_eq_zero]
  intro earlier member equal
  obtain ⟨before, less, rfl⟩ := List.getElem_of_mem member
  rw [List.length_take, Nat.lt_min] at less
  rw [List.getElem_take] at equal
  exact different before place less.1
    ⟨rule, here, holds_iff.mpr ⟨_, List.getElem?_eq_getElem less.2, equal⟩⟩

theorem isFirstEqual_iff_of_allDifferent (different : AllDifferent rules) :
    IsFirstEqual rules place other ↔ place = other ∧ place < rules.length := by
  constructor
  · intro first
    exact ⟨different.eq_of_equalAt first.1, first.1.lt_length⟩
  · intro same
    obtain ⟨rfl, within⟩ := same
    exact ⟨equalAt_self within, fun earlier less => different earlier place less⟩

end Rules

end FlowTesting.Marking
