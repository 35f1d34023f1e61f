import FlowTesting.Proofs.Marking
import Mathlib.Tactic.Tauto

set_option autoImplicit false

/-!
# Marking by counting

Which flags a slice sets depends on its rules only through how many of them equal each entry: the
flag of an entry is set once they are as many as the equal entries up to it. So the order of the
rules does not matter, a repeat sets nothing more, and the slices may pass in any order.
-/

namespace FlowTesting.Marking

section Counting

variable {reference sliceRules left right : List Rule} {place : Nat}

/-- An entry is claimed once as many rules equal it as entries up to it do. -/
theorem mem_claims_iff_exists_countP_le :
    place ∈ claims reference [] sliceRules ↔
      ∃ entry, reference[place]? = some entry ∧
        (reference.take (place + 1)).countP (· == entry) ≤ sliceRules.countP (· == entry) := by
  constructor
  · intro claimed
    have here := List.getElem?_eq_getElem (lt_length_of_mem_claims claimed)
    exact ⟨_, here, (mem_claims_iff_countP_le here).mp claimed⟩
  · intro counted
    obtain ⟨entry, here, enough⟩ := counted
    exact (mem_claims_iff_countP_le here).mpr enough

theorem mem_claims_iff_of_perm (permuted : left.Perm right) :
    place ∈ claims reference [] left ↔ place ∈ claims reference [] right := by
  simp only [mem_claims_iff_exists_countP_le, permuted.countP_eq]

end Counting

section Flags

variable {flags : List Bool} {reference left right : List Rule}

/-- Rules that claim the same entries set the same flags. -/
theorem markPassed_congr
    (same : ∀ place, place ∈ claims reference [] left ↔ place ∈ claims reference [] right) :
    markPassed flags reference left = markPassed flags reference right := by
  have sameFlags : (markPassed flags reference left).1 = (markPassed flags reference right).1 := by
    refine flags_ext ?_ (fun place => ?_)
    · rw [length_markPassed, length_markPassed]
    · rw [getElem?_markPassed_iff, getElem?_markPassed_iff, same]
  refine Prod.ext sameFlags ?_
  simp only [markPassed] at sameFlags ⊢
  rw [sameFlags]

/-- Where no flag is taken back, those that are set have grown by the places that went from unset
to set. -/
theorem count_true_eq_add_count_zip {before after : List Bool}
    (sameLength : after.length = before.length)
    (kept : ∀ place : Nat, before[place]? = some true → after[place]? = some true) :
    after.count true = before.count true + (before.zip after).count (false, true) := by
  induction before generalizing after with
  | nil => simp_all
  | cons flag before ih =>
    cases after with
    | nil => simp at sameLength
    | cons marked after =>
      have rest := @ih after (by simpa using sameLength)
        (fun place => by simpa using kept (place + 1))
      have here := kept 0
      simp only [List.getElem?_cons_zero, Option.some.injEq] at here
      simp only [List.zip_cons_cons, List.count_cons, rest]
      cases flag <;> cases marked <;> simp at here ⊢ <;> omega

end Flags

theorem count_markPassed (flags : List Bool) (reference sliceRules : List Rule) :
    (markPassed flags reference sliceRules).1.count true = flags.count true +
      (flags.zip (markPassed flags reference sliceRules).1).count (false, true) :=
  count_true_eq_add_count_zip (length_markPassed flags reference sliceRules)
    (fun _ set => getElem?_markPassed_iff.mpr (.inl set))

theorem snd_markPassed (flags : List Bool) (reference sliceRules : List Rule) :
    (markPassed flags reference sliceRules).2 =
      (flags.zip (markPassed flags reference sliceRules).1).count (false, true) := by
  have grown := count_markPassed flags reference sliceRules
  simp only [markPassed] at grown ⊢
  omega

theorem markPassed_markPassed (flags : List Bool) (reference sliceRules : List Rule) :
    markPassed (markPassed flags reference sliceRules).1 reference sliceRules =
      ((markPassed flags reference sliceRules).1, 0) := by
  have sameFlags : (markPassed (markPassed flags reference sliceRules).1 reference sliceRules).1 =
      (markPassed flags reference sliceRules).1 := by
    refine flags_ext (length_markPassed ..) (fun place => ?_)
    simp only [getElem?_markPassed_iff, length_markPassed]
    tauto
  refine Prod.ext sameFlags ?_
  simp only [markPassed] at sameFlags ⊢
  rw [sameFlags, Nat.sub_self]

theorem markPassed_comm (flags : List Bool) (reference first second : List Rule) :
    (markPassed (markPassed flags reference first).1 reference second).1 =
      (markPassed (markPassed flags reference second).1 reference first).1 := by
  refine flags_ext (by simp only [length_markPassed]) (fun place => ?_)
  simp only [getElem?_markPassed_iff, length_markPassed]
  tauto

/-- A flag is set once the rules that equal its entry are as many as the entries up to it that do,
and stays if it was set before. No flag is added or removed, and the number is that of the flags
that were not set before. Once more with the same rules sets nothing, the order of the rules does
not matter, and neither does which of two slices comes first. -/
theorem markPassed_by_counting (flags : List Bool) (reference sliceRules : List Rule) :
    (∀ place, (markPassed flags reference sliceRules).1[place]? = some true ↔
      flags[place]? = some true ∨ place < flags.length ∧
        ∃ entry, reference[place]? = some entry ∧
          (reference.take (place + 1)).countP (· == entry) ≤ sliceRules.countP (· == entry)) ∧
    (markPassed flags reference sliceRules).1.length = flags.length ∧
    (markPassed flags reference sliceRules).2 =
      (flags.zip (markPassed flags reference sliceRules).1).count (false, true) ∧
    markPassed (markPassed flags reference sliceRules).1 reference sliceRules =
      ((markPassed flags reference sliceRules).1, 0) ∧
    (∀ permuted, sliceRules.Perm permuted →
      markPassed flags reference permuted = markPassed flags reference sliceRules) ∧
    ∀ others, (markPassed (markPassed flags reference sliceRules).1 reference others).1 =
      (markPassed (markPassed flags reference others).1 reference sliceRules).1 := by
  refine ⟨fun place => ?_, length_markPassed .., snd_markPassed .., markPassed_markPassed ..,
    fun permuted perm => ?_, markPassed_comm flags reference sliceRules⟩
  · rw [getElem?_markPassed_iff, mem_claims_iff_exists_countP_le]
  · exact markPassed_congr (fun _ => (mem_claims_iff_of_perm perm).symm)

namespace Sample

def rules (texts : List String) : List Rule := texts.map (fun text => ⟨.text text⟩)

end Sample

/-- Two equal rules and one that differs set the first two of three equal entries, in either order;
the flag of the third stays, and the entry without a flag is passed over. -/
theorem markPassed_three_equal :
    (Sample.rules ["same", "same", "other"]).Perm (Sample.rules ["other", "same", "same"]) ∧
    markPassed [true, false, false] (Sample.rules ["same", "same", "same", "other"])
        (Sample.rules ["same", "same", "other"]) = ([true, true, false], 1) ∧
    markPassed [true, false, false] (Sample.rules ["same", "same", "same", "other"])
        (Sample.rules ["other", "same", "same"]) = ([true, true, false], 1) := by
  have texts : (["same", "same"] ++ ["other"]).Perm (["other"] ++ ["same", "same"]) :=
    List.perm_append_comm
  have perm : (Sample.rules ["same", "same", "other"]).Perm
      (Sample.rules ["other", "same", "same"]) := texts.map _
  have counted := markPassed_by_counting [true, false, false]
    (Sample.rules ["same", "same", "same", "other"]) (Sample.rules ["same", "same", "other"])
  have marked : markPassed [true, false, false] (Sample.rules ["same", "same", "same", "other"])
      (Sample.rules ["same", "same", "other"]) = ([true, true, false], 1) := by decide
  exact ⟨perm, marked, (counted.2.2.2.2.1 _ perm).trans marked⟩

/-- The zeros of either sign are equal, and an integer equals no float. -/
example :
    markPassed [false, false]
      [⟨.number (.integer 0)⟩, ⟨.number (.float ⟨false, 0, by decide⟩)⟩]
      [⟨.number (.float ⟨true, 0, by decide⟩)⟩] = ([false, true], 1) := by decide

end FlowTesting.Marking
