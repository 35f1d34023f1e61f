import FlowTesting.Json.Basic
import FlowTesting.Proofs.Ownership

set_option autoImplicit false

/-!
# Merge patches

What a server makes of a stored value when it is sent a merge patch (RFC 7396). Objects are
merged member by member, null takes a member away, and everything else replaces what is
there, lists included.
-/

namespace FlowTesting.Json

def isObject : Json → Bool
  | .object _ => true
  | _ => false

/-- The members of an object by key, of which other values have none. -/
def asMap : Json → OrderedMap String Json
  | .object members => OrderedMap.ofList members
  | _ => ∅

mutual

/-- The value after a patch. A value that is no object is patched as an empty one. -/
def mergePatch (target : Json) : Json → Json
  | .object members => .object (mergeMembers target.asMap members).entries
  | patch => patch

def mergeMembers (fields : OrderedMap String Json) :
    List (String × Json) → OrderedMap String Json
  | [] => fields
  | (key, .null) :: rest => mergeMembers (fields.erase key) rest
  | (key, patch) :: rest =>
    mergeMembers (fields.insert key (mergePatch ((fields.get? key).getD .null) patch)) rest

end

/-- What a patch makes of one member. -/
def mergeMember (field? : Option Json) : Json → Option Json
  | .null => none
  | patch => some ((field?.getD .null).mergePatch patch)

theorem asMap_object_entries (fields : OrderedMap String Json) :
    (Json.object fields.entries).asMap = fields :=
  OrderedMap.insertAll_entries fields

theorem mergeMembers_cons (fields : OrderedMap String Json) (key : String) (patch : Json)
    (rest : List (String × Json)) :
    ∃ merged, mergeMembers fields ((key, patch) :: rest) = mergeMembers merged rest ∧
      merged.get? key = mergeMember (fields.get? key) patch ∧
      ∀ other, other ≠ key → merged.get? other = fields.get? other := by
  cases patch with
  | null =>
    exact ⟨fields.erase key, rfl, OrderedMap.get?_erase_self _ _,
      fun _ differs => OrderedMap.get?_erase_of_ne differs⟩
  | _ =>
    exact ⟨_, rfl, OrderedMap.get?_insert_self _ _ _,
      fun other differs => OrderedMap.get?_insert_of_ne differs⟩

/-- A patch leaves the members alone that it does not name. -/
theorem get?_mergeMembers_of_notMem {fields : OrderedMap String Json}
    {members : List (String × Json)} {key : String} (absent : key ∉ members.map (·.1)) :
    (mergeMembers fields members).get? key = fields.get? key := by
  induction members generalizing fields with
  | nil => rfl
  | cons member rest ih =>
    obtain ⟨differs, absentRest⟩ := List.ne_and_not_mem_of_not_mem_cons absent
    obtain ⟨merged, goesOn, -, others⟩ := mergeMembers_cons fields member.1 member.2 rest
    exact (congrArg (·.get? key) goesOn).trans ((ih absentRest).trans (others key differs))

theorem get?_mergeMembers_of_mem {fields : OrderedMap String Json} {members : List (String × Json)}
    {key : String} {patch : Json} (distinct : (members.map (·.1)).Nodup)
    (member : (key, patch) ∈ members) :
    (mergeMembers fields members).get? key = mergeMember (fields.get? key) patch := by
  induction members generalizing fields with
  | nil => cases member
  | cons head rest ih =>
    obtain ⟨fresh, distinctRest⟩ := List.nodup_cons.mp distinct
    obtain ⟨merged, goesOn, atHead, others⟩ := mergeMembers_cons fields head.1 head.2 rest
    refine (congrArg (·.get? key) goesOn).trans ?_
    rcases List.mem_cons.mp member with rfl | inRest
    · exact (get?_mergeMembers_of_notMem fresh).trans atHead
    · have differs : key ≠ head.1 := by
        rintro rfl
        exact fresh (List.mem_map.mpr ⟨_, inRest, rfl⟩)
      rw [ih distinctRest inRest, others key differs]

/-- A patch of one member makes of it what the member's own patch says. -/
theorem get?_mergePatch_single (target : Json) (key : String) (patch : Json) :
    (target.mergePatch (.object [(key, patch)])).asMap.get? key =
      mergeMember (target.asMap.get? key) patch := by
  unfold mergePatch
  rw [asMap_object_entries]
  exact get?_mergeMembers_of_mem (by simp) (by simp)

end FlowTesting.Json
