import FlowTesting.Data.OrderedMap
import FlowTesting.Number.Binary64

set_option autoImplicit false

/-!
# JSON values

Integers are kept apart from floating-point numbers, and the members of an object
ascend by key. Equality of values is equality of their parts, except that the two
floating-point zeros are equal.
-/

namespace FlowTesting

inductive JsonNumber where
  | integer (value : Int)
  | float (value : Binary64)
  deriving DecidableEq

inductive Json where
  | null
  | boolean (value : Bool)
  | number (value : JsonNumber)
  | text (value : String)
  | array (elements : List Json)
  | object (members : List (String × Json))

namespace JsonNumber

/-- Equality of the numbers meant, within the integers and within the floats. -/
def same : JsonNumber → JsonNumber → Bool
  | .integer left, .integer right => left == right
  | .float left, .float right => left.numericallyEqual right
  | _, _ => false

theorem same_refl (value : JsonNumber) : value.same value = true := by
  cases value <;> simp [same, Binary64.numericallyEqual_refl]

theorem same_symm {left right : JsonNumber} (equal : left.same right = true) :
    right.same left = true := by
  cases left <;> cases right <;> simp_all [same, Binary64.numericallyEqual_symm]

theorem same_trans {left middle right : JsonNumber} (first : left.same middle = true)
    (second : middle.same right = true) : left.same right = true := by
  cases left <;> cases middle <;> cases right <;> simp_all [same]
  exact Binary64.numericallyEqual_trans first second

end JsonNumber

namespace Json

instance : Inhabited Json := ⟨.null⟩

mutual

/-- Equality of values part by part. -/
def same : Json → Json → Bool
  | .null, .null => true
  | .boolean left, .boolean right => left == right
  | .number left, .number right => left.same right
  | .text left, .text right => left == right
  | .array left, .array right => sameElements left right
  | .object left, .object right => sameMembers left right
  | _, _ => false

def sameElements : List Json → List Json → Bool
  | [], [] => true
  | left :: leftRest, right :: rightRest => same left right && sameElements leftRest rightRest
  | _, _ => false

def sameMembers : List (String × Json) → List (String × Json) → Bool
  | [], [] => true
  | (leftKey, left) :: leftRest, (rightKey, right) :: rightRest =>
    leftKey == rightKey && same left right && sameMembers leftRest rightRest
  | _, _ => false

end

instance : BEq Json := ⟨same⟩

mutual

theorem same_refl : ∀ value : Json, value.same value = true
  | .null => rfl
  | .boolean _ => by simp [same]
  | .number value => by simp [same, JsonNumber.same_refl value]
  | .text _ => by simp [same]
  | .array elements => by simp [same, sameElements_refl elements]
  | .object members => by simp [same, sameMembers_refl members]

theorem sameElements_refl : ∀ elements : List Json, sameElements elements elements = true
  | [] => rfl
  | head :: rest => by simp [sameElements, same_refl head, sameElements_refl rest]

theorem sameMembers_refl : ∀ members : List (String × Json), sameMembers members members = true
  | [] => rfl
  | (_, head) :: rest => by simp [sameMembers, same_refl head, sameMembers_refl rest]

end

mutual

theorem same_symm : ∀ left right : Json, left.same right = true → right.same left = true
  | .null, right => by cases right <;> simp [same]
  | .boolean _, right => by
      cases right <;> simp only [same, Bool.false_eq_true, imp_self, beq_iff_eq]
      exact Eq.symm
  | .number left, right => by
      cases right <;> simp only [same, Bool.false_eq_true, imp_self]
      exact JsonNumber.same_symm
  | .text _, right => by
      cases right <;> simp only [same, Bool.false_eq_true, imp_self, beq_iff_eq]
      exact Eq.symm
  | .array left, right => by
      cases right <;> simp only [same, Bool.false_eq_true, imp_self]
      exact sameElements_symm left _
  | .object left, right => by
      cases right <;> simp only [same, Bool.false_eq_true, imp_self]
      exact sameMembers_symm left _

theorem sameElements_symm : ∀ left right : List Json,
    sameElements left right = true → sameElements right left = true
  | [], right => by cases right <;> simp [sameElements]
  | head :: rest, [] => by simp [sameElements]
  | head :: rest, other :: others => by
      simp only [sameElements, Bool.and_eq_true]
      exact fun equal => ⟨same_symm head other equal.1, sameElements_symm rest others equal.2⟩

theorem sameMembers_symm : ∀ left right : List (String × Json),
    sameMembers left right = true → sameMembers right left = true
  | [], right => by cases right <;> simp [sameMembers]
  | (_, head) :: rest, [] => by simp [sameMembers]
  | (_, head) :: rest, (_, other) :: others => by
      simp only [sameMembers, Bool.and_eq_true, beq_iff_eq]
      exact fun equal => ⟨⟨equal.1.1.symm, same_symm head other equal.1.2⟩,
        sameMembers_symm rest others equal.2⟩

end

mutual

theorem same_trans : ∀ left middle right : Json,
    left.same middle = true → middle.same right = true → left.same right = true
  | .null, middle, right => by cases middle <;> cases right <;> simp [same]
  | .boolean _, middle, right => by cases middle <;> cases right <;> simp_all [same]
  | .number left, middle, right => by
      cases middle <;> cases right <;> simp only [same, Bool.false_eq_true, false_implies,
        implies_true]
      exact JsonNumber.same_trans
  | .text _, middle, right => by cases middle <;> cases right <;> simp_all [same]
  | .array left, middle, right => by
      cases middle <;> cases right <;> simp only [same, Bool.false_eq_true, false_implies,
        implies_true]
      exact sameElements_trans left _ _
  | .object left, middle, right => by
      cases middle <;> cases right <;> simp only [same, Bool.false_eq_true, false_implies,
        implies_true]
      exact sameMembers_trans left _ _
termination_by structural left => left

theorem sameElements_trans : ∀ left middle right : List Json,
    sameElements left middle = true → sameElements middle right = true →
      sameElements left right = true
  | [], middle, right => by cases middle <;> cases right <;> simp [sameElements]
  | head :: rest, middle, right => by
      cases middle <;> cases right <;> simp only [sameElements, Bool.and_eq_true,
        Bool.false_eq_true, false_implies, implies_true]
      exact fun first second => ⟨same_trans head _ _ first.1 second.1,
        sameElements_trans rest _ _ first.2 second.2⟩
termination_by structural left => left

theorem sameMembers_trans : ∀ left middle right : List (String × Json),
    sameMembers left middle = true → sameMembers middle right = true →
      sameMembers left right = true
  | [], middle, right => by cases middle <;> cases right <;> simp [sameMembers]
  | (_, head) :: rest, middle, right => by
      cases middle <;> cases right <;> simp only [sameMembers, Bool.and_eq_true,
        Bool.false_eq_true, false_implies, implies_true, beq_iff_eq]
      exact fun first second => ⟨⟨first.1.1.trans second.1.1,
        same_trans head _ _ first.1.2 second.1.2⟩,
        sameMembers_trans rest _ _ first.2 second.2⟩
termination_by structural left => left

end

instance : EquivBEq Json where
  rfl := same_refl _
  symm := same_symm _ _
  trans := same_trans _ _ _

def member? (members : List (String × Json)) (key : String) : Option Json :=
  OrderedMap.findValue? key members

/-- The object of a list of members; the last value of a repeated key stays. -/
def ofMembers (members : List (String × Json)) : Json :=
  .object (OrderedMap.ofList members).entries

/-- The object of the fields that have a value. -/
def ofFields (fields : List (String × Option Json)) : Json :=
  ofMembers (fields.filterMap (fun field => field.2.map (field.1, ·)))

def ofTexts (texts : OrderedMap String String) : Json :=
  .object (texts.entries.map (fun entry => (entry.1, .text entry.2)))

def ofNat (value : Nat) : Json := .number (.integer value)

def ofInt (value : Int) : Json := .number (.integer value)

def texts (values : List String) : Json := .array (values.map .text)

/-- A field left out when its list is empty. -/
def unlessEmpty {α : Type} (encode : α → Json) (values : List α) : Option Json :=
  if values.isEmpty then none else some (.array (values.map encode))

/-- The value with a member set or replaced; what is no object becomes one. -/
def withMember (value : Json) (key : String) (new : Json) : Json :=
  match value with
  | .object members => .object (OrderedMap.insertEntry key new members)
  | _ => .object [(key, new)]

end Json

end FlowTesting
