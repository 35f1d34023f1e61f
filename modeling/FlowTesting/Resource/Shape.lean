import FlowTesting.Resource.Metadata

set_option autoImplicit false

/-!
# Shapes of resource parts

Most parts of a resource are only checked and passed on. What such a part may hold is
given by its shape, and reading it by its shape brings it into normal form: unknown
members and absent parts are left out, and a part that has to be there but is absent or
null takes the plainest value of its shape.
-/

namespace FlowTesting

/-- A port named by its number or by a name of its own. -/
inductive TargetPort where
  | number (value : Int)
  | name (value : String)
  deriving DecidableEq

namespace TargetPort

def decode : Decode.Reader TargetPort := fun document =>
  match document.form with
  | .text value => .ok (.name value)
  | .number (.integer value) =>
    if -Nat.pow 2 31 ≤ value ∧ value < Nat.pow 2 31 then .ok (.number value)
    else .error (.invalidValue (.integer value) "a 32-bit integer")
  | _ => .error (.wrongType document "IntOrString")

def encode : TargetPort → Json
  | .number value => .ofInt value
  | .name value => .text value

end TargetPort

/-- What a part of a resource may hold. A member of a record is given by its key, by
whether it is always written, and by its own shape. -/
inductive Shape where
  | boolean
  | integer32
  | integer64
  | text
  | instant
  | port
  | metadata
  | list (element : Shape)
  | map (element : Shape)
  | record (name : String) (members : List (String × Bool × Shape))

namespace Shape

/-- A member that is left out when it is absent. -/
def optional (key : String) (shape : Shape) : String × Bool × Shape := (key, false, shape)

/-- A member that is always written. -/
def always (key : String) (shape : Shape) : String × Bool × Shape := (key, true, shape)

def optionals (shape : Shape) (keys : List String) : List (String × Bool × Shape) :=
  keys.map (optional · shape)

def alwaysAll (shape : Shape) (keys : List String) : List (String × Bool × Shape) :=
  keys.map (always · shape)

mutual

/-- The plainest value of a shape. -/
def plainest : Shape → Json
  | .boolean => .boolean false
  | .integer32 => .ofInt 0
  | .integer64 => .ofInt 0
  | .text => .text ""
  | .instant => .ofTimestamp ⟨0, 0⟩
  | .port => .ofInt 0
  | .metadata => .object []
  | .list _ => .array []
  | .map _ => .object []
  | .record _ members => .ofFields (plainestMembers members)

/-- The members that a record always has, with the plainest values. -/
def plainestMembers : List (String × Bool × Shape) → List (String × Option Json)
  | [] => []
  | (key, isAlways, shape) :: rest =>
    (key, if isAlways then some shape.plainest else none) :: plainestMembers rest

end

/-- Passes on what has been read, in normal form. -/
def normalized {α : Type} (read : Decode.Reader α) (encode : α → Json) : Decode.Reader Json :=
  fun document => (read document).map encode

mutual

def read : Shape → Decode.Reader Json
  | .boolean => normalized Decode.boolean .boolean
  | .integer32 => normalized Decode.integer32 .ofInt
  | .integer64 => normalized Decode.integer64 .ofInt
  | .text => normalized Decode.text .text
  | .instant => normalized Decode.timestamp .ofTimestamp
  | .port => normalized TargetPort.decode TargetPort.encode
  | .metadata => normalized Metadata.decode Metadata.encode
  | .list element => normalized (Decode.list element.read) .array
  | .map element => normalized (Decode.map element.read) (fun entries => .object entries.entries)
  | .record name members =>
    (Decode.Fields.map .ofFields (readMembers members)).fromObject name

def readMembers : List (String × Bool × Shape) → Decode.Fields (List (String × Option Json))
  | [] => .pure []
  | (key, isAlways, shape) :: rest =>
    .apply
      (.map
        (fun value? others =>
          (key, if isAlways then some (value?.getD shape.plainest) else value?) :: others)
        (.optional key shape.read))
      (readMembers rest)

end

end Shape

/-- Members that are passed on as they have been read. -/
abbrev PassedOn := OrderedMap String Json

namespace PassedOn

def ofFields (fields : List (String × Option Json)) : PassedOn :=
  .ofList (fields.filterMap (fun field => field.2.map (field.1, ·)))

def members (shapes : List (String × Bool × Shape)) : Decode.Fields PassedOn :=
  .map ofFields (Shape.readMembers shapes)

def fields (passedOn : PassedOn) : List (String × Option Json) :=
  passedOn.entries.map (fun entry => (entry.1, some entry.2))

end PassedOn

end FlowTesting
