import FlowTesting.Json.Decode

set_option autoImplicit false

/-!
# Reading records

A record is read from an object by the names of its fields, or from an array by
their places. In an object every value at fault counts before any missing field: of
the values the one with the least key is reported, of the missing fields the first
declared. Members that are no field are passed over. A field that an object has more than
once has to fit every time; a lenient object then keeps the last of them, and a record is
refused.
-/

namespace FlowTesting.Decode

inductive FieldFault where
  | value (key : String) (fault : DecodeFault)
  | missing (field : String)

namespace FieldFault

/-- Which of two faults is reported. -/
def prior : FieldFault → FieldFault → FieldFault
  | .value leftKey left, .value rightKey right =>
    if compare rightKey leftKey = .lt then .value rightKey right else .value leftKey left
  | .missing _, .value key fault => .value key fault
  | first, .missing _ => first

def fault : FieldFault → DecodeFault
  | .value _ fault => fault
  | .missing field => .missingField field

end FieldFault

/-- How the fields of a record are read from an object, or from the elements of an array
at their places. A missing place is its own fault, since only the whole record knows
how many there are. -/
structure Fields (α : Type) where
  keys : List String
  ofMembers : List (String × Document) → Except FieldFault α
  ofElements : (place : Nat) → List Document → Except (Sum Nat DecodeFault) (α × List Document)

namespace Fields

def count {α : Type} (fields : Fields α) : Nat := fields.keys.length

def pure {α : Type} (value : α) : Fields α where
  keys := []
  ofMembers _ := .ok value
  ofElements _ elements := .ok (value, elements)

/-- Applies the function read from the first fields to the value read from the others. -/
def apply {α β : Type} (first : Fields (α → β)) (second : Fields α) : Fields β where
  keys := first.keys ++ second.keys
  ofMembers members :=
    match first.ofMembers members, second.ofMembers members with
    | .ok function, .ok argument => .ok (function argument)
    | .error fault, .ok _ => .error fault
    | .ok _, .error fault => .error fault
    | .error left, .error right => .error (left.prior right)
  ofElements place elements := do
    let (function, rest) ← first.ofElements place elements
    let (argument, rest) ← second.ofElements (place + first.count) rest
    return (function argument, rest)

def map {α β : Type} (function : α → β) (fields : Fields α) : Fields β :=
  apply (pure function) fields

instance : Functor Fields where
  map := map

instance : Seq Fields where
  seq first second := apply first (second ())

def occurrences (key : String) (members : List (String × Document)) : List Document :=
  (members.filter (fun member => member.1 == key)).map (·.2)

/-- Reads all documents and keeps what the last of them says. -/
def readLast {α : Type} (read : Reader α) : List Document → Except DecodeFault (Option α)
  | [] => .ok none
  | [last] => (read last).map some
  | earlier :: rest => do
    let _ ← read earlier
    readLast read rest

/-- A field that an object may lack when there is a value for its absence, and so may an
array when there is one for a missing place. -/
def field {α : Type} (key : String) (read : Reader α) (absent missingPlace : Option α) :
    Fields α where
  keys := [key]
  ofMembers members :=
    match readLast read (occurrences key members) with
    | .error fault => .error (.value key fault)
    | .ok (some value) => .ok value
    | .ok none =>
      match absent with
      | some value => .ok value
      | none => .error (.missing key)
  ofElements place elements :=
    match elements with
    | value :: rest => (read value).mapError .inr |>.map (·, rest)
    | [] =>
      match missingPlace with
      | some value => .ok (value, [])
      | none => .error (.inl place)

def required {α : Type} (key : String) (read : Reader α) : Fields α := field key read none none

/-- A field with a value of its own for its absence. -/
def defaulted {α : Type} (key : String) (read : Reader α) (absent : α) : Fields α :=
  field key read (some absent) (some absent)

/-- A field that may be null, and missing from an object but not from an array. -/
def optional {α : Type} (key : String) (read : Reader α) : Fields (Option α) :=
  field key (nullable read) (some none) none

/-- A field whose absence, null included, stands for a value. -/
def tolerant {α : Type} (key : String) (read : Reader α) (absent : α) : Fields α :=
  (·.getD absent) <$> optional key read

/-- A text with one value, which may be absent. -/
def constant (key expected : String) : Fields Unit :=
  defaulted key (fun document => do
    let found ← text document
    if found = expected then return () else throw (.invalidValue (.text found) expected)) ()

/-- Reads from an object only, which may repeat its members. -/
def fromObject {α : Type} (fields : Fields α) (expected : String) : Reader α := fun document =>
  match document.form with
  | .object members => (fields.ofMembers members).mapError FieldFault.fault
  | _ => .error (.wrongType document expected)

/-- The first of the fields that an object has more than once. -/
def repeated? {α : Type} (fields : Fields α) (members : List (String × Document)) :
    Option String :=
  fields.keys.find? (fun key => 1 < (occurrences key members).length)

/-- Reads the fields of an object that has each of them at most once. -/
def ofDistinct {α : Type} (fields : Fields α) (members : List (String × Document)) :
    Except DecodeFault α :=
  match fields.repeated? members with
  | some key => .error (.repeatedField key)
  | none => (fields.ofMembers members).mapError FieldFault.fault

def recordFromObject {α : Type} (fields : Fields α) (typeName : String) : Reader α :=
  fun document =>
    match document.form with
    | .object members => fields.ofDistinct members
    | _ => .error (.wrongType document s!"struct {typeName}")

/-- How many elements a record has as an array. -/
def elementCount (count : Nat) : String := if count = 1 then "1 element" else s!"{count} elements"

def surplusInArray (_ : Nat) : String := "fewer elements in array"

/-- How an array with surplus elements is refused within a flattened record. -/
def surplusInSequence (count : Nat) : String := elementCount count ++ " in sequence"

/-- Reads a record from an object, or from an array of its fields in order. -/
def record {α : Type} (fields : Fields α) (typeName : String)
    (surplus : Nat → String := surplusInArray) : Reader α := fun document =>
  match document.form with
  | .object members => fields.ofDistinct members
  | .array elements =>
    match fields.ofElements 0 elements with
    | .ok (value, []) => .ok value
    | .ok (_, _) => .error (.invalidLength elements.length (surplus fields.count))
    | .error (.inl place) =>
      .error (.invalidLength place s!"struct {typeName} with {elementCount fields.count}")
    | .error (.inr fault) => .error fault
  | _ => .error (.wrongType document s!"struct {typeName}")

end Fields

end FlowTesting.Decode
