import FlowTesting.Json.DecodeFault

set_option autoImplicit false

/-!
# Reading scalars, lists and maps from JSON documents
-/

namespace FlowTesting.Decode

/-- Reads a value of a type or says why the document does not fit. -/
abbrev Reader (α : Type) := Document → Except DecodeFault α

def json : Reader Json := fun document =>
  match document.value? with
  | some value => .ok value
  | none => .error .unreadable

def text : Reader String := fun document =>
  match document.form with
  | .text value => .ok value
  | _ => .error (.wrongType document "a string")

def boolean : Reader Bool := fun document =>
  match document.form with
  | .boolean value => .ok value
  | _ => .error (.wrongType document "a boolean")

def integer (typeName : String) (least greatest : Int) : Reader Int := fun document =>
  match document.form with
  | .number (.integer value) =>
    if least ≤ value ∧ value ≤ greatest then .ok value
    else .error (.invalidValue (.integer value) typeName)
  | _ => .error (.wrongType document typeName)

def natural (typeName : String) (bound : Nat) : Reader Nat := fun document =>
  match document.form with
  | .number (.integer value) =>
    if 0 ≤ value ∧ value < bound then .ok value.toNat
    else .error (.invalidValue (.integer value) typeName)
  | _ => .error (.wrongType document typeName)

def natural64 : Reader Nat := natural "u64" (Nat.pow 2 64)

def natural16 : Reader Nat := natural "u16" (Nat.pow 2 16)

def integer64 : Reader Int := integer "i64" (-Nat.pow 2 63) (Nat.pow 2 63 - 1)

def integer32 : Reader Int := integer "i32" (-Nat.pow 2 31) (Nat.pow 2 31 - 1)

def list {α : Type} (element : Reader α) : Reader (List α) := fun document =>
  match document.form with
  | .array elements => elements.mapM element
  | _ => .error (.wrongType document "a sequence")

def nullable {α : Type} (read : Reader α) : Reader (Option α) := fun document =>
  match document.form with
  | .null => .ok none
  | _ => (read document).map some

/-- Reads the members of an object in order. Every one of them has to fit, and the last
one of a key stays. -/
def map {α : Type} (read : Reader α) : Reader (OrderedMap String α) := fun document =>
  match document.form with
  | .object members =>
    (members.mapM (fun member => (read member.2).map (member.1, ·))).map OrderedMap.ofList
  | _ => .error (.wrongType document "a map")

def texts : Reader (OrderedMap String String) := map text

def timestamp : Reader Timestamp := fun document =>
  match document.form with
  | .text value => (Rfc3339.parse value).mapError .time
  | _ => .error (.wrongType document "an RFC 3339 formatted date and time string")

def octets : Reader (List UInt8) := fun document =>
  match document.form with
  | .null => .ok []
  | .text value => (Text.Base64.decode value).mapError .base64
  | _ => .error (.wrongType document "a base64-encoded string")

end FlowTesting.Decode
