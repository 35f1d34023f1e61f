import FlowTesting.Json.Document
import FlowTesting.Number.Shortest
import FlowTesting.Text.Base64
import FlowTesting.Text.Quoted
import FlowTesting.Time.Rfc3339

set_option autoImplicit false

/-!
# Why a value does not fit a type
-/

namespace FlowTesting

inductive Found where
  | null
  | boolean (value : Bool)
  | integer (value : Int)
  | float (value : Binary64)
  | text (value : String)
  | sequence
  | map
  deriving DecidableEq

inductive DecodeFault where
  | missingField (field : String)
  | repeatedField (field : String)
  | unreadable
  | invalidType (found : Found) (expected : String)
  | invalidValue (found : Found) (expected : String)
  | invalidLength (length : Nat) (expected : String)
  | unknownVariant (name : String) (variants : List String)
  | time (fault : Rfc3339.Fault)
  | base64 (fault : Text.Base64.Fault)
  deriving DecidableEq

def Found.description : Found → String
  | .null => "null"
  | .boolean value => s!"boolean `{value}`"
  | .integer value => s!"integer `{value}`"
  | .float value => "floating point `" ++ value.text ++ "`"
  | .text value => "string " ++ Text.quoted value
  | .sequence => "sequence"
  | .map => "map"

namespace DecodeFault

def choice (names : List String) : String :=
  match names with
  | [] => "there are no variants"
  | [only] => s!"expected `{only}`"
  | [first, second] => s!"expected `{first}` or `{second}`"
  | _ => "expected one of " ++ ", ".intercalate (names.map (fun name => s!"`{name}`"))

def message : DecodeFault → String
  | .missingField field => s!"missing field `{field}`"
  | .repeatedField field => s!"duplicate field `{field}`"
  | .unreadable => "no value"
  | .invalidType found expected =>
    "invalid type: " ++ found.description ++ ", expected " ++ expected
  | .invalidValue found expected =>
    "invalid value: " ++ found.description ++ ", expected " ++ expected
  | .invalidLength length expected => s!"invalid length {length}, expected {expected}"
  | .unknownVariant name variants => s!"unknown variant `{name}`, " ++ choice variants
  | .time fault => fault.message
  | .base64 fault => fault.message

def wrongType (document : Document) (expected : String) : DecodeFault :=
  match document.form with
  | .null => .invalidType .null expected
  | .boolean value => .invalidType (.boolean value) expected
  | .number (.integer value) => .invalidType (.integer value) expected
  | .number (.float value) => .invalidType (.float value) expected
  | .text value => .invalidType (.text value) expected
  | .array _ => .invalidType .sequence expected
  | .object _ => .invalidType .map expected
  | .unreadable => .unreadable

end DecodeFault

end FlowTesting
