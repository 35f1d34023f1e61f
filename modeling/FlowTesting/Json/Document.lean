import FlowTesting.Json.Basic

set_option autoImplicit false

/-!
# JSON documents

A document is what a text says before it is known who reads it. Its members stand in the
order of the text, keys repeated or not, and a part of it may be well formed and yet stand
for no value. Such a part does no harm as long as nobody reads it.
-/

namespace FlowTesting

inductive Document where
  /-- A part that stands for a value, without regard to how that was written. -/
  | known (value : Json)
  | array (elements : List Document)
  | object (members : List (String × Document))
  /-- A part that stands for no value: a number out of range, a text or a key with half a
  surrogate pair, or a part that is nested too deep. -/
  | unreadable

namespace Document

instance : Coe Json Document := ⟨.known⟩

instance : Inhabited Document := ⟨.unreadable⟩

/-- What a document is, one level deep. -/
inductive Form where
  | null
  | boolean (value : Bool)
  | number (value : JsonNumber)
  | text (value : String)
  | array (elements : List Document)
  | object (members : List (String × Document))
  | unreadable

def form : Document → Form
  | .known .null => .null
  | .known (.boolean value) => .boolean value
  | .known (.number value) => .number value
  | .known (.text value) => .text value
  | .known (.array elements) => .array (elements.map .known)
  | .known (.object members) => .object (members.map (fun member => (member.1, .known member.2)))
  | .array elements => .array elements
  | .object members => .object members
  | .unreadable => .unreadable

mutual

/-- The value that a document stands for, if all of its parts stand for one. The last
value of a repeated key stays. -/
def value? : Document → Option Json
  | .known value => some value
  | .array elements => (elementValues? elements).map .array
  | .object members => (memberValues? members).map Json.ofMembers
  | .unreadable => none

def elementValues? : List Document → Option (List Json)
  | [] => some []
  | head :: rest => do return (← value? head) :: (← elementValues? rest)

def memberValues? : List (String × Document) → Option (List (String × Json))
  | [] => some []
  | (key, head) :: rest => do return (key, ← value? head) :: (← memberValues? rest)

end

def isReadable (document : Document) : Bool := document.value?.isSome

/-- The members of an object, of which other documents have none. -/
def members (document : Document) : List (String × Document) :=
  match document.form with
  | .object members => members
  | _ => []

def others (document : Document) (keys : List String) : List Document :=
  (document.members.filter (fun member => !keys.contains member.1)).map (·.2)

end Document

end FlowTesting
