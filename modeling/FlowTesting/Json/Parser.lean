import FlowTesting.Json.Document
import FlowTesting.Json.Token

set_option autoImplicit false

/-!
# Reading JSON text

Documents are built from tokens with a stack of open arrays and objects. One that is
nested too deep stands for no value, nor does an object with such a key.
-/

namespace FlowTesting.Json

/-- An open array with its elements in reverse, or an open object with its members in
reverse and the key whose part is awaited. -/
inductive Frame where
  | array (elements : List Document)
  | object (members : List (Option String × Document)) (key? : Option String)

inductive Phase where
  | value
  | firstElement
  | firstKey
  | key
  | colon
  | separator
  | complete (document : Document)

structure Builder where
  stack : List Frame
  phase : Phase

namespace Builder

/-- How many arrays and objects may be open around what stands for a value, itself
included. -/
def greatestDepth : Nat := 127

def start : Builder := ⟨[], .value⟩

def deliver (stack : List Frame) (document : Document) : Builder :=
  match stack with
  | [] => ⟨[], .complete document⟩
  | .array elements :: rest => ⟨.array (document :: elements) :: rest, .separator⟩
  | .object members key? :: rest => ⟨.object ((key?, document) :: members) key? :: rest, .separator⟩

/-- Puts what has been closed in its place, unless it was nested too deep. -/
def deliverClosed (stack : List Frame) (document : Document) : Builder :=
  deliver stack (if stack.length < greatestDepth then document else .unreadable)

def closedObject (members : List (Option String × Document)) : Document :=
  match members.reverse.mapM (fun member => member.1.map (·, member.2)) with
  | some members => .object members
  | none => .unreadable

def close? : List Frame → Token → Option Builder
  | .array elements :: rest, .closeArray => some (deliverClosed rest (.array elements.reverse))
  | .object members _ :: rest, .closeObject => some (deliverClosed rest (closedObject members))
  | _, _ => none

/-- The part of a document that is a single token. -/
def leaf (value? : Option Json) : Document :=
  match value? with
  | some value => .known value
  | none => .unreadable

def begin? (stack : List Frame) : Token → Option Builder
  | .scalar value? => some (deliver stack (leaf value?))
  | .text value? => some (deliver stack (leaf (value?.map .text)))
  | .openArray => some ⟨.array [] :: stack, .firstElement⟩
  | .openObject => some ⟨.object [] none :: stack, .firstKey⟩
  | _ => none

def takeKey? : List Frame → Token → Option Builder
  | .object members _ :: rest, .text key? => some ⟨.object members key? :: rest, .colon⟩
  | _, _ => none

def step? (builder : Builder) (token : Token) : Option Builder :=
  let stack := builder.stack
  match builder.phase with
  | .value => begin? stack token
  | .firstElement => (close? stack token).or (begin? stack token)
  | .firstKey => (close? stack token).or (takeKey? stack token)
  | .key => takeKey? stack token
  | .colon =>
    match token with
    | .colon => some ⟨stack, .value⟩
    | _ => none
  | .separator =>
    match token, stack with
    | .comma, .array _ :: _ => some ⟨stack, .value⟩
    | .comma, .object _ _ :: _ => some ⟨stack, .key⟩
    | _, _ => close? stack token
  | .complete _ => none

end Builder

end FlowTesting.Json

namespace FlowTesting

def Document.parse? (text : String) : Option Document := do
  let tokens ← Json.tokens? text
  let builder ← tokens.foldlM Json.Builder.step? Json.Builder.start
  match builder.phase with
  | .complete document => some document
  | _ => none

def Json.parse? (text : String) : Option Json := (Document.parse? text).bind Document.value?

end FlowTesting
