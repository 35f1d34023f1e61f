import FlowTesting.Json.Basic
import FlowTesting.Number.Shortest

set_option autoImplicit false

/-!
# Compact JSON text

Values without blanks between their parts and with members in the order they are
kept. Characters other than quotes, backslashes and control characters stand for
themselves.
-/

namespace FlowTesting.Json

def escapedCharacter (character : Char) : List Char :=
  match character with
  | '"' => ['\\', '"']
  | '\\' => ['\\', '\\']
  | '\n' => ['\\', 'n']
  | '\r' => ['\\', 'r']
  | '\t' => ['\\', 't']
  | '\x08' => ['\\', 'b']
  | '\x0c' => ['\\', 'f']
  | other =>
    if other.toNat < 0x20 then
      ['\\', 'u', '0', '0', if other.toNat < 0x10 then '0' else '1',
        Nat.digitChar (other.toNat % 16)]
    else [other]

def escapedText (text : String) : String :=
  String.ofList ('"' :: text.toList.flatMap escapedCharacter ++ ['"'])

end FlowTesting.Json

namespace FlowTesting

def JsonNumber.text : JsonNumber → String
  | .integer value => toString value
  | .float value => value.text

end FlowTesting

namespace FlowTesting.Json

mutual

def compact : Json → String
  | .null => "null"
  | .boolean true => "true"
  | .boolean false => "false"
  | .number value => value.text
  | .text value => escapedText value
  | .array elements => "[" ++ ",".intercalate (compactElements elements) ++ "]"
  | .object members => "\x7b" ++ ",".intercalate (compactMembers members) ++ "\x7d"

def compactElements : List Json → List String
  | [] => []
  | head :: rest => compact head :: compactElements rest

def compactMembers : List (String × Json) → List String
  | [] => []
  | (key, value) :: rest => (escapedText key ++ ":" ++ compact value) :: compactMembers rest

end

end FlowTesting.Json
