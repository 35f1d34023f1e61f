import FlowTesting.Text.Unprintable

set_option autoImplicit false

/-!
# Quoted text

Text between double quotes in which quotes, backslashes and unprintable
characters are escaped. Visible characters of any script stand for themselves,
and so does the apostrophe.
-/

namespace FlowTesting.Text

/-- A character named by its code point in lower-case hexadecimal. -/
def codePointEscape (character : Char) : List Char :=
  "\\u\x7b".toList ++ Nat.toDigits 16 character.toNat ++ "\x7d".toList

def quotedCharacter (character : Char) : List Char :=
  match character with
  | '"' => ['\\', '"']
  | '\\' => ['\\', '\\']
  | '\n' => ['\\', 'n']
  | '\r' => ['\\', 'r']
  | '\t' => ['\\', 't']
  | '\x00' => ['\\', '0']
  | other =>
    if 0x20 ≤ other.toNat && other.toNat < 0x7f then [other]
    else if isUnprintable other then codePointEscape other
    else [other]

def quoted (text : String) : String :=
  String.ofList ('"' :: text.toList.flatMap quotedCharacter ++ ['"'])

example : quoted "a\"b\\c'\n" = "\"a\\\"b\\\\c'\\n\"" := by decide +kernel
example : quoted "\x7f" = "\"\\u\x7b7f\x7d\"" := by decide +kernel
example : quoted "é" = "\"é\"" := by decide +kernel

end FlowTesting.Text
