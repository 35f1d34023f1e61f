import FlowTesting.Text.Utf8

set_option autoImplicit false

/-!
# Percent escapes

An octet that may not stand for itself is written as a percent sign with two
hexadecimal digits.
-/

namespace FlowTesting.Text.Percent

def digit (value : Nat) : Char := (Nat.digitChar value).toUpper

def escape (octet : UInt8) : List Char :=
  ['%', digit (octet.toNat / 16), digit (octet.toNat % 16)]

/-- Escapes the octets of the characters that may not stand for themselves. -/
def encode (standsForItself : Char → Bool) (characters : List Char) : List Char :=
  characters.flatMap (fun character =>
    if standsForItself character then [character]
    else (String.utf8EncodeChar character).flatMap escape)

def digitValue? (character : Char) : Option Nat :=
  let code := character.toNat
  if 0x30 ≤ code && code ≤ 0x39 then some (code - 0x30)
  else if 0x41 ≤ code && code ≤ 0x46 then some (code - 0x41 + 10)
  else if 0x61 ≤ code && code ≤ 0x66 then some (code - 0x61 + 10)
  else none

/-- The octets of a text with escapes resolved. A percent sign that begins no escape
stands for itself. -/
def octets : List Char → List UInt8
  | '%' :: first :: second :: rest =>
    match digitValue? first, digitValue? second with
    | some high, some low => UInt8.ofNat (high * 16 + low) :: octets rest
    | _, _ => 0x25 :: octets (first :: second :: rest)
  | character :: rest => String.utf8EncodeChar character ++ octets rest
  | [] => []

/-- The text with escapes resolved, if its octets make one. -/
def decode? (characters : List Char) : Option (List Char) :=
  (String.fromUTF8? ⟨(octets characters).toArray⟩).map (·.toList)

/-- A name or value of a query, in which a plus sign stands for a space. -/
def decodeForm (characters : List Char) : String :=
  String.ofList (Utf8.read (octets
    (characters.map (fun character => if character = '+' then ' ' else character))))

def isPlainInForm (character : Char) : Bool :=
  character.isAlphanum || ['*', '-', '.', '_'].contains character

def encodeForm (text : String) : List Char :=
  (encode (fun character => isPlainInForm character || character = ' ') text.toList).map
    (fun character => if character = ' ' then '+' else character)

end FlowTesting.Text.Percent
