set_option autoImplicit false

/-!
# Readable octets

Octets are read as UTF-8 text whatever they are: a replacement character stands for
every longest run of octets that begins a character but does not end one, and for every
octet that begins none.
-/

namespace FlowTesting.Text.Utf8

/-- A character that has begun: how many octets are missing, the bounds of the next one,
and the value so far. -/
structure Begun where
  missing : Nat
  least : Nat
  greatest : Nat
  value : Nat
  deriving DecidableEq, Repr

def replacement : Char := '\ufffd'

/-- The octets that end a character have these bounds, and those after a first octet that
would allow a surrogate, too large a value or a value with a shorter form have narrower
ones. -/
def begin? (octet : Nat) : Option Begun :=
  if 0xc2 ≤ octet ∧ octet ≤ 0xdf then some ⟨1, 0x80, 0xbf, octet - 0xc0⟩
  else if 0xe0 ≤ octet ∧ octet ≤ 0xef then
    some ⟨2, if octet = 0xe0 then 0xa0 else 0x80, if octet = 0xed then 0x9f else 0xbf,
      octet - 0xe0⟩
  else if 0xf0 ≤ octet ∧ octet ≤ 0xf4 then
    some ⟨3, if octet = 0xf0 then 0x90 else 0x80, if octet = 0xf4 then 0x8f else 0xbf,
      octet - 0xf0⟩
  else none

def readFirst (octet : Nat) : List Char × Option Begun :=
  if octet < 0x80 then ([Char.ofNat octet], none)
  else
    match begin? octet with
    | some begun => ([], some begun)
    | none => ([replacement], none)

/-- Reads an octet: the characters that it completes, and the one that has begun. -/
def readOctet (begun? : Option Begun) (octet : Nat) : List Char × Option Begun :=
  match begun? with
  | none => readFirst octet
  | some begun =>
    if begun.least ≤ octet ∧ octet ≤ begun.greatest then
      let value := begun.value * 0x40 + (octet - 0x80)
      if begun.missing = 1 then ([Char.ofNat value], none)
      else ([], some ⟨begun.missing - 1, 0x80, 0xbf, value⟩)
    else
      let (characters, next) := readFirst octet
      (replacement :: characters, next)

def readFrom (begun? : Option Begun) : List UInt8 → List Char
  | [] => if begun?.isSome then [replacement] else []
  | octet :: rest =>
    let (characters, next) := readOctet begun? octet.toNat
    characters ++ readFrom next rest

def read (octets : List UInt8) : List Char := readFrom none octets

end FlowTesting.Text.Utf8
