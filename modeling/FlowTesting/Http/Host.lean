import FlowTesting.DomainName.Ascii
import FlowTesting.Http.Ipv6

set_option autoImplicit false

/-!
# Hosts

The host of an address is a domain name in ASCII, the four octets of a number, or eight
pieces between brackets. Names that end in a number have to be one. Schemes that are not
known to have such hosts have opaque ones, which are kept as they are.
-/

namespace FlowTesting.Http.Host

def number? (base : Nat) : List Char → Option Nat
  | digits => digits.foldlM (fun value digit => do
      let next ← Text.Percent.digitValue? digit
      if next < base then some (value * base + next) else none) 0

/-- One part of a number: hexadecimal after a zero and an x, octal after a zero. -/
def part? : List Char → Option Nat
  | [] => none
  | '0' :: 'x' :: digits => number? 16 digits
  | '0' :: digits => number? 8 digits
  | digits => number? 10 digits

/-- The parts of a name, without an empty one at its end. -/
def labels (name : List Char) : List (List Char) :=
  let parts := Text.splitOn '.' name
  if parts.getLast? = some [] ∧ 1 < parts.length then parts.dropLast else parts

/-- Whether the last part of a name makes it a number. -/
def endsInNumber (name : List Char) : Bool :=
  match (labels name).getLast? with
  | none => false
  | some [] => false
  | some last => last.all Char.isDigit || (part? last).isSome

/-- The number of parts of which each is an octet, but the last fills what is left. -/
def combine? : (places : Nat) → List Nat → Option Nat
  | _, [] => none
  | places, [last] => if last < Nat.pow 256 places then some last else none
  | places, octet :: rest =>
    if octet < 256 then (combine? (places - 1) rest).map (octet * Nat.pow 256 (places - 1) + ·) else none

def dotted (address : Nat) : String :=
  s!"{address / Nat.pow 2 24}.{address / Nat.pow 2 16 % 256}.{address / Nat.pow 2 8 % 256}.{address % 256}"

def numeric? (name : List Char) : Option String := do
  let parts ← (labels name).mapM part?
  if 4 < parts.length then none else (combine? 4 parts).map dotted

/-- A name of a host, or a number. Escapes in it have to make a text. -/
def name? (written : List Char) : Option String := do
  let name ← DomainName.toAscii? (← Text.Percent.decode? written)
  if name.isEmpty then none
  else if endsInNumber name then numeric? name
  else some (String.ofList name)

/-- What follows an opening bracket: an address and the closing bracket. -/
def bracketed? (written : List Char) : Option String :=
  if written.getLast? == some ']' then
    (Ipv6.parse? written.dropLast).map (fun pieces =>
      String.ofList ('[' :: Ipv6.text pieces ++ [']']))
  else none

/-- The host of a known scheme. -/
def parse? (written : List Char) : Option String :=
  match written with
  | '[' :: rest => bracketed? rest
  | _ => name? written

def forbiddenInOpaque : List Char :=
  ['\x00', '\t', '\n', '\r', ' ', '#', '/', ':', '<', '>', '?', '@', '[', '\\', ']', '^', '|']

def isPrintable (character : Char) : Bool := 0x20 ≤ character.toNat && character.toNat < 0x7f

/-- The host of any other scheme. -/
def parseOpaque? (written : List Char) : Option String :=
  match written with
  | '[' :: rest => bracketed? rest
  | _ =>
    if written.any forbiddenInOpaque.contains then none
    else some (String.ofList (Text.Percent.encode isPrintable written))

end FlowTesting.Http.Host
