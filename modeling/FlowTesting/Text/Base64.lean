set_option autoImplicit false

/-!
# Base64

The standard alphabet with padding. Reading accepts canonical texts only: full
groups of four symbols, padding at the very end, and no bits set beyond the last
octet. A refusal names the first symbol at fault and its offset.
-/

namespace FlowTesting.Text.Base64

/-- Why a text is not canonical. -/
inductive Fault where
  | symbol (octet offset : Nat)
  | length (symbols : Nat)
  | lastSymbol (octet offset : Nat)
  | padding
  deriving DecidableEq, Repr

def Fault.message : Fault → String
  | .symbol octet offset => s!"Invalid symbol {octet}, offset {offset}."
  | .length symbols => s!"Invalid input length: {symbols}"
  | .lastSymbol octet offset => s!"Invalid last symbol {octet}, offset {offset}."
  | .padding => "Invalid padding"

def symbol (value : Nat) : Char :=
  if value < 26 then Char.ofNat (65 + value)
  else if value < 52 then Char.ofNat (97 + (value - 26))
  else if value < 62 then Char.ofNat (48 + (value - 52))
  else if value = 62 then '+'
  else '/'

def value? (octet : Nat) : Option Nat :=
  if 65 ≤ octet ∧ octet ≤ 90 then some (octet - 65)
  else if 97 ≤ octet ∧ octet ≤ 122 then some (octet - 97 + 26)
  else if 48 ≤ octet ∧ octet ≤ 57 then some (octet - 48 + 52)
  else if octet = 43 then some 62
  else if octet = 47 then some 63
  else none

def paddingOctet : Nat := 61

def encodeSymbols : List Nat → List Char
  | [] => []
  | [first] => [symbol (first / 4), symbol (first % 4 * 16), '=', '=']
  | [first, second] =>
    [symbol (first / 4), symbol (first % 4 * 16 + second / 16), symbol (second % 16 * 4), '=']
  | first :: second :: third :: rest =>
    symbol (first / 4) :: symbol (first % 4 * 16 + second / 16) ::
      symbol (second % 16 * 4 + third / 64) :: symbol (third % 64) :: encodeSymbols rest

def encode (octets : List UInt8) : String :=
  String.ofList (encodeSymbols (octets.map (·.toNat)))

/-- The number of an octet that has to be a symbol. -/
def symbolValue (octet offset : Nat) : Except Fault Nat :=
  match value? octet with
  | some value => .ok value
  | none => .error (.symbol octet offset)

/-- The symbols of the closing group, up to its padding: the octets, each with its
offset, and how many of them are padding. -/
def closingSymbols (offset : Nat) : List Nat → Except Fault (List (Nat × Nat) × Nat) :=
  fun octets =>
    let symbols := octets.takeWhile (· != paddingOctet)
    let rest := octets.drop symbols.length
    let numbered := symbols.zipIdx offset
    match numbered.find? (fun entry => (value? entry.1).isNone) with
    | some entry => .error (.symbol entry.1 entry.2)
    | none =>
      if rest.isEmpty then .ok (numbered, 0)
      else if symbols.length < 2 then .error (.symbol paddingOctet (offset + symbols.length))
      else if rest.all (· == paddingOctet) then .ok (numbered, rest.length)
      else .error (.symbol paddingOctet (offset + symbols.length))

/-- Reads the closing group, which may be padded or, for an empty text, absent. -/
def decodeClosing (offset : Nat) (octets : List Nat) : Except Fault (List Nat) := do
  let (symbols, paddings) ← closingSymbols offset octets
  let values := symbols.map (fun entry => (value? entry.1).getD 0)
  if octets.isEmpty then return []
  if symbols.length < 2 then throw (.length (offset + symbols.length))
  if (symbols.length + paddings) % 4 ≠ 0 then throw .padding
  match symbols, values with
  | [_, (octet, last)], [first, second] =>
    if second % 16 ≠ 0 then throw (.lastSymbol octet last)
    return [first * 4 + second / 16]
  | [_, _, (octet, last)], [first, second, third] =>
    if third % 4 ≠ 0 then throw (.lastSymbol octet last)
    return [first * 4 + second / 16, second % 16 * 16 + third / 4]
  | _, [first, second, third, fourth] =>
    return [first * 4 + second / 16, second % 16 * 16 + third / 4, third % 4 * 64 + fourth]
  | _, _ => throw .padding

/-- Reads the groups before the last four symbols as full ones. -/
def decodeSymbols (offset : Nat) : List Nat → Except Fault (List Nat)
  | first :: second :: third :: fourth :: next :: rest => do
    let a ← symbolValue first offset
    let b ← symbolValue second (offset + 1)
    let c ← symbolValue third (offset + 2)
    let d ← symbolValue fourth (offset + 3)
    let later ← decodeSymbols (offset + 4) (next :: rest)
    return (a * 4 + b / 16) :: (b % 16 * 16 + c / 4) :: (c % 4 * 64 + d) :: later
  | closing => decodeClosing offset closing

/-- The octets that a text stands for. A text one symbol too long is refused for that
symbol first when the symbol is none of the alphabet's. -/
def decode (text : String) : Except Fault (List UInt8) :=
  let octets := text.toUTF8.toList.map (·.toNat)
  let stray := if octets.length % 4 = 1 then octets.getLast? else none
  match stray.filter (fun octet => octet ≠ paddingOctet && (value? octet).isNone) with
  | some octet => .error (.symbol octet (octets.length - 1))
  | none => (decodeSymbols 0 octets).map (·.map (fun octet => octet.toUInt8))

example : encode "hello\n".toUTF8.toList = "aGVsbG8K" := by decide +kernel
example : (decode "aGVsbG8K").toOption = some "hello\n".toUTF8.toList := by decide +kernel
example : (decode "YR==").toOption = none := by decide +kernel

end FlowTesting.Text.Base64
