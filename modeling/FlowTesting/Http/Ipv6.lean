import FlowTesting.Text.Percent
import FlowTesting.Text.Split

set_option autoImplicit false

/-!
# IPv6 addresses

An address is eight pieces of two octets. Two colons in a row stand for pieces that are
zero, and the last two pieces may be written as four octets. An address is shown in its
shortest form: the longest run of zeros, and of equally long ones the first, is left out
when it is longer than one piece.
-/

namespace FlowTesting.Http.Ipv6

def pieceCount : Nat := 8

/-- A piece of one to four hexadecimal digits. -/
def piece? (digits : List Char) : Option Nat :=
  if digits.isEmpty || 4 < digits.length then none
  else digits.foldlM (fun value digit =>
    (Text.Percent.digitValue? digit).map (value * 16 + ·)) 0

/-- An octet in decimal without a leading zero. -/
def octet? (digits : List Char) : Option Nat :=
  let value := Nat.ofDigitChars 10 digits 0
  match digits with
  | [] => none
  | '0' :: _ :: _ => none
  | _ => if digits.all Char.isDigit && value < 256 then some value else none

def dotted? (characters : List Char) : Option (List Nat) := do
  let [first, second, third, fourth] ← (Text.splitOn '.' characters).mapM octet? | none
  return [first * 256 + second, third * 256 + fourth]

/-- The pieces of parts, of which the last may be four octets. -/
def pieces? : List (List Char) → Option (List Nat)
  | [] => some []
  | [last] => if last.contains '.' then dotted? last else (piece? last).map ([·])
  | part :: rest => do return (← piece? part) :: (← pieces? rest)

/-- The parts of an address between its colons. Two colons at an end leave one empty part,
and a single one there is no address. -/
def parts? (characters : List Char) : Option (List (List Char)) :=
  match Text.splitOn ':' characters with
  | [] => none
  | first :: rest =>
    let parts := if first.isEmpty then rest else first :: rest
    let ends (marks : List Char) : Bool :=
      marks.take 1 == [':'] && marks.take 2 != [':', ':']
    if characters.isEmpty || ends characters || ends characters.reverse then none
    else some (if parts.getLast? == some [] then parts.dropLast else parts)

/-- Fills up pieces with zeros in between. There is at least one of them. -/
def filled? (before after : List Nat) : Option (List Nat) :=
  let known := before.length + after.length
  if known < pieceCount then
    some (before ++ List.replicate (pieceCount - known) 0 ++ after)
  else none

def parse? (characters : List Char) : Option (List Nat) := do
  let parts ← parts? characters
  let before := parts.takeWhile (!·.isEmpty)
  match parts.drop before.length with
  | [] =>
    let pieces ← pieces? before
    if pieces.length = pieceCount then some pieces else none
  | _ :: after => filled? (← before.mapM piece?) (← pieces? after)

/-- How many zeros the pieces from a place on begin with. -/
def zerosFrom (pieces : List Nat) (place : Nat) : Nat :=
  ((pieces.drop place).takeWhile (· == 0)).length

def joined (pieces : List Nat) : List Char :=
  [':'].intercalate (pieces.map (Nat.toDigits 16))

/-- The address in its shortest form. -/
def text (pieces : List Nat) : List Char :=
  let places := List.range pieces.length
  let longest := (places.map (zerosFrom pieces)).foldl max 0
  match places.find? (fun place => 1 < longest && zerosFrom pieces place == longest) with
  | some place =>
    joined (pieces.take place) ++ [':', ':'] ++ joined (pieces.drop (place + longest))
  | none => joined pieces

end FlowTesting.Http.Ipv6
