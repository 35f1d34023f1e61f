set_option autoImplicit false

/-!
# Punycode

A label is written in ASCII as its ASCII characters, a hyphen, and the other characters
in the order of their code points: how many places each lies after the one before, where
a place is a position in the label so far for each code point in between. These numbers
have digits in base 36 of which the last one is smaller than a threshold, and the
thresholds adapt to the numbers before.
-/

namespace FlowTesting.DomainName.Punycode

def base : Nat := 36
def leastThreshold : Nat := 1
def greatestThreshold : Nat := 26
def skew : Nat := 38
def firstDamping : Nat := 700
def laterDamping : Nat := 2
def firstBias : Nat := 72
def firstCode : Nat := 0x80

/-- The digit with a value below 36. -/
def symbol (value : Nat) : Char :=
  if value < 26 then Char.ofNat ('a'.toNat + value) else Char.ofNat ('0'.toNat + (value - 26))

/-- The value of a digit, in either case. -/
def value? (character : Char) : Option Nat :=
  if 'a' ≤ character ∧ character ≤ 'z' then some (character.toNat - 'a'.toNat)
  else if 'A' ≤ character ∧ character ≤ 'Z' then some (character.toNat - 'A'.toNat)
  else if character.isDigit then some (character.toNat - '0'.toNat + 26)
  else none

/-- The threshold of the digit at a place, where places are multiples of the base. -/
def threshold (place bias : Nat) : Nat :=
  if place ≤ bias then leastThreshold
  else if bias + greatestThreshold ≤ place then greatestThreshold
  else place - bias

theorem threshold_pos (place bias : Nat) : 0 < threshold place bias := by
  unfold threshold leastThreshold greatestThreshold
  split
  · omega
  · split <;> omega

/-- Scales a number down until it is small, and counts the bias up. -/
def scaleDown (delta bias : Nat) : Nat × Nat :=
  if (base - leastThreshold) * greatestThreshold / 2 < delta then
    scaleDown (delta / (base - leastThreshold)) (bias + base)
  else (delta, bias)
termination_by delta
decreasing_by
  exact Nat.div_lt_self (by omega) (by decide)

/-- The bias after a number, given how many characters there are then. -/
def adapted (delta count : Nat) (isFirst : Bool) : Nat :=
  let damped := delta / if isFirst then firstDamping else laterDamping
  let (scaled, bias) := scaleDown (damped + damped / count) 0
  bias + (base - leastThreshold + 1) * scaled / (scaled + skew)

def digits (bias place number : Nat) : List Char :=
  let least := threshold place bias
  if number < least then [symbol number]
  else
    symbol (least + (number - least) % (base - least)) ::
      digits bias (place + base) ((number - least) / (base - least))
termination_by number
decreasing_by
  have positive := threshold_pos place bias
  exact Nat.lt_of_le_of_lt (Nat.div_le_self _ _) (by omega)

/-- Where encoding stands: what is written, the places since the last character, how many
characters are written, and the bias. -/
structure Encoder where
  written : List Char
  delta : Nat
  count : Nat
  bias : Nat

/-- Passes a character of the label in search of those of one code point. -/
def Encoder.pass (basics code : Nat) (encoder : Encoder) (character : Char) : Encoder :=
  if character.toNat < code then { encoder with delta := encoder.delta + 1 }
  else if character.toNat = code then
    { written := encoder.written ++ digits encoder.bias base encoder.delta
      delta := 0
      count := encoder.count + 1
      bias := adapted encoder.delta (encoder.count + 1) (encoder.count == basics) }
  else encoder

/-- Writes the characters of ascending code points, none of them below a given one. -/
def encodeCodes (label : List Char) (basics : Nat) :
    (least : Nat) → Encoder → List Nat → List Char
  | _, encoder, [] => encoder.written
  | least, encoder, code :: rest =>
    let delta := encoder.delta + (code - least) * (encoder.count + 1)
    let passed := label.foldl (Encoder.pass basics code) { encoder with delta }
    encodeCodes label basics (code + 1) { passed with delta := passed.delta + 1 } rest

def isBasic (character : Char) : Bool := character.toNat < firstCode

def encode (label : List Char) : List Char :=
  let basics := label.filter isBasic
  let codes := ((label.filter (fun character => !isBasic character)).map (·.toNat)).mergeSort
  basics ++ (if basics.isEmpty then [] else ['-']) ++
    encodeCodes label basics.length firstCode ⟨[], 0, basics.length, firstBias⟩ codes.eraseDups

/-- Where decoding stands: the characters so far, the code point and the position of the
last one, the bias, and the number that is being read with the weight and the place of
its next digit. -/
structure Decoder where
  characters : List Char
  code : Nat
  position : Nat
  bias : Nat
  number : Nat
  weight : Nat
  place : Nat

def Decoder.insert? (decoder : Decoder) (number : Nat) : Option Decoder :=
  let count := decoder.characters.length + 1
  let reached := decoder.position + number
  let code := decoder.code + reached / count
  if code.isValidChar then
    some
      { characters := decoder.characters.insertIdx (reached % count) (Char.ofNat code)
        code
        position := reached % count + 1
        bias := adapted number count (decoder.position == 0)
        number := 0
        weight := 1
        place := base }
  else none

def Decoder.step? (decoder : Decoder) (character : Char) : Option Decoder := do
  let value ← value? character
  let number := decoder.number + value * decoder.weight
  let least := threshold decoder.place decoder.bias
  if value < least then decoder.insert? number
  else
    return { decoder with
      number
      weight := decoder.weight * (base - least)
      place := decoder.place + base }

/-- Splits what has been written at the last hyphen, unless that comes first. -/
def split (written : List Char) : List Char × List Char :=
  let numbers := (written.reverse.takeWhile (· != '-')).reverse
  let basics := written.take (written.length - numbers.length - 1)
  if basics.isEmpty then ([], written) else (basics, numbers)

def decode? (written : List Char) : Option (List Char) := do
  let (basics, numbers) := split written
  let decoder ← numbers.foldlM Decoder.step? ⟨basics, firstCode, 0, firstBias, 0, 1, base⟩
  if decoder.place = base then some decoder.characters else none

end FlowTesting.DomainName.Punycode
