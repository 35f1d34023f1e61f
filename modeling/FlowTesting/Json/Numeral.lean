import FlowTesting.Json.Basic

set_option autoImplicit false

/-!
# JSON numerals

A numeral without point and exponent is an integer when it fits the 64-bit ranges,
and every other numeral is a floating-point number. The significand takes the digits
that keep it below `2 ^ 64`: integer digits past that only raise the exponent, and
fraction digits past that are ignored.
-/

namespace FlowTesting.Json.Numeral

def greatestSignificand : Nat := Nat.pow 2 64 - 1

def leastIntegerMagnitude : Nat := Nat.pow 2 63

/-- The greatest exponent that is read digit by digit. -/
def greatestExponent : Nat := Nat.pow 2 31 - 1

/-- The parts of a numeral, with an exponent only where one is written. -/
structure Parts where
  negative : Bool
  integer : List Char
  fraction : Option (List Char)
  exponent : Option (Bool × List Char)

def spanDigits (characters : List Char) : List Char × List Char :=
  characters.span Char.isDigit

/-- Whether digits are an integer: there is one, and no zero leads others. -/
def isInteger : List Char → Bool
  | [] => false
  | '0' :: _ :: _ => false
  | _ => true

/-- Splits a numeral into its parts, if it is well formed: no zero leads other digits,
and a point or an exponent mark has digits after it. -/
def parts? (characters : List Char) : Option Parts := do
  let (negative, unsigned) := match characters with
    | '-' :: rest => (true, rest)
    | _ => (false, characters)
  let (integer, afterInteger) := spanDigits unsigned
  guard (isInteger integer)
  let (fraction, afterFraction) ← match afterInteger with
    | '.' :: rest =>
      let (digits, following) := spanDigits rest
      if digits.isEmpty then none else some (some digits, following)
    | _ => some (none, afterInteger)
  let exponent ← match afterFraction with
    | [] => some none
    | mark :: rest =>
      if mark ≠ 'e' ∧ mark ≠ 'E' then none
      else
        let (sign, digits) := match rest with
          | '+' :: digits => (false, digits)
          | '-' :: digits => (true, digits)
          | _ => (false, rest)
        if digits.isEmpty || !digits.all Char.isDigit then none else some (some (sign, digits))
  return { negative, integer, fraction, exponent }

/-- Takes digits into a significand while it stays within bounds, and counts them. -/
def takeDigits (significand taken : Nat) : List Char → Nat × Nat
  | [] => (significand, taken)
  | digit :: rest =>
    let next := significand * 10 + (digit.toNat - '0'.toNat)
    if next ≤ greatestSignificand then takeDigits next (taken + 1) rest else (significand, taken)

/-- The significand and the exponent that the integer and fraction digits give. -/
def decimal (parts : Parts) : Nat × Int :=
  let (integer, taken) := takeDigits 0 0 parts.integer
  let raised : Int := parts.integer.length - taken
  match parts.fraction with
  | none => (integer, raised)
  | some digits =>
    let (significand, used) := takeDigits integer 0 digits
    (significand, raised - used)

def float? (parts : Parts) : Option Binary64 := do
  let (significand, exponent) := decimal parts
  let magnitude ← match parts.exponent with
    | none => Binary64.ofDecimal? significand exponent
    | some (negative, digits) =>
      let written := Nat.ofDigitChars 10 digits 0
      if greatestExponent < written then
        if significand = 0 ∨ negative then some 0 else none
      else
        let written : Int := if negative then -(written : Int) else written
        Binary64.ofDecimal? significand (exponent + written)
  Binary64.ofPosition? parts.negative magnitude

def number? (parts : Parts) : Option JsonNumber := do
  let magnitude := Nat.ofDigitChars 10 parts.integer 0
  let whole := parts.fraction.isNone && parts.exponent.isNone
  if whole && !parts.negative && magnitude ≤ greatestSignificand then
    return .integer magnitude
  else if whole && parts.negative && 0 < magnitude && magnitude ≤ leastIntegerMagnitude then
    return .integer (-(magnitude : Int))
  else
    return .float (← float? parts)

end FlowTesting.Json.Numeral
