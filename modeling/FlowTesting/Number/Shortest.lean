import FlowTesting.Number.Binary64

set_option autoImplicit false

/-!
# Shortest decimals

The decimal written for a floating-point number has the fewest digits that read
back as the number; of two such decimals it is the nearer one.
-/

namespace FlowTesting.Binary64

/-- Decimal digits with a point after the first of them and a power of ten. -/
structure Decimal where
  digits : List Char
  exponent : Int

/-- The fraction that a position stands for, as a numerator over `4 * unitsInOne`, with
the bounds of the reals that round to it. -/
structure Interval where
  lower : Nat
  value : Nat
  upper : Nat
  closed : Bool

/-- The reals that round to a position. Below a power of two the spacing is half of the
one above it, and the bounds themselves belong to the interval of an even position. -/
def interval (position : Nat) : Interval :=
  let spacing := Nat.pow 2 (scale position)
  let value := 4 * units position
  let narrowBelow := significand position == positionsPerScale && scale position != 0
  { lower := value - if narrowBelow then spacing else 2 * spacing
    value
    upper := value + 2 * spacing
    closed := significand position % 2 == 0 }

/-- Whether a number of grid steps lies in the interval. A step is the numerator over the
denominator, in the unit of the interval. -/
def Interval.holds (bounds : Interval) (steps numerator denominator : Nat) : Bool :=
  let point := steps * numerator
  if bounds.closed then bounds.lower * denominator ≤ point && point ≤ bounds.upper * denominator
  else bounds.lower * denominator < point && point < bounds.upper * denominator

/-- The decimal exponent of the leading digit of a positive fraction. -/
def leadingExponent (numerator denominator : Nat) : Int :=
  if denominator ≤ numerator then ((Nat.toDigits 10 (numerator / denominator)).length : Int) - 1
  else
    match (List.range 330).find? (fun shift => denominator ≤ numerator * Nat.pow 10 shift) with
    | some shift => -(shift : Int)
    | none => 0

/-- The grid point of this many digits that is nearest to the value among those that
read back, if one does. -/
def onGrid? (bounds : Interval) (leading : Int) (digits : Nat) : Option Nat :=
  let gridExponent : Int := leading - digits + 1
  let numerator := 4 * unitsInOne * if 0 ≤ gridExponent then Nat.pow 10 gridExponent.natAbs else 1
  let denominator := if 0 ≤ gridExponent then 1 else Nat.pow 10 gridExponent.natAbs
  let below := bounds.value * denominator / numerator
  let remainder := bounds.value * denominator % numerator
  let belowHolds := bounds.holds below numerator denominator
  let aboveHolds := bounds.holds (below + 1) numerator denominator
  let aboveNearer := numerator < 2 * remainder || (2 * remainder == numerator && below % 2 == 1)
  if belowHolds && aboveHolds then some (if aboveNearer then below + 1 else below)
  else if belowHolds then some below
  else if aboveHolds then some (below + 1)
  else none

def dropTrailingZeros (digits : List Char) : List Char :=
  (digits.reverse.dropWhile (· == '0')).reverse

/-- The shortest decimal of a positive magnitude. Seventeen digits always read back. -/
def shortest (position : Nat) : Decimal :=
  let bounds := interval position
  let leading := leadingExponent bounds.value (4 * unitsInOne)
  let candidates := (List.range 17).map (· + 1)
  match candidates.findSome? (fun count => (onGrid? bounds leading count).map (count, ·)) with
  | some (count, steps) =>
    let digits := Nat.toDigits 10 steps
    { digits := dropTrailingZeros digits
      exponent := leading + (digits.length : Int) - (count : Int) }
  | none => { digits := ['0'], exponent := 0 }

/-- How decimals are laid out: the exponents that are written by the place of the point. -/
structure Layout where
  leastPositional : Int
  greatestPositional : Int

/-- Decimals are positional from `0.00001` up to sixteen integer digits, always with a
digit after the point. -/
def layout : Layout := ⟨-5, 15⟩

/-- The digits after the point, of which there is at least one. -/
def fractionDigits (digits : List Char) : List Char := if digits.isEmpty then ['0'] else digits

/-- The text of a decimal. An exponent that is written has a sign. -/
def Layout.write (form : Layout) (decimal : Decimal) : List Char :=
  if form.leastPositional ≤ decimal.exponent && decimal.exponent ≤ form.greatestPositional then
    if decimal.exponent < 0 then
      '0' :: '.' :: List.replicate (decimal.exponent.natAbs - 1) '0' ++ decimal.digits
    else
      let places := decimal.exponent.natAbs + 1
      decimal.digits.take places ++ List.replicate (places - decimal.digits.length) '0' ++
        '.' :: fractionDigits (decimal.digits.drop places)
  else
    let exponent := Nat.toDigits 10 decimal.exponent.natAbs
    let sign := if decimal.exponent < 0 then '-' else '+'
    decimal.digits.take 1 ++
      (if decimal.digits.length ≤ 1 then [] else '.' :: decimal.digits.drop 1) ++
      'e' :: sign :: exponent

def text (value : Binary64) : String :=
  let unsigned :=
    if value.magnitude = 0 then ['0', '.', '0'] else layout.write (shortest value.magnitude)
  String.ofList (if value.negative then '-' :: unsigned else unsigned)

end FlowTesting.Binary64
