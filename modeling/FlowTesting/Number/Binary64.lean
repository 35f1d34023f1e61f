set_option autoImplicit false

/-!
# Finite binary floating-point numbers

A number of 53 significant bits is a sign and the position of its magnitude among
the non-negative finite numbers in ascending order. Position `2 ^ 52 * s + m` is
`m` times `2 ^ s` units, where a unit is the smallest positive magnitude.
Arithmetic is exact in natural numbers and rounded once, ties going to the even
position.
-/

namespace FlowTesting

/-- A finite number with a sign, which zero has too. -/
structure Binary64 where
  negative : Bool
  magnitude : Nat
  finite : magnitude < 2047 * Nat.pow 2 52
  deriving DecidableEq

namespace Binary64

/-- How many positions share one spacing. -/
def positionsPerScale : Nat := Nat.pow 2 52

/-- The units in one. -/
def unitsInOne : Nat := Nat.pow 2 1074

/-- The first position past the finite magnitudes. -/
def finiteBound : Nat := 2047 * Nat.pow 2 52

/-- The binary logarithm of the spacing at a position, in units. -/
def scale (position : Nat) : Nat := position / positionsPerScale - 1

/-- The magnitude at a position as a multiple of its spacing. -/
def significand (position : Nat) : Nat := position - scale position * positionsPerScale

def units (position : Nat) : Nat := significand position * Nat.pow 2 (scale position)

/-- The position nearest to a positive fraction of units; the even one of two equally
near ones. Positions past the finite ones stand for overflow. -/
def nearest (numerator denominator : Nat) : Nat :=
  let scale := Nat.log2 (numerator / denominator) - 52
  let spacing := denominator * Nat.pow 2 scale
  let quotient := numerator / spacing
  let twiceRest := numerator % spacing * 2
  let roundedUp := spacing < twiceRest || (twiceRest == spacing && quotient % 2 == 1)
  scale * positionsPerScale + quotient + if roundedUp then 1 else 0

def nearestFinite? (numerator denominator : Nat) : Option Nat :=
  let position := nearest numerator denominator
  if position < finiteBound then some position else none

def ofNat? (value : Nat) : Option Nat := nearestFinite? (value * unitsInOne) 1

def multiply? (left right : Nat) : Option Nat :=
  nearestFinite? (units left * units right) unitsInOne

def divide? (left right : Nat) : Option Nat :=
  nearestFinite? (units left * unitsInOne) (units right)

def ofPosition? (negative : Bool) (position : Nat) : Option Binary64 :=
  if finite : position < 2047 * Nat.pow 2 52 then some ⟨negative, position, finite⟩ else none

/-- The greatest power of ten that a magnitude is multiplied or divided by at once. -/
def greatestTenPower : Nat := 308

/-- Divides by the greatest power of ten until the rest of the exponent is in reach or
nothing is left of the magnitude; the count bounds the divisions. -/
def divideByTenPower? : (divisions : Nat) → (magnitude exponent : Nat) → Option Nat
  | 0, magnitude, _ => some magnitude
  | divisions + 1, magnitude, exponent =>
    if exponent ≤ greatestTenPower then do
      divide? magnitude (← ofNat? (Nat.pow 10 exponent))
    else if magnitude = 0 then some 0
    else do
      let reduced ← divide? magnitude (← ofNat? (Nat.pow 10 greatestTenPower))
      divideByTenPower? divisions reduced (exponent - greatestTenPower)

/-- The magnitude of a decimal: the significand is rounded, and so is its product with
or its quotient by the rounded power of ten. Too great a magnitude has no value. -/
def ofDecimal? (significand : Nat) (exponent : Int) : Option Nat := do
  let magnitude ← ofNat? significand
  if exponent < 0 then
    divideByTenPower? (exponent.natAbs / greatestTenPower + 1) magnitude exponent.natAbs
  else if exponent.natAbs ≤ greatestTenPower then
    multiply? magnitude (← ofNat? (Nat.pow 10 exponent.natAbs))
  else if magnitude = 0 then some 0
  else none

/-- Numeric equality, under which the two zeros are one. -/
def numericallyEqual (left right : Binary64) : Bool :=
  left.magnitude == right.magnitude && (left.magnitude == 0 || left.negative == right.negative)

theorem numericallyEqual_refl (value : Binary64) : value.numericallyEqual value = true := by
  simp [numericallyEqual]

theorem numericallyEqual_symm {left right : Binary64}
    (equal : left.numericallyEqual right = true) : right.numericallyEqual left = true := by
  simp only [numericallyEqual, Bool.and_eq_true, Bool.or_eq_true, beq_iff_eq] at equal ⊢
  exact ⟨equal.1.symm, equal.2.imp (fun zero => equal.1 ▸ zero) Eq.symm⟩

theorem numericallyEqual_trans {left middle right : Binary64}
    (first : left.numericallyEqual middle = true)
    (second : middle.numericallyEqual right = true) : left.numericallyEqual right = true := by
  simp only [numericallyEqual, Bool.and_eq_true, Bool.or_eq_true, beq_iff_eq] at first second ⊢
  refine ⟨first.1.trans second.1, ?_⟩
  rcases first.2 with zero | same
  · exact .inl zero
  · rcases second.2 with zero | sameAgain
    · exact .inl (first.1.trans zero)
    · exact .inr (same.trans sameAgain)

end Binary64

end FlowTesting
