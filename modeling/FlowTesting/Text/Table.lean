import FlowTesting.Text.Split

set_option autoImplicit false

/-!
# Tables of characters

Properties of characters are kept in rows of text, whose entries are parted by spaces and
name code points in hexadecimal.
-/

namespace FlowTesting.Text.Table

def digit (character : Char) : Nat :=
  if character.isDigit then character.toNat - '0'.toNat else character.toNat - 'a'.toNat + 10

def number (digits : List Char) : Nat :=
  digits.foldl (fun value character => value * 16 + digit character) 0

def entries (rows : List String) : List (List Char) :=
  rows.flatMap (fun row => splitOn ' ' row.toList)

/-- Entries that are single code points. -/
def boundaries (rows : List String) : List Nat := (entries rows).map number

/-- Whether a code point belongs to a class whose membership begins or ends at each of
the boundaries. -/
def belongs (boundaries : List Nat) (code : Nat) : Bool :=
  (boundaries.takeWhile (· ≤ code)).length % 2 == 1

/-- Entries that end in the letter of a class. -/
def runs (rows : List String) : List (Nat × Char) :=
  (entries rows).map (fun entry => (number entry.dropLast, entry.getLast?.getD ' '))

/-- The class that begins last up to a code point. -/
def classOf (runs : List (Nat × Char)) (code : Nat) : Char :=
  ((runs.takeWhile (fun run => run.1 ≤ code)).getLast?.map (·.2)).getD ' '

/-- The code points on the right of an entry, parted by dots. -/
def targets (characters : List Char) : List Nat :=
  if characters.isEmpty then [] else (splitOn '.' characters).map number

/-- Entries that give a code point a sequence of them. -/
def sequences (rows : List String) : List (Nat × List Nat) :=
  (entries rows).map (fun entry =>
    let (source, target?) := cut '=' entry
    (number source, targets (target?.getD [])))

end FlowTesting.Text.Table
