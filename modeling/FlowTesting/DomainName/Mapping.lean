import FlowTesting.DomainName.MappingTable
import FlowTesting.Text.Composition

set_option autoImplicit false

/-!
# Domain name mappings

Before a domain name is looked up, each of its characters is replaced by what it stands
for, and the whole is brought into composed form.
-/

namespace FlowTesting.DomainName.Mapping

/-- What the code points of a range are replaced with, one by one or every so many. -/
structure Replacement where
  first : Nat
  last : Nat
  step : Nat
  targets : List Nat
  deriving DecidableEq, Repr

namespace Replacement

def covers (replacement : Replacement) (code : Nat) : Bool :=
  replacement.first ≤ code && code ≤ replacement.last &&
    (code - replacement.first) % replacement.step == 0

def apply (replacement : Replacement) (code : Nat) : List Nat :=
  match replacement.targets with
  | [target] => [target + (code - replacement.first)]
  | targets => targets

def ofEntry (entry : List Char) : Replacement :=
  let (sources, targets?) := Text.cut '=' entry
  let targets := Text.Table.targets (targets?.getD [])
  match Text.cut '-' sources, Text.cut ':' sources with
  | (first, some last), _ => ⟨Text.Table.number first, Text.Table.number last, 1, targets⟩
  | _, (first, some last) => ⟨Text.Table.number first, Text.Table.number last, 2, targets⟩
  | (only, none), _ => ⟨Text.Table.number only, Text.Table.number only, 1, targets⟩

end Replacement

def replacements : List Replacement :=
  (Text.Table.entries replacementRows).map Replacement.ofEntry

def disallowedBoundaries : List Nat := Text.Table.boundaries disallowedRows

/-- What a character stands for, if it is allowed at all. -/
def ofCharacter? (character : Char) : Option (List Char) :=
  let code := character.toNat
  if Text.Table.belongs disallowedBoundaries code then none
  else
    match replacements.find? (·.covers code) with
    | some replacement => some ((replacement.apply code).map Char.ofNat)
    | none => some [character]

end Mapping

/-- What the characters of a domain name stand for, in composed form. -/
def normalized? (characters : List Char) : Option (List Char) :=
  (characters.mapM Mapping.ofCharacter?).map (fun mapped => Text.composed mapped.flatten)

end FlowTesting.DomainName
