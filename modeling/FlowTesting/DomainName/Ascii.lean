import FlowTesting.DomainName.Label
import FlowTesting.DomainName.Mapping
import FlowTesting.DomainName.Punycode

set_option autoImplicit false

/-!
# Domain names in ASCII

A domain name is looked up in ASCII. Labels with other characters are mapped and then
written with a prefix; a label that has the prefix already has to be one that could have
been written so.
-/

namespace FlowTesting.DomainName

/-- A label as it is meant and as it is written in ASCII. -/
structure ReadLabel where
  meant : List Char
  written : List Char
  deriving DecidableEq, Repr

/-- What labels begin with that stand for others. -/
def asciiPrefix : List Char := ['x', 'n', '-', '-']

def greatestLength : Nat := 1000

def greatestWrittenLength : Nat := 2000

namespace ReadLabel

/-- Whether a label as it is meant may stand in a name. -/
def isProper (label : List Char) : Bool :=
  label.all Label.isAllowed && Label.isWellFormed label

/-- Reads what follows the prefix: a label that differs from its ASCII form and that
mapping leaves as it is. -/
def ofPrefixed? (written : List Char) : Option ReadLabel :=
  if written.getLast?.all (· == '-') || greatestWrittenLength < written.length then none
  else do
    let meant ← Punycode.decode? written
    guard (normalized? meant = some meant && isProper meant)
    return ⟨meant, asciiPrefix ++ written⟩

def ofAscii? (label : List Char) : Option ReadLabel :=
  if asciiPrefix.isPrefixOf label then ofPrefixed? (label.drop asciiPrefix.length)
  else if label.all Label.isAllowed then some ⟨label, label⟩
  else none

def ofNormalized? (label : List Char) : Option ReadLabel :=
  if label.all Punycode.isBasic then ofAscii? label
  else if asciiPrefix.isPrefixOf label || greatestLength < label.length || !isProper label then
    none
  else some ⟨label, asciiPrefix ++ Punycode.encode label⟩

/-- Reads what stands between two dots; mapping may lead to further dots. -/
def ofWritten? (label : List Char) : Option (List ReadLabel) :=
  if label.all Punycode.isBasic then
    (ofAscii? (label.map Char.toLower)).map ([·])
  else do
    let mapped ← normalized? label
    (Text.splitOn '.' mapped).mapM ofNormalized?

end ReadLabel

def toAscii? (name : List Char) : Option (List Char) := do
  let labels := (← (Text.splitOn '.' name).mapM ReadLabel.ofWritten?).flatten
  let meant := labels.map ReadLabel.meant
  if meant.any Label.hasTextFromRight && !meant.all Label.fitsDirection then none
  else some (['.'].intercalate (labels.map ReadLabel.written))

end FlowTesting.DomainName
