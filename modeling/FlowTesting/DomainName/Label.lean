import FlowTesting.Text.Combining
import FlowTesting.Text.Direction
import FlowTesting.Text.Joining

set_option autoImplicit false

/-!
# Labels of domain names

What a label has to satisfy beside holding allowed characters only: it does not begin
with a mark, joiners stand where they have an effect, and in a name with text from right
to left no label can be mistaken for another one by the order of its characters.
-/

namespace FlowTesting.DomainName.Label

/-- ASCII characters that no label holds, beside blanks and controls. -/
def forbidden : List Char :=
  ['#', '/', ':', '<', '>', '?', '@', '[', '\\', ']', '^', '|', '%', '\x7f']

def isAllowed (character : Char) : Bool :=
  0x20 < character.toNat && !forbidden.contains character

def nonJoiner : Char := '\u200c'

def joiner : Char := '\u200d'

/-- Whether the nearest character that is no transparent mark joins in one of these ways. -/
def joins (ways : List Text.Joining) (characters : List Char) : Bool :=
  ((characters.map Text.Joining.ofCharacter).find? (· != .transparent)).any ways.contains

/-- Whether a joiner may stand between characters, of which those before it are in
reverse. -/
def joinerFits (character : Char) (before after : List Char) : Bool :=
  let followsVirama := before.head?.any (fun mark =>
    Text.Combining.classOf mark == Text.Combining.viramaClass)
  followsVirama ||
    (character == nonJoiner && joins [.toNext, .toBoth] before &&
      joins [.toPrevious, .toBoth] after)

def joinersFit (before : List Char) : List Char → Bool
  | [] => true
  | character :: rest =>
    ((character != nonJoiner && character != joiner) || joinerFits character before rest) &&
      joinersFit (character :: before) rest

def isWellFormed (label : List Char) : Bool :=
  !label.head?.any Text.Combining.isMark && joinersFit [] label

def fromRight : List Text.Direction := [.rightToLeft, .arabicLetter, .arabicNumber]

/-- Whether a character belongs to text from right to left, as none of ASCII does. -/
def isFromRight (character : Char) : Bool :=
  0x80 ≤ character.toNat && fromRight.contains (Text.Direction.ofCharacter character)

def hasTextFromRight (label : List Char) : Bool := label.any isFromRight

/-- Directions that a label may hold whichever way it runs. -/
def indifferent : List Text.Direction :=
  [.europeanNumber, .europeanSeparator, .commonSeparator, .terminator, .neutral, .boundary,
    .nonspacing]

/-- Whether a label holds these directions and indifferent ones only, and ends with one of
the others given, but for marks. -/
def runs (held ends : List Text.Direction) (directions : List Text.Direction) : Bool :=
  directions.all (fun direction => held.contains direction || indifferent.contains direction) &&
    ((directions.reverse.dropWhile (· == .nonspacing)).head?.any ends.contains)

def fitsDirection (label : List Char) : Bool :=
  let directions := label.map Text.Direction.ofCharacter
  match directions with
  | [] => true
  | .leftToRight :: _ => runs [.leftToRight] [.leftToRight, .europeanNumber] directions
  | .rightToLeft :: _ | .arabicLetter :: _ =>
    runs fromRight (.europeanNumber :: fromRight) directions &&
      !(directions.contains .europeanNumber && directions.contains .arabicNumber)
  | _ => false

end FlowTesting.DomainName.Label
