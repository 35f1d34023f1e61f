set_option autoImplicit false

/-!
# Terminal text

Text for a terminal may hold control sequences, which style it and show nothing
themselves. Plain text is what is left without them and without the control characters
that are no white space; what is between the quotes of a message is no exception.

A sequence ends where its form says, at the next escape character, or at a character
that no sequence can hold. Of white space only what a sequence executes ends it, and of
a character beyond ASCII the first octet belongs to the sequence, so that each of its
other octets shows as a replacement character.
-/

namespace FlowTesting.Text

inductive Sequence where
  | outside
  | escape
  | escapeIntermediate
  | parameters
  | command
  | payload
  deriving DecidableEq, Repr

/-- The character that opens control sequences. -/
def escapeCharacter : Char := '\x1b'

def cancels (character : Char) : Bool := character == '\x18' || character == '\x1a'

/-- Whether a control character is white space. -/
def isControlBlank (character : Char) : Bool :=
  character == '\t' || character == '\n' || character == '\x0c' || character == '\r'

namespace Sequence

/-- Whether control characters have their effect within a sequence. -/
def executes : Sequence → Bool
  | .command => false
  | .payload => false
  | _ => true

/-- Where an ASCII character leads from the one that opens a sequence. -/
def afterEscape (character : Char) : Sequence :=
  if character.toNat < 0x20 ∨ character = '\x7f' then .escape
  else if character.toNat < 0x30 then .escapeIntermediate
  else if character = '[' then .parameters
  else if character = ']' then .command
  else if ['P', 'X', '^', '_'].contains character then .payload
  else .outside

/-- Where an ASCII character that shows nothing leads. -/
def next (character : Char) : Sequence → Sequence
  | .outside => .outside
  | .escape => afterEscape character
  | .escapeIntermediate =>
    if 0x30 ≤ character.toNat ∧ character ≠ '\x7f' then .outside else .escapeIntermediate
  | .parameters =>
    if 0x40 ≤ character.toNat ∧ character ≠ '\x7f' then .outside else .parameters
  | .command => if character = '\x07' then .outside else .command
  | .payload => .payload

/-- What one character shows, and where it leads. -/
def read (state : Sequence) (character : Char) : List Char × Sequence :=
  if character = escapeCharacter then ([], .escape)
  else if cancels character then ([], .outside)
  else if 0x80 ≤ character.toNat then
    match state with
    | .outside => ([character], .outside)
    | _ => (List.replicate (character.utf8Size - 1) '\ufffd', .outside)
  else if isControlBlank character && state.executes then ([character], .outside)
  else if state = .outside ∧ 0x20 ≤ character.toNat ∧ character ≠ '\x7f' then
    ([character], .outside)
  else ([], state.next character)

end Sequence

/-- The characters that show, from a place within a sequence on. -/
def shown (state : Sequence) : List Char → List Char
  | [] => []
  | character :: rest =>
    let (visible, next) := state.read character
    visible ++ shown next rest

def plain (text : String) : String := String.ofList (shown .outside text.toList)

/-- A text in a style, which ends with it. -/
def styled (style text : String) : String := "\x1b[" ++ style ++ "m" ++ text ++ "\x1b[0m"

end FlowTesting.Text
