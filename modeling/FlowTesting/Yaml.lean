import FlowTesting.Json.Printer
import FlowTesting.Text.Split

set_option autoImplicit false

/-!
# YAML text

Values in block style, one member or element a line. Lists stand at the level of their
key. A text is plain where it reads back as itself, a text of several lines is a
literal block, and any other text stands between apostrophes.
-/

namespace FlowTesting.Yaml

/-- Characters that a plain text does not begin with. -/
def indicators : List Char :=
  ['-', '?', ':', ',', '[', ']', '\x7b', '\x7d', '#', '&', '*', '!', '|', '>', '\'', '"', '%', '@',
    '\x60', ' ']

/-- Words that are read as something other than a text. -/
def reservedWords : List String := ["null", "~", "true", "false", "yes", "no", "on", "off"]

/-- Whether a colon that ends a key or a mark that begins a comment occurs in a text. -/
def hasSeparator : List Char → Bool
  | [] => false
  | [':'] => true
  | ':' :: ' ' :: _ => true
  | ' ' :: '#' :: _ => true
  | _ :: rest => hasSeparator rest

def isPlain (text : String) : Bool :=
  match text.toList with
  | [] => false
  | first :: rest =>
    !indicators.contains first && !(first :: rest).getLast?.any (· == ' ') &&
      !hasSeparator (first :: rest) && !reservedWords.contains (text.map Char.toLower) &&
      !first.isDigit && !(first == '.' && rest.head?.any Char.isDigit)

def scalar (text : String) : String :=
  if isPlain text then text
  else
    String.ofList ('\'' :: text.toList.flatMap (fun character =>
      if character = '\'' then ['\'', '\''] else [character]) ++ ['\''])

def indent (line : String) : String := if line.isEmpty then line else "  " ++ line

/-- What follows a key or a dash: a text on its line, and lines below it. -/
structure Block where
  inline : Option String
  below : List String

/-- How far the lines of a value stand below its key. -/
inductive Nesting where
  | flat
  | indented

def dashed : List String → List String
  | [] => ["-"]
  | first :: rest => ("- " ++ first) :: rest.map indent

def keyed (key : String) (block : Block) (nesting : Nesting) : List String :=
  let head := match block.inline with
    | some text => scalar key ++ ": " ++ text
    | none => scalar key ++ ":"
  head :: match nesting with
    | .flat => block.below
    | .indented => block.below.map indent

def textBlock (text : String) : Block :=
  match Text.splitOn '\n' text.toList with
  | [_] => ⟨some (scalar text), []⟩
  | lines => ⟨some "|-", lines.map String.ofList⟩

def nesting : Json → Nesting
  | .array _ => .flat
  | _ => .indented

mutual

def block : Json → Block
  | .text value => textBlock value
  | .array [] => ⟨some "[]", []⟩
  | .object [] => ⟨some "\x7b\x7d", []⟩
  | .array elements => ⟨none, elementLines elements⟩
  | .object members => ⟨none, memberLines members⟩
  | .null => ⟨some "null", []⟩
  | .boolean value => ⟨some (if value then "true" else "false"), []⟩
  | .number value => ⟨some value.text, []⟩

def elementLines : List Json → List String
  | [] => []
  | element :: rest =>
    let content := block element
    dashed (content.inline.toList ++ content.below) ++ elementLines rest

def memberLines : List (String × Json) → List String
  | [] => []
  | (key, value) :: rest => keyed key (block value) (nesting value) ++ memberLines rest

end

def document (value : Json) : String :=
  let content := block value
  String.join ((content.inline.toList ++ content.below).map (· ++ "\n"))

end FlowTesting.Yaml
