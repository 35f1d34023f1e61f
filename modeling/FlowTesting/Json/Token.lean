import FlowTesting.Json.Numeral

set_option autoImplicit false

/-!
# JSON tokens

A text is split into tokens by a machine that reads one character at a time. Texts
may name characters by their code units. A text in which a high surrogate is not
followed by a low one is a token without a value, and so is a number out of range.
-/

namespace FlowTesting.Json

inductive Token where
  | openArray
  | closeArray
  | openObject
  | closeObject
  | comma
  | colon
  | text (value? : Option String)
  | scalar (value? : Option Json)

/-- Where the machine stands within a token. What has been read so far is in reverse: of
a text the code points of its characters and the code units that it names. -/
inductive Scan where
  | between
  | text (codes : List Nat)
  | escape (codes : List Nat)
  | codeUnit (codes : List Nat) (digits value : Nat)
  | word (characters : List Char)

/-- The tokens read so far, in reverse, and the place within the next one. -/
structure Lexer where
  tokens : List Token
  scan : Scan

namespace Lexer

def start : Lexer := ⟨[], .between⟩

/-- The token of a run of word characters: a literal name or a numeral. -/
def wordToken? (characters : List Char) : Option Token :=
  if characters = "null".toList then some (.scalar (some .null))
  else if characters = "true".toList then some (.scalar (some (.boolean true)))
  else if characters = "false".toList then some (.scalar (some (.boolean false)))
  else (Numeral.parts? characters).map (fun parts =>
    .scalar ((Numeral.number? parts).map .number))

def isBlank (character : Char) : Bool :=
  character == ' ' || character == '\n' || character == '\r' || character == '\t'

def isWordCharacter (character : Char) : Bool :=
  character.isAlphanum || character == '-' || character == '+' || character == '.'

def hexadecimal? (character : Char) : Option Nat :=
  if character.isDigit then some (character.toNat - '0'.toNat)
  else if 'a' ≤ character ∧ character ≤ 'f' then some (character.toNat - 'a'.toNat + 10)
  else if 'A' ≤ character ∧ character ≤ 'F' then some (character.toNat - 'A'.toNat + 10)
  else none

def escaped? : Char → Option Char
  | '"' => some '"'
  | '\\' => some '\\'
  | '/' => some '/'
  | 'b' => some '\x08'
  | 'f' => some '\x0c'
  | 'n' => some '\n'
  | 'r' => some '\r'
  | 't' => some '\t'
  | _ => none

def isHighSurrogate (unit : Nat) : Bool := 0xd800 ≤ unit && unit < 0xdc00

def isLowSurrogate (unit : Nat) : Bool := 0xdc00 ≤ unit && unit < 0xe000

def pairedCharacter (high low : Nat) : Char :=
  Char.ofNat (0x10000 + (high - 0xd800) * 0x400 + (low - 0xdc00))

/-- The characters of codes in reverse, before those that have been found already. -/
def characters? (found : List Char) : List Nat → Option (List Char)
  | [] => some found
  | [code] =>
    if isHighSurrogate code || isLowSurrogate code then none
    else some (Char.ofNat code :: found)
  | last :: previous :: rest =>
    if isHighSurrogate previous && isLowSurrogate last then
      characters? (pairedCharacter previous last :: found) rest
    else if isHighSurrogate last || isLowSurrogate last then none
    else characters? (Char.ofNat last :: found) (previous :: rest)

def textToken (codes : List Nat) : Token := .text ((characters? [] codes).map String.ofList)

def structural? (tokens : List Token) (character : Char) : Option Lexer :=
  match character with
  | '[' => some ⟨.openArray :: tokens, .between⟩
  | ']' => some ⟨.closeArray :: tokens, .between⟩
  | '\x7b' => some ⟨.openObject :: tokens, .between⟩
  | '\x7d' => some ⟨.closeObject :: tokens, .between⟩
  | ',' => some ⟨.comma :: tokens, .between⟩
  | ':' => some ⟨.colon :: tokens, .between⟩
  | '"' => some ⟨tokens, .text []⟩
  | other =>
    if isBlank other then some ⟨tokens, .between⟩
    else if isWordCharacter other then some ⟨tokens, .word [other]⟩
    else none

def step? (lexer : Lexer) (character : Char) : Option Lexer :=
  let tokens := lexer.tokens
  match lexer.scan with
  | .between => structural? tokens character
  | .word characters =>
    if isWordCharacter character then some ⟨tokens, .word (character :: characters)⟩
    else do
      let token ← wordToken? characters.reverse
      structural? (token :: tokens) character
  | .text codes =>
    if character = '"' then some ⟨textToken codes :: tokens, .between⟩
    else if character = '\\' then some ⟨tokens, .escape codes⟩
    else if character.toNat < 0x20 then none
    else some ⟨tokens, .text (character.toNat :: codes)⟩
  | .escape codes =>
    if character = 'u' then some ⟨tokens, .codeUnit codes 0 0⟩
    else (escaped? character).map (fun meant => ⟨tokens, .text (meant.toNat :: codes)⟩)
  | .codeUnit codes digits value => do
    let digit ← hexadecimal? character
    let unit := value * 16 + digit
    return ⟨tokens, if digits + 1 < 4 then .codeUnit codes (digits + 1) unit
      else .text (unit :: codes)⟩

/-- Ends the text: a word may still be open, anything else may not. -/
def finish? (lexer : Lexer) : Option (List Token) :=
  match lexer.scan with
  | .between => some lexer.tokens.reverse
  | .word characters => (wordToken? characters.reverse).map (fun token =>
      (token :: lexer.tokens).reverse)
  | _ => none

end Lexer

def tokens? (text : String) : Option (List Token) := do
  let lexer ← text.toList.foldlM Lexer.step? Lexer.start
  lexer.finish?

end FlowTesting.Json
