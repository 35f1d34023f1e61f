set_option autoImplicit false

/-!
# Blanks

The characters with the white-space property, in every script.
-/

namespace FlowTesting.Text

/-- Whether the character is white space. -/
def isBlank (character : Char) : Bool :=
  let code := character.toNat
  (9 ≤ code && code ≤ 13) || code == 0x20 || code == 0x85 || code == 0xa0 || code == 0x1680 ||
    (0x2000 ≤ code && code ≤ 0x200a) || code == 0x2028 || code == 0x2029 || code == 0x202f ||
    code == 0x205f || code == 0x3000

def dropBlanks (characters : List Char) : List Char := characters.dropWhile isBlank

end FlowTesting.Text
