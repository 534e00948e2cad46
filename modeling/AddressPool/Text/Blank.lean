/-!
# Blank characters

A blank is a character with the Unicode property `White_Space`.  Texts are trimmed
of blanks at both ends, and nothing else: a zero-width space is no blank.
-/

namespace AddressPool.Text

set_option autoImplicit false

/-- Whether a character has the property `White_Space`. -/
def isBlank (char : Char) : Bool :=
  let code := char.toNat
  decide (9 ≤ code ∧ code ≤ 13) || code == 0x20 || code == 0x85 || code == 0xa0 ||
    code == 0x1680 || decide (0x2000 ≤ code ∧ code ≤ 0x200a) || code == 0x2028 ||
    code == 0x2029 || code == 0x202f || code == 0x205f || code == 0x3000

/-- The text without the blanks that it starts with. -/
def trimStart (text : List Char) : List Char := text.dropWhile isBlank

/-- The text without the blanks that it ends with. -/
def trimEnd (text : List Char) : List Char := (trimStart text.reverse).reverse

/-- The text without the blanks at either end. -/
def trim (text : List Char) : List Char := trimEnd (trimStart text)

end AddressPool.Text
