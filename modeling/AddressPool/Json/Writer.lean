import AddressPool.Text.Numeral

/-!
# Writing JSON

Texts are written without blanks.  A string stands between double quotes; double
quotes, backslashes and the control characters below the space are escaped, those
five that have a letter of their own by it and the others by four hexadecimal
digits, and every other character is written as it is.
-/

namespace AddressPool.Json

set_option autoImplicit false

/-- How one character is written in a string. -/
def escapeChar (char : Char) : List Char :=
  if char = '"' then ['\\', '"']
  else if char = '\\' then ['\\', '\\']
  else if char = '\x08' then ['\\', 'b']
  else if char = '\x0c' then ['\\', 'f']
  else if char = '\n' then ['\\', 'n']
  else if char = '\r' then ['\\', 'r']
  else if char = '\t' then ['\\', 't']
  else if char.toNat < 0x20 then
    ['\\', 'u'] ++ (Numeral.split 16 4 char.toNat).flatMap Numeral.hexadecimal
  else [char]

/-- Writes a string. -/
def writeString (text : String) : List Char := '"' :: text.toList.flatMap escapeChar ++ ['"']

/-- Writes a natural number. -/
def writeNat (number : Nat) : List Char := Numeral.decimal number

/-- Writes a list of things that are written already. -/
def writeList (elements : List (List Char)) : List Char :=
  '[' :: [','].intercalate elements ++ [']']

/-- Writes an object of things that are written already. -/
def writeObject (members : List (String × List Char)) : List Char :=
  let written := members.map fun (name, value) => writeString name ++ ':' :: value
  '\x7b' :: [','].intercalate written ++ ['\x7d']

end AddressPool.Json
