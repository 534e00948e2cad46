import AddressPool.Text.Numeral
import AddressPool.Text.Printable

/-!
# Quoted texts in messages

A text in a message stands between double quotes.  Double quotes and backslashes
in it are escaped, as are line feed, carriage return, tab and the null character,
by a backslash and one more character; every other character that is not
printable, or that combines with the one in front of it, is written as its code
point between braces.  Apostrophes stay as they are.
-/

namespace AddressPool.Text

set_option autoImplicit false

/-- How one character is written between double quotes. -/
def escape (char : Char) : List Char :=
  if char = '"' then ['\\', '"']
  else if char = '\\' then ['\\', '\\']
  else if char = '\n' then ['\\', 'n']
  else if char = '\r' then ['\\', 'r']
  else if char = '\t' then ['\\', 't']
  else if char = Char.ofNat 0 then ['\\', '0']
  else if isCombining char || !isPrintable char then
    ['\\', 'u', '\x7b'] ++ Numeral.hexadecimal char.toNat ++ ['\x7d']
  else [char]

/-- A text between double quotes. -/
def quoted (text : String) : String :=
  String.ofList ('"' :: text.toList.flatMap escape ++ ['"'])

end AddressPool.Text
