import AddressPool.Address.Basic
import AddressPool.Text.Numeral

/-!
# Texts of addresses

An IPv4 address is written as four decimal octets.  An IPv6 address is written as
eight groups in lower-case hexadecimal, in which the longest run of at least two
zero groups, the first of equally long ones, is elided to `::`.  The IPv4-mapped
addresses alone keep the dotted form, behind `::ffff:`.
-/

namespace AddressPool.Address

set_option autoImplicit false

/-- Four decimal octets with points between them. -/
def dotted (number : Nat) : List Char :=
  ['.'].intercalate ((Numeral.split 256 4 number).map Numeral.decimal)

/-- Hexadecimal groups with colons between them. -/
def coloned (groups : List Nat) : List Char :=
  [':'].intercalate (groups.map Numeral.hexadecimal)

/-- The number of zero groups that a list starts with. -/
def leadingZeros : List Nat → Nat
  | 0 :: rest => leadingZeros rest + 1
  | _ => 0

/-- Start and length of the first longest run of zero groups. -/
def longestZeroRun : List Nat → Nat × Nat
  | [] => (0, 0)
  | group :: rest =>
    let here := leadingZeros (group :: rest)
    let later := longestZeroRun rest
    if later.2 ≤ here then (0, here) else (later.1 + 1, later.2)

/-- Eight groups with the first longest run of at least two zero groups elided. -/
def elided (groups : List Nat) : List Char :=
  let run := longestZeroRun groups
  if run.2 < 2 then coloned groups
  else coloned (groups.take run.1) ++ [':', ':'] ++ coloned (groups.drop (run.1 + run.2))

/-- The text of an address as a list of characters. -/
def chars : Address → List Char
  | v4 bits => dotted bits.toNat
  | v6 bits =>
    if bits.toNat / 2 ^ 32 = 0xffff then "::ffff:".toList ++ dotted (bits.toNat % 2 ^ 32)
    else elided (Numeral.split (2 ^ 16) 8 bits.toNat)

/-- The text of an address. -/
def text (address : Address) : String := String.ofList address.chars

instance : ToString Address := ⟨text⟩

theorem toList_text (address : Address) : address.text.toList = address.chars :=
  String.toList_ofList

end AddressPool.Address
