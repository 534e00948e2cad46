import AddressPool.Address.Parser
import AddressPool.Address.Printer

/-!
# Prefixes

A prefix is an address with a count of leading bits that stand for the whole
block.  The address may have bits set behind those; `truncate` clears them.  A
prefix is written as its address, a slash and the length, and is read in the
lenient dialect of addresses, in which the slash and the length are required.
-/

namespace AddressPool

set_option autoImplicit false

/-- An address together with the number of its leading bits that name a block. -/
structure Prefix where
  address : Address
  length : Nat
  length_le : length ≤ address.family.width
  deriving DecidableEq, Repr

namespace Prefix

/-- The family of the block. -/
def family (block : Prefix) : Family := block.address.family

/-- The number of addresses in the block. -/
def size (block : Prefix) : Nat := 2 ^ (block.family.width - block.length)

theorem size_pos (block : Prefix) : 0 < block.size := Nat.two_pow_pos _

/-- The lowest address of the block, as a number of the family's width. -/
def lowest (block : Prefix) : Nat := block.address.toNat / block.size * block.size

/-- The lowest address of the block. -/
def network (block : Prefix) : Address := .ofNat block.family block.lowest

/-- The highest address of the block. -/
def broadcast (block : Prefix) : Address := .ofNat block.family (block.lowest + (block.size - 1))

/-- Whether an address of the same family agrees with the block in its leading bits. -/
def contains (block : Prefix) (address : Address) : Bool :=
  decide (address.family = block.family) &&
    decide (address.toNat / block.size = block.address.toNat / block.size)

/-- The same block, named by its lowest address. -/
def truncate (block : Prefix) : Prefix where
  address := block.network
  length := block.length
  length_le := by
    rw [network, Address.family_ofNat]
    exact block.length_le

/-- The text of a prefix as a list of characters. -/
def chars (block : Prefix) : List Char :=
  block.address.chars ++ '/' :: Numeral.decimal block.length

/-- The text of a prefix. -/
def text (block : Prefix) : String := String.ofList block.chars

instance : ToString Prefix := ⟨text⟩

/-- The greatest number of digits in a prefix length of the family. -/
def lengthDigits : Family → Nat
  | .v4 => 2
  | .v6 => 3

/-- The prefix of an address and a length, if the family has that many bits. -/
def of? (address : Address) (length : Nat) : Option Prefix :=
  if length_le : length ≤ address.family.width then some ⟨address, length, length_le⟩ else none

/-- Reads a prefix from a list of characters. -/
def ofChars? (text : List Char) : Option Prefix :=
  match text.splitOn '/' with
  | [addressText, lengthText] => do
    let address ← AddressDialect.lenient.address? addressText
    let length ← Numeral.read? 10 (lengthDigits address.family) lengthText
    of? address length
  | _ => none

/-- Reads a prefix. -/
def ofString? (text : String) : Option Prefix := ofChars? text.toList

end Prefix

end AddressPool
