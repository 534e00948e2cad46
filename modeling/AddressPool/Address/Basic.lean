import AddressPool.Instances

/-!
# Internet addresses

An address belongs to one of two families and is a word of that family's width.
Two integer views are used.  `key` places all IPv4 addresses before all IPv6
addresses and gives the order of listings.  `position` places both families into
one 128-bit space, an IPv4 address at the place of its IPv4-mapped IPv6 form, and
is the integer on which ranges are computed; together with the family it
determines the address.
-/

namespace AddressPool

set_option autoImplicit false

/-- The two families of internet addresses. -/
inductive Family where
  | v4
  | v6
  deriving DecidableEq, Repr

/-- The number of bits in an address of the family. -/
def Family.width : Family → Nat
  | .v4 => 32
  | .v6 => 128

/-- An internet address. -/
inductive Address where
  | v4 (bits : BitVec 32)
  | v6 (bits : BitVec 128)
  deriving DecidableEq, Repr, Inhabited

namespace Address

/-- The family an address belongs to. -/
def family : Address → Family
  | v4 _ => .v4
  | v6 _ => .v6

/-- The address as a number of its own family's width. -/
def toNat : Address → Nat
  | v4 bits => bits.toNat
  | v6 bits => bits.toNat

/-- The address of a family whose lowest bits are those of a number. -/
def ofNat : Family → Nat → Address
  | .v4, number => v4 (BitVec.ofNat 32 number)
  | .v6, number => v6 (BitVec.ofNat 128 number)

/-- Where the IPv4-mapped addresses start. -/
def mappedBase : Nat := 0xffff * 2 ^ 32

/-- The place of an address in the integer space that both families share. -/
def position : Address → Nat
  | v4 bits => mappedBase + bits.toNat
  | v6 bits => bits.toNat

/-- The address of a family at a place; IPv4 keeps the lowest 32 bits of the place. -/
def ofPosition (family : Family) (position : Nat) : Address := ofNat family position

/-- The rank of an address in listings: IPv4 comes before IPv6. -/
def key : Address → Nat
  | v4 bits => bits.toNat
  | v6 bits => 2 ^ 32 + bits.toNat

/-- Whether one address comes before another in listings. -/
def precedes (left right : Address) : Bool := decide (left.key < right.key)

theorem toNat_lt (address : Address) : address.toNat < 2 ^ address.family.width := by
  cases address with
  | v4 bits => exact bits.isLt
  | v6 bits => exact bits.isLt

theorem position_lt (address : Address) : address.position < 2 ^ 128 := by
  cases address with
  | v4 bits =>
    have := bits.isLt
    simp only [position, mappedBase]
    omega
  | v6 bits => exact bits.isLt

theorem family_ofNat (family : Family) (number : Nat) : (ofNat family number).family = family := by
  cases family <;> rfl

theorem ofNat_toNat (address : Address) : ofNat address.family address.toNat = address := by
  cases address <;> simp [ofNat, toNat, family]

theorem toNat_ofNat (family : Family) (number : Nat) :
    (ofNat family number).toNat = number % 2 ^ family.width := by
  cases family <;> simp [ofNat, toNat, Family.width]

/-- The place and the family of an address determine it. -/
theorem ofPosition_position (address : Address) :
    ofPosition address.family address.position = address := by
  cases address with
  | v4 bits =>
    simp only [ofPosition, position, family, ofNat, v4.injEq, mappedBase]
    apply BitVec.eq_of_toNat_eq
    have := bits.isLt
    simp only [BitVec.toNat_ofNat]
    omega
  | v6 bits => simp [ofPosition, position, family, ofNat]

theorem eq_of_position_eq {left right : Address} (family : left.family = right.family)
    (position : left.position = right.position) : left = right := by
  rw [← ofPosition_position left, ← ofPosition_position right, family, position]

/-- The rank determines the address. -/
theorem key_injective {left right : Address} (equal : left.key = right.key) : left = right := by
  cases left with
  | v4 left =>
    cases right with
    | v4 right => exact congrArg v4 (BitVec.eq_of_toNat_eq equal)
    | v6 right =>
      have := left.isLt
      simp only [key] at equal
      omega
  | v6 left =>
    cases right with
    | v4 right =>
      have := right.isLt
      simp only [key] at equal
      omega
    | v6 right =>
      simp only [key] at equal
      exact congrArg v6 (BitVec.eq_of_toNat_eq (by omega))

end Address

end AddressPool
