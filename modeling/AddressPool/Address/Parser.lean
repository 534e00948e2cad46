import AddressPool.Address.Basic
import AddressPool.Text.Numeral

/-!
# Reading addresses

Addresses stand in texts of two dialects.  A bare address is read strictly: an
octet has no leading zero, and `::` stands for at least one group.  The address in
front of a prefix length is read leniently: an octet may have leading zeros within
its three digits, and `::` may stand for no group at all.  In both dialects a
group has one to four hexadecimal digits, and the last two groups may be written
as four dotted octets, but not in front of `::`.

A text is read by its separators: it is cut at the first `::`, if there is one,
and then at every single colon or point.
-/

namespace AddressPool

set_option autoImplicit false

/-- What a dialect of address texts admits. -/
structure AddressDialect where
  /-- Octets of more than one digit may start with zero. -/
  leadingZeros : Bool
  /-- The least number of groups that `::` stands for. -/
  leastElided : Nat

namespace AddressDialect

/-- The dialect of bare addresses. -/
def strict : AddressDialect := ⟨false, 1⟩

/-- The dialect of addresses in front of a prefix length. -/
def lenient : AddressDialect := ⟨true, 0⟩

/-- Reads one octet. -/
def octet? (dialect : AddressDialect) (digits : List Char) : Option Nat := do
  let value ← Numeral.read? 10 3 digits
  if value < 256 ∧ (dialect.leadingZeros || !Numeral.hasLeadingZero digits) then some value
  else none

/-- Reads four octets with points between them, as one number. -/
def dotted? (dialect : AddressDialect) (text : List Char) : Option Nat :=
  match text.splitOn '.' with
  | [first, second, third, fourth] => do
    let octets ← [first, second, third, fourth].mapM dialect.octet?
    some (Numeral.join 256 octets)
  | _ => none

/-- Reads one group. -/
def group? (digits : List Char) : Option Nat := Numeral.read? 16 4 digits

/-- Reads the pieces between colons; the last piece may be dotted and is two groups then. -/
def groups? (dialect : AddressDialect) (dottedTail : Bool) : List (List Char) → Option (List Nat)
  | [] => some []
  | [last] =>
    match group? last with
    | some group => some [group]
    | none =>
      if dottedTail then (dialect.dotted? last).map (Numeral.split (2 ^ 16) 2) else none
  | piece :: next :: rest => do
    let group ← group? piece
    let groups ← dialect.groups? dottedTail (next :: rest)
    some (group :: groups)

/-- Reads one side of `::`, which may be empty, or a text without `::`. -/
def side? (dialect : AddressDialect) (dottedTail : Bool) (text : List Char) :
    Option (List Nat) :=
  if text.isEmpty then some [] else dialect.groups? dottedTail (text.splitOn ':')

/-- Cuts a text around the first `::`. -/
def splitElision? : List Char → Option (List Char × List Char)
  | ':' :: ':' :: rest => some ([], rest)
  | [] => none
  | char :: rest => (splitElision? rest).map fun (before, after) => (char :: before, after)

/-- Fills the gap between the groups around `::` with zero groups. -/
def fillElision? (dialect : AddressDialect) (before after : List Nat) : Option (List Nat) :=
  if before.length < 8 ∧ before.length + after.length + dialect.leastElided ≤ 8 then
    some (before ++ List.replicate (8 - before.length - after.length) 0 ++ after)
  else none

/-- Reads the eight groups of an IPv6 address. -/
def eightGroups? (dialect : AddressDialect) (text : List Char) : Option (List Nat) :=
  match splitElision? text with
  | some (before, after) => do
    let front ← dialect.side? false before
    let back ← dialect.side? true after
    dialect.fillElision? front back
  | none => do
    let groups ← dialect.side? true text
    if groups.length = 8 then some groups else none

/-- Reads an address of either family. -/
def address? (dialect : AddressDialect) (text : List Char) : Option Address :=
  match dialect.dotted? text with
  | some number => some (.v4 (BitVec.ofNat 32 number))
  | none => (dialect.eightGroups? text).map fun groups =>
      .v6 (BitVec.ofNat 128 (Numeral.join (2 ^ 16) groups))

end AddressDialect

namespace Address

/-- Reads a bare address from a list of characters. -/
def ofChars? (text : List Char) : Option Address := AddressDialect.strict.address? text

/-- Reads a bare address. -/
def ofString? (text : String) : Option Address := ofChars? text.toList

/-- The text for whatever is wrong with an address or a prefix. -/
def refusal : String := "invalid IP address syntax"

end Address

end AddressPool
