import AddressPool.Exclusion
import AddressPool.Interval.Basic

/-!
# Ranges of addresses

A range is a stretch of host addresses of one subnet, together with a gateway and
exclusions that are not handed out.  `RangeSpec` is what someone writes down:
everything but the subnet may be missing.  `Range.build` checks it and fills the
gaps: a range reaches from the first to the last host address of its subnet, and
its first address is the gateway, unless something else is said.

What has been checked stays with the range as proofs.  The numbers that may be
handed out are an interval set over positions, so that one kind of arithmetic
serves both families; `carve` is that set, and `Range.usable_eq` says that a range
holds nothing else.
-/

namespace AddressPool

set_option autoImplicit false

/-- The addresses that a description of a range gives besides its subnet. -/
inductive RangeField where
  | start
  | stop
  | gateway
  | exclusion
  deriving DecidableEq, Repr

/-- How a field is named when its address lies outside of what is allowed. -/
def RangeField.label : RangeField → String
  | .start => "range start"
  | .stop => "range end"
  | .gateway => "gateway"
  | .exclusion => "excluded address"

/-- Why a description of a range is refused. -/
inductive RangeError where
  | subnetTooSmall (subnet : Prefix)
  | unsupportedSubnet (subnet : Prefix)
  | addressNotInSubnet (field : RangeField) (address : Address) (subnet : Prefix)
  | addressOutOfRange (field : RangeField) (address first last : Address)
  | invertedRange (first last : Address)
  | invertedExclusion (first last : Address)
  deriving DecidableEq, Repr

/-- The text of an error. -/
def RangeError.message : RangeError → String
  | .subnetTooSmall subnet => "subnet " ++ subnet.text ++ " is too small to allocate from"
  | .unsupportedSubnet subnet =>
    "subnet " ++ subnet.text ++ " ends at the highest address and is not supported"
  | .addressNotInSubnet field address subnet =>
    field.label ++ " " ++ address.text ++ " is not a host address of subnet " ++ subnet.text
  | .addressOutOfRange field address first last =>
    field.label ++ " " ++ address.text ++ " is outside of range " ++ first.text ++ "-" ++ last.text
  | .invertedRange first last =>
    "range start " ++ first.text ++ " is after range end " ++ last.text
  | .invertedExclusion first last =>
    "excluded range " ++ first.text ++ "-" ++ last.text ++ " is reversed"

/-! ## Host addresses of a subnet -/

/-- The places of the first and the last host address of a subnet.

An IPv4 subnet keeps its network and broadcast address to itself, an IPv6 subnet
only its network address.  The IPv6 subnets that end at the highest address are
left out, so that the place behind the last host is a place too. -/
def Prefix.hostBounds (subnet : Prefix) : Except RangeError (Nat × Nat) :=
  let lowest := subnet.network.position
  let highest := subnet.broadcast.position
  match subnet.family with
  | .v4 =>
    if subnet.length ≤ 30 then .ok (lowest + 1, highest - 1) else .error (.subnetTooSmall subnet)
  | .v6 =>
    if subnet.length < 128 then
      if highest = 2 ^ 128 - 1 then .error (.unsupportedSubnet subnet)
      else .ok (lowest + 1, highest)
    else .error (.subnetTooSmall subnet)

/-- Whether an address lies in a subnet and between the given host bounds. -/
def Prefix.IsHost (subnet : Prefix) (hosts : Nat × Nat) (address : Address) : Prop :=
  subnet.contains address = true ∧ hosts.1 ≤ address.position ∧ address.position ≤ hosts.2

instance (subnet : Prefix) (hosts : Nat × Nat) (address : Address) :
    Decidable (subnet.IsHost hosts address) :=
  inferInstanceAs (Decidable (_ ∧ _ ∧ _))

/-- Whether an address has the family of `first` and lies between `first` and `last`. -/
def Address.Between (first last address : Address) : Prop :=
  address.family = first.family ∧
    first.position ≤ address.position ∧ address.position ≤ last.position

instance (first last address : Address) : Decidable (Address.Between first last address) :=
  inferInstanceAs (Decidable (_ ∧ _ ∧ _))

/-- Whether both ends of an exclusion lie between `first` and `last`, and in order. -/
def Exclusion.Within (first last : Address) (exclusion : Exclusion) : Prop :=
  Address.Between first last exclusion.first ∧ Address.Between first last exclusion.last ∧
    exclusion.first.position ≤ exclusion.last.position

instance (first last : Address) (exclusion : Exclusion) :
    Decidable (exclusion.Within first last) :=
  inferInstanceAs (Decidable (_ ∧ _ ∧ _))

/-- What is wrong with an exclusion in a range from `first` to `last`: its ends are looked at
before their order. -/
def Exclusion.fault? (first last : Address) (exclusion : Exclusion) : Option RangeError :=
  if ¬ Address.Between first last exclusion.first then
    some (.addressOutOfRange .exclusion exclusion.first first last)
  else if ¬ Address.Between first last exclusion.last then
    some (.addressOutOfRange .exclusion exclusion.last first last)
  else if exclusion.last.position < exclusion.first.position then
    some (.invertedExclusion exclusion.first exclusion.last)
  else none

theorem Exclusion.fault?_eq_none_iff {first last : Address} {exclusion : Exclusion} :
    exclusion.fault? first last = none ↔ exclusion.Within first last := by
  unfold Exclusion.fault? Exclusion.Within
  split
  · simp_all
  · split
    · simp_all
    · split
      · simp_all
      · simp_all

/-! ## Ranges -/

/-- The places from `first` to `last` without the gateway and the exclusions. -/
def carve (first last gateway : Address) (exclusions : List Exclusion)
    (ordered : first.position ≤ last.position) : IntervalSet :=
  exclusions.foldl
    (fun usable exclusion => usable.remove exclusion.first.position (exclusion.last.position + 1))
    ((IntervalSet.ofBounds first.position last.position ordered).remove
      gateway.position (gateway.position + 1))

/-- A checked stretch of host addresses of one subnet. -/
structure Range where
  subnet : Prefix
  first : Address
  last : Address
  gateway : Address
  explicitGateway : Bool
  exclusions : List Exclusion
  usable : IntervalSet
  hosts : Nat × Nat
  truncated : subnet.truncate = subnet
  hosts_eq : subnet.hostBounds = .ok hosts
  first_host : subnet.IsHost hosts first
  last_host : subnet.IsHost hosts last
  ordered : first.position ≤ last.position
  gateway_between : Address.Between first last gateway
  exclusions_within : ∀ exclusion ∈ exclusions, exclusion.Within first last
  usable_eq : usable = carve first last gateway exclusions ordered

/-- A description of a range, in which all but the subnet may be missing. -/
structure RangeSpec where
  subnet : Prefix
  first : Option Address
  last : Option Address
  gateway : Option Address
  exclusions : List Exclusion

theorem Prefix.truncate_truncate (subnet : Prefix) :
    subnet.truncate.truncate = subnet.truncate := by
  have family : subnet.truncate.family = subnet.family := Address.family_ofNat ..
  have size : subnet.truncate.size = subnet.size := by
    unfold Prefix.size; rw [family]; rfl
  have bound : subnet.lowest < 2 ^ subnet.family.width :=
    Nat.lt_of_le_of_lt (Nat.div_mul_le_self ..) (Address.toNat_lt _)
  have lowest : subnet.truncate.lowest = subnet.lowest := by
    have same : subnet.truncate.address.toNat = subnet.lowest := by
      show subnet.network.toNat = _
      rw [Prefix.network, Address.toNat_ofNat, Nat.mod_eq_of_lt bound]
    unfold Prefix.lowest
    rw [size, same]
    unfold Prefix.lowest
    rw [Nat.mul_div_cancel _ subnet.size_pos]
  have network : subnet.truncate.network = subnet.network := by
    unfold Prefix.network
    rw [family, lowest]
  unfold Prefix.truncate
  congr 1

/-- Checks a description and builds its range.

The subnet is looked at first, then the start, the end and their order, then the
gateway, then the exclusions one by one. -/
def Range.build (spec : RangeSpec) : Except RangeError Range :=
  let subnet := spec.subnet.truncate
  match hosts_eq : subnet.hostBounds with
  | .error error => .error error
  | .ok hosts =>
    let first := spec.first.getD (.ofPosition subnet.family hosts.1)
    let last := spec.last.getD (.ofPosition subnet.family hosts.2)
    if first_host : subnet.IsHost hosts first then
      if last_host : subnet.IsHost hosts last then
        if ordered : first.position ≤ last.position then
          let gateway := spec.gateway.getD first
          if gateway_between : Address.Between first last gateway then
            match faultless : spec.exclusions.findSome? (·.fault? first last) with
            | some error => .error error
            | none => .ok {
                subnet, first, last, gateway, hosts
                explicitGateway := spec.gateway.isSome
                exclusions := spec.exclusions
                usable := carve first last gateway spec.exclusions ordered
                truncated := Prefix.truncate_truncate _
                hosts_eq, first_host, last_host, ordered, gateway_between
                exclusions_within := fun exclusion member =>
                  Exclusion.fault?_eq_none_iff.1
                    (List.findSome?_eq_none_iff.1 faultless exclusion member)
                usable_eq := rfl }
          else .error (.addressOutOfRange .gateway gateway first last)
        else .error (.invertedRange first last)
      else .error (.addressNotInSubnet .stop last subnet)
    else .error (.addressNotInSubnet .start first subnet)

namespace Range

/-- The family of the range's addresses. -/
def family (range : Range) : Family := range.subnet.family

/-- The address of the range's family at a place. -/
def addressAt (range : Range) (position : Nat) : Address := .ofPosition range.family position

/-- Whether an address may be handed out from the range. -/
def contains (range : Range) (address : Address) : Bool :=
  decide (address.family = range.family) && range.usable.contains address.position

/-- Whether an address lies between the ends of the range, usable or not. -/
def inBounds (range : Range) (address : Address) : Bool :=
  decide (address.family = range.family) &&
    decide (range.first.position ≤ address.position ∧ address.position ≤ range.last.position)

/-- Whether the bounds of two ranges have an address in common. -/
def overlaps (left right : Range) : Bool :=
  left.inBounds right.first || left.inBounds right.last || right.inBounds left.first

/-- The number of addresses that may be handed out from the range. -/
def usableCount (range : Range) : Nat := range.usable.length

/-- The lowest address that may be handed out from the range. -/
def firstUsable (range : Range) : Option Address := range.usable.first.map range.addressAt

/-- The lowest address behind the given one that may be handed out from the range. -/
def nextUsable (range : Range) (address : Address) : Option Address :=
  (range.usable.nextAfter address.position).map range.addressAt

/-- The text of a range: its subnet and its bounds. -/
def text (range : Range) : String :=
  range.subnet.text ++ " [" ++ range.first.text ++ "-" ++ range.last.text ++ "]"

instance : ToString Range := ⟨text⟩

end Range

end AddressPool
