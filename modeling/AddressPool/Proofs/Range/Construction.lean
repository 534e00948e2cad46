import AddressPool.Proofs.Ring.Circuit

/-!
# Building ranges

A description of a range is taken when it is sound: its subnet has hosts, its two ends are
hosts of the subnet and in order, and its gateway and its exclusions lie between them.  What
it does not say is filled in: a range reaches from the first host of its subnet to the last
one, and its first address is the gateway.

Soundness is said here in terms of addresses and of the subnet as it is written, with or
without bits behind its length (`RangeSpec.Sound`), while the construction clears those bits
and compares positions.  The two agree (`Range.exists_build_iff`), and a range that has been
built hands out just the addresses between its ends that are neither the gateway nor excluded
(`build_is_exact`).
-/

namespace AddressPool

set_option autoImplicit false

namespace Prefix

variable {subnet : Prefix} {address : Address}

/-! ## Subnets without the bits behind their length -/

theorem family_truncate (subnet : Prefix) : subnet.truncate.family = subnet.family :=
  Address.family_ofNat ..

theorem size_truncate (subnet : Prefix) : subnet.truncate.size = subnet.size := by
  rw [size, size, family_truncate]
  rfl

theorem lowest_truncate (subnet : Prefix) : subnet.truncate.lowest = subnet.lowest := by
  have same : subnet.truncate.address.toNat = subnet.lowest := subnet.toNat_network
  rw [lowest, size_truncate, same, lowest, Nat.mul_div_cancel _ subnet.size_pos]

theorem network_truncate (subnet : Prefix) : subnet.truncate.network = subnet.network := by
  rw [network, network, family_truncate, lowest_truncate]

theorem broadcast_truncate (subnet : Prefix) : subnet.truncate.broadcast = subnet.broadcast := by
  rw [broadcast, broadcast, family_truncate, lowest_truncate, size_truncate]

theorem contains_truncate : subnet.truncate.contains address = subnet.contains address := by
  rw [Bool.eq_iff_iff, contains_iff, contains_iff, family_truncate, lowest_truncate, size_truncate]

/-! ## Hosts -/

/-- Subnets that ranges can be built in: IPv4 ones with room for two hosts at least, and IPv6 ones
of more than one address that do not end at the highest address of all. -/
def HasHosts (subnet : Prefix) : Prop :=
  match subnet.family with
  | .v4 => subnet.length ≤ 30
  | .v6 => subnet.length < 128 ∧ subnet.broadcast ≠ .v6 (BitVec.allOnes 128)

/-- The hosts of a subnet are its addresses but the lowest one and, for IPv4, the highest. -/
def Host (subnet : Prefix) (address : Address) : Prop :=
  subnet.contains address = true ∧ address ≠ subnet.network ∧
    (address.family = .v4 → address ≠ subnet.broadcast)

instance (subnet : Prefix) (address : Address) : Decidable (subnet.Host address) :=
  inferInstanceAs (Decidable (_ ∧ _ ∧ _))

/-- The address behind the lowest one. -/
def firstHost (subnet : Prefix) : Address := .ofNat subnet.family (subnet.lowest + 1)

/-- The highest address, or the one in front of it for IPv4. -/
def lastHost (subnet : Prefix) : Address :=
  match subnet.family with
  | .v4 => .ofNat .v4 (subnet.lowest + (subnet.size - 2))
  | .v6 => subnet.broadcast

theorem family_firstHost (subnet : Prefix) : subnet.firstHost.family = subnet.family :=
  Address.family_ofNat ..

theorem family_lastHost (subnet : Prefix) : subnet.lastHost.family = subnet.family := by
  unfold lastHost
  split
  · rename_i v4
    rw [Address.family_ofNat, v4]
  · exact subnet.family_broadcast

theorem position_network (subnet : Prefix) :
    subnet.network.position = subnet.family.origin + subnet.lowest := by
  rw [Address.position_eq, family_network, toNat_network]

theorem position_broadcast (subnet : Prefix) :
    subnet.broadcast.position = subnet.family.origin + (subnet.lowest + (subnet.size - 1)) := by
  rw [Address.position_eq, family_broadcast, toNat_broadcast]

/-- A subnet of less than the full length has two addresses at least. -/
theorem two_le_size (short : subnet.length < subnet.family.width) : 2 ≤ subnet.size := by
  calc 2 = 2 ^ 1 := rfl
    _ ≤ 2 ^ (subnet.family.width - subnet.length) :=
      Nat.pow_le_pow_right (by decide) (by omega)

theorem HasHosts.two_le_size (has : subnet.HasHosts) : 2 ≤ subnet.size := by
  refine Prefix.two_le_size ?_
  unfold HasHosts at has
  split at has <;> rename_i family <;> rw [family, Family.width]
  · omega
  · exact has.1

theorem position_firstHost (has : subnet.HasHosts) :
    subnet.firstHost.position = subnet.family.origin + (subnet.lowest + 1) := by
  have room := subnet.lowest_add_size_le
  have two := has.two_le_size
  rw [Address.position_eq, family_firstHost, firstHost, Address.toNat_ofNat,
    Nat.mod_eq_of_lt (by omega)]

theorem position_lastHost (has : subnet.HasHosts) :
    subnet.lastHost.position = match subnet.family with
      | .v4 => Family.v4.origin + (subnet.lowest + (subnet.size - 2))
      | .v6 => Family.v6.origin + (subnet.lowest + (subnet.size - 1)) := by
  have room := subnet.lowest_add_size_le
  have two := has.two_le_size
  unfold lastHost
  split <;> rename_i family <;> rw [family] at room
  · rw [Address.position_eq, Address.family_ofNat, Address.toNat_ofNat,
      Nat.mod_eq_of_lt (by omega)]
  · rw [position_broadcast, family]

/-- The highest address of all is the one at the last position. -/
theorem broadcast_eq_allOnes_iff (v6 : subnet.family = .v6) :
    subnet.broadcast = .v6 (BitVec.allOnes 128) ↔ subnet.broadcast.position = 2 ^ 128 - 1 := by
  have place : (Address.v6 (BitVec.allOnes 128)).position = 2 ^ 128 - 1 := by
    rw [Address.position, BitVec.toNat_allOnes]
  constructor
  · intro highest
    rw [highest, place]
  · intro highest
    refine Address.eq_of_position_eq ?_ (highest.trans place.symm)
    rw [family_broadcast, v6]
    rfl

/-- **Host bounds are found for the subnets that have hosts, and are the places of the first and of
the last of them.** -/
theorem hostBounds_truncate_iff {hosts : Nat × Nat} :
    subnet.truncate.hostBounds = .ok hosts ↔
      subnet.HasHosts ∧ hosts = (subnet.firstHost.position, subnet.lastHost.position) := by
  have bounds : ∀ has : subnet.HasHosts,
      subnet.firstHost.position = subnet.network.position + 1 := by
    intro has
    rw [position_firstHost has, position_network, Nat.add_assoc]
  unfold hostBounds
  simp only [network_truncate, broadcast_truncate, family_truncate]
  have same_length : subnet.truncate.length = subnet.length := rfl
  rw [same_length]
  cases family : subnet.family with
  | v4 =>
    have meaning : subnet.HasHosts ↔ subnet.length ≤ 30 := by
      rw [HasHosts, family]
    simp only [meaning]
    by_cases short : subnet.length ≤ 30
    · have has := meaning.mpr short
      have last : subnet.lastHost.position = subnet.broadcast.position - 1 := by
        have two := has.two_le_size
        rw [position_lastHost has, position_broadcast, family]
        simp only
        omega
      simp only [short, if_true, true_and, Except.ok.injEq, ← bounds has, ← last]
      exact eq_comm
    · simp [short]
  | v6 =>
    have meaning : subnet.HasHosts ↔
        subnet.length < 128 ∧ subnet.broadcast.position ≠ 2 ^ 128 - 1 := by
      rw [HasHosts, family]
      simp only [ne_eq, broadcast_eq_allOnes_iff family]
    simp only [meaning]
    by_cases short : subnet.length < 128
    · by_cases highest : subnet.broadcast.position = 2 ^ 128 - 1
      · simp [short, highest]
      · have has := meaning.mpr ⟨short, highest⟩
        have last : subnet.lastHost.position = subnet.broadcast.position := by
          rw [lastHost, family]
        simp only [short, highest, if_true, if_false, true_and, ne_eq, not_false_eq_true,
          Except.ok.injEq, ← bounds has, last]
        exact eq_comm
    · simp [short]

/-- The addresses at the host bounds are the first and the last host. -/
theorem ofPosition_hosts {hosts : Nat × Nat} (found : subnet.truncate.hostBounds = .ok hosts) :
    Address.ofPosition subnet.truncate.family hosts.1 = subnet.firstHost ∧
      Address.ofPosition subnet.truncate.family hosts.2 = subnet.lastHost := by
  obtain ⟨_, rfl⟩ := hostBounds_truncate_iff.mp found
  have first := subnet.firstHost.ofPosition_position
  have last := subnet.lastHost.ofPosition_position
  rw [family_firstHost] at first
  rw [family_lastHost] at last
  rw [family_truncate]
  exact ⟨first, last⟩

/-- **The addresses between the host bounds are the hosts.** -/
theorem isHost_truncate_iff (has : subnet.HasHosts) :
    subnet.truncate.IsHost (subnet.firstHost.position, subnet.lastHost.position) address ↔
      subnet.Host address := by
  have two := has.two_le_size
  rw [IsHost, Host, contains_truncate]
  refine and_congr_right fun inside => ?_
  obtain ⟨family, above, below⟩ := contains_iff.mp inside
  have network : address = subnet.network ↔ address.toNat = subnet.lowest := by
    rw [← toNat_network]
    constructor
    · rintro rfl
      rfl
    · intro same
      rw [← address.ofNat_toNat, ← subnet.network.ofNat_toNat, same, family, family_network]
  have broadcast : address = subnet.broadcast ↔
      address.toNat = subnet.lowest + (subnet.size - 1) := by
    rw [← toNat_broadcast]
    constructor
    · rintro rfl
      rfl
    · intro same
      rw [← address.ofNat_toNat, ← subnet.broadcast.ofNat_toNat, same, family, family_broadcast]
  rw [position_firstHost has, position_lastHost has, Address.position_eq, ne_eq, ne_eq, network,
    broadcast, family]
  cases subnet.family with
  | v4 =>
    simp only [forall_const]
    omega
  | v6 =>
    simp only [reduceCtorEq, false_implies, and_true]
    omega

end Prefix

/-! ## Sound descriptions -/

namespace RangeSpec

/-- Where a range starts: at its first host, if nothing else is said. -/
def start (spec : RangeSpec) : Address := spec.first.getD spec.subnet.firstHost

/-- Where a range ends: at its last host, if nothing else is said. -/
def stop (spec : RangeSpec) : Address := spec.last.getD spec.subnet.lastHost

/-- The gateway of a range: where it starts, if nothing else is said. -/
def gate (spec : RangeSpec) : Address := spec.gateway.getD spec.start

/-- A description of which a range can be built: the ends of the range are hosts of its subnet and
in order, and its gateway and its exclusions lie between them. -/
structure Sound (spec : RangeSpec) : Prop where
  hasHosts : spec.subnet.HasHosts
  start_host : spec.subnet.Host spec.start
  stop_host : spec.subnet.Host spec.stop
  ordered : spec.start.position ≤ spec.stop.position
  gate_between : Address.Between spec.start spec.stop spec.gate
  exclusions_within : ∀ exclusion ∈ spec.exclusions, exclusion.Within spec.start spec.stop

/-- The addresses that a described range may hand out: those between its ends that are neither the
gateway nor in an exclusion. -/
def Usable (spec : RangeSpec) (address : Address) : Prop :=
  Address.Between spec.start spec.stop address ∧ address ≠ spec.gate ∧
    ∀ exclusion ∈ spec.exclusions, ¬ Address.Between exclusion.first exclusion.last address

end RangeSpec

instance (spec : RangeSpec) (address : Address) : Decidable (spec.Usable address) :=
  inferInstanceAs (Decidable (_ ∧ _ ∧ _))

namespace Range

variable {spec : RangeSpec} {range : Range}

/-- A range that is built of a description has what is said there. -/
structure BuiltOf (spec : RangeSpec) (range : Range) : Prop where
  subnet : range.subnet = spec.subnet.truncate
  first : range.first = spec.start
  last : range.last = spec.stop
  gateway : range.gateway = spec.gate
  exclusions : range.exclusions = spec.exclusions

/-- The host bounds of a subnet stand for the defaults of a range. -/
theorem getD_of_hostBounds {hosts : Nat × Nat}
    (found : spec.subnet.truncate.hostBounds = .ok hosts) :
    spec.first.getD (.ofPosition spec.subnet.truncate.family hosts.1) = spec.start ∧
      spec.last.getD (.ofPosition spec.subnet.truncate.family hosts.2) = spec.stop := by
  obtain ⟨first, last⟩ := Prefix.ofPosition_hosts found
  rw [first, last]
  exact ⟨rfl, rfl⟩

theorem builtOf_of_build (built : build spec = .ok range) : BuiltOf spec range := by
  unfold build at built
  simp only at built
  split at built
  · cases built
  · rename_i hosts found
    obtain ⟨first, last⟩ := getD_of_hostBounds found
    split at built
    · split at built
      · split at built
        · split at built
          · split at built
            · cases built
            · obtain rfl := Except.ok.inj built
              refine ⟨rfl, first, last, ?_, rfl⟩
              simp only [first, RangeSpec.gate]
          · cases built
        · cases built
      · cases built
    · cases built

/-- Whatever a range can be built of is sound. -/
theorem BuiltOf.sound (built : BuiltOf spec range) : spec.Sound := by
  have found := range.hosts_eq
  rw [built.subnet] at found
  obtain ⟨has, hosts⟩ := Prefix.hostBounds_truncate_iff.mp found
  have host : ∀ {address}, range.subnet.IsHost range.hosts address →
      spec.subnet.Host address := by
    intro address host
    rw [built.subnet, hosts, Prefix.isHost_truncate_iff has] at host
    exact host
  exact {
    hasHosts := has
    start_host := built.first ▸ host range.first_host
    stop_host := built.last ▸ host range.last_host
    ordered := built.first ▸ built.last ▸ range.ordered
    gate_between := built.first ▸ built.last ▸ built.gateway ▸ range.gateway_between
    exclusions_within := built.first ▸ built.last ▸ built.exclusions ▸ range.exclusions_within }

/-- Of every sound description a range is built. -/
theorem exists_build_of_sound (sound : spec.Sound) : ∃ range, build spec = .ok range := by
  have found := Prefix.hostBounds_truncate_iff.mpr ⟨sound.hasHosts, rfl⟩
  obtain ⟨first, last⟩ := getD_of_hostBounds found
  have start_host := (Prefix.isHost_truncate_iff sound.hasHosts).mpr sound.start_host
  have stop_host := (Prefix.isHost_truncate_iff sound.hasHosts).mpr sound.stop_host
  have ordered := sound.ordered
  have gate_between := sound.gate_between
  have faultless : spec.exclusions.findSome? (·.fault? spec.start spec.stop) = none :=
    List.findSome?_eq_none_iff.mpr fun exclusion member =>
      Exclusion.fault?_eq_none_iff.mpr (sound.exclusions_within exclusion member)
  rw [RangeSpec.gate] at gate_between
  rw [← first] at start_host ordered gate_between faultless
  rw [← last] at stop_host ordered gate_between faultless
  unfold build
  simp only
  split
  · rename_i error failed
    rw [found] at failed
    cases failed
  · rename_i hosts again
    obtain rfl := Except.ok.inj (found.symm.trans again)
    rw [dif_pos start_host, dif_pos stop_host, dif_pos ordered, dif_pos gate_between]
    split
    · rename_i error fault
      rw [faultless] at fault
      cases fault
    · exact ⟨_, rfl⟩

/-- **A range is built of the sound descriptions and of no others.** -/
theorem exists_build_iff : (∃ range, build spec = .ok range) ↔ spec.Sound := by
  constructor
  · rintro ⟨range, built⟩
    exact (builtOf_of_build built).sound
  · exact exists_build_of_sound

/-- What a range hands out is what its description allows. -/
theorem BuiltOf.contains_iff (built : BuiltOf spec range) {address : Address} :
    range.contains address = true ↔ spec.Usable address := by
  rw [Range.contains_iff, inBounds_iff, built.first, built.last, built.gateway, built.exclusions]
  rfl

end Range

/-- **Ranges are built of sound descriptions, and hand out what these allow.**

A range is built of a description exactly if its subnet is an IPv4 one of length 30 at most,
or an IPv6 one of less than 128 that does not end at the highest address; if the two ends,
which are the first and the last host unless something else is said, are hosts of the subnet
and in order; and if the gateway, which is the start unless something else is said, and all
exclusions lie between the ends and have their family, and the exclusions are in order.  The
range then hands out the addresses between its ends that are neither the gateway nor excluded,
and counts each of them once. -/
theorem build_is_exact (spec : RangeSpec) :
    ((∃ range, Range.build spec = .ok range) ↔ spec.Sound) ∧
      ∀ range, Range.build spec = .ok range →
        (∀ address, range.contains address = true ↔ spec.Usable address) ∧
          ∃ usable : List Address, usable.Nodup ∧
            (∀ address, address ∈ usable ↔ spec.Usable address) ∧
              range.usableCount = usable.length := by
  refine ⟨Range.exists_build_iff, ?_⟩
  intro range built
  have same := Range.builtOf_of_build built
  refine ⟨fun address => same.contains_iff, range.addresses, range.nodup_addresses, ?_,
    range.length_addresses.symm⟩
  intro address
  rw [Range.mem_addresses, same.contains_iff]

/-- A subnet is written with bits behind its length, the gateway is in the middle of it, and one
exclusion lies within another. -/
theorem build_is_exact_slash29 :
    let spec : RangeSpec := {
      subnet := ⟨.v4 0x0a00000d, 29, by decide⟩
      first := none
      last := none
      gateway := some (.v4 0x0a00000b)
      exclusions := [⟨.v4 0x0a00000c, .v4 0x0a00000d⟩, .single (.v4 0x0a00000d)] }
    spec.Sound ∧ ∃ range, Range.build spec = .ok range ∧
      range.contains (.v4 0x0a00000a) = true ∧ range.contains (.v4 0x0a00000b) = false ∧
        range.contains (.v4 0x0a00000d) = false := by
  intro spec
  have sound : spec.Sound := {
    hasHosts := by show 29 ≤ 30; decide
    start_host := by decide
    stop_host := by decide
    ordered := by decide
    gate_between := by decide
    exclusions_within := by decide }
  obtain ⟨taken, exact⟩ := build_is_exact spec
  obtain ⟨range, built⟩ := taken.mpr sound
  obtain ⟨usable, _⟩ := exact range built
  refine ⟨sound, range, built, (usable _).mpr (by decide), ?_, ?_⟩
  all_goals
    rw [← Bool.not_eq_true, usable]
    decide

end AddressPool
