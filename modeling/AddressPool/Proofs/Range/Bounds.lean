import AddressPool.Proofs.Interval.Values
import AddressPool.Range

/-!
# What lies in a range

A range is described by positions: an address of its family is in bounds when
its position lies between those of the two ends, and it may be handed out when
in addition it is neither the gateway nor excluded (`Range.contains_iff`).

Whatever is in bounds is a host of the range's subnet.  The subnet contains it,
and it is neither the lowest address of the subnet nor, for IPv4, the highest
(`Range.host_of_inBounds`).

Two ranges overlap exactly when an address is in the bounds of both
(`Range.overlaps_iff`), so ranges that do not overlap never share an address.
Of any number of ranges no two overlap exactly when no address is in the bounds
of more than one (`Range.pairwise_apart_iff`).
-/

namespace AddressPool

set_option autoImplicit false

/-! ## Positions of a family -/

/-- Where the addresses of a family start among the positions. -/
def Family.origin : Family → Nat
  | .v4 => Address.mappedBase
  | .v6 => 0

namespace Address

/-- The position of an address is its number, counted from where its family starts. -/
theorem position_eq (address : Address) :
    address.position = address.family.origin + address.toNat := by
  cases address with
  | v4 bits => rfl
  | v6 bits => simp only [position, family, Family.origin, toNat, Nat.zero_add]

/-- A place between the positions of two addresses of a family is the position of the family's
address at that place. -/
theorem position_ofPosition {first last : Address} {place : Nat}
    (same : last.family = first.family) (above : first.position ≤ place)
    (below : place ≤ last.position) :
    (ofPosition first.family place).position = place := by
  have bound := last.toNat_lt
  rw [position_eq, same] at below
  rw [position_eq] at above
  rw [same] at bound
  rw [position_eq, ofPosition, family_ofNat, toNat_ofNat]
  generalize first.family = family at *
  cases family with
  | v4 =>
    simp only [Family.origin, Family.width, mappedBase] at *
    omega
  | v6 =>
    simp only [Family.origin, Family.width] at *
    omega

end Address

/-! ## Blocks of addresses -/

namespace Prefix

variable (block : Prefix)

/-- The numbers of a block do not reach beyond those of the family. -/
theorem lowest_add_size_le : block.lowest + block.size ≤ 2 ^ block.family.width := by
  have whole : 2 ^ block.family.width = 2 ^ block.length * block.size := by
    have length_le : block.length ≤ block.family.width := block.length_le
    rw [size, ← Nat.pow_add, Nat.add_sub_cancel' length_le]
  have below : block.address.toNat / block.size < 2 ^ block.length := by
    rw [Nat.div_lt_iff_lt_mul block.size_pos, ← whole]
    exact block.address.toNat_lt
  calc block.lowest + block.size
      = (block.address.toNat / block.size + 1) * block.size := by
        rw [lowest, Nat.succ_mul]
    _ ≤ 2 ^ block.length * block.size := Nat.mul_le_mul_right _ below
    _ = 2 ^ block.family.width := whole.symm

theorem toNat_network : block.network.toNat = block.lowest := by
  have room := block.lowest_add_size_le
  have positive := block.size_pos
  rw [network, Address.toNat_ofNat, Nat.mod_eq_of_lt (by omega)]

theorem toNat_broadcast : block.broadcast.toNat = block.lowest + (block.size - 1) := by
  have room := block.lowest_add_size_le
  have positive := block.size_pos
  rw [broadcast, Address.toNat_ofNat, Nat.mod_eq_of_lt (by omega)]

theorem family_network : block.network.family = block.family := Address.family_ofNat ..

theorem family_broadcast : block.broadcast.family = block.family := Address.family_ofNat ..

variable {block}

/-- A block contains the addresses of its family between its lowest and its highest one. -/
theorem contains_iff {address : Address} :
    block.contains address = true ↔
      address.family = block.family ∧ block.lowest ≤ address.toNat ∧
        address.toNat < block.lowest + block.size := by
  simp only [contains, Bool.and_eq_true, decide_eq_true_eq, lowest]
  refine and_congr_right fun _ => ?_
  have next : block.address.toNat / block.size * block.size + block.size =
      (block.address.toNat / block.size + 1) * block.size := (Nat.succ_mul _ _).symm
  rw [Nat.div_eq_iff block.size_pos, next]
  have positive : 0 < (block.address.toNat / block.size + 1) * block.size :=
    Nat.mul_pos (Nat.succ_pos _) block.size_pos
  omega

/-- The host bounds of a subnet leave out its lowest address and, for IPv4, its highest. -/
theorem bounds_of_hostBounds {subnet : Prefix} {hosts : Nat × Nat}
    (found : subnet.hostBounds = .ok hosts) :
    hosts.1 = subnet.family.origin + subnet.lowest + 1 ∧
      hosts.2 < subnet.family.origin + subnet.lowest + subnet.size ∧
      (subnet.family = .v4 → hosts.2 + 1 < subnet.family.origin + subnet.lowest + subnet.size) := by
  have positive := subnet.size_pos
  simp only [hostBounds, Address.position_eq, family_network, family_broadcast, toNat_network,
    toNat_broadcast] at found
  cases family : subnet.family with
  | v4 =>
    simp only [family] at found
    split at found
    · rename_i short
      have size : 2 ^ 2 ≤ subnet.size := by
        rw [Prefix.size, family]
        exact Nat.pow_le_pow_right (by decide) (by simp only [Family.width]; omega)
      obtain rfl := Except.ok.inj found
      simp only [Nat.reducePow] at size
      refine ⟨rfl, ?_, fun _ => ?_⟩ <;> simp only <;> omega
    · cases found
  | v6 =>
    simp only [family] at found
    split at found
    · split at found
      · cases found
      · obtain rfl := Except.ok.inj found
        refine ⟨rfl, ?_, by rintro ⟨⟩⟩
        simp only
        omega
    · cases found

end Prefix

/-! ## Bounds of a range -/

namespace Range

variable {range : Range}

theorem family_first (range : Range) : range.first.family = range.family :=
  (Prefix.contains_iff.mp range.first_host.1).1

theorem family_last (range : Range) : range.last.family = range.family :=
  (Prefix.contains_iff.mp range.last_host.1).1

theorem inBounds_iff {address : Address} :
    range.inBounds address = true ↔ Address.Between range.first range.last address := by
  simp only [inBounds, Address.Between, range.family_first, Bool.and_eq_true, decide_eq_true_eq]

theorem inBounds_gateway (range : Range) : range.inBounds range.gateway = true :=
  inBounds_iff.mpr range.gateway_between

/-- Everything in the bounds of a range is a host of its subnet. -/
theorem host_of_inBounds {address : Address} (inside : range.inBounds address = true) :
    range.subnet.contains address = true ∧ address ≠ range.subnet.network ∧
      (address.family = .v4 → address ≠ range.subnet.broadcast) := by
  obtain ⟨family, above, below⟩ := inBounds_iff.mp inside
  rw [range.family_first, Range.family] at family
  obtain ⟨lower, upper, upper_v4⟩ := Prefix.bounds_of_hostBounds range.hosts_eq
  have least := Nat.le_trans range.first_host.2.1 above
  have greatest := Nat.le_trans below range.last_host.2.2
  rw [Address.position_eq, family] at least greatest
  refine ⟨Prefix.contains_iff.mpr ⟨family, by omega, by omega⟩, ?_, fun v4 => ?_⟩
  · intro equal
    have := range.subnet.toNat_network
    rw [← equal] at this
    omega
  · intro equal
    have := range.subnet.toNat_broadcast
    rw [← equal] at this
    have := upper_v4 (family.symm.trans v4)
    omega

/-! ## Addresses that may be handed out -/

/-- A carved set keeps the places that are neither the gateway's nor in an exclusion. -/
theorem mem_values_carve {first last gateway : Address} {exclusions : List Exclusion}
    {ordered : first.position ≤ last.position} {place : Nat} :
    place ∈ (carve first last gateway exclusions ordered).values ↔
      (first.position ≤ place ∧ place ≤ last.position) ∧ place ≠ gateway.position ∧
        ∀ exclusion ∈ exclusions,
          ¬ (exclusion.first.position ≤ place ∧ place ≤ exclusion.last.position) := by
  have cuts : ∀ start : IntervalSet,
      place ∈ (exclusions.foldl (fun usable exclusion =>
          usable.remove exclusion.first.position (exclusion.last.position + 1)) start).values ↔
        place ∈ start.values ∧ ∀ exclusion ∈ exclusions,
          ¬ (exclusion.first.position ≤ place ∧ place ≤ exclusion.last.position) := by
    induction exclusions with
    | nil => simp
    | cons exclusion rest ih =>
      intro start
      rw [List.foldl_cons, ih, IntervalSet.mem_values_remove, List.forall_mem_cons,
        Nat.lt_succ_iff, and_assoc]
  rw [carve, cuts, IntervalSet.mem_values_remove, IntervalSet.mem_values_ofBounds, and_assoc]
  refine and_congr_right fun _ => and_congr_left fun _ => ?_
  omega

theorem mem_usable_iff {place : Nat} :
    place ∈ range.usable.values ↔
      (range.first.position ≤ place ∧ place ≤ range.last.position) ∧
        place ≠ range.gateway.position ∧ ∀ exclusion ∈ range.exclusions,
          ¬ (exclusion.first.position ≤ place ∧ place ≤ exclusion.last.position) := by
  rw [range.usable_eq, mem_values_carve]

/-- An address may be handed out when it is in bounds and neither gateway nor excluded. -/
theorem contains_iff {address : Address} :
    range.contains address = true ↔
      range.inBounds address = true ∧ address ≠ range.gateway ∧
        ∀ exclusion ∈ range.exclusions,
          ¬ Address.Between exclusion.first exclusion.last address := by
  simp only [contains, Bool.and_eq_true, decide_eq_true_eq, IntervalSet.contains_iff,
    mem_usable_iff, inBounds_iff, Address.Between, range.family_first]
  have gateway_family : range.gateway.family = range.family :=
    range.gateway_between.1.trans range.family_first
  constructor
  · rintro ⟨family, within, gateway, exclusions⟩
    refine ⟨⟨family, within⟩, fun equal => gateway (equal ▸ rfl), ?_⟩
    rintro exclusion member ⟨_, covered⟩
    exact exclusions exclusion member covered
  · rintro ⟨⟨family, within⟩, gateway, exclusions⟩
    refine ⟨family, within, fun equal => gateway ?_, fun exclusion member covered => ?_⟩
    · exact Address.eq_of_position_eq (family.trans gateway_family.symm) equal
    · refine exclusions exclusion member ⟨?_, covered⟩
      have start := (range.exclusions_within exclusion member).1.1
      rw [family, start, range.family_first]

theorem inBounds_of_contains {address : Address} (usable : range.contains address = true) :
    range.inBounds address = true := (contains_iff.mp usable).1

/-- The address at a place between the two ends of a range has that place. -/
theorem position_addressAt {place : Nat} (above : range.first.position ≤ place)
    (below : place ≤ range.last.position) : (range.addressAt place).position = place := by
  have same := range.family_last.trans range.family_first.symm
  rw [addressAt, ← range.family_first]
  exact Address.position_ofPosition same above below

theorem family_addressAt (place : Nat) : (range.addressAt place).family = range.family :=
  Address.family_ofNat ..

theorem addressAt_position {address : Address} (family : address.family = range.family) :
    range.addressAt address.position = address := by
  rw [addressAt, ← family]
  exact address.ofPosition_position

/-! ## Overlap -/

/-- Two ranges overlap exactly when an address is in the bounds of both. -/
theorem overlaps_iff {left right : Range} :
    left.overlaps right = true ↔
      ∃ address, left.inBounds address = true ∧ right.inBounds address = true := by
  have left_family := left.family_last.trans left.family_first.symm
  have right_family := right.family_last.trans right.family_first.symm
  have left_first : left.inBounds left.first = true :=
    inBounds_iff.mpr ⟨rfl, Nat.le_refl _, left.ordered⟩
  have right_first : right.inBounds right.first = true :=
    inBounds_iff.mpr ⟨rfl, Nat.le_refl _, right.ordered⟩
  have right_last : right.inBounds right.last = true :=
    inBounds_iff.mpr ⟨right_family, right.ordered, Nat.le_refl _⟩
  simp only [overlaps, Bool.or_eq_true]
  constructor
  · rintro ((inside | inside) | inside)
    · exact ⟨right.first, inside, right_first⟩
    · exact ⟨right.last, inside, right_last⟩
    · exact ⟨left.first, left_first, inside⟩
  · rintro ⟨address, here, there⟩
    simp only [inBounds_iff, Address.Between] at here there ⊢
    have family : right.first.family = left.first.family := there.1.symm.trans here.1
    -- The later one of the two starts is in the bounds of the other range.
    rcases Nat.le_total left.first.position right.first.position with order | order
    · exact .inl (.inl ⟨family, order, by omega⟩)
    · exact .inr ⟨family.symm, order, by omega⟩

/-- No address is in the bounds of two ranges that do not overlap. -/
theorem not_inBounds_of_apart {left right : Range} (apart : left.overlaps right = false)
    {address : Address} (here : left.inBounds address = true) : right.inBounds address = false := by
  cases there : right.inBounds address with
  | false => rfl
  | true =>
    rw [overlaps_iff.mpr ⟨address, here, there⟩] at apart
    cases apart

theorem overlaps_comm (left right : Range) : left.overlaps right = right.overlaps left := by
  rw [Bool.eq_iff_iff, overlaps_iff, overlaps_iff]
  exact exists_congr fun _ => And.comm

variable {ranges : List Range}

/-- No two of some ranges overlap exactly when no address is in the bounds of more than one. -/
theorem pairwise_apart_iff :
    (ranges.Pairwise fun left right => left.overlaps right = false) ↔
      ∀ address, ranges.countP (·.inBounds address) ≤ 1 := by
  induction ranges with
  | nil => simp
  | cons range rest ih =>
    simp only [List.pairwise_cons, ih, List.countP_cons]
    constructor
    · rintro ⟨apart, later⟩ address
      by_cases inside : range.inBounds address = true
      · have elsewhere : rest.countP (·.inBounds address) = 0 := by
          rw [List.countP_eq_zero]
          intro other member
          rw [not_inBounds_of_apart (apart other member) inside]
          exact Bool.false_ne_true
        exact Nat.le_of_eq (by rw [elsewhere, if_pos inside])
      · rw [if_neg inside]
        exact later address
    · intro single
      refine ⟨fun other member => ?_, fun address => ?_⟩
      · rw [← Bool.not_eq_true, overlaps_iff]
        rintro ⟨address, here, there⟩
        -- The first range and the other one are two that have the address in bounds.
        have further : 0 < rest.countP (·.inBounds address) :=
          List.countP_pos_iff.mpr ⟨other, member, there⟩
        have both := single address
        rw [if_pos here] at both
        omega
      · exact Nat.le_trans (Nat.le_add_right ..) (single address)

/-- Of ranges that do not overlap, one that has an address in bounds is the only one. -/
theorem filter_inBounds_of_apart {address : Address}
    (apart : ranges.Pairwise fun left right => left.overlaps right = false)
    (member : range ∈ ranges) (inside : range.inBounds address = true) :
    ranges.filter (·.inBounds address) = [range] := by
  have single := pairwise_apart_iff.mp apart address
  have among : range ∈ ranges.filter (·.inBounds address) := List.mem_filter.mpr ⟨member, inside⟩
  rw [List.countP_eq_length_filter] at single
  obtain ⟨only, shape⟩ :=
    List.length_eq_one_iff.mp (Nat.le_antisymm single (List.length_pos_of_mem among))
  rw [shape, List.mem_singleton] at among
  rw [shape, among]

end Range

end AddressPool
