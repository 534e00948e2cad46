import AddressPool.Proofs.Config.Entries
import Mathlib.Data.Set.Card

/-!
# Telling ranges apart

Whether two ranges overlap is found by asking three of their four ends, and the ranges of a ring
are asked only in one direction, each one about those behind it.  That is enough: the ranges pass if
and only if no address is in the bounds of two of them.

So a ring tells its ranges apart (`Ring.TellsApart`).  The first range that may hand out an address
is the only one.  A gateway is in the bounds of its own range, which does not hand it out, and no
other range can.  And the counts of the ranges add up to the number of addresses of the ring, as no
address is counted in two of them.
-/

namespace AddressPool

set_option autoImplicit false

namespace Ring

variable {ring : Ring} {address : Address}

/-- No address is in the bounds of two ranges of a ring. -/
theorem eq_of_inBounds {left right : Range} (here : left ∈ ring.ranges)
    (there : right ∈ ring.ranges) (inside : left.inBounds address = true)
    (within : right.inBounds address = true) : left = right := by
  have among : right ∈ ring.ranges.filter (·.inBounds address) :=
    List.mem_filter.mpr ⟨there, within⟩
  rw [Range.filter_inBounds_of_apart ring.disjoint here inside, List.mem_singleton] at among
  exact among.symm

/-- No gateway of a ring may be handed out from any of its ranges. -/
theorem contains_of_isGateway (gateway : ring.isGateway address = true) :
    ring.contains address = false := by
  obtain ⟨range, member, same⟩ := List.any_eq_true.mp gateway
  rw [decide_eq_true_eq] at same
  rw [← Bool.not_eq_true, ← mem_addresses, addresses, mem_addressesOf]
  rintro ⟨other, among, usable⟩
  obtain ⟨inside, notGateway, _⟩ := Range.contains_iff.mp usable
  -- The gateway is in the bounds of its own range, so that this is the one.
  obtain rfl := eq_of_inBounds member among (same ▸ range.inBounds_gateway) inside
  exact notGateway same.symm

/-- The ranges of a ring that may hand out an address are the one that is found for it, or none. -/
theorem filter_contains (ring : Ring) (address : Address) :
    ring.ranges.filter (·.contains address) = (ring.rangeContaining address).toList := by
  have single : (ring.ranges.filter (·.contains address)).length ≤ 1 := by
    rw [← List.countP_eq_length_filter]
    calc ring.ranges.countP (·.contains address)
        ≤ ring.ranges.countP (·.inBounds address) :=
          List.countP_mono_left fun _ _ usable => Range.inBounds_of_contains usable
      _ ≤ 1 := Range.pairwise_apart_iff.mp ring.disjoint address
  rw [rangeContaining, ← List.head?_filter]
  cases shape : ring.ranges.filter (·.contains address) with
  | nil => rfl
  | cons range rest =>
    rw [shape, List.length_cons] at single
    obtain rfl : rest = [] := List.length_eq_zero_iff.mp (by omega)
    rfl

/-- A ring counts each address that may be handed out once. -/
theorem encard_contains (ring : Ring) :
    {address | ring.contains address = true}.encard = ring.usableCount := by
  have listed : {address | ring.contains address = true} = ring.addresses.toFinset := by
    simp only [List.coe_toFinset, mem_addresses]
  rw [listed, Set.encard_coe_eq_coe_finsetCard, List.toFinset_card_of_nodup ring.nodup_addresses,
    length_addresses]

/-! ## The main result -/

/-- No address is in the bounds of two ranges of a ring; the range that is found for an address is
the only one that may hand it out; no gateway may be handed out; and the addresses that may be are
as many as the ring counts. -/
structure TellsApart (ring : Ring) : Prop where
  bounds : ∀ address, ring.ranges.countP (·.inBounds address) ≤ 1
  lookup : ∀ address,
    ring.ranges.filter (·.contains address) = (ring.rangeContaining address).toList
  gateways : ∀ address, ¬ (ring.contains address = true ∧ ring.isGateway address = true)
  count : {address | ring.contains address = true}.encard = ring.usableCount

theorem tellsApart (ring : Ring) : ring.TellsApart where
  bounds := Range.pairwise_apart_iff.mp ring.disjoint
  lookup := ring.filter_contains
  gateways := by
    rintro address ⟨usable, gateway⟩
    rw [contains_of_isGateway gateway] at usable
    cases usable
  count := ring.encard_contains

end Ring

/-- **Ranges are told apart.**

Two ranges overlap if and only if some address is in the bounds of both, whichever of them is asked.
The search for an overlap finds none in a list of ranges if and only if no address is in the bounds
of two of them.  And every ring that is made of a list of ranges has just these ranges and, whatever
its identifier, tells them apart. -/
theorem ranges_are_told_apart :
    (∀ left right : Range,
      (left.overlaps right = true ↔ right.overlaps left = true) ∧
        (left.overlaps right = true ↔
          ∃ address, left.inBounds address = true ∧ right.inBounds address = true)) ∧
    (∀ ranges : List Range, firstOverlap? ranges = none ↔
      ∀ address, ranges.countP (·.inBounds address) ≤ 1) ∧
    ∀ (network : String) (ranges : List Range) (ring : Ring),
      Ring.ofRanges network ranges = .ok ring →
        ring.ranges = ranges ∧ ∀ id, (ring.withId id).TellsApart := by
  refine ⟨fun left right => ⟨?_, Range.overlaps_iff⟩, fun ranges => ?_,
    fun network ranges ring made => ?_⟩
  · rw [Range.overlaps_comm]
  · rw [firstOverlap?_eq_none_iff, Range.pairwise_apart_iff]
  · exact ⟨Ring.ranges_of_ofRanges made, fun id => (ring.withId id).tellsApart⟩

/-- The hosts of `10.0.0.0/29` from one of them to another. -/
def RangeSpec.partOfSlash29 (first last : BitVec 32) : RangeSpec where
  subnet := Range.slash29.subnet
  first := some (.v4 first)
  last := some (.v4 last)
  gateway := none
  exclusions := []

/-- Two ranges of `10.0.0.0/29` that touch make a ring.  The gateway of the second one, its first
address, comes behind the last address of the first one and is not handed out; the other two hosts of
each range are. -/
theorem ranges_are_told_apart_slash29 :
    ∃ low high ring,
      Range.build (.partOfSlash29 0x0a000001 0x0a000003) = .ok low ∧
      Range.build (.partOfSlash29 0x0a000004 0x0a000006) = .ok high ∧
      Ring.ofRanges "net" [low, high] = .ok ring ∧
      [low, high].filter (·.contains (.v4 0x0a000005)) = [high] ∧
      ring.contains (.v4 0x0a000004) = false ∧
      {address | ring.contains address = true}.encard = 4 := by
  obtain ⟨low, high, ring, below, above, made, found, gateway, counted⟩ : ∃ low high ring,
      Range.build (.partOfSlash29 0x0a000001 0x0a000003) = .ok low ∧
      Range.build (.partOfSlash29 0x0a000004 0x0a000006) = .ok high ∧
      Ring.ofRanges "net" [low, high] = .ok ring ∧
      ring.rangeContaining (.v4 0x0a000005) = some high ∧
      ring.isGateway (.v4 0x0a000004) = true ∧ ring.usableCount = 4 :=
    ⟨_, _, _, rfl, rfl, rfl, rfl, rfl, rfl⟩
  obtain ⟨_, _, rings⟩ := ranges_are_told_apart
  obtain ⟨shape, told⟩ := rings "net" [low, high] ring made
  have apart : ring.TellsApart := told ring.id
  refine ⟨low, high, ring, below, above, made, ?_, ?_, ?_⟩
  · rw [← shape, apart.lookup, found]
    rfl
  · rw [← Bool.not_eq_true]
    exact fun usable => apart.gateways _ ⟨usable, gateway⟩
  · rw [apart.count, counted]
    rfl

end AddressPool
