import AddressPool.Proofs.Interval.Pieces
import AddressPool.Proofs.Range.Construction

/-!
# Carving exclusions out of a range

The usable places of a range are what is left when the gateway and then the exclusions, one after the
other, are cut out of the places between its two ends.  So it does not matter in which order the
exclusions are written, nor how often: descriptions that differ in nothing else
(`RangeSpec.Rearranged`) are built or refused alike, and what is built of them differs in nothing but
the list of exclusions itself (`Range.Alike`).
-/

namespace AddressPool

set_option autoImplicit false

/-! ## Exclusions as cuts -/

/-- The places of an exclusion, up to the one behind its last. -/
def Exclusion.stretch (exclusion : Exclusion) : Nat × Nat :=
  (exclusion.first.position, exclusion.last.position + 1)

/-- The places of one range, without its gateway. -/
def ungated (first last gateway : Address) (ordered : first.position ≤ last.position) :
    IntervalSet :=
  (IntervalSet.ofBounds first.position last.position ordered).remove
    gateway.position (gateway.position + 1)

section Carve

variable {first last gateway : Address} {exclusions : List Exclusion}
  {ordered : first.position ≤ last.position}

/-- Carving makes one cut for each exclusion. -/
theorem carve_eq_removeAll :
    carve first last gateway exclusions ordered =
      (ungated first last gateway ordered).removeAll (exclusions.map Exclusion.stretch) := by
  rw [IntervalSet.removeAll, List.foldl_map]
  rfl

/-- Equal ends, an equal gateway and the same exclusions, however they are listed, leave equal
pieces. -/
theorem carve_congr {first' last' gateway' : Address} {exclusions' : List Exclusion}
    {ordered' : first'.position ≤ last'.position} (starts : first = first') (stops : last = last')
    (gates : gateway = gateway')
    (same : ∀ exclusion, exclusion ∈ exclusions ↔ exclusion ∈ exclusions') :
    carve first last gateway exclusions ordered =
      carve first' last' gateway' exclusions' ordered' := by
  subst starts stops gates
  rw [carve_eq_removeAll, carve_eq_removeAll]
  refine IntervalSet.removeAll_congr fun stretch => ?_
  simp only [List.mem_map, same]

end Carve

/-! ## Descriptions and ranges that differ in their lists of exclusions -/

/-- Descriptions that differ at most in the order of their exclusions and in how often each of them
is written. -/
structure RangeSpec.Rearranged (left right : RangeSpec) : Prop where
  subnet : left.subnet = right.subnet
  first : left.first = right.first
  last : left.last = right.last
  gateway : left.gateway = right.gateway
  exclusions : ∀ exclusion, exclusion ∈ left.exclusions ↔ exclusion ∈ right.exclusions

/-- Ranges that are the same, and hold the same list of usable pieces, but for the list of exclusions
that they are said to have. -/
structure Range.Alike (left right : Range) : Prop where
  subnet : left.subnet = right.subnet
  first : left.first = right.first
  last : left.last = right.last
  gateway : left.gateway = right.gateway
  usable : left.usable = right.usable

namespace RangeSpec.Rearranged

variable {left right : RangeSpec}

theorem symm (rearranged : left.Rearranged right) : right.Rearranged left where
  subnet := rearranged.subnet.symm
  first := rearranged.first.symm
  last := rearranged.last.symm
  gateway := rearranged.gateway.symm
  exclusions exclusion := (rearranged.exclusions exclusion).symm

theorem start_eq (rearranged : left.Rearranged right) : left.start = right.start := by
  rw [start, start, rearranged.first, rearranged.subnet]

theorem stop_eq (rearranged : left.Rearranged right) : left.stop = right.stop := by
  rw [stop, stop, rearranged.last, rearranged.subnet]

theorem gate_eq (rearranged : left.Rearranged right) : left.gate = right.gate := by
  rw [gate, gate, rearranged.gateway, rearranged.start_eq]

/-- What is asked of each exclusion is asked of the others alike. -/
theorem sound (rearranged : left.Rearranged right) (sound : left.Sound) : right.Sound where
  hasHosts := rearranged.subnet ▸ sound.hasHosts
  start_host := rearranged.subnet ▸ rearranged.start_eq ▸ sound.start_host
  stop_host := rearranged.subnet ▸ rearranged.stop_eq ▸ sound.stop_host
  ordered := rearranged.start_eq ▸ rearranged.stop_eq ▸ sound.ordered
  gate_between :=
    rearranged.start_eq ▸ rearranged.stop_eq ▸ rearranged.gate_eq ▸ sound.gate_between
  exclusions_within exclusion member :=
    rearranged.start_eq ▸ rearranged.stop_eq ▸
      sound.exclusions_within exclusion ((rearranged.exclusions exclusion).mpr member)

/-- **Of rearranged descriptions either both are built or both refused.** -/
theorem exists_build_iff (rearranged : left.Rearranged right) :
    (∃ range, Range.build left = .ok range) ↔ ∃ range, Range.build right = .ok range := by
  rw [Range.exists_build_iff, Range.exists_build_iff]
  exact ⟨rearranged.sound, rearranged.symm.sound⟩

/-- **What is built of rearranged descriptions is alike.** -/
theorem alike (rearranged : left.Rearranged right) {one other : Range}
    (here : Range.build left = .ok one) (there : Range.build right = .ok other) :
    one.Alike other := by
  have this := Range.builtOf_of_build here
  have that := Range.builtOf_of_build there
  have first : one.first = other.first := by rw [this.first, that.first, rearranged.start_eq]
  have last : one.last = other.last := by rw [this.last, that.last, rearranged.stop_eq]
  have gateway : one.gateway = other.gateway := by
    rw [this.gateway, that.gateway, rearranged.gate_eq]
  have usable : one.usable = other.usable := by
    rw [one.usable_eq, other.usable_eq]
    refine carve_congr first last gateway fun exclusion => ?_
    rw [this.exclusions, that.exclusions, rearranged.exclusions]
  have subnet : one.subnet = other.subnet := by rw [this.subnet, that.subnet, rearranged.subnet]
  exact ⟨subnet, first, last, gateway, usable⟩

end RangeSpec.Rearranged

namespace Range.Alike

variable {left right : Range}

theorem family (alike : left.Alike right) : left.family = right.family :=
  congrArg Prefix.family alike.subnet

theorem inBounds (alike : left.Alike right) (address : Address) :
    left.inBounds address = right.inBounds address := by
  rw [Range.inBounds, Range.inBounds, alike.family, alike.first, alike.last]

theorem contains (alike : left.Alike right) (address : Address) :
    left.contains address = right.contains address := by
  rw [Range.contains, Range.contains, alike.family, alike.usable]

theorem usableCount (alike : left.Alike right) : left.usableCount = right.usableCount :=
  congrArg IntervalSet.length alike.usable

theorem addressAt (alike : left.Alike right) : left.addressAt = right.addressAt := by
  funext place
  rw [Range.addressAt, Range.addressAt, alike.family]

theorem firstUsable (alike : left.Alike right) : left.firstUsable = right.firstUsable := by
  rw [Range.firstUsable, Range.firstUsable, alike.usable, alike.addressAt]

theorem nextUsable (alike : left.Alike right) (address : Address) :
    left.nextUsable address = right.nextUsable address := by
  rw [Range.nextUsable, Range.nextUsable, alike.usable, alike.addressAt]

theorem overlaps (alike : left.Alike right) {one other : Range} (others : one.Alike other) :
    left.overlaps one = right.overlaps other := by
  simp only [Range.overlaps, alike.inBounds, others.inBounds, alike.first, others.first, others.last]

end Range.Alike

end AddressPool
