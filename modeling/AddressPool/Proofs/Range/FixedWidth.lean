import AddressPool.Proofs.Range.Carving

/-!
# Ranges in numbers of a fixed width

Both families of addresses have their places among the numbers of 128 bits.  This module builds
ranges and counts the addresses of rings in such numbers, step by step, and has the computation break
off as soon as a sum is too large, a difference is below zero, or an address would be made of a place
that it does not have (`FixedWidth.addressAt`).

None of them ever breaks off (`computations_fit`).  A subnet that ends at the highest address of all
is refused before anything is added, so there is a place behind the last host of every other
(`Prefix.behind_hostBounds`); whatever else is added to has been found to lie in front of that.  The
addresses of a ring have different places, and none has the lowest place of all, so their number is a
number of 128 bits too.
-/

namespace AddressPool

set_option autoImplicit false

/-! ## Building a range step by step -/

/-- What a range is built of, with the usable places as a list of intervals. -/
structure Range.Parts where
  subnet : Prefix
  first : Address
  last : Address
  gateway : Address
  explicitGateway : Bool
  exclusions : List Exclusion
  usable : List Interval
  deriving DecidableEq

/-- The parts of a range that has been built. -/
def Range.parts (range : Range) : Range.Parts where
  subnet := range.subnet
  first := range.first
  last := range.last
  gateway := range.gateway
  explicitGateway := range.explicitGateway
  exclusions := range.exclusions
  usable := range.usable.intervals

namespace FixedWidth

/-- The address of a family at a place, unless bits of the place would get lost: an IPv4 address
keeps only the lowest 32 of them. -/
def addressAt (family : Family) (place : Nat) : Option Address :=
  let address := Address.ofPosition family place
  if address.position = place then some address else none

/-- The places of the first and the last host of a subnet. -/
def hostBounds (subnet : Prefix) : Option (Except RangeError (Nat × Nat)) :=
  let lowest := subnet.network.position
  let highest := subnet.broadcast.position
  match subnet.family with
  | .v4 =>
    if subnet.length ≤ 30 then do
      let first ← add? 128 lowest 1
      let last ← sub? highest 1
      return .ok (first, last)
    else return .error (.subnetTooSmall subnet)
  | .v6 =>
    if subnet.length < 128 then
      if highest = 2 ^ 128 - 1 then return .error (.unsupportedSubnet subnet)
      else do
        let first ← add? 128 lowest 1
        return .ok (first, highest)
    else return .error (.subnetTooSmall subnet)

/-- Looks at one exclusion after the other, and cuts each of them out of what is usable. -/
def exclude (first last : Address) :
    List Interval → List Exclusion → Option (Except RangeError (List Interval))
  | usable, [] => return .ok usable
  | usable, exclusion :: rest =>
    match exclusion.fault? first last with
    | some error => return .error error
    | none => do
      let behind ← add? 128 exclusion.last.position 1
      let progress ← remove 128 usable exclusion.first.position behind
      exclude first last progress.kept rest

/-- The places from `first` to `last` without the gateway and the exclusions. -/
def carve (first last gateway : Address) (exclusions : List Exclusion) :
    Option (Except RangeError (List Interval)) := do
  let behind ← add? 128 last.position 1
  match IntervalSet.ofList? [⟨first.position, behind⟩] with
  | .error _ => return .error (.invertedRange first last)
  | .ok whole =>
    let next ← add? 128 gateway.position 1
    let progress ← remove 128 whole.intervals gateway.position next
    exclude first last progress.kept exclusions

/-- Checks the ends of a range, their order and its gateway, and puts together its parts. -/
def assemble (spec : RangeSpec) (subnet : Prefix) (hosts : Nat × Nat) (first last : Address) :
    Option (Except RangeError Range.Parts) :=
  if subnet.IsHost hosts first then
    if subnet.IsHost hosts last then
      if first.position ≤ last.position then
        let gateway := spec.gateway.getD first
        if Address.Between first last gateway then do
          let carved ← carve first last gateway spec.exclusions
          return carved.map fun usable => {
            subnet, first, last, gateway, usable
            explicitGateway := spec.gateway.isSome
            exclusions := spec.exclusions }
        else return .error (.addressOutOfRange .gateway gateway first last)
      else return .error (.invertedRange first last)
    else return .error (.addressNotInSubnet .stop last subnet)
  else return .error (.addressNotInSubnet .start first subnet)

/-- Checks a description and puts together the parts of its range. -/
def build (spec : RangeSpec) : Option (Except RangeError Range.Parts) := do
  let subnet := spec.subnet.truncate
  match ← hostBounds subnet with
  | .error error => return .error error
  | .ok hosts =>
    let lowest ← addressAt subnet.family hosts.1
    let highest ← addressAt subnet.family hosts.2
    assemble spec subnet hosts (spec.first.getD lowest) (spec.last.getD highest)

/-- The number of addresses that some ranges hand out, added up range after range. -/
def usableCount (ranges : List Range) : Option Nat :=
  ranges.foldlM (fun total range => do
    let count ← length 128 range.usable.intervals
    add? 128 total count) 0

end FixedWidth

/-! ## Host bounds -/

/-- There is a place behind the last host of a subnet. -/
theorem Prefix.behind_hostBounds {subnet : Prefix} {hosts : Nat × Nat}
    (found : subnet.hostBounds = .ok hosts) : hosts.2 + 1 < 2 ^ 128 := by
  have bound := subnet.broadcast.position_lt
  simp only [hostBounds] at found
  split at found
  · split at found
    · obtain rfl := Except.ok.inj found
      simp only
      omega
    · cases found
  · split at found
    · split at found
      · cases found
      · rename_i lower
        obtain rfl := Except.ok.inj found
        simp only
        omega
    · cases found

namespace FixedWidth

theorem hostBounds_eq (subnet : Prefix) : hostBounds subnet = some subnet.hostBounds := by
  have lowest := subnet.position_network
  have highest := subnet.position_broadcast
  have bound := subnet.broadcast.position_lt
  unfold hostBounds Prefix.hostBounds
  cases family : subnet.family with
  | v4 =>
    simp only
    split
    · rw [family] at lowest highest
      have room := subnet.lowest_add_size_le
      have positive := subnet.size_pos
      simp only [family, Family.origin, Family.width, Address.mappedBase] at lowest highest room
      rw [add?_eq (by omega), sub?_eq (by omega)]
      rfl
    · rfl
  | v6 =>
    simp only
    split
    · split
      · rfl
      · rw [family] at lowest highest
        rw [add?_eq (by omega)]
        rfl
    · rfl

/-- The first and the last host of a subnet are made of their places. -/
theorem addressAt_hosts {subnet : Prefix} {hosts : Nat × Nat}
    (found : subnet.truncate.hostBounds = .ok hosts) :
    addressAt subnet.truncate.family hosts.1 =
        some (.ofPosition subnet.truncate.family hosts.1) ∧
      addressAt subnet.truncate.family hosts.2 =
        some (.ofPosition subnet.truncate.family hosts.2) := by
  obtain ⟨first, last⟩ := Prefix.ofPosition_hosts found
  obtain ⟨_, rfl⟩ := Prefix.hostBounds_truncate_iff.mp found
  rw [addressAt, addressAt, first, last, if_pos rfl, if_pos rfl]
  exact ⟨rfl, rfl⟩

/-! ## Carving -/

section Carve

variable {first last : Address}

theorem ofWidth_ofBounds (ordered : first.position ≤ last.position)
    (room : last.position + 1 < 2 ^ 128) :
    (IntervalSet.ofBounds first.position last.position ordered).OfWidth 128 := by
  intro interval member
  obtain rfl := List.mem_singleton.mp member
  exact ⟨first.position_lt, room⟩

/-- What is excluded lies in front of the place behind the last address. -/
theorem exclude_eq (room : last.position + 1 < 2 ^ 128) {set : IntervalSet}
    (typed : set.OfWidth 128) (exclusions : List Exclusion) :
    exclude first last set.intervals exclusions =
      some (match exclusions.findSome? (·.fault? first last) with
        | some error => .error error
        | none => .ok (set.removeAll (exclusions.map Exclusion.stretch)).intervals) := by
  induction exclusions generalizing set with
  | nil => rfl
  | cons exclusion rest ih =>
    rw [exclude, List.findSome?_cons]
    cases fault : exclusion.fault? first last with
    | some error => rfl
    | none =>
      have within := Exclusion.fault?_eq_none_iff.mp fault
      have below := within.2.1.2.2
      have later := ih (typed.remove exclusion.first.position (exclusion.last.position + 1))
      simp only
      rw [add?_eq (by omega), Option.bind_eq_bind, Option.bind_some, remove_eq typed,
        Option.bind_eq_bind, Option.bind_some, later]
      rfl

theorem carve_eq (room : last.position + 1 < 2 ^ 128) (ordered : first.position ≤ last.position)
    {gateway : Address} (between : Address.Between first last gateway)
    (exclusions : List Exclusion) :
    carve first last gateway exclusions =
      some (match exclusions.findSome? (·.fault? first last) with
        | some error => .error error
        | none => .ok (AddressPool.carve first last gateway exclusions ordered).intervals) := by
  have whole : IntervalSet.ofList? [⟨first.position, last.position + 1⟩] =
      .ok (.ofBounds first.position last.position ordered) := by
    have filled : ∀ interval ∈ [Interval.mk first.position (last.position + 1)],
        interval.start < interval.stop :=
      List.forall_mem_singleton.mpr (Nat.lt_succ_of_le ordered)
    rw [IntervalSet.ofList?, dif_pos filled]
    rfl
  have typed := ofWidth_ofBounds ordered room
  have below := between.2.2
  have left := typed.remove gateway.position (gateway.position + 1)
  rw [carve, add?_eq room, Option.bind_eq_bind, Option.bind_some, whole]
  simp only
  rw [add?_eq (by omega), Option.bind_some, remove_eq typed, Option.bind_eq_bind,
    Option.bind_some, exclude_eq room left, carve_eq_removeAll]
  rfl

end Carve

section Build

variable {spec : RangeSpec}

theorem build_of_refused {error : RangeError}
    (failed : spec.subnet.truncate.hostBounds = .error error) :
    build spec = some (.error error) := by
  unfold build
  simp only [hostBounds_eq, failed, Option.bind_eq_bind, Option.bind_some]
  rfl

theorem build_of_found {hosts : Nat × Nat}
    (found : spec.subnet.truncate.hostBounds = .ok hosts) :
    build spec = assemble spec spec.subnet.truncate hosts
      (spec.first.getD (.ofPosition spec.subnet.truncate.family hosts.1))
      (spec.last.getD (.ofPosition spec.subnet.truncate.family hosts.2)) := by
  obtain ⟨lowest, highest⟩ := addressAt_hosts found
  unfold build
  simp only [hostBounds_eq, found, lowest, highest, Option.bind_eq_bind, Option.bind_some]

end Build

/-- **A range is built in numbers of 128 bits, or refused, as it is without any limit.** -/
theorem build_eq (spec : RangeSpec) : build spec = some ((Range.build spec).map Range.parts) := by
  unfold Range.build
  simp only
  split
  · rename_i error failed
    rw [build_of_refused failed]
    rfl
  · rename_i hosts found
    rw [build_of_found found, assemble]
    -- Both sides ask the same questions in the same order.
    split
    · split
      · rename_i last_host
        split
        · rename_i ordered
          dsimp only
          split
          · rename_i between
            have behind := Prefix.behind_hostBounds found
            have below := last_host.2.2
            have carved := carve_eq (by omega) ordered between spec.exclusions
            split
            · rename_i error fault
              rw [fault] at carved
              rw [carved]
              rfl
            · rename_i faultless
              rw [faultless] at carved
              rw [carved]
              rfl
          · rfl
        · rfl
      · rfl
    · rfl

end FixedWidth

/-! ## Usable places and their number -/

namespace Range

/-- The ends of what is usable have 128 bits. -/
theorem ofWidth_usable (range : Range) : range.usable.OfWidth 128 := by
  have behind := Prefix.behind_hostBounds range.hosts_eq
  have below := range.last_host.2.2
  have whole := FixedWidth.ofWidth_ofBounds range.ordered (by omega)
  rw [range.usable_eq, carve_eq_removeAll]
  exact (whole.remove _ _).removeAll _

/-- No address that may be handed out has the lowest place of all. -/
theorem position_pos_of_contains {range : Range} {address : Address}
    (usable : range.contains address = true) : 0 < address.position := by
  have above := (inBounds_iff.mp (inBounds_of_contains usable)).2.1
  have lowest := (Prefix.bounds_of_hostBounds range.hosts_eq).1
  have first := range.first_host.2.1
  omega

/-- A usable place is the place of its address, for IPv4 as well. -/
theorem addressAt_of_usable {range : Range} {place : Nat}
    (usable : range.usable.contains place = true) :
    FixedWidth.addressAt range.family place = some (range.addressAt place) :=
  if_pos (position_addressAt_of_mem (IntervalSet.contains_iff.mp usable))

end Range

namespace Ring

theorem family_eq_of_contains {ring : Ring} {left right : Address}
    (here : ring.contains left = true) (there : ring.contains right = true) :
    left.family = right.family := by
  rw [← mem_addresses] at here there
  obtain ⟨one, listed, usable⟩ := mem_addressesOf.mp here
  obtain ⟨other, listed', usable'⟩ := mem_addressesOf.mp there
  simp only [Range.contains, Bool.and_eq_true, decide_eq_true_eq] at usable usable'
  rw [usable.1, usable'.1]
  exact ring.oneFamily one listed other listed'

/-- **A ring has fewer usable addresses than there are numbers of 128 bits**: they have different
places, and the lowest place is not among these. -/
theorem usableCount_lt (ring : Ring) : ring.usableCount < 2 ^ 128 := by
  have distinct : (ring.addresses.map Address.position).Nodup := by
    refine ring.nodup_addresses.map_on fun left here right there same => ?_
    rw [mem_addresses] at here there
    exact Address.eq_of_position_eq (family_eq_of_contains here there) same
  have within : ring.addresses.map Address.position ⊆ List.range' 1 (2 ^ 128 - 1) := by
    intro place listed
    obtain ⟨address, member, rfl⟩ := List.mem_map.mp listed
    obtain ⟨range, _, usable⟩ := mem_addressesOf.mp member
    have positive := Range.position_pos_of_contains usable
    have bounded := address.position_lt
    rw [List.mem_range'_1]
    omega
  have count := (List.subperm_of_subset distinct within).length_le
  rw [List.length_map, length_addresses, List.length_range'] at count
  omega

end Ring

namespace FixedWidth

/-- The count of some ranges, from any number on that leaves room for it. -/
theorem foldlM_usableCount {ranges : List Range} {total : Nat}
    (fits : total + (ranges.map (·.usableCount)).sum < 2 ^ 128) :
    ranges.foldlM (fun total range => do
        let count ← length 128 range.usable.intervals
        add? 128 total count) total =
      some (total + (ranges.map (·.usableCount)).sum) := by
  induction ranges generalizing total with
  | nil => rfl
  | cons range rest ih =>
    rw [List.map_cons, List.sum_cons, ← Nat.add_assoc] at fits ⊢
    have sum : add? 128 total range.usableCount = some (total + range.usableCount) :=
      add?_eq (by omega)
    rw [List.foldlM_cons, length_eq range.ofWidth_usable, ← ih fits]
    change (add? 128 total range.usableCount).bind _ = _
    rw [sum]
    rfl

/-- **The counts of the ranges of a ring can be added up in numbers of 128 bits.** -/
theorem usableCount_eq (ring : Ring) : usableCount ring.ranges = some ring.usableCount := by
  have room : 0 + (ring.ranges.map (·.usableCount)).sum < 2 ^ 128 := by
    rw [Nat.zero_add]
    exact ring.usableCount_lt
  rw [usableCount, foldlM_usableCount room, Nat.zero_add, Ring.usableCount]

/-! ## Everything fits -/

/-- The values of a set of a width are counted, and stretches are cut out of it and counted, without
that anything breaks off. -/
structure SetFits (width : Nat) (set : IntervalSet) : Prop where
  length : length width set.intervals = some set.length
  remove : ∀ start stop, remove width set.intervals start stop =
    some ⟨(set.remove start stop).intervals, set.countIn start stop⟩

/-- What is usable in a range has ends of 128 bits, is counted and searched in numbers of 128 bits,
and loses no bit where an address is made of a usable place. -/
structure RangeFits (range : Range) : Prop where
  ends : range.usable.OfWidth 128
  count : length 128 range.usable.intervals = some range.usableCount
  next : ∀ value < 2 ^ 128,
    nextAfter 128 range.usable.intervals value = range.usable.nextAfter value
  address : ∀ place, range.usable.contains place = true →
    addressAt range.family place = some (range.addressAt place)

theorem rangeFits (range : Range) : RangeFits range where
  ends := range.ofWidth_usable
  count := length_eq range.ofWidth_usable
  next _ bounded := nextAfter_eq range.ofWidth_usable bounded
  address _ usable := Range.addressAt_of_usable usable

/-- **No computation leaves its numbers.**  A description of a range is built or refused in numbers
of 128 bits as it is without any limit.  The place of an address is such a number, so whether it may
be handed out is found by comparing such numbers.  Every range, every ring and, in numbers of every
width, every interval set of that width are counted and searched with nothing breaking off. -/
theorem computations_fit :
    (∀ spec, build spec = some ((Range.build spec).map Range.parts)) ∧
      (∀ address : Address, address.position < 2 ^ 128) ∧
      (∀ range, RangeFits range) ∧
      (∀ ring : Ring, usableCount ring.ranges = some ring.usableCount) ∧
      ∀ width (set : IntervalSet), set.OfWidth width → SetFits width set :=
  ⟨build_eq, Address.position_lt, rangeFits, usableCount_eq,
    fun _ _ typed => ⟨length_eq typed, remove_eq typed⟩⟩

/-- The IPv6 subnet of two addresses that starts at a place. -/
def pairAt (lowest : Nat) : Prefix := ⟨.v6 (BitVec.ofNat 128 lowest), 127, Nat.le_succ 127⟩

/-- The last subnet of two addresses is refused; the one in front of it is built, and hands out
nothing, as its only host is the gateway.  A small ring has five addresses, and a stretch of bytes is
cut that reaches up to the greatest byte. -/
theorem computations_fit_at_the_end :
    build ⟨pairAt (2 ^ 128 - 2), none, none, none, []⟩ =
        some (.error (.unsupportedSubnet (pairAt (2 ^ 128 - 2)))) ∧
      build ⟨pairAt (2 ^ 128 - 4), none, none, none, []⟩ = some (.ok {
        subnet := pairAt (2 ^ 128 - 4)
        first := .v6 (BitVec.ofNat 128 (2 ^ 128 - 3))
        last := .v6 (BitVec.ofNat 128 (2 ^ 128 - 3))
        gateway := .v6 (BitVec.ofNat 128 (2 ^ 128 - 3))
        explicitGateway := false
        exclusions := []
        usable := [] }) ∧
      usableCount Ring.slash29.ranges = some 5 ∧
      nextAfter 128 Range.slash29.usable.intervals (2 ^ 128 - 1) = none ∧
      remove 8 [⟨0, 255⟩] 100 255 = some ⟨[⟨0, 100⟩], 155⟩ := by
  obtain ⟨builds, _, ranges, rings, sets⟩ := computations_fit
  have typed : (IntervalSet.ofBounds 0 254 (by decide)).OfWidth 8 := by
    rw [IntervalSet.OfWidth]
    decide
  have cut := (sets 8 _ typed).remove 100 255
  have next := (ranges Range.slash29).next (2 ^ 128 - 1) (by decide)
  refine ⟨?_, ?_, ?_, ?_, ?_⟩
  · rw [builds]
    decide
  · rw [builds]
    decide
  · rw [rings]
    decide
  · rw [next]
    decide
  · refine cut.trans ?_
    decide

end FixedWidth

end AddressPool
