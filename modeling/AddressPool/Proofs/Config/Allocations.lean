import AddressPool.Config
import AddressPool.Proofs.Allocation.Outcome
import AddressPool.Proofs.Range.Bounds
import AddressPool.Proofs.Store.Site

/-!
# Allocations and the configuration

A ring tells addresses to its callers in two ways: it hands one out, or it looks up
those that are held.  In both it speaks of addresses that it may hand out itself,
with the subnet and the gateway of the range that they are in.  This does not depend
on what the store answers (`Ring.get_always`, `Ring.lookup_always`), so that neither
what is in the store nor what has happened to it before makes a difference.

No two ranges of a configuration have an address in common, whether they are in one
ring or in two, and each range has its gateway in its bounds.  So an address that a
ring tells is in the bounds of one range of the whole configuration, and it is the
gateway of none (`told_respects_config`).
-/

namespace AddressPool

set_option autoImplicit false

/-! ## Results that do not depend on the answers -/

namespace Program

variable {Request : Type} {Answer : Request → Type} {α β σ : Type} {holds : α → Prop}

/-- However the requests of a program are answered, something holds of its result. -/
def Always (holds : α → Prop) : Program Request Answer α → Prop
  | done result => holds result
  | ask _ next => ∀ answered, (next answered).Always holds

theorem Always.of_bind {program : Program Request Answer β}
    {follow : β → Program Request Answer α} (always : ∀ result, (follow result).Always holds) :
    (program >>= follow).Always holds := by
  induction program with
  | done result => exact always result
  | ask request next ih =>
    intro answered
    exact ih answered

/-- What always holds does so behind every run. -/
theorem Always.run {program : Program Request Answer α} (always : program.Always holds)
    (answer : (request : Request) → σ → Answer request × σ) (state : σ) :
    holds (program.run answer state).1 := by
  induction program generalizing state with
  | done result => exact always
  | ask request next ih => exact ih _ (always _) _

end Program

/-- What always holds of the result of a program holds of what it comes to on a site. -/
theorem Site.always_run {α : Type} {holds : α → Prop} {program : StoreProgram α}
    (always : program.Always holds) (site : Site) : holds (site.run program).1 := by
  obtain ⟨dataDirectory, network, backend, tree⟩ := site
  cases backend with
  | memory memory => exact always.run Memory.answer memory
  | disk disk =>
    rw [Site.run_mk_disk]
    exact always.run _ tree

/-! ## What a ring tells its callers -/

/-- The value of a result, if it has one, is as it is said to be. -/
def Promises {ε α : Type} (holds : α → Prop) : Except ε α → Prop
  | .error _ => True
  | .ok value => holds value

namespace Ring

variable {ring : Ring} {allocation : Allocation}

/-- The ring may hand out the address of an allocation, and this is what goes with it. -/
def Offers (ring : Ring) (allocation : Allocation) : Prop :=
  ring.allocation? allocation.address = some allocation

theorem offers_of_allocation? {address : Address}
    (found : ring.allocation? address = some allocation) : ring.Offers allocation := by
  rw [Offers, address_of_allocation? found, found]

theorem offers_of_mem_heldFor {interface : String} {reservations : List Reservation}
    (member : allocation ∈ ring.heldFor interface reservations) : ring.Offers allocation := by
  obtain ⟨_, _, _, found⟩ := mem_heldFor.mp member
  exact offers_of_allocation? found

theorem advance_always (offers : ring.Offers allocation) :
    (ring.advance allocation).Always (Promises ring.Offers) := by
  intro moved
  cases moved with
  | ok => exact offers
  | error =>
    intro _
    exact trivial

/-- A scan hands out nothing but what the ring offers, wherever it starts. -/
theorem scan_always (owner interface : String) (remaining : Nat) (start : Option Address) :
    (ring.scan owner interface remaining start).Always (Promises ring.Offers) := by
  induction remaining generalizing start with
  | zero => trivial
  | succ remaining ih =>
    cases start with
    | none => trivial
    | some address =>
      rw [scan]
      cases found : ring.allocation? address with
      | none => exact ih _
      | some allocation =>
        intro reserved
        cases reserved with
        | ok fresh =>
          cases fresh with
          | true => exact advance_always (offers_of_allocation? found)
          | false => exact ih _
        | error cause =>
          cases cause with
          | alreadyReserved => exact ih _
          | lockTimeout | file | invalidNetworkName | invalidRecordField => trivial

theorem getRequested_always (owner interface : String) (address : Address) :
    (ring.getRequested owner interface address).Always (Promises ring.Offers) := by
  rw [getRequested]
  split
  · trivial
  · cases found : ring.allocation? address with
    | none => trivial
    | some allocation =>
      intro reserved
      cases reserved with
      | ok => exact offers_of_allocation? found
      | error cause => cases cause <;> trivial

theorem getNext_always (owner interface : String) :
    (ring.getNext owner interface).Always (Promises ring.Offers) := by
  refine Program.Always.of_bind fun listed => ?_
  cases listed with
  | error => trivial
  | ok owned =>
    show Program.Always _ (match (ring.heldFor interface owned).head? with | _ => _)
    cases held : (ring.heldFor interface owned).head? with
    | some allocation => exact offers_of_mem_heldFor (List.mem_of_head? held)
    | none =>
      intro read
      cases read with
      | error => trivial
      | ok cursor => exact scan_always ..

/-- **A ring hands out nothing but what it offers.** -/
theorem get_always (ring : Ring) (owner interface : String) (requested : Option Address) :
    (ring.get owner interface requested).Always (Promises ring.Offers) := by
  intro locked
  cases locked with
  | error => trivial
  | ok =>
    cases requested with
    | some address => exact getRequested_always owner interface address
    | none => exact getNext_always owner interface

/-- **A ring looks up nothing but what it offers.** -/
theorem lookup_always (ring : Ring) (owner interface : String) :
    (ring.lookup owner interface).Always
      (Promises fun allocations => ∀ allocation ∈ allocations, ring.Offers allocation) := by
  intro locked
  cases locked with
  | error => trivial
  | ok =>
    show Program.Always _ (reservationsOf owner >>= _)
    refine Program.Always.of_bind fun listed => ?_
    cases listed with
    | error => trivial
    | ok owned =>
      intro allocation member
      exact offers_of_mem_heldFor member

end Ring

/-- The ring tells an allocation on a site: it hands it out there, or it finds it held. -/
inductive Site.Tells (site : Site) (ring : Ring) (allocation : Allocation) : Prop where
  | handedOut {owner interface : String} {requested : Option Address}
      (granted : (site.run (ring.get owner interface requested)).1 = .ok allocation)
  | lookedUp {owner interface : String} {allocations : List Allocation}
      (found : (site.run (ring.lookup owner interface)).1 = .ok allocations)
      (member : allocation ∈ allocations)

/-- Whatever is in the store, a ring tells nothing but what it offers. -/
theorem Site.Tells.offers {site : Site} {ring : Ring} {allocation : Allocation}
    (tells : site.Tells ring allocation) : ring.Offers allocation := by
  cases tells with
  | @handedOut owner interface requested granted =>
    have promised := site.always_run (ring.get_always owner interface requested)
    rw [granted] at promised
    exact promised
  | @lookedUp owner interface allocations found member =>
    have promised := site.always_run (ring.lookup_always owner interface)
    rw [found] at promised
    exact promised allocation member

/-! ## The ranges of a configuration -/

namespace Config

/-- The ranges of all rings, one ring after the other. -/
def ranges (config : Config) : List Range := config.rings.flatMap (·.ranges)

theorem mem_ranges {config : Config} {range : Range} :
    range ∈ config.ranges ↔ ∃ ring ∈ config.rings, range ∈ ring.ranges := List.mem_flatMap

/-- No two ranges of a configuration overlap, be they in one ring or in two. -/
theorem pairwise_ranges (config : Config) :
    config.ranges.Pairwise fun left right => left.overlaps right = false := by
  refine List.pairwise_flatMap.mpr ⟨fun ring _ => ring.disjoint, ?_⟩
  refine config.apart.imp fun {left right} apart range here other there => ?_
  simp only [Ring.overlaps, List.any_eq_false, Bool.not_eq_true] at apart
  exact apart range here other there

/-- An address in the bounds of a range is in the bounds of no other one. -/
theorem filter_inBounds {config : Config} {range : Range} {address : Address}
    (member : range ∈ config.ranges) (inside : range.inBounds address = true) :
    config.ranges.filter (·.inBounds address) = [range] :=
  Range.filter_inBounds_of_apart config.pairwise_ranges member inside

/-! ## The main result -/

/-- An allocation has everything from one range, and does not offend against any other. -/
structure Respects (config : Config) (allocation : Allocation) (range : Range) : Prop where
  alone : config.ranges.filter (·.inBounds allocation.address) = [range]
  subnet : allocation.subnet = range.subnet
  gateway : allocation.gateway = range.gateway
  covered : allocation.subnet.contains allocation.address = true
  gatewayCovered : allocation.subnet.contains allocation.gateway = true
  notNetwork : allocation.address ≠ range.subnet.network
  notBroadcast : allocation.address.family = .v4 → allocation.address ≠ range.subnet.broadcast
  notExcluded : ∀ exclusion ∈ range.exclusions,
    ¬ Address.Between exclusion.first exclusion.last allocation.address
  notGateway : ∀ other ∈ config.ranges, allocation.address ≠ other.gateway

end Config

/-- An address may be handed out from the range of a ring that it is found in. -/
theorem Ring.contains_of_rangeContaining {ring : Ring} {address : Address} {range : Range}
    (found : ring.rangeContaining address = some range) : range.contains address = true := by
  rw [rangeContaining] at found
  have usable := List.find?_some found
  exact usable

/-- What a ring of a configuration offers respects the whole of it. -/
theorem Ring.Offers.respects {config : Config} {ring : Ring} {allocation : Allocation}
    (member : ring ∈ config.rings) (offers : ring.Offers allocation) :
    ∃ range ∈ ring.ranges, config.Respects allocation range := by
  obtain ⟨range, first, whole⟩ := Ring.allocation?_eq_some_iff.mp offers
  have listed : range ∈ ring.ranges := List.mem_of_find?_eq_some first
  have usable := Ring.contains_of_rangeContaining first
  obtain ⟨inside, notGateway, notExcluded⟩ := Range.contains_iff.mp usable
  have alone := Config.filter_inBounds (Config.mem_ranges.mpr ⟨ring, member, listed⟩) inside
  have subnet : allocation.subnet = range.subnet := congrArg Allocation.subnet whole
  have gateway : allocation.gateway = range.gateway := congrArg Allocation.gateway whole
  obtain ⟨covered, notNetwork, notBroadcast⟩ := Range.host_of_inBounds inside
  refine ⟨range, listed, alone, subnet, gateway, ?_, ?_, notNetwork, notBroadcast,
    notExcluded, ?_⟩
  · rw [subnet]
    exact covered
  · rw [subnet, gateway]
    exact (Range.host_of_inBounds range.inBounds_gateway).1
  · -- A range has its gateway in bounds, so it can only be the range of the allocation.
    rintro other elsewhere same
    have within : other ∈ config.ranges.filter (·.inBounds allocation.address) :=
      List.mem_filter.mpr ⟨elsewhere, same ▸ other.inBounds_gateway⟩
    rw [alone, List.mem_singleton] at within
    exact notGateway (within ▸ same)

/-- **Every allocation respects the whole configuration.**

Whatever text the configuration has been read from, and whatever is in the store, an
address that one of the rings hands out or looks up is in the bounds of one range of all
rings, which is a range of this ring and gives the subnet and the gateway.  The address
is a host of the subnet, it is not excluded, and no range has it as its gateway. -/
theorem told_respects_config {config : Config} {ring : Ring} (member : ring ∈ config.rings)
    {site : Site} {allocation : Allocation} (tells : site.Tells ring allocation) :
    ∃ range ∈ ring.ranges, config.Respects allocation range :=
  tells.offers.respects member

/-- The second one of two rings hands out an address on a store with nothing in it: the lowest one
is the gateway of its range, and the next one is excluded. -/
theorem told_respects_config_two_rings :
    let text := "[\"net\",[[[\"10.0.0.0/29\"]],[[\"10.0.1.0/29\",null,null,null,[\"10.0.1.2\"]]]]]"
    let allocation : Allocation :=
      ⟨.v4 0x0a000103, ⟨.v4 0x0a000100, 29, by decide⟩, .v4 0x0a000101⟩
    ∃ config ring, Config.ofText text = .ok config ∧ ring ∈ config.rings ∧
      Site.vacantNet.Tells ring allocation ∧
        ∃ range ∈ ring.ranges, config.Respects allocation range := by
  intro text allocation
  have run : ((Config.ofText text).toOption.bind fun config => config.rings[1]?.map fun ring =>
      (Site.vacantNet.run (ring.get "a" "eth0" none)).1) = some (.ok allocation) := by
    decide +kernel
  cases accepted : Config.ofText text with
  | error error =>
    rw [accepted] at run
    cases run
  | ok config =>
    rw [accepted] at run
    obtain ⟨ring, placed, granted⟩ := Option.map_eq_some_iff.mp run
    have member := List.mem_of_getElem? placed
    exact ⟨config, ring, rfl, member, .handedOut granted,
      told_respects_config member (.handedOut granted)⟩

end AddressPool
