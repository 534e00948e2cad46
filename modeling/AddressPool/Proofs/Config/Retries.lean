import AddressPool.Proofs.Allocation.Registration
import AddressPool.Proofs.Allocation.Succession
import AddressPool.Proofs.Config.Allocations
import AddressPool.Proofs.Store.Traces
import Mathlib.Data.List.Pairwise

/-!
# Asking again for an address

The rings of a configuration share one store, and an owner may hold addresses of several
rings, and for several interfaces.  As long as nobody requests a certain address, an owner
holds at most one address of each ring for each interface: a scan hands out an address
only if none is held, and what it hands out belongs to no other ring
(`Config.Single.handOut`).  No call on one of the rings changes this
(`Config.Single.step`).

So whoever asks again is told the one address that is held, and the store is left as it
was, until a call frees the owner (`retried_get_unaltered`).
-/

namespace AddressPool

set_option autoImplicit false

/-! ## At most one address -/

/-- Nobody holds two addresses of a ring for one interface. -/
def Ring.Single (ring : Ring) (memory : Memory) : Prop :=
  ∀ left ∈ memory.reservations, ∀ right ∈ memory.reservations,
    left.owner = right.owner → left.interface = right.interface →
      ring.contains left.address = true → ring.contains right.address = true → left = right

namespace Ring

variable {ring : Ring} {memory after : Memory} {owner interface : String} {address : Address}
variable {allocation : Allocation}

theorem Single.of_subset (single : ring.Single memory)
    (subset : ∀ reservation ∈ after.reservations, reservation ∈ memory.reservations) :
    ring.Single after := by
  intro left here right there
  exact single left (subset left here) right (subset right there)

/-- An owner that is told no address holds none. -/
theorem waiting_of_heldFor
    (unheld : (ring.heldFor interface (memory.ownedBy owner)).head? = none) :
    ring.Waiting memory (owner, interface) := by
  intro reservation listed own same
  rw [← isSome_allocation?]
  cases found : ring.allocation? reservation.address with
  | none => rfl
  | some allocation =>
    have member : allocation ∈ ring.heldFor interface (memory.ownedBy owner) :=
      mem_heldFor.mpr ⟨reservation, Memory.mem_ownedBy.mpr ⟨listed, own⟩, same, found⟩
    rw [List.head?_eq_none_iff.mp unheld] at member
    cases member

/-- An address that is handed out to somebody who holds none is the only one. -/
theorem Single.put (single : ring.Single memory)
    (waiting : ring.contains address = true → ring.Waiting memory (owner, interface)) :
    ring.Single (memory.put ⟨address, owner, interface⟩) := by
  have alone : ∀ reservation ∈ memory.reservations, reservation.owner = owner →
      reservation.interface = interface → ring.contains address = true →
        ring.contains reservation.address = true → False := by
    intro reservation listed own same inside also
    rw [waiting inside reservation listed own same] at also
    cases also
  intro left here right there own same inside also
  rcases Memory.mem_put.mp here with rfl | ⟨earlier, _⟩
  · rcases Memory.mem_put.mp there with rfl | ⟨listed, _⟩
    · rfl
    · exact (alone right listed own.symm same.symm inside also).elim
  · rcases Memory.mem_put.mp there with rfl | ⟨listed, _⟩
    · exact (alone left earlier own same also inside).elim
    · exact single left earlier right listed own same inside also

/-- The only address that an owner holds is the one that it is told. -/
theorem Single.heldFor (single : ring.Single memory)
    (found : memory.find? allocation.address = some ⟨allocation.address, owner, interface⟩)
    (offered : ring.allocation? allocation.address = some allocation) :
    (ring.heldFor interface (memory.ownedBy owner)).head? = some allocation := by
  have listed := (Memory.find?_eq_some_iff.mp found).1
  have usable : ∀ other holder, ring.allocation? other = some holder →
      ring.contains other = true := by
    intro other holder told
    rw [← isSome_allocation?, told]
    rfl
  have member : allocation ∈ ring.heldFor interface (memory.ownedBy owner) :=
    mem_heldFor.mpr ⟨_, Memory.mem_ownedBy.mpr ⟨listed, rfl⟩, rfl, offered⟩
  cases first : (ring.heldFor interface (memory.ownedBy owner)).head? with
  | none =>
    rw [List.head?_eq_none_iff.mp first] at member
    cases member
  | some other =>
    obtain ⟨reservation, owned, same, told⟩ := mem_heldFor.mp (List.mem_of_head? first)
    obtain ⟨there, own⟩ := Memory.mem_ownedBy.mp owned
    obtain rfl := single reservation there _ listed own same (usable _ _ told)
      (usable _ _ offered)
    rw [offered] at told
    exact told.symm

theorem overlaps_comm (left right : Ring) : left.overlaps right = right.overlaps left := by
  rw [Bool.eq_iff_iff]
  simp only [overlaps, List.any_eq_true]
  constructor
  · rintro ⟨range, here, other, there, overlap⟩
    exact ⟨other, there, range, here, Range.overlaps_comm range other ▸ overlap⟩
  · rintro ⟨range, here, other, there, overlap⟩
    exact ⟨other, there, range, here, Range.overlaps_comm range other ▸ overlap⟩

/-- Rings that may hand out one address overlap. -/
theorem overlaps_of_contains {left right : Ring} (inside : left.contains address = true)
    (also : right.contains address = true) : left.overlaps right = true := by
  obtain ⟨range, found⟩ := Option.isSome_iff_exists.mp inside
  obtain ⟨other, again⟩ := Option.isSome_iff_exists.mp also
  have usable := Range.inBounds_of_contains (contains_of_rangeContaining found)
  have usable' := Range.inBounds_of_contains (contains_of_rangeContaining again)
  simp only [overlaps, List.any_eq_true]
  exact ⟨range, List.mem_of_find?_eq_some found, other, List.mem_of_find?_eq_some again,
    Range.overlaps_iff.mpr ⟨address, usable, usable'⟩⟩

/-- The reservations of addresses of the ring that are for an interface of an owner. -/
def holdings (ring : Ring) (owner interface : String) (reservations : List Reservation) :
    List Reservation :=
  reservations.filter fun reservation =>
    decide (reservation.owner = owner ∧ reservation.interface = interface) &&
      ring.contains reservation.address

theorem mem_holdings {reservation : Reservation} {reservations : List Reservation} :
    reservation ∈ ring.holdings owner interface reservations ↔
      reservation ∈ reservations ∧ (reservation.owner = owner ∧
        reservation.interface = interface) ∧ ring.contains reservation.address = true := by
  rw [holdings, List.mem_filter, Bool.and_eq_true, decide_eq_true_eq]

theorem Single.length_holdings_le (single : ring.Single memory) (owner interface : String) :
    (ring.holdings owner interface memory.reservations).length ≤ 1 := by
  have nodup : (ring.holdings owner interface memory.reservations).Nodup :=
    memory.nodup_reservations.filter _
  have only : ∀ left ∈ ring.holdings owner interface memory.reservations,
      ∀ right ∈ ring.holdings owner interface memory.reservations, left = right := by
    intro left here right there
    obtain ⟨earlier, ⟨own, same⟩, inside⟩ := mem_holdings.mp here
    obtain ⟨later, ⟨own', same'⟩, also⟩ := mem_holdings.mp there
    exact single left earlier right later (own.trans own'.symm) (same.trans same'.symm) inside also
  generalize ring.holdings owner interface memory.reservations = held at nodup only
  match held with
  | [] => exact Nat.zero_le 1
  | [_] => exact Nat.le_refl 1
  | first :: second :: rest =>
    have same := only first (List.mem_cons_self ..) second (by simp)
    rw [same] at nodup
    simp at nodup

end Ring

/-! ## Calls on a configuration -/

namespace Config

variable {config : Config} {memory after : Memory} {owner interface : String} {address : Address}

/-- Calls on the rings of a configuration, without requests for certain addresses. -/
def Scans (config : Config) : Call → Prop
  | .get ring _ _ requested => ring ∈ config.rings ∧ requested = none
  | .release ring _ => ring ∈ config.rings
  | .lookup ring _ _ => ring ∈ config.rings
  | .sweep _ => True
  | .reopen _ => True

/-- Nobody holds two addresses of any ring for one interface. -/
def Single (config : Config) (memory : Memory) : Prop := ∀ ring ∈ config.rings, ring.Single memory

/-- An address belongs to one ring at most. -/
theorem ring_unique {left right : Ring} (here : left ∈ config.rings) (there : right ∈ config.rings)
    (inside : left.contains address = true) (also : right.contains address = true) :
    left = right := by
  have symmetric : Std.Symm fun one other : Ring => one.overlaps other = false := by
    constructor
    intro one other apart
    rw [Ring.overlaps_comm]
    exact apart
  by_contra different
  have apart := config.apart.forall here there different
  rw [Ring.overlaps_of_contains inside also] at apart
  cases apart

/-- What one ring hands out belongs to no other one. -/
theorem Single.handOut (single : config.Single memory) {ring : Ring} (member : ring ∈ config.rings)
    (usable : ring.contains address = true)
    (unheld : (ring.heldFor interface (memory.ownedBy owner)).head? = none) :
    config.Single (ring.handOut memory owner interface address) := by
  intro other listed
  refine (single other listed).put ?_
  intro inside
  rw [ring_unique listed member inside usable]
  exact Ring.waiting_of_heldFor unheld

/-- Nobody comes to hold two addresses by what is taken away. -/
theorem Single.thinned (single : config.Single memory) {doomed : String → Prop}
    (thinned : memory.Thinned doomed after) : config.Single after := by
  intro ring member
  exact (single ring member).of_subset fun _ => thinned.mem_of_mem

/-- **No call makes anybody hold two addresses of a ring for one interface.** -/
theorem Single.step (single : config.Single memory) {site : Site} {call : Call}
    (scans : config.Scans call) (does : site.Does memory call after) : config.Single after := by
  cases does with
  | other thinned => exact single.thinned thinned
  | get told outcome =>
    obtain ⟨member, none_requested⟩ := scans
    cases outcome with
    | failed | again => exact single
    | owned | reserved => cases none_requested
    | scanned unheld offered next =>
      refine single.handOut member ?_ unheld
      rw [← Ring.isSome_allocation?, offered]
      rfl

/-- Behind any calls on the rings of a configuration nobody holds two addresses of a ring for one
interface, if that was so before. -/
theorem Single.callAll (single : config.Single memory) {site : Site} (holds : site.Holds memory)
    {calls : List Call} (scans : ∀ call ∈ calls, config.Scans call) :
    ∃ after, (site.callAll calls).Holds after ∧ config.Single after := by
  refine holds.callAll_invariant single ?_
  intro here content left call member does kept
  exact kept.step (scans call member) does

/-- A scan that is served leaves the caller with the one address that it is told, and it is told
the same one behind further calls that do not free the owner. -/
theorem Single.served (single : config.Single memory) {site : Site} (holds : site.Holds memory)
    {ring : Ring} (member : ring ∈ config.rings) {allocation : Allocation}
    (granted : (site.run (ring.get owner interface none)).1 = .ok allocation) {between : List Call}
    (scans : ∀ call ∈ between, config.Scans call)
    (spare : ∀ call ∈ between, ¬ call.Frees owner) :
    ∃ after, (site.callAll (.get ring owner interface none :: between)).Holds after ∧
      (ring.heldFor interface (after.ownedBy owner)).head? = some allocation := by
  obtain ⟨middle, run, held⟩ := holds.run (ring.get owner interface none)
  have outcome := Ring.get_cases run
  rw [granted] at outcome
  have found := outcome.record.resolve_right fun repeated => nomatch repeated.1
  have scanning : config.Scans (.get ring owner interface none) := ⟨member, rfl⟩
  have still := single.step scanning (.get granted outcome)
  -- Through the calls in between, nobody gets a second address and this one stays.
  obtain ⟨after, behind, single_after, found_after⟩ : ∃ after,
      ((site.call (.get ring owner interface none)).callAll between).Holds after ∧
        config.Single after ∧ after.find? allocation.address =
          some ⟨allocation.address, owner, interface⟩ := by
    refine held.callAll_invariant ⟨still, found⟩ ?_
    intro here content left call listed does kept
    refine ⟨kept.1.step (scans call listed) does, ?_⟩
    exact (does.find? kept.2).resolve_right fun freed => spare call listed freed.1
  exact ⟨after, behind, (single_after ring member).heldFor found_after outcome.offered⟩

end Config

/-! ## The main result -/

/-- **Who asks again is told the same address.**

On a store with nothing in it, in memory or on disk, calls are made on the rings of a
configuration, and no certain address is requested.  Then nobody ever holds two usable
addresses of a ring for one interface.  Whoever has been handed out an address by a scan
is told the same allocation by a later one, which changes neither a reservation nor a
cursor, until the owner is released or swept away. -/
theorem retried_get_unaltered (config : Config) {site : Site} (fresh : site.Fresh) :
    (∀ calls : List Call, (∀ call ∈ calls, config.Scans call) →
      ∀ ring ∈ config.rings, ∀ owner interface : String,
        ∃ listed, ((site.callAll calls).run StoreRequest.reservations.ask).1 = .ok listed ∧
          (ring.holdings owner interface listed).length ≤ 1) ∧
      ∀ before : List Call, (∀ call ∈ before, config.Scans call) →
        ∀ ring ∈ config.rings, ∀ (owner interface : String) (allocation : Allocation),
          ((site.callAll before).run (ring.get owner interface none)).1 = .ok allocation →
          ∀ between : List Call, (∀ call ∈ between, config.Scans call) →
            (∀ call ∈ between, ¬ call.Frees owner) →
              let there := site.callAll (before ++ .get ring owner interface none :: between)
              (there.run (ring.get owner interface none)).1 = .ok allocation ∧
                there.Unaltered (there.run (ring.get owner interface none)).2 := by
  have start : config.Single .empty := by
    intro ring _ left listed
    cases listed
  constructor
  · intro calls scans ring member owner interface
    obtain ⟨after, held, single⟩ := start.callAll fresh.holds scans
    exact ⟨_, held.reservations, (single ring member).length_holdings_le owner interface⟩
  · intro before scans ring member owner interface allocation granted between later spare there
    obtain ⟨memory, holds, single⟩ := start.callAll fresh.holds scans
    obtain ⟨after, held, known⟩ := single.served holds member granted later spare
    have willing := holds.lock_of_granted granted
    rw [← holds.refuses_lock_callAll (.get ring owner interface none :: between)] at willing
    have behind : there =
        (site.callAll before).callAll (.get ring owner interface none :: between) :=
      List.foldl_append
    rw [← behind] at held willing
    obtain ⟨left, run, kept⟩ := held.run (ring.get owner interface none)
    obtain ⟨told, rfl⟩ := Ring.get_again willing known run
    exact ⟨told, held.unaltered kept⟩

/-- An owner holds an address of the first ring of a configuration, is handed out one of the second
ring, and is told it again when another owner has been served and the store has been swept. -/
theorem retried_get_unaltered_two_rings :
    let text := "[\"net\",[[[\"10.0.0.0/29\"]],[[\"10.0.1.0/29\",null,null,null,[\"10.0.1.2\"]]]]]"
    let allocation : Allocation :=
      ⟨.v4 0x0a000103, ⟨.v4 0x0a000100, 29, by decide⟩, .v4 0x0a000101⟩
    ∃ config first second, Config.ofText text = .ok config ∧ first ∈ config.rings ∧
      second ∈ config.rings ∧ Site.vacantNet.Fresh ∧
        let before : List Call := [.get first "a" "eth0" none]
        let between : List Call := [.get first "b" "eth0" none, .sweep ["a"]]
        let there := Site.vacantNet.callAll (before ++ .get second "a" "eth0" none :: between)
        ((Site.vacantNet.callAll before).run (second.get "a" "eth0" none)).1 = .ok allocation ∧
          (there.run (second.get "a" "eth0" none)).1 = .ok allocation ∧
          there.Unaltered (there.run (second.get "a" "eth0" none)).2 ∧
          ∃ listed, ((Site.vacantNet.callAll before).run StoreRequest.reservations.ask).1 =
              .ok listed ∧ (first.holdings "a" "eth0" listed).length ≤ 1 := by
  intro text allocation
  have run : ((Config.ofText text).toOption.bind fun config =>
      config.rings[0]?.bind fun first => config.rings[1]?.map fun second =>
        ((Site.vacantNet.callAll [.get first "a" "eth0" none]).run
          (second.get "a" "eth0" none)).1) = some (.ok allocation) := by
    decide +kernel
  cases accepted : Config.ofText text with
  | error error =>
    rw [accepted] at run
    cases run
  | ok config =>
    rw [accepted] at run
    change (config.rings[0]?.bind _) = _ at run
    obtain ⟨first, placed, further⟩ := Option.bind_eq_some_iff.mp run
    obtain ⟨second, behind, granted⟩ := Option.map_eq_some_iff.mp further
    have one := List.mem_of_getElem? placed
    have two := List.mem_of_getElem? behind
    have fresh : Site.vacantNet.Fresh := .disk _ (by decide) Site.leadsTo_vacantNet rfl
    have scans : ∀ call ∈ [Call.get first "a" "eth0" none], config.Scans call := by
      rw [List.forall_mem_singleton]
      exact ⟨one, rfl⟩
    have later : ∀ call ∈ [Call.get first "b" "eth0" none, .sweep ["a"]], config.Scans call := by
      rw [List.forall_mem_cons, List.forall_mem_singleton]
      exact ⟨⟨one, rfl⟩, trivial⟩
    have spare : ∀ call ∈ [Call.get first "b" "eth0" none, .sweep ["a"]],
        ¬ call.Frees "a" := by
      rw [List.forall_mem_cons, List.forall_mem_singleton]
      exact ⟨fun freed => freed, fun freed => freed (List.mem_singleton_self _)⟩
    obtain ⟨single, again⟩ := retried_get_unaltered config fresh
    obtain ⟨told, unaltered⟩ := again _ scans second two _ _ _ granted _ later spare
    exact ⟨config, first, second, rfl, one, two, fresh, granted, told, unaltered,
      single _ scans first one _ _⟩

end AddressPool
