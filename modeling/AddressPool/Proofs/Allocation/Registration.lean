import AddressPool.Proofs.Allocation.Ownership

/-!
# Addresses on record

Whoever is handed out an address finds it on record: the store lists it as reserved for
the owner and the interface, and looking it up tells it.  There is one exception.  An
owner may request an address that it holds already, and is told it again whatever the
interface; the record then stays with the interface that it was made for
(`two_interfaces_share_slash29`).

A record stays as it is until a call frees its owner and takes it away
(`Site.Holds.kept_or_released`).  So two callers are handed out one address without a
release in between only if they are two interfaces of one owner, and one of them has
requested what the other one holds (`granted_on_record`).
-/

namespace AddressPool

set_option autoImplicit false

namespace Site

variable {site : Site} {memory : Memory} {ring : Ring} {owner interface : String}
variable {requested : Option Address} {allocation : Allocation} {address : Address}

/-! ## What is on record -/

/-- The ring tells an allocation to whoever looks up what is held for an interface. -/
def LooksUp (site : Site) (ring : Ring) (owner interface : String) (allocation : Allocation) :
    Prop :=
  ∃ found, (site.run (ring.lookup owner interface)).1 = .ok found ∧ allocation ∈ found

/-- A store that has served a request has not refused its lock. -/
theorem Holds.lock_of_granted (holds : site.Holds memory)
    (granted : (site.run (ring.get owner interface requested)).1 = .ok allocation) :
    ¬ site.Refuses .lock := by
  intro refuse
  obtain ⟨fault, told⟩ := holds.lock_refused refuse
  unfold Ring.get at granted
  rw [run_bind, told] at granted
  simp only [run_pure] at granted
  cases granted

/-- What the store holds for an interface is looked up. -/
theorem Holds.looksUp (holds : site.Holds memory) (willing : ¬ site.Refuses .lock)
    (found : memory.find? allocation.address = some ⟨allocation.address, owner, interface⟩)
    (offered : ring.allocation? allocation.address = some allocation) :
    site.LooksUp ring owner interface allocation := by
  obtain ⟨after, run, _⟩ := holds.run (ring.lookup owner interface)
  have told := (Ring.lookup_outcome run).2.resolve_left willing
  have owned := Memory.mem_ownedBy.mpr ⟨(Memory.find?_eq_some_iff.mp found).1, rfl⟩
  exact ⟨_, told, Ring.mem_heldFor.mpr ⟨_, owned, rfl, offered⟩⟩

/-- Behind a request that is served the address is on record for the caller and is looked up, or
the owner has requested it and holds it for another interface.  What was on record is so still. -/
theorem Holds.get_on_record (holds : site.Holds memory)
    (granted : (site.run (ring.get owner interface requested)).1 = .ok allocation) :
    ∃ after, (site.run (ring.get owner interface requested)).2.Holds after ∧
      (after.find? allocation.address = some ⟨allocation.address, owner, interface⟩ ∧
          (site.run (ring.get owner interface requested)).2.LooksUp ring owner interface
            allocation ∨
        requested = some allocation.address ∧ after = memory ∧ ∃ other ≠ interface,
          memory.find? allocation.address = some ⟨allocation.address, owner, other⟩) ∧
      ∀ address reservation, memory.find? address = some reservation →
        after.find? address = some reservation := by
  obtain ⟨after, run, held⟩ := holds.run (ring.get owner interface requested)
  have outcome := Ring.get_cases run
  rw [granted] at outcome
  refine ⟨after, held, outcome.record.imp_left ?_, fun _ _ => outcome.keeps⟩
  intro found
  have willing := holds.lock_of_granted granted
  rw [← refuses_run site (ring.get owner interface requested)] at willing
  exact ⟨found, held.looksUp willing found outcome.offered⟩

/-! ## Runs of calls -/

/-- A call hands out an address for an interface of an owner. -/
def GrantsFor (site : Site) (call : Call) (address : Address) (owner interface : String) : Prop :=
  ∃ ring requested allocation, call = .get ring owner interface requested ∧
    (site.run (ring.get owner interface requested)).1 = .ok allocation ∧
      allocation.address = address

/-- A call requests an address that its owner holds for another interface. -/
def Repeats (site : Site) (call : Call) (address : Address) : Prop :=
  ∃ ring owner interface other, call = .get ring owner interface (some address) ∧
    other ≠ interface ∧ site.Lists ⟨address, owner, other⟩

/-- One of some calls frees an owner and takes an address away from it. -/
def Releases (site : Site) (calls : List Call) (address : Address) (owner : String) : Prop :=
  ∃ front call back, calls = front ++ call :: back ∧ call.Frees owner ∧
    (∃ interface, (site.callAll front).Lists ⟨address, owner, interface⟩) ∧
      ¬ ((site.callAll front).call call).Reserved address

/-- **A reservation stays as it is through a run of calls, unless one of them takes it away.** -/
theorem Holds.kept_or_released (holds : site.Holds memory) {reservation : Reservation}
    (found : memory.find? address = some reservation) (calls : List Call) :
    (∃ after, (site.callAll calls).Holds after ∧ after.find? address = some reservation) ∨
      site.Releases calls address reservation.owner := by
  induction calls generalizing site memory with
  | nil => exact .inl ⟨memory, holds, found⟩
  | cons call rest ih =>
    obtain ⟨middle, held, does⟩ := holds.call call
    rcases does.find? found with kept | ⟨frees, gone⟩
    · refine (ih held kept).imp_right ?_
      rintro ⟨front, releasing, back, rfl, frees, listed, gone⟩
      exact ⟨call :: front, releasing, back, rfl, frees, listed, gone⟩
    · refine .inr ⟨[], call, rest, rfl, frees, ⟨reservation.interface, ?_⟩, ?_⟩
      · obtain rfl := Memory.address_of_find? found
        exact holds.lists_iff.mpr found
      · exact held.not_reserved_iff.mpr gone

/-- What a call hands out is on record for the owner behind it, and for the interface unless the
call repeats a request.  If it was on record before, that is the same record. -/
theorem Holds.grantsFor (holds : site.Holds memory) {call : Call}
    (grants : site.GrantsFor call address owner interface) :
    ∃ after purpose, (site.call call).Holds after ∧
      after.find? address = some ⟨address, owner, purpose⟩ ∧
      (purpose = interface ∨ site.Repeats call address) ∧
      ∀ reservation, memory.find? address = some reservation →
        reservation = ⟨address, owner, purpose⟩ := by
  obtain ⟨ring, requested, allocation, rfl, granted, rfl⟩ := grants
  obtain ⟨after, held, recorded, keeps⟩ := holds.get_on_record granted
  rcases recorded with ⟨found, _⟩ | ⟨rfl, rfl, other, different, found⟩
  · refine ⟨after, interface, held, found, .inl rfl, ?_⟩
    intro reservation before
    exact Option.some.inj ((keeps _ _ before).symm.trans found)
  · refine ⟨_, other, held, found, .inr ?_, ?_⟩
    · exact ⟨ring, owner, interface, other, rfl, different, holds.lists_iff.mpr found⟩
    · intro reservation before
      exact Option.some.inj (before.symm.trans found)

end Site

/-- **What is handed out is on record for the caller.**

Behind any programs on a store, in memory or on disk, a request that is served leaves the
address on record for its owner and interface, and it is looked up there; or the owner has
requested an address that it holds for another interface, and the record is as before.

When one address is handed out to two callers it has been released in between, or they
are interfaces of one owner and one of the two calls has been such a repeated request. -/
theorem granted_on_record {site : Site} (written : site.Written) :
    (∀ (ring : Ring) (owner interface : String) (requested : Option Address)
        (allocation : Allocation),
      (site.run (ring.get owner interface requested)).1 = .ok allocation →
        let after := (site.run (ring.get owner interface requested)).2
        (after.Lists ⟨allocation.address, owner, interface⟩ ∧
            after.LooksUp ring owner interface allocation) ∨
          requested = some allocation.address ∧ ∃ other ≠ interface,
            site.Lists ⟨allocation.address, owner, other⟩ ∧
              after.Lists ⟨allocation.address, owner, other⟩) ∧
      ∀ (first : Call) (between : List Call) (second : Call) (address : Address)
        (owner interface holder purpose : String),
        site.GrantsFor first address owner interface →
        (site.callAll (first :: between)).GrantsFor second address holder purpose →
        (holder, purpose) ≠ (owner, interface) →
          (site.call first).Releases between address owner ∨
            holder = owner ∧ (site.Repeats first address ∨
              (site.callAll (first :: between)).Repeats second address) := by
  obtain ⟨memory, holds⟩ := written.holds
  constructor
  · intro ring owner interface requested allocation granted after
    obtain ⟨content, held, recorded, _⟩ := holds.get_on_record granted
    rcases recorded with ⟨found, told⟩ | ⟨asked, rfl, other, different, found⟩
    · exact .inl ⟨held.lists_iff.mpr found, told⟩
    · exact .inr ⟨asked, other, different, holds.lists_iff.mpr found, held.lists_iff.mpr found⟩
  · intro first between second address owner interface holder purpose granted regranted different
    obtain ⟨middle, recorded, held, found, reason, _⟩ := holds.grantsFor granted
    rcases held.kept_or_released found between with ⟨after, still, kept⟩ | released
    · -- The record has stayed, so that the second caller has been told the same one.
      obtain ⟨_, again, _, _, further, same⟩ := still.grantsFor regranted
      obtain ⟨rfl, rfl⟩ : owner = holder ∧ recorded = again := by
        simpa using same _ kept
      refine .inr ⟨rfl, ?_⟩
      rcases reason with rfl | repeated
      · rcases further with rfl | repeated
        · exact absurd rfl different
        · exact .inr repeated
      · exact .inl repeated
    · exact .inl released

/-- The address that one interface holds is handed out to another interface of the same owner,
which requests it: it is not on record for that interface, and is not looked up there. -/
theorem two_interfaces_share_slash29 :
    let first : Call := .get .slash29 "a" "eth0" (some (.v4 0x0a000002))
    let second : Call := .get .slash29 "a" "eth1" (some (.v4 0x0a000002))
    Site.vacantNet.Written ∧
      Site.vacantNet.GrantsFor first (.v4 0x0a000002) "a" "eth0" ∧
      (Site.vacantNet.callAll [first]).GrantsFor second (.v4 0x0a000002) "a" "eth1" ∧
      ¬ (Site.vacantNet.callAll [first, second]).Lists ⟨.v4 0x0a000002, "a", "eth1"⟩ ∧
      ((Site.vacantNet.callAll [first, second]).run (Ring.slash29.lookup "a" "eth1")).1 =
        .ok [] := by
  intro first second
  let allocation : Allocation := ⟨.v4 0x0a000002, ⟨.v4 0x0a000000, 29, by decide⟩, .v4 0x0a000001⟩
  have granted : (Site.vacantNet.run
      (Ring.slash29.get "a" "eth0" (some (.v4 0x0a000002)))).1 = .ok allocation := by decide +kernel
  have regranted : ((Site.vacantNet.callAll [first]).run
      (Ring.slash29.get "a" "eth1" (some (.v4 0x0a000002)))).1 = .ok allocation := by decide +kernel
  have listed : ((Site.vacantNet.callAll [first, second]).run StoreRequest.reservations.ask).1 =
      .ok [⟨.v4 0x0a000002, "a", "eth0"⟩] := by decide +kernel
  refine ⟨.begun Site.begun_vacantNet, ⟨_, _, _, rfl, granted, rfl⟩,
    ⟨_, _, _, rfl, regranted, rfl⟩, ?_, ?_⟩
  · rintro ⟨others, again, alone⟩
    obtain rfl := Except.ok.inj (listed.symm.trans again)
    exact absurd alone (by decide)
  · decide +kernel

/-- An owner is handed out an address, which another owner is handed out on request once the first
one has been released. -/
theorem granted_on_record_slash29 :
    let first : Call := .get .slash29 "a" "eth0" none
    let second : Call := .get .slash29 "b" "eth0" (some (.v4 0x0a000002))
    let after := (Site.vacantNet.run (Ring.slash29.get "a" "eth0" none)).2
    let allocation : Allocation :=
      ⟨.v4 0x0a000002, ⟨.v4 0x0a000000, 29, by decide⟩, .v4 0x0a000001⟩
    Site.vacantNet.Written ∧
      (Site.vacantNet.run (Ring.slash29.get "a" "eth0" none)).1 = .ok allocation ∧
      (after.Lists ⟨.v4 0x0a000002, "a", "eth0"⟩ ∧
        after.LooksUp .slash29 "a" "eth0" allocation) ∧
      Site.vacantNet.GrantsFor first (.v4 0x0a000002) "a" "eth0" ∧
      (Site.vacantNet.callAll [first, .release .slash29 "a"]).GrantsFor second
        (.v4 0x0a000002) "b" "eth0" ∧
      (Site.vacantNet.call first).Releases [.release .slash29 "a"] (.v4 0x0a000002) "a" := by
  intro first second after allocation
  have written : Site.vacantNet.Written := .begun Site.begun_vacantNet
  have granted : (Site.vacantNet.run (Ring.slash29.get "a" "eth0" none)).1 = .ok allocation := by
    decide +kernel
  have grants : Site.vacantNet.GrantsFor first (.v4 0x0a000002) "a" "eth0" :=
    ⟨_, _, _, rfl, granted, rfl⟩
  have regranted : ((Site.vacantNet.callAll [first, .release .slash29 "a"]).run
      (Ring.slash29.get "b" "eth0" (some (.v4 0x0a000002)))).1 = .ok allocation := by
    decide +kernel
  have regrants : (Site.vacantNet.callAll [first, .release .slash29 "a"]).GrantsFor second
      (.v4 0x0a000002) "b" "eth0" := ⟨_, _, _, rfl, regranted, rfl⟩
  obtain ⟨recorded, released⟩ := granted_on_record written
  refine ⟨written, granted, ?_, grants, regrants, ?_⟩
  · exact (recorded _ _ _ _ _ granted).resolve_right fun repeated => nomatch repeated.1
  · refine (released first _ second _ _ _ _ _ grants regrants (by decide)).resolve_right ?_
    rintro ⟨same, _⟩
    exact absurd same (by decide)

end AddressPool
