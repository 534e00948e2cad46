import AddressPool.Proofs.Allocation.Succession
import AddressPool.Proofs.Config.Allocations
import AddressPool.Proofs.Ring.Apart
import AddressPool.Proofs.Store.Served

/-!
# Requests for a certain address

An owner may ask for a certain address, or have one found by a scan.  The first way looks at the
gateways of the ring and at the range that has the address, the second one walks from one usable
address to the next.  The two agree on what may be handed out: no gateway of a ring is usable in
any of its ranges (`Ring.contains_of_isGateway`), so that an address can be had by asking for it
exactly if every walk comes by it and nobody else holds it.

`requested_agrees_with_scans` says so of any store that only its programs have written to, and
also that asking for an address gives what a scan would give, and leaves everything but the
record of the address as it was.
-/

namespace AddressPool

set_option autoImplicit false

namespace Ring

variable {ring : Ring} {address : Address} {owner interface : String} {memory : Memory}

/-! ## Walks -/

/-- Every walk comes by the addresses that may be handed out, and by no others. -/
theorem mem_candidates {cursor : Option Address} :
    address ∈ ring.candidates cursor ↔ ring.contains address = true := by
  rw [candidates_eq_circuit, mem_circuit]

/-- Some walk starts at a given address. -/
theorem exists_candidates_head (usable : ring.contains address = true) :
    ∃ cursor, (ring.candidates cursor).head? = some address := by
  have listed : address ∈ ring.circuit none := mem_circuit.mpr usable
  obtain ⟨before, after, split⟩ := List.append_of_mem listed
  rcases List.eq_nil_or_concat before with rfl | ⟨front, last, rfl⟩
  · refine ⟨none, ?_⟩
    rw [candidates_eq_circuit, split]
    rfl
  · refine ⟨some last, ?_⟩
    rw [List.concat_eq_append, List.append_assoc, List.singleton_append] at split
    rw [candidates_eq_circuit, circuit_some_of_split split]
    rfl

/-! ## What a request comes to -/

/-- An address that the ring may hand out is asked of the store; the test for gateways makes no
difference to any of these. -/
theorem get_some_run (ring : Ring) (owner interface : String) (address : Address)
    (memory : Memory) :
    (ring.get owner interface (some address)).run Memory.answer memory =
      (match ring.allocation? address, memory.find? address with
        | none, _ => (.error (.requestedAddressInvalid address ring.network), memory)
        | some allocation, none => (.ok allocation, memory.put ⟨address, owner, interface⟩)
        | some allocation, some holder =>
          if holder.owner = owner then (.ok allocation, memory)
          else (.error (.requestedAddressInvalid address ring.network), memory)) := by
  show (ring.getRequested owner interface address).run Memory.answer memory = _
  rw [getRequested]
  cases gateway : ring.isGateway address with
  | true =>
    have unusable := isSome_allocation? ring address
    rw [contains_of_isGateway gateway, Option.isSome_eq_false_iff, Option.isNone_iff_eq_none]
      at unusable
    rw [unusable, if_pos rfl]
    rfl
  | false =>
    rw [if_neg Bool.false_ne_true]
    cases ring.allocation? address with
    | none => rfl
    | some allocation =>
      have reserved : (StoreRequest.reserve address owner interface).ask.run Memory.answer memory =
          Memory.answer (.reserve address owner interface) memory := rfl
      simp only
      rw [Program.run_bind, reserved, Memory.answer]
      cases memory.find? address with
      | none => rfl
      | some holder =>
        by_cases own : holder.owner = owner
        · simp only [own, if_true]
          rfl
        · simp only [own, if_false]
          rfl

/-- An owner may have an address: it may be handed out, and nobody else holds it. -/
def MayHave (ring : Ring) (memory : Memory) (owner : String) (address : Address) : Prop :=
  ring.contains address = true ∧
    ∀ holder, memory.find? address = some holder → holder.owner = owner

/-- Whoever may have an address gets it, and it is reserved if it was free. -/
theorem get_some_granted (may : ring.MayHave memory owner address) (interface : String) :
    ∃ allocation, ring.allocation? address = some allocation ∧
      (ring.get owner interface (some address)).run Memory.answer memory =
        (.ok allocation, if memory.isFree address then memory.put ⟨address, owner, interface⟩
          else memory) := by
  obtain ⟨usable, own⟩ := may
  rw [← isSome_allocation?] at usable
  obtain ⟨allocation, found⟩ := Option.isSome_iff_exists.mp usable
  refine ⟨allocation, found, ?_⟩
  rw [get_some_run, found, Memory.isFree]
  cases held : memory.find? address with
  | none => rfl
  | some holder =>
    simp only [own holder held, if_true]
    rfl

/-- Whoever may not have an address is told so, and nothing changes. -/
theorem get_some_denied (mayNot : ¬ ring.MayHave memory owner address) (interface : String) :
    (ring.get owner interface (some address)).run Memory.answer memory =
      (.error (.requestedAddressInvalid address ring.network), memory) := by
  rw [get_some_run]
  cases found : ring.allocation? address with
  | none => rfl
  | some allocation =>
    have usable := isSome_allocation? ring address
    rw [found, Option.isSome_some] at usable
    cases held : memory.find? address with
    | none =>
      refine absurd ⟨usable.symm, fun holder there => ?_⟩ mayNot
      rw [held] at there
      cases there
    | some holder =>
      have foreign : holder.owner ≠ owner := by
        intro own
        refine mayNot ⟨usable.symm, fun other there => ?_⟩
        obtain rfl := Option.some.inj (held.symm.trans there)
        exact own
      simp only [foreign, if_false]

/-! ## What a scan would give -/

/-- Some scan hands out this allocation, and every scan that hands out its address hands out this
one, whatever the store and whoever asks. -/
structure ScansAs (ring : Ring) (allocation : Allocation) : Prop where
  handsOut : ∃ (site : Site) (owner interface : String),
    (site.run (ring.get owner interface none)).1 = .ok allocation
  alike : ∀ (site : Site) (owner interface : String) (other : Allocation),
    (site.run (ring.get owner interface none)).1 = .ok other →
      other.address = allocation.address → other = allocation

/-- A scan of a store without reservations hands out the first address of its walk. -/
theorem scan_of_vacant {allocation : Allocation} (vacant : memory.reservations = [])
    (first : (ring.candidates (memory.cursors.lookup ring.id)).head? = some address)
    (found : ring.allocation? address = some allocation) (owner interface : String) :
    ((ring.get owner interface none).run Memory.answer memory).1 = .ok allocation := by
  have waiting : ring.Waiting memory (owner, interface) := by
    intro reservation member
    rw [vacant] at member
    cases member
  have free : ring.free memory = ring.candidates (memory.cursors.lookup ring.id) := by
    refine List.filter_eq_self.mpr fun other _ => ?_
    rw [Memory.isFree_iff, Memory.find?, vacant]
    rfl
  have scanned := get_waiting (fun _ _ => not_false) waiting
    (StoreRun.of_memory (fun _ => False) (ring.get owner interface none) memory)
  rw [free, first] at scanned
  obtain ⟨⟨granted, offered, told⟩, _⟩ := scanned
  rw [told, Option.some.inj (found.symm.trans offered)]

theorem scansAs_of_offers {allocation : Allocation} (offers : ring.Offers allocation) :
    ring.ScansAs allocation := by
  constructor
  · have usable : ring.contains allocation.address = true := by
      rw [← isSome_allocation?, offers, Option.isSome_some]
    obtain ⟨cursor, first⟩ := exists_candidates_head usable
    obtain ⟨vacant, unreserved, placed⟩ : ∃ vacant : Memory, vacant.reservations = [] ∧
        vacant.cursors.lookup ring.id = cursor := by
      cases cursor with
      | none => exact ⟨.empty, rfl, rfl⟩
      | some cursor =>
        refine ⟨Memory.empty.putCursor ring.id cursor, rfl, ?_⟩
        rw [Memory.lookup_putCursor, if_pos rfl]
    rw [← placed] at first
    refine ⟨⟨"", "", .memory vacant, .empty⟩, "", "", ?_⟩
    rw [Site.run_mk_memory]
    exact scan_of_vacant unreserved first offers "" ""
  · intro site owner interface other handed same
    have again : ring.Offers other := Site.Tells.offers (.handedOut handed)
    rw [Offers, same, offers] at again
    exact (Option.some.inj again).symm

end Ring

/-- An address that is reserved if it is free has no other record than before, if it had one. -/
theorem Memory.find?_claimed {memory : Memory} {reservation : Reservation} (claim : Reservation) :
    (if memory.isFree claim.address then memory.put claim else memory).find? reservation.address =
        some reservation ↔
      memory.find? reservation.address = some reservation ∨
        memory.find? claim.address = none ∧ reservation = claim := by
  cases free : memory.find? claim.address with
  | some holder => simp [Memory.isFree, free]
  | none =>
    rw [Memory.isFree, free, Option.isNone_none, if_pos rfl, Memory.find?_put]
    by_cases same : reservation.address = claim.address
    · simp [same, free, eq_comm]
    · have different : reservation ≠ claim := fun equal => same (equal ▸ rfl)
      simp [same, different]

namespace Site

variable {site : Site} {memory : Memory} {ring : Ring} {owner interface : String}
variable {address : Address}

/-- A request for a certain address runs on a site as on the content of the site. -/
theorem Holds.get_some (holds : site.Holds memory) (ring : Ring) (address : Address)
    (roomy : ∀ disk, site.backend = .disk disk → Roomy disk.directory)
    (unbroken : Disk.brokenField? owner interface = none) :
    ∃ after, (ring.get owner interface (some address)).run Memory.answer memory =
        ((site.run (ring.get owner interface (some address))).1, after) ∧
      (site.run (ring.get owner interface (some address))).2.Holds after := by
  have willing : ∀ request : StoreRequest, request.Admissible → ¬ site.Refuses request := by
    intro request admissible
    rw [Refuses]
    cases stands : site.backend with
    | memory => exact id
    | disk disk => exact Disk.not_refuses (roomy disk stands) admissible
  obtain ⟨after, run, held⟩ := holds.run (ring.get owner interface (some address))
  have asks : (ring.get owner interface (some address)).AsksOnly
      fun request => ¬ site.Refuses request :=
    Ring.get_some_asksOnly (willing .lock trivial)
      (willing (.reserve address owner interface) unbroken)
  exact ⟨after, run.eq_run asks, held⟩

/-- Whether an owner may have an address can be told from the walks and from what is listed. -/
theorem Holds.mayHave_iff (holds : site.Holds memory) :
    ((∀ cursor, address ∈ ring.candidates cursor) ∧
        (¬ site.Reserved address ∨ ∃ purpose, site.Lists ⟨address, owner, purpose⟩)) ↔
      ring.MayHave memory owner address := by
  simp only [Ring.mem_candidates, forall_const, Ring.MayHave, holds.not_reserved_iff,
    holds.lists_iff]
  refine and_congr_right fun _ => ?_
  cases held : memory.find? address with
  | none => simp
  | some holder =>
    obtain rfl := Memory.address_of_find? held
    simp only [reduceCtorEq, false_or, Option.some.injEq, forall_eq']
    constructor
    · rintro ⟨purpose, same⟩
      rw [same]
    · rintro rfl
      exact ⟨holder.interface, rfl⟩

end Site

/-- **An address can be had by asking for it exactly if scans come by it and nobody else holds it.**

On any store, in memory or on disk, that nothing but programs on it has written to, a request
for a certain address succeeds exactly if every walk of the ring has the address, wherever it
starts, and the address is not reserved or is held by the owner.  Any other request is told
that the address is not available.  What is handed out is what a scan hands out for the
address, with its subnet and gateway.  The store lists one reservation more if the address was
not reserved before, and the same ones as before otherwise; and no cursor moves. -/
theorem requested_agrees_with_scans {site : Site} (written : site.Written) (ring : Ring)
    {owner interface : String} (address : Address)
    (roomy : ∀ disk, site.backend = .disk disk → Roomy disk.directory)
    (unbroken : Disk.brokenField? owner interface = none) :
    let reply := site.run (ring.get owner interface (some address))
    let mayHave := (∀ cursor, address ∈ ring.candidates cursor) ∧
      (¬ site.Reserved address ∨ ∃ purpose, site.Lists ⟨address, owner, purpose⟩)
    ((∃ allocation, reply.1 = .ok allocation) ↔ mayHave) ∧
      (¬ mayHave → reply.1 = .error (.requestedAddressInvalid address ring.network)) ∧
      (∀ allocation, reply.1 = .ok allocation →
        allocation.address = address ∧ ring.ScansAs allocation) ∧
      (∀ reservation, reply.2.Lists reservation ↔ site.Lists reservation ∨
        mayHave ∧ ¬ site.Reserved address ∧ reservation = ⟨address, owner, interface⟩) ∧
      ∀ id, (reply.2.run (StoreRequest.cursor id).ask).1 =
        (site.run (StoreRequest.cursor id).ask).1 := by
  intro reply mayHave
  obtain ⟨memory, holds⟩ := written.holds
  obtain ⟨after, run, held⟩ := holds.get_some ring address roomy unbroken
  have decided : mayHave ↔ ring.MayHave memory owner address := holds.mayHave_iff
  by_cases may : ring.MayHave memory owner address
  · obtain ⟨allocation, found, granted⟩ := Ring.get_some_granted may interface
    obtain ⟨told, rfl⟩ := Prod.mk.inj (granted.symm.trans run)
    refine ⟨⟨fun _ => decided.mpr may, fun _ => ⟨allocation, told.symm⟩⟩,
      absurd (decided.mpr may), ?_, ?_, ?_⟩
    · intro other handed
      obtain rfl := Except.ok.inj (told.trans handed)
      exact ⟨Ring.address_of_allocation? found,
        Ring.scansAs_of_offers (Ring.offers_of_allocation? found)⟩
    · intro reservation
      rw [held.lists_iff, holds.lists_iff, holds.not_reserved_iff, and_iff_right (decided.mpr may)]
      exact Memory.find?_claimed ⟨address, owner, interface⟩
    · refine holds.cursors_same held fun id => ?_
      split <;> rfl
  · obtain ⟨told, rfl⟩ := Prod.mk.inj ((Ring.get_some_denied may interface).symm.trans run)
    have mayNot : ¬ mayHave := mt decided.mp may
    have refused : ∀ allocation, reply.1 ≠ .ok allocation := by
      intro allocation granted
      cases told.trans granted
    refine ⟨⟨fun granted => granted.elim fun allocation same => absurd same (refused allocation),
      fun allowed => absurd allowed mayNot⟩, fun _ => told.symm,
      fun allocation granted => absurd granted (refused allocation), ?_, ?_⟩
    · intro reservation
      rw [held.lists_iff, holds.lists_iff, or_iff_left fun allowed => mayNot allowed.1]
    · exact holds.cursors_same held fun _ => rfl

/-- One address of a directory is reserved for another owner, and the next one is free. -/
theorem requested_agrees_with_scans_slash29 :
    let site := (Site.vacantNet.run (Ring.slash29.get "a" "eth0" (some (.v4 0x0a000003)))).2
    (site.run (Ring.slash29.get "b" "eth0" (some (.v4 0x0a000003)))).1 =
        .error (.requestedAddressInvalid (.v4 0x0a000003) "net") ∧
      ∃ allocation,
        (site.run (Ring.slash29.get "b" "eth0" (some (.v4 0x0a000004)))).1 = .ok allocation ∧
          Ring.slash29.ScansAs allocation := by
  intro site
  have written : site.Written := .run (.begun Site.begun_vacantNet) _
  have roomy : ∀ disk, site.backend = .disk disk → Roomy disk.directory := by
    intro disk same
    obtain rfl := Backend.disk.inj same
    exact Site.roomy_vacantNet
  have theirs := requested_agrees_with_scans written Ring.slash29 (.v4 0x0a000003) roomy
    (show Disk.brokenField? "b" "eth0" = none by decide)
  have free := requested_agrees_with_scans written Ring.slash29 (.v4 0x0a000004) roomy
    (show Disk.brokenField? "b" "eth0" = none by decide)
  have granted : (site.run (Ring.slash29.get "b" "eth0" (some (.v4 0x0a000004)))).1.isOk = true := by
    decide +kernel
  have denied : (site.run (Ring.slash29.get "b" "eth0" (some (.v4 0x0a000003)))).1.isOk = false := by
    decide +kernel
  constructor
  · refine theirs.2.1 fun may => ?_
    obtain ⟨allocation, same⟩ := theirs.1.mpr may
    rw [same] at denied
    cases denied
  · cases told : (site.run (Ring.slash29.get "b" "eth0" (some (.v4 0x0a000004)))).1 with
    | error error =>
      rw [told] at granted
      cases granted
    | ok allocation => exact ⟨allocation, rfl, (free.2.2.1 allocation told).2⟩

end AddressPool
