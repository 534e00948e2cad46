import AddressPool.Allocation
import AddressPool.Proofs.Store.Conduct

/-!
# What becomes of a request for an address

A scan hands out the first address of its walk that is available, and moves the
cursor there (`Ring.scan_outcome`).  If the store refuses to do its part, the scan
fails and the store is as it was: a reservation that has been made by then is given
up again.

So whoever gets an address holds it (`Ring.get_holds`), and nobody loses one by what
others get (`Ring.get_keeps`).
-/

namespace AddressPool

set_option autoImplicit false

namespace Ring

variable {ring : Ring} {owner interface : String} {address : Address} {allocation : Allocation}
variable {refuses : StoreRequest → Prop} {memory after : Memory}
variable {result : Except AllocationError Allocation}

/-! ## Addresses that may be handed out -/

theorem allocation?_eq_some_iff :
    ring.allocation? address = some allocation ↔
      ∃ range, ring.rangeContaining address = some range ∧
        allocation = ⟨address, range.subnet, range.gateway⟩ := by
  rw [allocation?, Option.map_eq_some_iff]
  exact exists_congr fun range => and_congr_right fun _ => eq_comm

theorem address_of_allocation? (found : ring.allocation? address = some allocation) :
    allocation.address = address := by
  obtain ⟨range, _, rfl⟩ := allocation?_eq_some_iff.mp found
  rfl

theorem isSome_allocation? (ring : Ring) (address : Address) :
    (ring.allocation? address).isSome = ring.contains address := by
  rw [allocation?, Option.isSome_map, contains]

/-- Whether a scan may hand out an address: nobody holds it. -/
def isAvailable (ring : Ring) (memory : Memory) (address : Address) : Bool :=
  ring.contains address && memory.isFree address

/-- What a store holds behind a scan that has handed out an address. -/
def handOut (ring : Ring) (memory : Memory) (owner interface : String) (address : Address) :
    Memory :=
  (memory.put ⟨address, owner, interface⟩).putCursor ring.id address

/-! ## The outcomes -/

/-- The requests for an owner that a store may refuse. -/
inductive Asks (ring : Ring) (owner interface : String) : StoreRequest → Prop where
  | lock : ring.Asks owner interface .lock
  | cursor : ring.Asks owner interface (.cursor ring.id)
  | reserve (address : Address) : ring.Asks owner interface (.reserve address owner interface)
  | setCursor (address : Address) : ring.Asks owner interface (.setCursor ring.id address)

/-- The store refuses its part, which is told, and nothing changes. -/
structure Fails (ring : Ring) (owner interface : String) (refuses : StoreRequest → Prop)
    (memory : Memory) (result : Except AllocationError Allocation) (after : Memory) : Prop where
  reported : ∃ cause, result = .error (ring.storeError cause)
  refused : ∃ request, ring.Asks owner interface request ∧ refuses request
  unchanged : after = memory

/-- What becomes of a scan whose first available address is known. -/
def Scanned (ring : Ring) (owner interface : String) (memory : Memory) :
    Option Address → Except AllocationError Allocation → Memory → Prop
  | none, result, after => result = .error (.addressesExhausted ring.network) ∧ after = memory
  | some address, result, after =>
    (∃ allocation, ring.allocation? address = some allocation ∧ result = .ok allocation) ∧
      after = ring.handOut memory owner interface address

/-! ## Scanning -/

/-- A new reservation becomes the cursor, or it is given up. -/
theorem advance_outcome (free : memory.find? address = none)
    (found : ring.allocation? address = some allocation)
    (run : StoreRun refuses (ring.advance allocation)
      (memory.put ⟨address, owner, interface⟩) result after) :
    ring.Fails owner interface refuses memory result after ∨
      ring.Scanned owner interface memory (some address) result after := by
  obtain rfl := address_of_allocation? found
  rw [advance] at run
  obtain ⟨_, _, moved, rest⟩ := StoreRun.of_request run
  rcases moved.setCursor with ⟨rfl, rfl⟩ | ⟨refuse, rfl, cause, rfl⟩
  · obtain ⟨rfl, rfl⟩ := rest.of_done
    exact .inr ⟨⟨allocation, found, rfl⟩, rfl⟩
  · obtain ⟨_, _, released, last⟩ := StoreRun.of_request rest
    obtain ⟨rfl, rfl⟩ := last.of_done
    refine .inl ⟨⟨cause, rfl⟩, ⟨_, .setCursor _, refuse⟩, ?_⟩
    rcases released.release with ⟨_, same⟩ | ⟨_, absent, _⟩
    · exact same.trans (Memory.keep_put free)
    · -- The reservation is there, so that the store cannot refuse to release it.
      have held := memory.find?_put_self ⟨allocation.address, owner, interface⟩
      rw [absent] at held
      cases held

/-- **A scan hands out the first available address of its walk.** -/
theorem scan_outcome {remaining : Nat} {start : Option Address}
    (run : StoreRun refuses (ring.scan owner interface remaining start) memory result after) :
    ring.Fails owner interface refuses memory result after ∨
      ring.Scanned owner interface memory
        ((ring.steps remaining ⟨start, remaining⟩).1.find? (ring.isAvailable memory))
        result after := by
  induction remaining generalizing start with
  | zero =>
    rw [scan] at run
    exact .inr run.of_done
  | succ remaining ih =>
    cases start with
    | none =>
      rw [scan] at run
      · exact .inr run.of_done
      · simp
    | some here =>
      have walk : (ring.steps (remaining + 1) ⟨some here, remaining + 1⟩).1 =
          here :: (ring.steps remaining ⟨ring.successor here, remaining⟩).1 := rfl
      have usable := isSome_allocation? ring here
      -- An address that cannot be handed out is passed over.
      have pass : ring.isAvailable memory here = false →
          StoreRun refuses (ring.scan owner interface remaining (ring.successor here))
            memory result after →
          ring.Fails owner interface refuses memory result after ∨
            ring.Scanned owner interface memory
              ((ring.steps (remaining + 1) ⟨some here, remaining + 1⟩).1.find?
                (ring.isAvailable memory)) result after := by
        intro taken further
        rw [walk, List.find?_cons_of_neg (by simp [taken])]
        exact ih further
      rw [scan] at run
      cases found : ring.allocation? here with
      | none =>
        simp only [found] at run
        rw [found] at usable
        exact pass (by rw [isAvailable, ← usable]; rfl) run
      | some allocation =>
        simp only [found] at run
        rw [found] at usable
        obtain ⟨_, _, reserved, rest⟩ := StoreRun.of_request run
        rcases reserved.reserve with ⟨free, rfl, rfl⟩ | ⟨holder, held, same, reply⟩ |
          ⟨refuse, same, cause, outward, rfl⟩
        · have available : ring.isAvailable memory here = true := by
            rw [isAvailable, ← usable, Memory.isFree, free]
            rfl
          rw [walk, List.find?_cons_of_pos (by simp [available])]
          exact advance_outcome free found rest
        · have taken : ring.isAvailable memory here = false := by
            rw [isAvailable, Memory.isFree, held]
            exact Bool.and_false _
          rw [same] at rest
          rcases reply with ⟨_, rfl⟩ | ⟨_, rfl⟩
          · exact pass taken rest
          · exact pass taken rest
        · cases cause with
          | alreadyReserved other holder => exact absurd rfl (outward other holder)
          | lockTimeout | file | invalidNetworkName | invalidRecordField =>
            obtain ⟨rfl, rfl⟩ := rest.of_done
            exact .inl ⟨⟨_, rfl⟩, ⟨_, .reserve here, refuse⟩, same⟩

/-! ## Requests for addresses -/

theorem mem_heldFor {reservations : List Reservation} :
    allocation ∈ ring.heldFor interface reservations ↔
      ∃ reservation ∈ reservations, reservation.interface = interface ∧
        ring.allocation? reservation.address = some allocation := by
  simp only [heldFor, List.mem_filterMap, List.mem_filter, decide_eq_true_eq, and_assoc]

/-- An owner that holds an address for the interface gets it again; otherwise the ring is scanned
from its cursor. -/
theorem getNext_outcome
    (run : StoreRun refuses (ring.getNext owner interface) memory result after) :
    (∃ allocation, (ring.heldFor interface (memory.ownedBy owner)).head? = some allocation ∧
        result = .ok allocation ∧ after = memory) ∨
      (ring.heldFor interface (memory.ownedBy owner)).head? = none ∧
        (ring.Fails owner interface refuses memory result after ∨
          ring.Scanned owner interface memory
            ((ring.candidates (memory.cursors.lookup ring.id)).find? (ring.isAvailable memory))
            result after) := by
  rw [getNext] at run
  obtain ⟨_, _, listed, rest⟩ := StoreRun.of_andThen run
  obtain ⟨rfl, same⟩ := listed.of_reservationsOf
  rw [same] at rest
  cases held : (ring.heldFor interface (memory.ownedBy owner)).head? with
  | some allocation =>
    simp only [held] at rest
    obtain ⟨rfl, rfl⟩ := rest.of_done
    exact .inl ⟨allocation, rfl, rfl, rfl⟩
  | none =>
    simp only [held] at rest
    obtain ⟨_, _, read, last⟩ := StoreRun.of_request rest
    obtain ⟨rfl, rfl | ⟨refuse, cause, rfl⟩⟩ := read.cursor
    · exact .inr ⟨rfl, scan_outcome last⟩
    · obtain ⟨rfl, rfl⟩ := last.of_done
      exact .inr ⟨rfl, .inl ⟨⟨cause, rfl⟩, ⟨_, .cursor, refuse⟩, rfl⟩⟩

/-- What becomes of a request for a certain address: it is handed out if it may be and nobody
else holds it. -/
def Requested (ring : Ring) (owner interface : String) (memory : Memory) (address : Address)
    (result : Except AllocationError Allocation) (after : Memory) : Prop :=
  ∃ allocation, ring.allocation? address = some allocation ∧ result = .ok allocation ∧
    (memory.find? address = none ∧ after = memory.put ⟨address, owner, interface⟩ ∨
      ∃ holder, memory.find? address = some holder ∧ holder.owner = owner ∧ after = memory)

theorem getRequested_outcome
    (run : StoreRun refuses (ring.getRequested owner interface address) memory result after) :
    (result = .error (.requestedAddressInvalid address ring.network) ∧ after = memory) ∨
      ring.Fails owner interface refuses memory result after ∨
      ring.Requested owner interface memory address result after := by
  rw [getRequested] at run
  cases gateway : ring.isGateway address with
  | true =>
    rw [gateway, if_pos rfl] at run
    exact .inl run.of_done
  | false =>
    rw [gateway, if_neg Bool.false_ne_true] at run
    cases found : ring.allocation? address with
    | none =>
      simp only [found] at run
      exact .inl run.of_done
    | some allocation =>
      simp only [found] at run
      obtain ⟨_, _, reserved, rest⟩ := StoreRun.of_request run
      rcases reserved.reserve with ⟨free, rfl, rfl⟩ | ⟨holder, held, same, reply⟩ |
        ⟨refuse, same, cause, outward, rfl⟩
      · obtain ⟨rfl, rfl⟩ := rest.of_done
        exact .inr (.inr ⟨allocation, found, rfl, .inl ⟨free, rfl⟩⟩)
      · rcases reply with ⟨own, rfl⟩ | ⟨_, rfl⟩
        · obtain ⟨rfl, rfl⟩ := rest.of_done
          exact .inr (.inr ⟨allocation, found, rfl, .inr ⟨holder, held, own, same⟩⟩)
        · obtain ⟨rfl, rfl⟩ := rest.of_done
          exact .inl ⟨rfl, same⟩
      · cases cause with
        | alreadyReserved other holder => exact absurd rfl (outward other holder)
        | lockTimeout | file | invalidNetworkName | invalidRecordField =>
          obtain ⟨rfl, rfl⟩ := rest.of_done
          exact .inr (.inl ⟨⟨_, rfl⟩, ⟨_, .reserve address, refuse⟩, same⟩)

/-- Behind the lock comes the request itself. -/
theorem get_outcome {requested : Option Address}
    (run : StoreRun refuses (ring.get owner interface requested) memory result after) :
    (refuses .lock ∧ ring.Fails owner interface refuses memory result after) ∨
      match requested with
      | some address =>
        StoreRun refuses (ring.getRequested owner interface address) memory result after
      | none => StoreRun refuses (ring.getNext owner interface) memory result after := by
  unfold Ring.get at run
  obtain ⟨_, _, locked, rest⟩ := StoreRun.of_request run
  obtain ⟨rfl, rfl | ⟨refuse, cause, rfl⟩⟩ := locked.lock
  · right
    cases requested with
    | some address => exact rest
    | none => exact rest
  · obtain ⟨rfl, rfl⟩ := rest.of_done
    exact .inl ⟨refuse, ⟨cause, rfl⟩, ⟨_, .lock, refuse⟩, rfl⟩

/-- Whoever holds an address for the interface gets it again as long as the store can be locked. -/
theorem get_again (willing : ¬ refuses .lock)
    (held : (ring.heldFor interface (memory.ownedBy owner)).head? = some allocation)
    (run : StoreRun refuses (ring.get owner interface none) memory result after) :
    result = .ok allocation ∧ after = memory := by
  have next := (get_outcome run).resolve_left fun failed => willing failed.1
  rcases getNext_outcome next with ⟨again, found, rfl, rfl⟩ | ⟨unheld, _⟩
  · rw [held] at found
    obtain rfl := Option.some.inj found
    exact ⟨rfl, rfl⟩
  · rw [held] at unheld
    cases unheld

/-- The addresses that are held for an interface are told as long as the store can be locked, and
nothing changes. -/
theorem lookup_outcome {told : Except AllocationError (List Allocation)}
    (run : StoreRun refuses (ring.lookup owner interface) memory told after) :
    after = memory ∧
      (refuses .lock ∨ told = .ok (ring.heldFor interface (memory.ownedBy owner))) := by
  rw [Ring.lookup] at run
  obtain ⟨_, _, locked, rest⟩ := StoreRun.of_request run
  obtain ⟨rfl, rfl | ⟨refuse, _, rfl⟩⟩ := locked.lock
  · obtain ⟨_, _, listed, last⟩ := StoreRun.of_andThen rest
    obtain ⟨rfl, same⟩ := listed.of_reservationsOf
    rw [same] at last
    obtain ⟨rfl, rfl⟩ := last.of_done
    exact ⟨rfl, .inr rfl⟩
  · exact ⟨rest.of_done.2, .inl refuse⟩

/-- All that a request for an address may come to.  It fails; or the owner is told an address that
it holds, for this interface if none was requested; or a free address is reserved for it, which
becomes the cursor if it was not requested. -/
inductive Outcome (ring : Ring) (owner interface : String) (memory : Memory) :
    Option Address → Except AllocationError Allocation → Memory → Prop where
  | failed {requested : Option Address} (error : AllocationError) :
      Outcome ring owner interface memory requested (.error error) memory
  | again {allocation : Allocation}
      (held : (ring.heldFor interface (memory.ownedBy owner)).head? = some allocation) :
      Outcome ring owner interface memory none (.ok allocation) memory
  | owned {allocation : Allocation} {holder : Reservation}
      (offered : ring.allocation? allocation.address = some allocation)
      (found : memory.find? allocation.address = some holder) (own : holder.owner = owner) :
      Outcome ring owner interface memory (some allocation.address) (.ok allocation) memory
  | reserved {allocation : Allocation}
      (offered : ring.allocation? allocation.address = some allocation)
      (free : memory.find? allocation.address = none) :
      Outcome ring owner interface memory (some allocation.address) (.ok allocation)
        (memory.put ⟨allocation.address, owner, interface⟩)
  | scanned {allocation : Allocation}
      (unheld : (ring.heldFor interface (memory.ownedBy owner)).head? = none)
      (offered : ring.allocation? allocation.address = some allocation)
      (next : (ring.candidates (memory.cursors.lookup ring.id)).find? (ring.isAvailable memory) =
        some allocation.address) :
      Outcome ring owner interface memory none (.ok allocation)
        (ring.handOut memory owner interface allocation.address)

theorem Fails.outcome {requested : Option Address}
    (fails : ring.Fails owner interface refuses memory result after) :
    ring.Outcome owner interface memory requested result after := by
  obtain ⟨⟨cause, rfl⟩, _, rfl⟩ := fails
  exact .failed _

/-- **A request for an address has one of these outcomes, whatever the store refuses.** -/
theorem get_cases {requested : Option Address}
    (run : StoreRun refuses (ring.get owner interface requested) memory result after) :
    ring.Outcome owner interface memory requested result after := by
  rcases get_outcome run with ⟨_, failed⟩ | granted
  · exact failed.outcome
  cases requested with
  | some address =>
    rcases getRequested_outcome granted with ⟨rfl, rfl⟩ | failed | requested
    · exact .failed _
    · exact failed.outcome
    · obtain ⟨allocation, found, rfl, change⟩ := requested
      obtain rfl := address_of_allocation? found
      rcases change with ⟨free, rfl⟩ | ⟨holder, held, own, rfl⟩
      · exact .reserved found free
      · exact .owned found held own
  | none =>
    rcases getNext_outcome granted with ⟨allocation, held, rfl, rfl⟩ | ⟨unheld, failed | scanned⟩
    · exact .again held
    · exact failed.outcome
    · cases first : (ring.candidates (memory.cursors.lookup ring.id)).find?
          (ring.isAvailable memory) with
      | none =>
        rw [first] at scanned
        obtain ⟨rfl, rfl⟩ := scanned
        exact .failed _
      | some address =>
        rw [first] at scanned
        obtain ⟨⟨allocation, found, rfl⟩, rfl⟩ := scanned
        obtain rfl := address_of_allocation? found
        exact .scanned unheld found first

/-- A request that fails changes nothing. -/
theorem Outcome.unchanged {requested : Option Address} {error : AllocationError}
    (outcome : ring.Outcome owner interface memory requested (.error error) after) :
    after = memory := by
  cases outcome with
  | failed => rfl

/-- A scan comes upon free addresses only. -/
theorem free_of_next
    (next : (ring.candidates (memory.cursors.lookup ring.id)).find? (ring.isAvailable memory) =
      some address) : memory.find? address = none := by
  have available := List.find?_some next
  rw [isAvailable, Bool.and_eq_true, Memory.isFree_iff] at available
  exact available.2

/-! ## Holding what has been handed out -/

theorem find?_handOut (ring : Ring) (memory : Memory) (owner interface : String)
    (address other : Address) :
    (ring.handOut memory owner interface address).find? other =
      if other = address then some ⟨address, owner, interface⟩ else memory.find? other := by
  rw [handOut, Memory.find?_putCursor, Memory.find?_put]

/-- The reservation that an owner has been told for an interface. -/
theorem find?_of_heldFor
    (held : (ring.heldFor interface (memory.ownedBy owner)).head? = some allocation) :
    memory.find? allocation.address = some ⟨allocation.address, owner, interface⟩ ∧
      ring.allocation? allocation.address = some allocation := by
  obtain ⟨⟨other, holder, purpose⟩, member, rfl, found⟩ := mem_heldFor.mp (List.mem_of_head? held)
  obtain ⟨listed, rfl⟩ := Memory.mem_ownedBy.mp member
  obtain rfl := address_of_allocation? found
  exact ⟨Memory.find?_eq_some_iff.mpr ⟨listed, rfl⟩, found⟩

namespace Outcome

variable {requested : Option Address}

/-- What is handed out is an address of the ring with what goes with it. -/
theorem offered (outcome : ring.Outcome owner interface memory requested (.ok allocation) after) :
    ring.allocation? allocation.address = some allocation := by
  cases outcome with
  | again held => exact (find?_of_heldFor held).2
  | owned offered | reserved offered | scanned _ offered => exact offered

/-- An address that is handed out is reserved for the caller, unless the owner has requested it
and holds it for another interface; then nothing changes. -/
theorem record (outcome : ring.Outcome owner interface memory requested (.ok allocation) after) :
    after.find? allocation.address = some ⟨allocation.address, owner, interface⟩ ∨
      requested = some allocation.address ∧ after = memory ∧ ∃ other ≠ interface,
        memory.find? allocation.address = some ⟨allocation.address, owner, other⟩ := by
  cases outcome with
  | again held => exact .inl (find?_of_heldFor held).1
  | @owned _ holder _ found own =>
    obtain ⟨place, name, purpose⟩ := holder
    obtain rfl := Memory.address_of_find? found
    obtain rfl := own
    by_cases same : purpose = interface
    · exact .inl (same ▸ found)
    · exact .inr ⟨rfl, rfl, purpose, same, found⟩
  | reserved => exact .inl (memory.find?_put_self _)
  | scanned => exact .inl ((ring.find?_handOut memory owner interface _ _).trans (if_pos rfl))

/-- Nobody loses a reservation by what others get. -/
theorem keeps {reservation : Reservation}
    (outcome : ring.Outcome owner interface memory requested result after)
    (held : memory.find? address = some reservation) :
    after.find? address = some reservation := by
  have different : ∀ other, memory.find? other = none → address ≠ other := by
    rintro other free rfl
    rw [free] at held
    cases held
  cases outcome with
  | failed | again | owned => exact held
  | reserved _ free => rw [Memory.find?_put, if_neg (different _ free), held]
  | scanned _ _ next => rw [find?_handOut, if_neg (different _ (free_of_next next)), held]

end Outcome

/-- **Whoever gets an address holds it.** -/
theorem get_holds {requested : Option Address}
    (run : StoreRun refuses (ring.get owner interface requested) memory (.ok allocation) after) :
    ∃ reservation, after.find? allocation.address = some reservation ∧
      reservation.owner = owner := by
  rcases (get_cases run).record with held | ⟨_, rfl, other, _, held⟩
  · exact ⟨_, held, rfl⟩
  · exact ⟨_, held, rfl⟩

/-- **Nobody loses a reservation by what others get.** -/
theorem get_keeps {requested : Option Address} {reservation : Reservation}
    (run : StoreRun refuses (ring.get owner interface requested) memory result after)
    (held : memory.find? address = some reservation) :
    after.find? address = some reservation := (get_cases run).keeps held

end Ring

end AddressPool
