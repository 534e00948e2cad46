import AddressPool.Store.Basic

/-!
# Stores in memory

A store in memory is a value: the reservations in ascending order of their
addresses, no address twice, and a list of cursors.  It is never locked by anybody
else and nothing in it fails, so the only refusal is that of an address which
another owner holds.
-/

namespace AddressPool

set_option autoImplicit false

/-- Ascending order of addresses, which keeps any address from being listed twice. -/
def AscendingAddresses (reservations : List Reservation) : Prop :=
  reservations.Pairwise fun left right => left.address.key < right.address.key

/-- A store in memory. -/
structure Memory where
  reservations : List Reservation
  ascending : AscendingAddresses reservations
  cursors : List (String × Address)

namespace Memory

/-- The store that holds nothing. -/
def empty : Memory := ⟨[], .nil, []⟩

/-- The reservation of an address. -/
def find? (memory : Memory) (address : Address) : Option Reservation :=
  memory.reservations.find? fun reservation => decide (reservation.address = address)

theorem ascending_insert {reservations : List Reservation} (reservation : Reservation)
    (ascending : AscendingAddresses reservations)
    (absent : ∀ other ∈ reservations, other.address ≠ reservation.address) :
    AscendingAddresses (reservation.insert reservations) := by
  induction reservations with
  | nil => exact List.pairwise_singleton ..
  | cons first rest ih =>
    obtain ⟨ahead, later⟩ := List.pairwise_cons.1 ascending
    have here := absent first (List.mem_cons_self ..)
    unfold Reservation.insert
    split
    · rename_i before
      refine List.pairwise_cons.2 ⟨fun other member => ?_,
        ih later fun other member => absent other (List.mem_cons_of_mem _ member)⟩
      rcases Reservation.mem_insert.1 member with rfl | member
      · simpa [Reservation.precedes, here] using before
      · exact ahead other member
    · rename_i before
      refine List.pairwise_cons.2 ⟨fun other member => ?_, ascending⟩
      have different : reservation.address.key ≠ first.address.key :=
        fun equal => here (Address.key_injective equal).symm
      have : reservation.address.key < first.address.key := by
        simp only [Reservation.precedes, Bool.or_eq_true, decide_eq_true_eq, not_or] at before
        omega
      rcases List.mem_cons.1 member with rfl | member
      · exact this
      · exact Nat.lt_trans this (ahead other member)

/-- The store with other reservations that are some of its own. -/
def keep (memory : Memory) (wanted : Reservation → Bool) : Memory :=
  { memory with
    reservations := memory.reservations.filter wanted
    ascending := memory.ascending.filter wanted }

/-- The store with a reservation, instead of one that the address may have had. -/
def put (memory : Memory) (reservation : Reservation) : Memory :=
  let others := memory.keep fun other => decide (other.address ≠ reservation.address)
  { others with
    reservations := reservation.insert others.reservations
    ascending := ascending_insert reservation others.ascending fun other member => by
      simpa using (List.mem_filter.1 member).2 }

/-- The store with a cursor for a ring, instead of one that the ring may have had. -/
def putCursor (memory : Memory) (id : String) (address : Address) : Memory :=
  { memory with
    cursors := (id, address) :: memory.cursors.filter fun cursor => decide (cursor.1 ≠ id) }

/-- The store that holds some reservations and cursors, the later ones of a kind prevailing. -/
def ofSeeds (reservations : List Reservation) (cursors : List (String × Address)) : Memory :=
  cursors.foldl (fun memory cursor => memory.putCursor cursor.1 cursor.2)
    (reservations.foldl put empty)

/-- What a store in memory answers to a request, and the store behind it. -/
def answer : (request : StoreRequest) → Memory → request.Answer × Memory
  | .lock, memory => (.ok (), memory)
  | .reserve address owner interface, memory => match memory.find? address with
    | some holder =>
      if holder.owner = owner then (.ok false, memory)
      else (.error (.alreadyReserved address holder.owner), memory)
    | none => (.ok true, memory.put ⟨address, owner, interface⟩)
  | .release address, memory =>
    (.ok (memory.find? address).isSome,
      memory.keep fun reservation => decide (reservation.address ≠ address))
  | .releaseByOwner owner, memory =>
    let rest := memory.keep fun reservation => decide (reservation.owner ≠ owner)
    (.ok (memory.reservations.length - rest.reservations.length), rest)
  | .reservations, memory => (.ok memory.reservations, memory)
  | .cursor id, memory => (.ok (memory.cursors.lookup id), memory)
  | .setCursor id address, memory => (.ok (), memory.putCursor id address)

end Memory

end AddressPool
