import AddressPool.Ring
import AddressPool.Store.Basic

/-!
# Handing out addresses

An owner asks for an address of a ring for one of its interfaces, either for a
certain address or for whichever is free.  In the second case the ring is scanned
from its cursor, and the first address that the store accepts is handed out and
becomes the cursor; an owner that holds an address of the ring for the interface
gets that one again, and nothing changes.

Each of the programs below takes the store's lock before all else.
-/

namespace AddressPool

set_option autoImplicit false

/-- An address that has been handed out, with the subnet and the gateway that go with it. -/
structure Allocation where
  address : Address
  subnet : Prefix
  gateway : Address
  deriving DecidableEq, Repr

/-- Why no address is handed out. -/
inductive AllocationError where
  | requestedAddressInvalid (address : Address) (network : String)
  | addressesExhausted (network : String)
  | store (network : String) (cause : StoreError)
  deriving DecidableEq, Repr

/-- The text of an error. -/
def AllocationError.message : AllocationError → String
  | .requestedAddressInvalid address network =>
    "requested IP address " ++ address.text ++ " is not available in network: " ++ network
  | .addressesExhausted network => "no IP addresses available in network: " ++ network
  | .store network cause => "store failure in network " ++ network ++ ": " ++ cause.message

/-- The texts of an error and of what is behind it, the outermost first. -/
def AllocationError.chain (error : AllocationError) : List String :=
  match error with
  | .store _ cause => error.message :: cause.chain
  | _ => [error.message]

namespace Ring

/-- An address of the ring with what goes with it. -/
def allocation? (ring : Ring) (address : Address) : Option Allocation :=
  (ring.rangeContaining address).map fun range => ⟨address, range.subnet, range.gateway⟩

/-- A failure of the store, as an error of the ring's network. -/
def storeError (ring : Ring) (cause : StoreError) : AllocationError := .store ring.network cause

/-- The allocations among some reservations that are for an interface. -/
def heldFor (ring : Ring) (interface : String) (reservations : List Reservation) :
    List Allocation :=
  (reservations.filter fun reservation => decide (reservation.interface = interface)).filterMap
    fun reservation => ring.allocation? reservation.address

/-- Reserves one address, if it may be handed out and is free. -/
def getRequested (ring : Ring) (owner interface : String) (address : Address) :
    StoreProgram (Except AllocationError Allocation) := do
  let refusal := .requestedAddressInvalid address ring.network
  if ring.isGateway address then return .error refusal
  match ring.allocation? address with
  | none => return .error refusal
  | some allocation =>
    match ← (StoreRequest.reserve address owner interface).ask with
    | .ok _ => return .ok allocation
    | .error (.alreadyReserved ..) => return .error refusal
    | .error cause => return .error (ring.storeError cause)

/-- Makes an address that has just been reserved the cursor; if that fails the reservation is
given up. -/
def advance (ring : Ring) (allocation : Allocation) :
    StoreProgram (Except AllocationError Allocation) := do
  match ← (StoreRequest.setCursor ring.id allocation.address).ask with
  | .ok () => return .ok allocation
  | .error cause =>
    let _ ← (StoreRequest.release allocation.address).ask
    return .error (ring.storeError cause)

/-- Reserves the first free address of a walk of at most the given length. -/
def scan (ring : Ring) (owner interface : String) :
    Nat → Option Address → StoreProgram (Except AllocationError Allocation)
  | 0, _ => return .error (.addressesExhausted ring.network)
  | _, none => return .error (.addressesExhausted ring.network)
  | remaining + 1, some address =>
    match ring.allocation? address with
    | none => ring.scan owner interface remaining (ring.successor address)
    | some allocation => do
      match ← (StoreRequest.reserve address owner interface).ask with
      | .ok true => ring.advance allocation
      | .ok false => ring.scan owner interface remaining (ring.successor address)
      | .error (.alreadyReserved ..) =>
        ring.scan owner interface remaining (ring.successor address)
      | .error cause => return .error (ring.storeError cause)

/-- Reserves the next free address, or finds the one that the owner holds for the interface. -/
def getNext (ring : Ring) (owner interface : String) :
    StoreProgram (Except AllocationError Allocation) := do
  match ← reservationsOf owner with
  | .error cause => return .error (ring.storeError cause)
  | .ok owned =>
    match (ring.heldFor interface owned).head? with
    | some allocation => return .ok allocation
    | none =>
      match ← (StoreRequest.cursor ring.id).ask with
      | .error cause => return .error (ring.storeError cause)
      | .ok cursor => ring.scan owner interface ring.usableCount (ring.startAfter cursor)

/-- Reserves an address for an interface of an owner. -/
def get (ring : Ring) (owner interface : String) (requested : Option Address) :
    StoreProgram (Except AllocationError Allocation) := do
  match ← StoreRequest.lock.ask with
  | .error cause => return .error (ring.storeError cause)
  | .ok () => match requested with
    | some address => ring.getRequested owner interface address
    | none => ring.getNext owner interface

/-- Releases all addresses of an owner, whatever ring they are in, and counts them. -/
def release (ring : Ring) (owner : String) : StoreProgram (Except AllocationError Nat) := do
  match ← StoreRequest.lock.ask with
  | .error cause => return .error (ring.storeError cause)
  | .ok () => match ← (StoreRequest.releaseByOwner owner).ask with
    | .error cause => return .error (ring.storeError cause)
    | .ok count => return .ok count

/-- The addresses of the ring that an owner holds for an interface. -/
def lookup (ring : Ring) (owner interface : String) :
    StoreProgram (Except AllocationError (List Allocation)) := do
  match ← StoreRequest.lock.ask with
  | .error cause => return .error (ring.storeError cause)
  | .ok () => match ← reservationsOf owner with
    | .error cause => return .error (ring.storeError cause)
    | .ok owned => return .ok (ring.heldFor interface owned)

end Ring

end AddressPool
