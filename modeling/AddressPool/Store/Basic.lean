import AddressPool.Address.Printer
import AddressPool.Files.Tree
import AddressPool.Text.Quoted

/-!
# Stores of reservations

A store keeps the reservations of one network, and for each of its rings a cursor:
the address that the ring's last scan has handed out.  This module says what may be
asked of a store and what its answers are like.  How a store answers is the matter
of the modules for the two kinds of stores; what is asked of it, and when, is the
matter of the programs written over these requests.
-/

namespace AddressPool

set_option autoImplicit false

/-- An address that is reserved for an interface of an owner. -/
structure Reservation where
  address : Address
  owner : String
  interface : String
  deriving DecidableEq, Repr

namespace Reservation

/-- Whether one reservation comes before another in listings: by address, owner, interface. -/
def precedes (left right : Reservation) : Bool :=
  decide (left.address.key < right.address.key) ||
    (decide (left.address = right.address) &&
      (decide (left.owner < right.owner) ||
        (decide (left.owner = right.owner) && decide (left.interface < right.interface))))

/-- Puts a reservation into a sorted list, in front of the first one that is not before it. -/
def insert (reservation : Reservation) : List Reservation → List Reservation
  | [] => [reservation]
  | first :: rest =>
    if first.precedes reservation then first :: insert reservation rest
    else reservation :: first :: rest

/-- The reservations in the order of listings. -/
def sort (reservations : List Reservation) : List Reservation := reservations.foldr insert []

theorem mem_insert {reservation member : Reservation} {reservations : List Reservation} :
    member ∈ insert reservation reservations ↔ member = reservation ∨ member ∈ reservations := by
  induction reservations with
  | nil => simp [insert]
  | cons first rest ih =>
    unfold insert
    split
    · simp only [List.mem_cons, ih]
      constructor
      · rintro (equal | equal | member) <;> simp_all
      · rintro (equal | equal | member) <;> simp_all
    · simp

end Reservation

/-- The fields of a record that hold texts. -/
inductive RecordField where
  | owner
  | interface
  deriving DecidableEq, Repr

/-- The name of a field. -/
def RecordField.label : RecordField → String
  | .owner => "owner"
  | .interface => "interface"

/-- Why a store does not answer. -/
inductive StoreError where
  | alreadyReserved (address : Address) (owner : String)
  | lockTimeout (timeout : Duration)
  | file (path : String) (cause : FileError)
  | invalidNetworkName (name : String)
  | invalidRecordField (field : RecordField) (value : String)
  deriving DecidableEq, Repr

/-- The text of an error. -/
def StoreError.message : StoreError → String
  | .alreadyReserved address owner =>
    "address " ++ address.text ++ " already reserved by " ++ Text.quoted owner
  | .lockTimeout timeout => "timed out after " ++ timeout.text ++ " waiting for the store lock"
  | .file path cause => "I/O error on " ++ path ++ ": " ++ cause.message
  | .invalidNetworkName name => "invalid network name " ++ Text.quoted name
  | .invalidRecordField field value =>
    field.label ++ " " ++ Text.quoted value ++ " contains a line break"

/-- The texts of an error and of what is behind it, the outermost first. -/
def StoreError.chain (error : StoreError) : List String :=
  match error with
  | .file _ cause => [error.message, cause.message]
  | _ => [error.message]

/-- What may be asked of a store.  The lock comes first; all else is asked while it is held. -/
inductive StoreRequest where
  /-- The exclusive lock of the store. -/
  | lock
  /-- An address for an owner; the answer is whether that is new to the store. -/
  | reserve (address : Address) (owner interface : String)
  /-- An end to the reservation of an address; the answer is whether there was one. -/
  | release (address : Address)
  /-- An end to all reservations of an owner; the answer is their number. -/
  | releaseByOwner (owner : String)
  /-- All reservations in the order of listings. -/
  | reservations
  /-- The cursor of a ring. -/
  | cursor (id : String)
  /-- Another cursor for a ring. -/
  | setCursor (id : String) (address : Address)

/-- The kind of answer that a request has. -/
@[reducible] def StoreRequest.Answer : StoreRequest → Type
  | .lock => Except StoreError Unit
  | .reserve _ _ _ => Except StoreError Bool
  | .release _ => Except StoreError Bool
  | .releaseByOwner _ => Except StoreError Nat
  | .reservations => Except StoreError (List Reservation)
  | .cursor _ => Except StoreError (Option Address)
  | .setCursor _ _ => Except StoreError Unit

/-- A program that asks a store. -/
abbrev StoreProgram (α : Type) := Program StoreRequest StoreRequest.Answer α

/-- The program that asks one request. -/
def StoreRequest.ask (request : StoreRequest) : StoreProgram request.Answer :=
  Program.request request

/-- The reservations of one owner. -/
def reservationsOf (owner : String) : StoreProgram (Except StoreError (List Reservation)) := do
  match ← StoreRequest.reservations.ask with
  | .error error => return .error error
  | .ok reservations =>
    return .ok (reservations.filter fun reservation => decide (reservation.owner = owner))

end AddressPool
