import AddressPool.Store.Basic

/-!
# Sweeping a store

A sweep releases the reservations of all owners that are not named as live ones,
and reports which reservations these were and how many are kept.  Cursors stay
where they are.
-/

namespace AddressPool

set_option autoImplicit false

/-- The outcome of a sweep. -/
structure SweepReport where
  pruned : List Reservation
  kept : Nat
  deriving DecidableEq, Repr

/-- Releases those of some reservations whose owners are not live. -/
def sweepThrough (live : List String) :
    List Reservation → StoreProgram (Except StoreError SweepReport)
  | [] => return .ok ⟨[], 0⟩
  | reservation :: rest =>
    if live.contains reservation.owner then do
      match ← sweepThrough live rest with
      | .error error => return .error error
      | .ok report => return .ok { report with kept := report.kept + 1 }
    else do
      match ← (StoreRequest.release reservation.address).ask with
      | .error error => return .error error
      | .ok released => match ← sweepThrough live rest with
        | .error error => return .error error
        | .ok report =>
          return .ok (if released then { report with pruned := reservation :: report.pruned }
            else report)

/-- Releases all reservations of owners that are not live. -/
def sweep (live : List String) : StoreProgram (Except StoreError SweepReport) := do
  match ← StoreRequest.lock.ask with
  | .error error => return .error error
  | .ok () => match ← StoreRequest.reservations.ask with
    | .error error => return .error error
    | .ok reservations => sweepThrough live reservations

end AddressPool
