import AddressPool.Admin.Arguments
import AddressPool.Allocation
import AddressPool.Config
import AddressPool.Sweep

/-!
# Commands on the store of a network

Each command reads a configuration, opens the store that it names and prints what
it finds or does.  Lines that have been printed stay printed if the command fails
further on.

Releasing what dead owners hold is guarded: owners are live if they are given as
arguments or listed in a file, and without any the command refuses to do anything,
unless it is told that this is meant.
-/

namespace AddressPool.Admin

set_option autoImplicit false

/-- Why a command fails. -/
inductive AdminError where
  | load (cause : LoadError)
  | noLiveOwners
  | liveFile (path : String) (cause : FileError)
  | store (cause : StoreError)
  | sweep (network : String) (cause : StoreError)
  | allocation (cause : AllocationError)

/-- The texts of an error and of what is behind it, the outermost first. -/
def AdminError.chain : AdminError → List String
  | .load cause => cause.chain
  | .noLiveOwners =>
    ["no live owners given, pass --allow-empty to release every reservation"]
  | .liveFile path cause => ["failed to read live owners from " ++ path, cause.message]
  | .store cause => cause.chain
  | .sweep network cause => ("failed to sweep network " ++ network) :: cause.chain
  | .allocation cause => cause.chain

/-- The lines that a command has printed, and why it has failed if it has. -/
structure Printed where
  lines : List String
  failure : Option AdminError

/-- The outcome of a command that has printed nothing and failed. -/
def Printed.failed (error : AdminError) : Printed := ⟨[], some error⟩

/-- The outcome of a command that has succeeded. -/
def Printed.all (lines : List String) : Printed := ⟨lines, none⟩

/-- The outcome with another line in front. -/
def Printed.after (line : String) (rest : Printed) : Printed := ⟨line :: rest.lines, rest.failure⟩

/-- A reservation as it is printed. -/
def reservationLine (reservation : Reservation) : String :=
  reservation.address.text ++ "\t" ++ reservation.owner ++ "\t" ++ reservation.interface

/-! ## Showing a store -/

/-- A ring with its cursor as it is printed. -/
def ringLine (ring : Ring) : Option Address → String
  | none => "range set " ++ ring.text ++ " (no cursor)"
  | some cursor => "range set " ++ ring.text ++ " (cursor " ++ cursor.text ++ ")"

/-- Prints all reservations. -/
def showReservations : StoreProgram Printed := do
  match ← StoreRequest.reservations.ask with
  | .error error => return .failed (.store error)
  | .ok reservations => return .all (reservations.map reservationLine)

/-- Prints rings with their cursors, and then all reservations. -/
def showRings : List Ring → StoreProgram Printed
  | [] => showReservations
  | ring :: rest => do
    match ← (StoreRequest.cursor ring.id).ask with
    | .error error => return .failed (.store error)
    | .ok cursor => return (← showRings rest).after (ringLine ring cursor)

/-- Prints what the store of a network holds. -/
def showStore (config : Config) : StoreProgram Printed := do
  match ← StoreRequest.lock.ask with
  | .error error => return .failed (.store error)
  | .ok () => return (← showRings config.rings).after ("network " ++ config.network)

/-! ## Releasing what dead owners hold -/

/-- The owners that a text lists, one to a line; blanks around them do not count, and neither do
empty lines and lines that start with a number sign. -/
def liveOwners (text : String) : List String :=
  ((text.toList.splitOn '\n').map Text.trim).filterMap fun line =>
    if line = [] ∨ line.head? = some '#' then none else some (String.ofList line)

/-- Prints a sweep. -/
def sweepLines (report : SweepReport) : List String :=
  report.pruned.map (fun reservation => "released " ++ reservationLine reservation) ++
    [toString report.pruned.length ++ " released, " ++ toString report.kept ++ " kept"]

/-- Sweeps the store of a network. -/
def sweepStore (config : Config) (live : List String) : StoreProgram Printed := do
  match ← sweep live with
  | .error error => return .failed (.sweep config.network error)
  | .ok report => return .all (sweepLines report)

/-- The owners that are live, by argument or by file. -/
def gatherLive (live : List String) :
    Option String → FileProgram (Except AdminError (List String))
  | none => return .ok live
  | some path => do
    match ← readText path with
    | .error cause => return .error (.liveFile path cause)
    | .ok text => return .ok (live ++ liveOwners text)

/-! ## Releasing what an owner holds -/

/-- Releases the addresses of an owner once for every ring, and counts all of them. -/
def releaseRings (owner : String) : List Ring → StoreProgram (Except AllocationError Nat)
  | [] => return .ok 0
  | ring :: rest => do
    match ← ring.release owner with
    | .error error => return .error error
    | .ok count => match ← releaseRings owner rest with
      | .error error => return .error error
      | .ok others => return .ok (count + others)

/-- Releases the addresses of an owner and prints their number. -/
def releaseStore (config : Config) (owner : String) : StoreProgram Printed := do
  match ← releaseRings owner config.rings with
  | .error error => return .failed (.allocation error)
  | .ok count => return .all [toString count ++ " released"]

/-! ## Commands -/

/-- Reads a configuration, opens its store and runs a program on it. -/
def onStore (path : String) (program : Config → StoreProgram Printed) : FileProgram Printed := do
  match ← Config.load path with
  | .error error => return .failed (.load error)
  | .ok config => match ← Backend.openFor config.settings config.network with
    | .error error => return .failed (.store error)
    | .ok backend => return (← backend.perform (program config)).1

/-- Runs a command. -/
def Command.run : Command → FileProgram Printed
  | .show path => onStore path showStore
  | .release path owner _ => onStore path fun config => releaseStore config owner
  | .gc path live liveFile allowEmpty => do
    match ← gatherLive live liveFile with
    | .error error => return .failed error
    | .ok live =>
      if live.isEmpty && !allowEmpty then return .failed .noLiveOwners
      else onStore path fun config => sweepStore config live

end AddressPool.Admin
