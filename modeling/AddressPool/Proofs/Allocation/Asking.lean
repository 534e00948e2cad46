import AddressPool.Allocation
import AddressPool.Sweep

/-!
# What programs ask of a store

A scan asks for the lock, for all reservations and for the cursor of its ring; it
reserves addresses for its owner, and moves the cursor or releases an address again.  Who
wants a certain address, or looks up what an owner holds, asks for less than that.  A
release asks for the lock and to release its owner, a sweep for the lock, for all
reservations and to release single addresses.  Whatever the answers are, none of them
asks for anything else (`Ring.anyGet_asksOnly`, `Ring.lookup_asksOnly`,
`Ring.release_asksOnly`, `sweep_asksOnly`).  So whatever is known of requests of these kinds is enough to know
what becomes of the program.
-/

namespace AddressPool

set_option autoImplicit false

namespace Program

variable {Request : Type} {Answer : Request → Type} {α β : Type} {allowed : Request → Prop}

/-- Whatever answers it is given, a program asks for nothing but what is allowed. -/
def AsksOnly (allowed : Request → Prop) : Program Request Answer α → Prop
  | done _ => True
  | ask request next => allowed request ∧ ∀ answered, (next answered).AsksOnly allowed

theorem AsksOnly.bind {program : Program Request Answer α} {follow : α → Program Request Answer β}
    (first : program.AsksOnly allowed) (second : ∀ result, (follow result).AsksOnly allowed) :
    (program >>= follow).AsksOnly allowed := by
  induction program with
  | done result => exact second result
  | ask request next ih =>
    refine ⟨first.1, ?_⟩
    intro answered
    exact ih answered (first.2 answered)

theorem AsksOnly.imp {other : Request → Prop} (fewer : ∀ request, allowed request → other request)
    {program : Program Request Answer α} (asks : program.AsksOnly allowed) :
    program.AsksOnly other := by
  induction program with
  | done result => trivial
  | ask request next ih =>
    refine ⟨fewer request asks.1, ?_⟩
    intro answered
    exact ih answered (asks.2 answered)

/-- A program whose requests are answered by programs asks what these ask. -/
theorem AsksOnly.expand {Other : Type} {Reply : Other → Type} {permitted : Other → Prop}
    {answer : (request : Request) → Program Other Reply (Answer request)}
    {program : Program Request Answer α} (asks : program.AsksOnly allowed)
    (each : ∀ request, allowed request → (answer request).AsksOnly permitted) :
    (program.expand answer).AsksOnly permitted := by
  induction program with
  | done result => trivial
  | ask request next ih =>
    exact AsksOnly.bind (each request asks.1) fun answered => ih answered (asks.2 answered)

end Program

variable {allowed : StoreRequest → Prop}

theorem StoreRequest.ask_asksOnly {request : StoreRequest} (permitted : allowed request) :
    request.ask.AsksOnly allowed := ⟨permitted, fun _ => trivial⟩

theorem reservationsOf_asksOnly (listing : allowed .reservations) (owner : String) :
    (reservationsOf owner).AsksOnly allowed := by
  refine ⟨listing, fun listed => ?_⟩
  cases listed <;> trivial

/-! ## Scans -/

/-- Everything that a scan may ask for. -/
structure Ring.Permitted (ring : Ring) (owner interface : String) (allowed : StoreRequest → Prop) :
    Prop where
  lock : allowed .lock
  listing : allowed .reservations
  cursor : allowed (.cursor ring.id)
  reserve : ∀ address, allowed (.reserve address owner interface)
  setCursor : ∀ address, allowed (.setCursor ring.id address)
  release : ∀ address, allowed (.release address)

namespace Ring

variable {ring : Ring} {owner interface : String}

theorem getRequested_asksOnly {address : Address}
    (permitted : allowed (.reserve address owner interface)) :
    (ring.getRequested owner interface address).AsksOnly allowed := by
  rw [getRequested]
  split
  · trivial
  · show Program.AsksOnly allowed (match ring.allocation? address with | _ => _)
    cases ring.allocation? address with
    | none => trivial
    | some allocation =>
      refine ⟨permitted, fun reserved => ?_⟩
      cases reserved with
      | ok => trivial
      | error cause => cases cause <;> trivial

/-- A request for a certain address asks for the lock and for this address. -/
theorem get_some_asksOnly {address : Address} (lock : allowed .lock)
    (permitted : allowed (.reserve address owner interface)) :
    (ring.get owner interface (some address)).AsksOnly allowed := by
  refine ⟨lock, fun locked => ?_⟩
  cases locked with
  | error => trivial
  | ok => exact getRequested_asksOnly permitted

section Scans

variable (permitted : ring.Permitted owner interface allowed)
include permitted

theorem advance_asksOnly (allocation : Allocation) :
    (ring.advance allocation).AsksOnly allowed := by
  refine ⟨permitted.setCursor _, fun moved => ?_⟩
  cases moved with
  | ok => trivial
  | error => exact ⟨permitted.release _, fun _ => trivial⟩

theorem scan_asksOnly (remaining : Nat) (start : Option Address) :
    (ring.scan owner interface remaining start).AsksOnly allowed := by
  induction remaining generalizing start with
  | zero => trivial
  | succ remaining ih =>
    cases start with
    | none => trivial
    | some address =>
      rw [scan]
      cases found : ring.allocation? address with
      | none => exact ih _
      | some allocation =>
        refine ⟨permitted.reserve address, fun reserved => ?_⟩
        cases reserved with
        | ok fresh =>
          cases fresh with
          | true => exact advance_asksOnly permitted allocation
          | false => exact ih _
        | error cause =>
          cases cause with
          | alreadyReserved => exact ih _
          | lockTimeout | file | invalidNetworkName | invalidRecordField => trivial

theorem getNext_asksOnly : (ring.getNext owner interface).AsksOnly allowed := by
  refine (reservationsOf_asksOnly permitted.listing owner).bind fun listed => ?_
  cases listed with
  | error => trivial
  | ok owned =>
    show Program.AsksOnly _ (match (ring.heldFor interface owned).head? with | _ => _)
    cases (ring.heldFor interface owned).head? with
    | some allocation => trivial
    | none =>
      refine ⟨permitted.cursor, fun read => ?_⟩
      cases read with
      | error => trivial
      | ok cursor => exact scan_asksOnly permitted ..

theorem anyGet_asksOnly (requested : Option Address) :
    (ring.get owner interface requested).AsksOnly allowed := by
  cases requested with
  | some address => exact get_some_asksOnly permitted.lock (permitted.reserve address)
  | none =>
    refine ⟨permitted.lock, fun locked => ?_⟩
    cases locked with
    | error => trivial
    | ok => exact getNext_asksOnly permitted

theorem get_asksOnly : (ring.get owner interface none).AsksOnly allowed :=
  anyGet_asksOnly permitted none

theorem lookup_asksOnly : (ring.lookup owner interface).AsksOnly allowed := by
  refine ⟨permitted.lock, fun locked => ?_⟩
  cases locked with
  | error => trivial
  | ok =>
    refine (reservationsOf_asksOnly permitted.listing owner).bind fun listed => ?_
    cases listed <;> trivial

end Scans

/-! ## Releases and sweeps -/

theorem release_asksOnly (ring : Ring) (lock : allowed .lock)
    (release : allowed (.releaseByOwner owner)) : (ring.release owner).AsksOnly allowed := by
  refine ⟨lock, fun locked => ?_⟩
  cases locked with
  | error => trivial
  | ok =>
    refine ⟨release, fun released => ?_⟩
    cases released <;> trivial

end Ring

theorem sweepThrough_asksOnly (release : ∀ address, allowed (.release address))
    (live : List String) (reservations : List Reservation) :
    (sweepThrough live reservations).AsksOnly allowed := by
  induction reservations with
  | nil => trivial
  | cons first rest ih =>
    rw [sweepThrough]
    split
    · refine ih.bind fun report => ?_
      cases report <;> trivial
    · refine ⟨release _, fun released => ?_⟩
      cases released with
      | error => trivial
      | ok gone =>
        show Program.AsksOnly allowed (sweepThrough live rest >>= _)
        refine ih.bind fun report => ?_
        cases report <;> trivial

theorem sweep_asksOnly (lock : allowed .lock) (listing : allowed .reservations)
    (release : ∀ address, allowed (.release address)) (live : List String) :
    (sweep live).AsksOnly allowed := by
  refine ⟨lock, fun locked => ?_⟩
  cases locked with
  | error => trivial
  | ok =>
    refine ⟨listing, fun listed => ?_⟩
    cases listed with
    | error => trivial
    | ok found => exact sweepThrough_asksOnly release live found

end AddressPool
