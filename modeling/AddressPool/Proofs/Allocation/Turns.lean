import AddressPool.Proofs.Allocation.Ownership
import AddressPool.Proofs.Allocation.Succession

/-!
# Turns of the ring

A scan that hands out an address leaves the cursor on it, so that the next scan of the
ring comes to this address last of all.  What happens in between does not bring it
nearer: the cursor moves only when a scan hands out an address, and an address that
stays free all the while keeps its place in front (`Site.Does.ahead`).

So a scan hands out the same address again only after every other address of the ring
has been reserved at some moment since (`reused_after_turn`).
-/

namespace AddressPool

set_option autoImplicit false

namespace Ring

variable {ring : Ring} {memory : Memory} {address other : Address}

/-- The walk behind the cursor comes to one address before it comes to another. -/
def Ahead (ring : Ring) (memory : Memory) (first second : Address) : Prop :=
  ∃ cursor front middle back, memory.cursors.lookup ring.id = some cursor ∧
    ring.circuit (some cursor) = front ++ first :: (middle ++ second :: back)

/-- Behind a usable address the walk comes to every other one before it returns. -/
theorem ahead_of_cursor (moved : memory.cursors.lookup ring.id = some address)
    (usable : ring.contains address = true) (also : ring.contains other = true)
    (different : other ≠ address) : ring.Ahead memory other address := by
  have listed : address ∈ ring.circuit none := mem_circuit.mpr usable
  obtain ⟨before, after, split⟩ := List.append_of_mem listed
  have turn := circuit_some_of_split split
  have member : other ∈ after ++ before ++ [address] := turn ▸ mem_circuit.mpr also
  rcases List.mem_append.mp member with passed | last
  · obtain ⟨front, middle, shape⟩ := List.append_of_mem passed
    refine ⟨address, front, middle, [], moved, ?_⟩
    rw [turn, shape, List.append_assoc, List.cons_append]
  · exact absurd (List.mem_singleton.mp last) different

/-- A scan hands out a free address that lies ahead, or one that comes before it. -/
theorem next_of_split {front back : List Address} {next : Address}
    (split : ring.circuit (memory.cursors.lookup ring.id) = front ++ other :: back)
    (available : ring.isAvailable memory other = true)
    (found : (ring.candidates (memory.cursors.lookup ring.id)).find? (ring.isAvailable memory) =
      some next) : next = other ∨ next ∈ front := by
  rw [candidates_eq_circuit, split, List.find?_append] at found
  cases early : front.find? (ring.isAvailable memory) with
  | some first =>
    rw [early, Option.some_or] at found
    obtain rfl := Option.some.inj found
    exact .inr (List.mem_of_find?_eq_some early)
  | none =>
    rw [early, Option.none_or, List.find?_cons_of_pos (by exact available)] at found
    exact .inl (Option.some.inj found).symm

/-- While a free address is ahead of another one, no scan hands out the other. -/
theorem Ahead.next_ne (ahead : ring.Ahead memory other address)
    (available : ring.isAvailable memory other = true) {next : Address}
    (found : (ring.candidates (memory.cursors.lookup ring.id)).find? (ring.isAvailable memory) =
      some next) : next ≠ address := by
  obtain ⟨cursor, front, middle, back, moved, split⟩ := ahead
  have nodup := ring.nodup_circuit (some cursor)
  rw [split, List.nodup_append, List.nodup_cons] at nodup
  obtain ⟨_, ⟨distinct, _⟩, apart⟩ := nodup
  have there : address ∈ middle ++ address :: back :=
    List.mem_append_right _ (List.mem_cons_self ..)
  rw [← moved] at split
  rintro rfl
  rcases next_of_split split available found with rfl | early
  · exact distinct there
  · exact apart next early next (List.mem_cons_of_mem _ there) rfl

/-- Where the scan goes on, what is ahead stays so. -/
theorem Ahead.handOut {owner interface : String} (ahead : ring.Ahead memory other address)
    (available : ring.isAvailable memory other = true) {next : Address} (different : next ≠ other)
    (found : (ring.candidates (memory.cursors.lookup ring.id)).find? (ring.isAvailable memory) =
      some next) : ring.Ahead (ring.handOut memory owner interface next) other address := by
  obtain ⟨cursor, front, middle, back, moved, split⟩ := ahead
  have shape := split
  rw [← moved] at shape
  have early := (next_of_split shape available found).resolve_left different
  obtain ⟨passed, further, rfl⟩ := List.append_of_mem early
  rw [List.append_assoc, List.cons_append] at split
  refine ⟨next, further, middle, back ++ passed ++ [next], ?_, ?_⟩
  · rw [Ring.handOut, Memory.lookup_putCursor, if_pos rfl]
  · rw [circuit_some_of_split split]
    simp only [List.append_assoc, List.cons_append]

end Ring

/-! ## Runs of calls -/

/-- A call that moves no cursor of the ring's identifier, unless it asks for an address of this
very ring. -/
def Call.LeavesCursor (ring : Ring) : Call → Prop
  | .get other _ _ _ => other.id = ring.id → other = ring
  | _ => True

namespace Site

variable {site : Site} {ring : Ring} {memory after : Memory} {address other : Address}

/-- A scan of the ring reserves an address that has been free. -/
def ScansAnew (site : Site) (ring : Ring) (call : Call) (address : Address) : Prop :=
  ∃ owner interface allocation, call = .get ring owner interface none ∧
    (site.run (ring.get owner interface none)).1 = .ok allocation ∧
      allocation.address = address ∧ ¬ site.Reserved address

/-- A new address is the next one of the scan, and becomes the cursor. -/
theorem Holds.scansAnew (holds : site.Holds memory) {call : Call}
    (scans : site.ScansAnew ring call address) :
    (ring.candidates (memory.cursors.lookup ring.id)).find? (ring.isAvailable memory) =
        some address ∧
      ∃ after, (site.call call).Holds after ∧ after.cursors.lookup ring.id = some address := by
  obtain ⟨owner, interface, allocation, rfl, granted, rfl, unreserved⟩ := scans
  obtain ⟨after, run, held⟩ := holds.run (ring.get owner interface none)
  have outcome := Ring.get_cases run
  rw [granted] at outcome
  cases outcome with
  | again again =>
    have found := (Ring.find?_of_heldFor again).1
    rw [holds.not_reserved_iff.mp unreserved] at found
    cases found
  | scanned _ _ next =>
    refine ⟨next, _, held, ?_⟩
    rw [Ring.handOut, Memory.lookup_putCursor, if_pos rfl]

/-- **An address that is free and ahead of another one stays ahead of it through every call.** -/
theorem Does.ahead {call : Call} (does : site.Does memory call after)
    (leaves : call.LeavesCursor ring) (ahead : ring.Ahead memory other address)
    (usable : ring.contains other = true) (free : memory.find? other = none)
    (still : after.find? other = none) : ring.Ahead after other address := by
  cases does with
  | other thinned =>
    rw [Ring.Ahead, thinned.cursors]
    exact ahead
  | @get asked _ _ _ _ _ _ outcome =>
    cases outcome with
    | failed | again | owned => exact ahead
    | reserved => exact ahead
    | scanned _ _ next =>
      by_cases same : asked.id = ring.id
      · obtain rfl := leaves same
        refine ahead.handOut ?_ ?_ next
        · rw [Ring.isAvailable, usable, Bool.true_and]
          exact Memory.isFree_iff.mpr free
        · rintro rfl
          rw [Ring.find?_handOut, if_pos rfl] at still
          cases still
      · obtain ⟨cursor, front, middle, back, moved, split⟩ := ahead
        refine ⟨cursor, front, middle, back, ?_, split⟩
        rw [Ring.handOut, Memory.lookup_putCursor, if_neg fun equal => same equal.symm]
        exact moved

/-- What stays free through a run of calls stays ahead of what it is ahead of. -/
theorem Holds.callAll_ahead (holds : site.Holds memory) {calls : List Call}
    (leave : ∀ call ∈ calls, call.LeavesCursor ring) (ahead : ring.Ahead memory other address)
    (usable : ring.contains other = true)
    (idle : ∀ front back, calls = front ++ back → ¬ (site.callAll front).Reserved other) :
    ∃ after, (site.callAll calls).Holds after ∧ ring.Ahead after other address := by
  induction calls generalizing site memory with
  | nil => exact ⟨memory, holds, ahead⟩
  | cons call rest ih =>
    obtain ⟨middle, held, does⟩ := holds.call call
    have free := holds.not_reserved_iff.mp (idle [] (call :: rest) rfl)
    have still := held.not_reserved_iff.mp (idle [call] rest rfl)
    have further := does.ahead (leave call (List.mem_cons_self ..)) ahead usable free still
    refine ih held ?_ further ?_
    · intro next member
      exact leave next (List.mem_cons_of_mem _ member)
    · intro front back shape
      exact idle (call :: front) back (congrArg (call :: ·) shape)

end Site

/-- **An address is scanned again only after a turn of the ring.**

On a store that was in memory with any content, or on disk with an empty directory, a
scan of a ring reserves an address anew, and a later scan of the ring reserves it anew
once more, while no other ring is scanned under the same identifier.  Then every other
usable address of the ring has been reserved at some moment between the two scans. -/
theorem reused_after_turn {site : Site} (begun : site.Begun) {ring : Ring}
    (before between : List Call) {first second : Call} {address other : Address}
    (scanned : (site.callAll before).ScansAnew ring first address)
    (leave : ∀ call ∈ between, call.LeavesCursor ring)
    (rescanned : (site.callAll (before ++ first :: between)).ScansAnew ring second address)
    (usable : ring.contains other = true) (different : other ≠ address) :
    ∃ front back, between = front ++ back ∧
      (site.callAll (before ++ first :: front)).Reserved other := by
  by_contra never
  have behind : ∀ calls, site.callAll (before ++ first :: calls) =
      ((site.callAll before).call first).callAll calls := by
    intro calls
    simp only [Site.callAll, List.foldl_append, List.foldl_cons]
  have idle : ∀ front back, between = front ++ back →
      ¬ (((site.callAll before).call first).callAll front).Reserved other := by
    intro front back shape reserved
    rw [← behind] at reserved
    exact never ⟨front, back, shape, reserved⟩
  obtain ⟨memory, holds⟩ := ((Site.Written.begun begun).callAll before).holds
  obtain ⟨next, middle, held, moved⟩ := holds.scansAnew scanned
  have listed := List.find?_some next
  rw [Ring.isAvailable, Bool.and_eq_true] at listed
  have ahead := Ring.ahead_of_cursor moved listed.1 usable different
  obtain ⟨after, still, finally_ahead⟩ := held.callAll_ahead leave ahead usable idle
  rw [behind] at rescanned
  have available : ring.isAvailable after other = true := by
    rw [Ring.isAvailable, usable, Bool.true_and, Memory.isFree_iff]
    exact still.not_reserved_iff.mp (idle between [] (List.append_nil _).symm)
  exact finally_ahead.next_ne available (still.scansAnew rescanned).1 rfl

/-- Two addresses of a ring are left.  One of them is scanned, is swept away when the other one has
been scanned, and is scanned again. -/
theorem reused_after_turn_slash29 :
    let before : List Call := [.get .slash29 "x" "0" (some (.v4 0x0a000004)),
      .get .slash29 "x" "1" (some (.v4 0x0a000005)), .get .slash29 "x" "2" (some (.v4 0x0a000006))]
    let between : List Call := [.get .slash29 "b" "eth0" none, .sweep ["b", "x"]]
    let scan : Call := .get .slash29 "a" "eth0" none
    Site.vacantNet.Begun ∧
      (Site.vacantNet.callAll before).ScansAnew .slash29 scan (.v4 0x0a000002) ∧
      (Site.vacantNet.callAll (before ++ scan :: between)).ScansAnew .slash29 scan
        (.v4 0x0a000002) ∧
      ∃ front back, between = front ++ back ∧
        (Site.vacantNet.callAll (before ++ scan :: front)).Reserved (.v4 0x0a000003) := by
  intro before between scan
  let allocation : Allocation :=
    ⟨.v4 0x0a000002, ⟨.v4 0x0a000000, 29, by decide⟩, .v4 0x0a000001⟩
  let others : List Reservation :=
    [⟨.v4 0x0a000004, "x", "0"⟩, ⟨.v4 0x0a000005, "x", "1"⟩, ⟨.v4 0x0a000006, "x", "2"⟩]
  have first : (Site.vacantNet.callAll before).ScansAnew .slash29 scan (.v4 0x0a000002) := by
    have granted : ((Site.vacantNet.callAll before).run (Ring.slash29.get "a" "eth0" none)).1 =
        .ok allocation := by decide +kernel
    have listed : ((Site.vacantNet.callAll before).run StoreRequest.reservations.ask).1 =
        .ok others := by decide +kernel
    exact ⟨_, _, _, rfl, granted, rfl, Site.not_reserved_of_listed listed (by decide)⟩
  have second : (Site.vacantNet.callAll (before ++ scan :: between)).ScansAnew .slash29 scan
      (.v4 0x0a000002) := by
    have granted : ((Site.vacantNet.callAll (before ++ scan :: between)).run
        (Ring.slash29.get "a" "eth0" none)).1 = .ok allocation := by decide +kernel
    have listed : ((Site.vacantNet.callAll (before ++ scan :: between)).run
        StoreRequest.reservations.ask).1 =
          .ok (⟨.v4 0x0a000003, "b", "eth0"⟩ :: others) := by decide +kernel
    exact ⟨_, _, _, rfl, granted, rfl, Site.not_reserved_of_listed listed (by decide)⟩
  have leave : ∀ call ∈ between, call.LeavesCursor .slash29 := by
    intro call member
    rcases List.mem_cons.mp member with rfl | member
    · intro _
      rfl
    · obtain rfl := List.mem_singleton.mp member
      trivial
  exact ⟨Site.begun_vacantNet, first, second,
    reused_after_turn Site.begun_vacantNet before between first leave second rfl (by decide)⟩

end AddressPool
