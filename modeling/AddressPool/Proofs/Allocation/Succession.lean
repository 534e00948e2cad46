import AddressPool.Proofs.Allocation.Outcome
import AddressPool.Proofs.Ring.Circuit
import AddressPool.Proofs.Store.Site

/-!
# Scans in succession

When owners that hold nothing come one after the other for an address, they get the
free addresses of the ring in the order of the walk behind the cursor, each of them
the next one, until there are none left (`successive_scans`).  Each scan starts anew
from the cursor that the scan before it has left; it comes to the next free address
all the same, because what the walk passes first is taken (`Ring.free_handOut`).
-/

namespace AddressPool

set_option autoImplicit false

namespace Ring

variable {ring : Ring} {owner interface : String} {address : Address}
variable {refuses : StoreRequest → Prop} {memory after : Memory}
variable {result : Except AllocationError Allocation}

/-! ## Free addresses -/

/-- The addresses that nobody holds, in the order of the walk behind the cursor. -/
def free (ring : Ring) (memory : Memory) : List Address :=
  (ring.candidates (memory.cursors.lookup ring.id)).filter memory.isFree

theorem nodup_free (ring : Ring) (memory : Memory) : (ring.free memory).Nodup := by
  rw [free, candidates_eq_circuit]
  exact (ring.nodup_circuit _).filter _

/-- What a scan comes upon first is the first free address. -/
theorem find?_isAvailable (ring : Ring) (memory : Memory) :
    (ring.candidates (memory.cursors.lookup ring.id)).find? (ring.isAvailable memory) =
      (ring.free memory).head? := by
  rw [free, ← List.head?_filter]
  congr 1
  refine List.filter_congr fun address member => ?_
  rw [candidates_eq_circuit] at member
  rw [isAvailable, mem_circuit.mp member, Bool.true_and]

theorem isFree_handOut (ring : Ring) (memory : Memory) (owner interface : String)
    (address other : Address) :
    (ring.handOut memory owner interface address).isFree other =
      (decide (other ≠ address) && memory.isFree other) := by
  rw [Memory.isFree, find?_handOut, Memory.isFree]
  by_cases same : other = address
  · simp [same]
  · simp [same]

/-- **Behind the first free address come the others.** -/
theorem free_handOut {rest : List Address} (shape : ring.free memory = address :: rest)
    (owner interface : String) :
    ring.free (ring.handOut memory owner interface address) = rest := by
  have nodup := ring.nodup_circuit (memory.cursors.lookup ring.id)
  rw [free, candidates_eq_circuit] at shape
  obtain ⟨before, behind, split, taken, _, later⟩ := List.filter_eq_cons_iff.mp shape
  have cursor : (ring.handOut memory owner interface address).cursors.lookup ring.id =
      some address := by
    rw [handOut, Memory.lookup_putCursor, if_pos rfl]
  rw [split, List.nodup_append, List.nodup_cons] at nodup
  -- The walk passes what comes behind the address, then what has been passed before.
  rw [free, cursor, candidates_eq_circuit, circuit_some_of_split split, List.filter_append,
    List.filter_append]
  have onward : behind.filter (ring.handOut memory owner interface address).isFree = rest := by
    rw [← later]
    refine List.filter_congr fun other member => ?_
    have different : other ≠ address := by
      rintro rfl
      exact nodup.2.1.1 member
    rw [isFree_handOut, decide_eq_true different, Bool.true_and]
  have passed : before.filter (ring.handOut memory owner interface address).isFree = [] := by
    rw [List.filter_eq_nil_iff]
    intro other member
    rw [isFree_handOut, Bool.and_eq_true, not_and]
    intro _
    exact taken other member
  have own : [address].filter (ring.handOut memory owner interface address).isFree = [] := by
    rw [List.filter_eq_nil_iff]
    intro other member
    rw [List.mem_singleton.mp member, isFree_handOut]
    simp
  rw [onward, passed, own, List.append_nil, List.append_nil]

/-! ## Owners without an address -/

/-- An owner that holds no address of the ring for an interface. -/
def Waiting (ring : Ring) (memory : Memory) (caller : String × String) : Prop :=
  ∀ reservation ∈ memory.reservations, reservation.owner = caller.1 →
    reservation.interface = caller.2 → ring.contains reservation.address = false

theorem Waiting.heldFor_eq_nil (waiting : ring.Waiting memory (owner, interface)) :
    ring.heldFor interface (memory.ownedBy owner) = [] := by
  rw [List.eq_nil_iff_forall_not_mem]
  intro allocation member
  obtain ⟨reservation, owned, same, found⟩ := mem_heldFor.mp member
  obtain ⟨listed, own⟩ := Memory.mem_ownedBy.mp owned
  have usable := isSome_allocation? ring reservation.address
  rw [found, waiting reservation listed own same] at usable
  cases usable

/-- Who waits goes on waiting while another one is served. -/
theorem Waiting.handOut {caller : String × String} (waiting : ring.Waiting memory caller)
    (different : (owner, interface) ≠ caller) (address : Address) :
    ring.Waiting (ring.handOut memory owner interface address) caller := by
  intro reservation member own same
  rcases Memory.mem_put.mp member with rfl | ⟨listed, _⟩
  · exact absurd (Prod.ext own same) different
  · exact waiting reservation listed own same

/-! ## One scan -/

/-- A scan for an owner that waits, which the store does not refuse to serve, hands out the first
free address. -/
theorem get_waiting (willing : ∀ request, ring.Asks owner interface request → ¬ refuses request)
    (waiting : ring.Waiting memory (owner, interface))
    (run : StoreRun refuses (ring.get owner interface none) memory result after) :
    ring.Scanned owner interface memory (ring.free memory).head? result after := by
  have served : ¬ ring.Fails owner interface refuses memory result after := by
    rintro ⟨_, ⟨request, asks, refuse⟩, _⟩
    exact willing request asks refuse
  have held : (ring.heldFor interface (memory.ownedBy owner)).head? = none := by
    rw [waiting.heldFor_eq_nil]
    rfl
  have next := (get_outcome run).resolve_left fun failed => served failed.2
  rcases getNext_outcome next with ⟨allocation, found, _⟩ | ⟨_, failed | scanned⟩
  · rw [held] at found
    cases found
  · exact absurd failed served
  · rwa [find?_isAvailable] at scanned

/-! ## Scans one after the other -/

/-- What a store holds when addresses have been handed out to callers, one to each in turn. -/
def serve (ring : Ring) (memory : Memory) (callers : List (String × String))
    (addresses : List Address) : Memory :=
  (callers.zip addresses).foldl
    (fun memory served => ring.handOut memory served.1.1 served.1.2 served.2) memory

end Ring

namespace Site

variable {site : Site} {ring : Ring} {memory : Memory}

/-- The site behind the scans of some callers. -/
def afterScans (site : Site) (ring : Ring) (callers : List (String × String)) : Site :=
  callers.foldl (fun site caller => (site.run (ring.get caller.1 caller.2 none)).2) site

/-- The addresses that the scans of some callers hand out. -/
def handedOut (site : Site) (ring : Ring) : List (String × String) → List Address
  | [] => []
  | caller :: rest =>
    match site.run (ring.get caller.1 caller.2 none) with
    | (.ok allocation, next) => allocation.address :: next.handedOut ring rest
    | (.error _, next) => next.handedOut ring rest

/-- The store of a site serves a caller. -/
def Willing (site : Site) (ring : Ring) (caller : String × String) : Prop :=
  ∀ request, ring.Asks caller.1 caller.2 request → ¬ site.Refuses request

theorem Willing.run {α : Type} {caller : String × String} (willing : site.Willing ring caller)
    (program : StoreProgram α) : (site.run program).2.Willing ring caller := by
  rw [Willing, refuses_run]
  exact willing

/-- A store in memory serves everybody, one on disk those whose texts it can keep. -/
theorem willing_of_unbroken {caller : String × String}
    (suited : ∀ disk, site.backend = .disk disk → Roomy disk.directory ∧ ShortId ring.id)
    (unbroken : Disk.brokenField? caller.1 caller.2 = none) : site.Willing ring caller := by
  intro request asks
  rw [Refuses]
  cases stands : site.backend with
  | memory => exact id
  | disk disk =>
    obtain ⟨roomy, short⟩ := suited disk stands
    refine Disk.not_refuses roomy ?_
    cases asks with
    | lock => trivial
    | cursor => exact short
    | reserve => exact unbroken
    | setCursor => exact short

/-- One scan takes one free address. -/
theorem Holds.scan (holds : site.Holds memory) {caller : String × String}
    (willing : site.Willing ring caller) (waiting : ring.Waiting memory caller) :
    ∃ after, (site.run (ring.get caller.1 caller.2 none)).2.Holds after ∧
      ring.Scanned caller.1 caller.2 memory (ring.free memory).head?
        (site.run (ring.get caller.1 caller.2 none)).1 after := by
  obtain ⟨after, run, held⟩ := holds.run (ring.get caller.1 caller.2 none)
  exact ⟨after, held, Ring.get_waiting willing waiting run⟩

section HandedOut

variable {caller : String × String} {rest : List (String × String)}

theorem handedOut_of_ok {allocation : Allocation}
    (granted : (site.run (ring.get caller.1 caller.2 none)).1 = .ok allocation) :
    site.handedOut ring (caller :: rest) =
      allocation.address :: (site.run (ring.get caller.1 caller.2 none)).2.handedOut ring rest := by
  rw [handedOut]
  generalize site.run (ring.get caller.1 caller.2 none) = reply at granted ⊢
  obtain ⟨result, next⟩ := reply
  obtain rfl : result = .ok allocation := granted
  rfl

theorem handedOut_of_error {error : AllocationError}
    (refused : (site.run (ring.get caller.1 caller.2 none)).1 = .error error) :
    site.handedOut ring (caller :: rest) =
      (site.run (ring.get caller.1 caller.2 none)).2.handedOut ring rest := by
  rw [handedOut]
  generalize site.run (ring.get caller.1 caller.2 none) = reply at refused ⊢
  obtain ⟨result, next⟩ := reply
  obtain rfl : result = .error error := refused
  rfl

end HandedOut

/-- The scans of some callers have taken as many free addresses, as long as there were any, in
their order, and have left the others to those who go on waiting. -/
structure Passed (site : Site) (ring : Ring) (memory : Memory)
    (callers : List (String × String)) : Prop where
  handed : site.handedOut ring callers = (ring.free memory).take callers.length
  holds : (site.afterScans ring callers).Holds (ring.serve memory callers (ring.free memory))
  left : ring.free (ring.serve memory callers (ring.free memory)) =
    (ring.free memory).drop callers.length
  willing : ∀ other, site.Willing ring other → (site.afterScans ring callers).Willing ring other
  waiting : ∀ other ∉ callers, ring.Waiting memory other →
    ring.Waiting (ring.serve memory callers (ring.free memory)) other

theorem Holds.passed (holds : site.Holds memory) {callers : List (String × String)}
    (nodup : callers.Nodup) (willing : ∀ caller ∈ callers, site.Willing ring caller)
    (waiting : ∀ caller ∈ callers, ring.Waiting memory caller) :
    Passed site ring memory callers := by
  induction callers generalizing site memory with
  | nil => exact ⟨rfl, holds, rfl, fun _ same => same, fun _ _ same => same⟩
  | cons caller rest ih =>
    obtain ⟨absent, distinct⟩ := List.nodup_cons.mp nodup
    have further : ∀ other ∈ rest,
        (site.run (ring.get caller.1 caller.2 none)).2.Willing ring other := by
      intro other member
      exact (willing other (List.mem_cons_of_mem _ member)).run _
    obtain ⟨after, held, scanned⟩ := holds.scan (willing caller (List.mem_cons_self ..))
      (waiting caller (List.mem_cons_self ..))
    cases shape : ring.free memory with
    | nil =>
      rw [shape] at scanned
      obtain ⟨refused, rfl⟩ := scanned
      have later := ih held distinct further fun other member =>
        waiting other (List.mem_cons_of_mem _ member)
      have handed := later.handed
      have last := later.holds
      have waits := later.waiting
      rw [shape, List.take_nil] at handed
      rw [shape, Ring.serve, List.zip_nil_right] at last waits
      refine ⟨?_, ?_, ?_, fun other same => later.willing other (same.run _), ?_⟩ <;> rw [shape]
      · rw [handedOut_of_error refused, handed, List.take_nil]
      · exact last
      · exact shape
      · intro other missing
        exact waits other fun member => missing (List.mem_cons_of_mem _ member)
    | cons address others =>
      rw [shape] at scanned
      obtain ⟨⟨allocation, usable, granted⟩, rfl⟩ := scanned
      have left := Ring.free_handOut shape caller.1 caller.2
      have waits_on : ∀ other ≠ caller, ring.Waiting memory other →
          ring.Waiting (ring.handOut memory caller.1 caller.2 address) other := by
        intro other different waits
        exact waits.handOut (Ne.symm different) address
      have later := ih held distinct further fun other member =>
        waits_on other (fun same => absent (same ▸ member))
          (waiting other (List.mem_cons_of_mem _ member))
      have handed := later.handed
      have last := later.holds
      have rest_free := later.left
      have waits := later.waiting
      rw [left] at handed last rest_free waits
      refine ⟨?_, ?_, ?_, fun other same => later.willing other (same.run _), ?_⟩ <;> rw [shape]
      · rw [handedOut_of_ok granted, handed, Ring.address_of_allocation? usable,
          List.length_cons, List.take_succ_cons]
      · exact last
      · exact rest_free
      · intro other missing before
        obtain ⟨different, elsewhere⟩ := not_or.mp (mt List.mem_cons.mpr missing)
        exact waits other elsewhere (waits_on other different before)

end Site

/-- **Scans in succession make one pass over the ring.**

Behind any programs on a store, in memory or on disk, callers that hold no address of a
ring scan it one after the other.  While there are free addresses in the walk behind the
cursor each caller gets and reserves the next one; all later callers are told that the
ring is exhausted, and nothing changes.  So what is handed out are the first free
addresses, as many as there are callers, no matter who comes first. -/
theorem successive_scans {site : Site} (written : site.Written) :
    (∃ memory, site.Holds memory) ∧
      ∀ (memory : Memory) (ring : Ring) (callers : List (String × String)), site.Holds memory →
        (∀ disk, site.backend = .disk disk → Roomy disk.directory ∧ ShortId ring.id) →
        (∀ caller ∈ callers, Disk.brokenField? caller.1 caller.2 = none) →
        callers.Nodup → (∀ caller ∈ callers, ring.Waiting memory caller) →
          (∀ count caller, callers[count]? = some caller →
            let here := site.afterScans ring (callers.take count)
            let content := ring.serve memory (callers.take count) (ring.free memory)
            let reply := here.run (ring.get caller.1 caller.2 none)
            here.Holds content ∧
              match (ring.free memory)[count]? with
              | some address =>
                (∃ allocation, ring.allocation? address = some allocation ∧
                    allocation.address = address ∧ reply.1 = .ok allocation) ∧
                  reply.2.Holds (ring.handOut content caller.1 caller.2 address)
              | none =>
                reply.1 = .error (.addressesExhausted ring.network) ∧ reply.2.Holds content) ∧
          site.handedOut ring callers = (ring.free memory).take callers.length ∧
          (site.handedOut ring callers).length = min callers.length (ring.free memory).length ∧
          (site.handedOut ring callers).Nodup ∧
          ∀ order : List (String × String), order.Perm callers →
            site.handedOut ring order = site.handedOut ring callers := by
  refine ⟨written.holds, fun memory ring callers holds suited unbroken nodup waiting => ?_⟩
  have willing : ∀ caller ∈ callers, site.Willing ring caller := by
    intro caller member
    exact Site.willing_of_unbroken suited (unbroken caller member)
  have handed := (holds.passed nodup willing waiting).handed
  refine ⟨?_, handed, ?_, ?_, fun order perm => ?_⟩
  · intro count caller found here content reply
    have turn : caller ∈ callers := List.mem_of_getElem? found
    have earlier : ∀ other ∈ callers.take count, other ∈ callers := by
      intro other member
      exact List.mem_of_mem_take member
    have absent : caller ∉ callers.take count := by
      have first : (callers.drop count)[0]? = some caller := by rw [List.getElem?_drop]; exact found
      rw [← List.take_append_drop count callers, List.nodup_append] at nodup
      intro member
      exact nodup.2.2 caller member caller (List.mem_of_getElem? first) rfl
    have passed := holds.passed (nodup.sublist (List.take_sublist ..))
      (fun other member => willing other (earlier other member))
      (fun other member => waiting other (earlier other member))
    obtain ⟨after, behind, scanned⟩ := passed.holds.scan
      (passed.willing caller (willing caller turn))
      (passed.waiting caller absent (waiting caller turn))
    have bound : count ≤ callers.length := by
      obtain ⟨short, _⟩ := List.getElem?_eq_some_iff.mp found
      exact Nat.le_of_lt short
    rw [passed.left, List.length_take, Nat.min_eq_left bound, List.head?_drop] at scanned
    refine ⟨passed.holds, ?_⟩
    cases next : (ring.free memory)[count]? with
    | none =>
      rw [next] at scanned
      obtain ⟨told, rfl⟩ := scanned
      exact ⟨told, behind⟩
    | some address =>
      rw [next] at scanned
      obtain ⟨⟨allocation, usable, told⟩, rfl⟩ := scanned
      exact ⟨⟨allocation, usable, Ring.address_of_allocation? usable, told⟩, behind⟩
  · rw [handed, List.length_take]
  · rw [handed]
    exact (ring.nodup_free memory).sublist (List.take_sublist ..)
  · have passed := holds.passed (perm.nodup_iff.mpr nodup)
      (fun caller member => willing caller (perm.mem_iff.mp member))
      (fun caller member => waiting caller (perm.mem_iff.mp member))
    rw [handed, passed.handed, perm.length_eq]

/-- Six callers come to the five free addresses of a ring, on disk. -/
theorem successive_scans_slash29 :
    Site.vacantNet.handedOut .slash29
        [("f", "x"), ("e", "x"), ("a", "x"), ("a", "y"), ("b", "x"), ("c", "x")] =
      [.v4 0x0a000002, .v4 0x0a000003, .v4 0x0a000004, .v4 0x0a000005, .v4 0x0a000006] := by
  have suited : ∀ disk, Site.vacantNet.backend = .disk disk →
      Roomy disk.directory ∧ ShortId Ring.slash29.id := by
    rintro _ ⟨⟩
    exact ⟨Site.roomy_vacantNet, by decide⟩
  have waiting : ∀ caller, Ring.slash29.Waiting .empty caller := by
    intro caller reservation member
    exact absurd member List.not_mem_nil
  have scans := (successive_scans (.begun Site.begun_vacantNet)).2 .empty .slash29
    [("f", "x"), ("e", "x"), ("a", "x"), ("a", "y"), ("b", "x"), ("c", "x")]
    Site.holds_vacantNet suited (by decide) (by decide) fun caller _ => waiting caller
  rw [scans.2.1]
  rfl

end AddressPool
