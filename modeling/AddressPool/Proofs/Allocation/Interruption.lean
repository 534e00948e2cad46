import AddressPool.Proofs.Store.Interrupted

/-!
# Calls that are interrupted

A scan that is interrupted has reserved the next available address or it has done nothing;
the address is the cursor by then or it is not yet (`Ring.get_interrupted`).  A release or
a sweep that is interrupted has taken away some of the reservations that it is to take away
(`Ring.release_interrupted`, `sweep_interrupted`).

In every case each address is as it was before the call, or as it is behind the call when
nothing interrupts it (`Memory.Between`).  A release and a sweep that are made again take
away what is left, so that the store holds what it would hold if nothing had interrupted
the first one (`Memory.Thinned.keep_eq`).
-/

namespace AddressPool

set_option autoImplicit false

variable {refuses : StoreRequest → Prop} {memory content : Memory} {address : Address}

/-! ## Between two contents of a store -/

/-- Each address is as in the first or as in the second one of two stores. -/
def Memory.Between (first second content : Memory) : Prop :=
  ∀ address, content.find? address = first.find? address ∨
    content.find? address = second.find? address

namespace Memory.Thinned

variable {doomed : String → Prop} {wanted : Reservation → Bool}

/-- Where some of the doomed reservations are left, each address is as with all of them or as with
none of them. -/
theorem between (thinned : memory.Thinned doomed content)
    (gone : ∀ reservation, doomed reservation.owner → wanted reservation = false) :
    memory.Between (memory.keep wanted) content := by
  intro address
  cases found : memory.find? address with
  | none =>
    obtain ⟨spared, rfl, _⟩ := thinned
    rw [Memory.find?_keep, found]
    exact .inl rfl
  | some reservation =>
    refine (thinned.find? found).imp_right ?_
    rintro ⟨dead, absent⟩
    rw [absent, Memory.find?_keep, found, Option.filter_some, gone reservation dead]
    rfl

/-- It makes no difference to what is left in the end if some of the doomed reservations have been
taken away before. -/
theorem keep_eq (thinned : memory.Thinned doomed content)
    (gone : ∀ reservation, doomed reservation.owner → wanted reservation = false) :
    content.keep wanted = memory.keep wanted := by
  obtain ⟨spared, rfl, alive⟩ := thinned
  rw [Memory.keep_keep]
  refine Memory.keep_congr fun reservation member => ?_
  cases here : wanted reservation with
  | false => exact Bool.and_false _
  | true =>
    rw [Bool.and_true]
    refine alive reservation member fun dead => ?_
    rw [gone reservation dead] at here
    cases here

end Memory.Thinned

/-! ## Scans -/

namespace Ring

variable {ring : Ring} {owner interface : String} {allocation : Allocation}

/-- What a store may hold when a scan is interrupted whose first available address is known. -/
inductive Begun (ring : Ring) (owner interface : String) (memory : Memory) (next : Option Address) :
    Memory → Prop where
  | unchanged : Begun ring owner interface memory next memory
  | recorded {address : Address} (here : next = some address) :
      Begun ring owner interface memory next (memory.put ⟨address, owner, interface⟩)
  | handedOut {address : Address} (here : next = some address) :
      Begun ring owner interface memory next (ring.handOut memory owner interface address)

/-- A new reservation is the cursor, or it is not yet, or it has been given up. -/
theorem advance_interrupted {next : Option Address} (free : memory.find? allocation.address = none)
    (here : next = some allocation.address)
    (interrupted : Interrupted refuses (ring.advance allocation)
      (memory.put ⟨allocation.address, owner, interface⟩) content) :
    ring.Begun owner interface memory next content := by
  rw [advance] at interrupted
  rcases interrupted.of_request (by simp) with rfl | ⟨_, _, moved, rest⟩
  · exact .recorded here
  rcases moved.setCursor with ⟨rfl, rfl⟩ | ⟨_, rfl, cause, rfl⟩
  · rw [rest.of_done]
    exact .handedOut here
  · rcases rest.of_request (by simp) with rfl | ⟨_, _, released, last⟩
    · exact .recorded here
    rw [last.of_done]
    rcases released.release with ⟨_, rfl⟩ | ⟨_, _, rfl, _⟩
    · rw [Memory.keep_put free]
      exact .unchanged
    · exact .recorded here

/-- A scan that is interrupted at an address has done nothing, or the address is available and is
being handed out, or it is not and the scan has gone on behind it. -/
theorem step_interrupted {remaining : Nat} {here : Address}
    (interrupted : Interrupted refuses (ring.scan owner interface (remaining + 1) (some here))
      memory content) :
    content = memory ∨
      ring.isAvailable memory here = true ∧ ring.Begun owner interface memory (some here) content ∨
      ring.isAvailable memory here = false ∧
        Interrupted refuses (ring.scan owner interface remaining (ring.successor here)) memory
          content := by
  have usable := isSome_allocation? ring here
  rw [scan] at interrupted
  cases found : ring.allocation? here with
  | none =>
    simp only [found] at interrupted
    rw [found] at usable
    exact .inr (.inr ⟨by rw [isAvailable, ← usable]; rfl, interrupted⟩)
  | some allocation =>
    simp only [found] at interrupted
    rw [found] at usable
    rcases interrupted.of_request (by simp) with rfl | ⟨_, _, reserved, rest⟩
    · exact .inl rfl
    rcases reserved.reserve with ⟨free, rfl, rfl⟩ | ⟨holder, held, same, reply⟩ |
      ⟨_, same, cause, outward, rfl⟩
    · have available : ring.isAvailable memory here = true := by
        rw [isAvailable, ← usable, Memory.isFree, free]
        rfl
      obtain rfl := address_of_allocation? found
      exact .inr (.inl ⟨available, advance_interrupted free rfl rest⟩)
    · have taken : ring.isAvailable memory here = false := by
        rw [isAvailable, Memory.isFree, held]
        exact Bool.and_false _
      rw [same] at rest
      rcases reply with ⟨_, rfl⟩ | ⟨_, rfl⟩
      · exact .inr (.inr ⟨taken, rest⟩)
      · exact .inr (.inr ⟨taken, rest⟩)
    · rw [same] at rest
      cases cause with
      | alreadyReserved other holder => exact absurd rfl (outward other holder)
      | lockTimeout | file | invalidNetworkName | invalidRecordField =>
        rw [rest.of_done]
        exact .inl rfl

/-- **A scan that is interrupted has reserved the first available address of its walk, or it has
done nothing.** -/
theorem scan_interrupted {remaining : Nat} {start : Option Address}
    (interrupted : Interrupted refuses (ring.scan owner interface remaining start) memory
      content) :
    ring.Begun owner interface memory
      ((ring.steps remaining ⟨start, remaining⟩).1.find? (ring.isAvailable memory)) content := by
  induction remaining generalizing start with
  | zero =>
    rw [scan] at interrupted
    rw [interrupted.of_done]
    exact .unchanged
  | succ remaining ih =>
    cases start with
    | none =>
      rw [scan] at interrupted
      · rw [interrupted.of_done]
        exact .unchanged
      · simp
    | some here =>
      have walk : (ring.steps (remaining + 1) ⟨some here, remaining + 1⟩).1 =
          here :: (ring.steps remaining ⟨ring.successor here, remaining⟩).1 := rfl
      rw [walk]
      rcases step_interrupted interrupted with rfl | ⟨available, begun⟩ | ⟨taken, further⟩
      · exact .unchanged
      · rw [List.find?_cons_of_pos available]
        exact begun
      · rw [List.find?_cons_of_neg (by simp [taken])]
        exact ih further

/-- The next address that a scan for an owner hands out, if it has to hand out one. -/
def next? (ring : Ring) (memory : Memory) (owner interface : String) : Option Address :=
  match (ring.heldFor interface (memory.ownedBy owner)).head? with
  | some _ => none
  | none => (ring.candidates (memory.cursors.lookup ring.id)).find? (ring.isAvailable memory)

/-- An owner that is to be handed out an address holds none. -/
theorem unheld_of_next? (next : ring.next? memory owner interface = some address) :
    (ring.heldFor interface (memory.ownedBy owner)).head? = none ∧
      (ring.candidates (memory.cursors.lookup ring.id)).find? (ring.isAvailable memory) =
        some address := by
  unfold next? at next
  split at next
  · cases next
  · rename_i unheld
    exact ⟨unheld, next⟩

theorem contains_of_next? (next : ring.next? memory owner interface = some address) :
    ring.contains address = true := by
  have available := List.find?_some (unheld_of_next? next).2
  rw [isAvailable, Bool.and_eq_true] at available
  exact available.1

/-- The next address is handed out when nothing interrupts the scan. -/
theorem get_run_of_next? (next : ring.next? memory owner interface = some address) :
    ∃ allocation, ring.allocation? address = some allocation ∧
      (ring.get owner interface none).run Memory.answer memory =
        (.ok allocation, ring.handOut memory owner interface address) := by
  obtain ⟨unheld, first⟩ := unheld_of_next? next
  have run := StoreRun.of_memory (fun _ => False) (ring.get owner interface none) memory
  have granted := (get_outcome run).resolve_left fun failed => failed.1
  rcases getNext_outcome granted with ⟨allocation, held, _⟩ | ⟨_, failed | scanned⟩
  · rw [unheld] at held
    cases held
  · obtain ⟨_, _, refuse⟩ := failed.refused
    exact refuse.elim
  · rw [first] at scanned
    obtain ⟨⟨allocation, offered, result⟩, left⟩ := scanned
    exact ⟨allocation, offered, Prod.ext result left⟩

/-- When a scan is interrupted, each address is as before or as behind the whole scan. -/
theorem Begun.between
    (begun : ring.Begun owner interface memory (ring.next? memory owner interface) content) :
    memory.Between ((ring.get owner interface none).run Memory.answer memory).2 content := by
  intro address
  cases begun with
  | unchanged => exact .inl rfl
  | recorded here | handedOut here =>
    obtain ⟨_, _, run⟩ := get_run_of_next? here
    rw [run]
    exact .inr rfl

/-- **Whoever is interrupted while asking for an address has got the next one, or the store is as
it was.** -/
theorem get_interrupted
    (interrupted : Interrupted refuses (ring.get owner interface none) memory content) :
    ring.Begun owner interface memory (ring.next? memory owner interface) content := by
  unfold Ring.get at interrupted
  rcases interrupted.of_lock fun _ => ⟨_, rfl⟩ with rfl | locked
  · exact .unchanged
  change Interrupted refuses (ring.getNext owner interface) memory content at locked
  rw [getNext] at locked
  rcases locked.of_andThen with listing | ⟨_, _, listed, further⟩
  · rcases listing.of_request (by simp) with rfl | ⟨_, _, told, last⟩
    · exact .unchanged
    obtain ⟨rfl, rfl⟩ := told.reservations
    rw [last.of_done]
    exact .unchanged
  obtain ⟨rfl, same⟩ := listed.of_reservationsOf
  rw [same] at further
  rw [next?]
  cases held : (ring.heldFor interface (memory.ownedBy owner)).head? with
  | some allocation =>
    simp only [held] at further
    rw [further.of_done]
    exact .unchanged
  | none =>
    simp only [held] at further
    rcases further.of_request (by simp) with rfl | ⟨_, _, read, last⟩
    · exact .unchanged
    obtain ⟨rfl, rfl | ⟨_, cause, rfl⟩⟩ := read.cursor
    · exact scan_interrupted last
    · rw [last.of_done]
      exact .unchanged

/-! ## Releases and sweeps -/

/-- What a release leaves when nothing interrupts it. -/
theorem release_run (ring : Ring) (owner : String) (memory : Memory) :
    ((ring.release owner).run Memory.answer memory).2 =
      memory.keep fun other => decide (other.owner ≠ owner) := rfl

/-- A release that is interrupted has taken away some addresses of its owner. -/
theorem release_interrupted
    (interrupted : Interrupted refuses (ring.release owner) memory content) :
    memory.Thinned (owner = ·) content := by
  rw [Ring.release] at interrupted
  rcases interrupted.of_lock fun _ => ⟨_, rfl⟩ with rfl | locked
  · exact .refl ..
  change Interrupted refuses (.ask (.releaseByOwner owner) _) memory content at locked
  cases locked with
  | here => exact .refl ..
  | within thinned => exact thinned
  | later released last =>
    obtain ⟨⟨count, rfl⟩, rfl⟩ := released.releaseByOwner
    rw [last.of_done]
    refine ⟨_, rfl, fun reservation _ alive => ?_⟩
    exact decide_eq_true fun own => alive own.symm

end Ring

/-- What a sweep leaves when nothing interrupts it. -/
theorem sweep_run (live : List String) (memory : Memory) :
    ((sweep live).run Memory.answer memory).2 =
      memory.keep fun other => live.contains other.owner := by
  rcases sweep_outcome (.of_memory (fun _ => False) (sweep live) memory) with
    ⟨refuse, _⟩ | ⟨_, same⟩
  · exact refuse.elim
  · exact same

/-- A sweep that is interrupted on its way through reservations that are held has taken away some
of those whose owners are not live. -/
theorem sweepThrough_interrupted {live : List String} {reservations : List Reservation}
    (interrupted : Interrupted refuses (sweepThrough live reservations) memory content)
    (held : ∀ first ∈ reservations, memory.find? first.address = some first)
    (distinct : reservations.Pairwise fun left right => left.address ≠ right.address) :
    memory.Thinned (· ∉ live) content := by
  induction reservations generalizing memory with
  | nil =>
    rw [sweepThrough] at interrupted
    rw [interrupted.of_done]
    exact .refl ..
  | cons first rest ih =>
    obtain ⟨apart, later⟩ := List.pairwise_cons.mp distinct
    have further : ∀ next ∈ rest, memory.find? next.address = some next := by
      intro next member
      exact held next (List.mem_cons_of_mem _ member)
    rw [sweepThrough] at interrupted
    split at interrupted
    · have sweeping := Interrupted.of_finished interrupted fun report => by
        cases report <;> exact ⟨_, rfl⟩
      exact ih sweeping further later
    · rename_i dead
      have here := held first (List.mem_cons_self ..)
      rcases interrupted.of_request (by simp) with rfl | ⟨_, _, released, onward⟩
      · exact .refl ..
      rcases released.release with ⟨⟨gone, rfl⟩, rfl⟩ | ⟨_, absent, _⟩
      · have kept : ∀ next ∈ rest, (memory.keep fun other =>
            decide (other.address ≠ first.address)).find? next.address = some next := by
          intro next member
          rw [Memory.find?_keep_ne, if_neg (Ne.symm (apart next member)), further next member]
        have taken : memory.Thinned (· ∉ live)
            (memory.keep fun other => decide (other.address ≠ first.address)) := by
          refine ⟨_, rfl, fun other member alive => decide_eq_true fun same => ?_⟩
          obtain rfl := Memory.eq_of_address member (Memory.find?_eq_some_iff.mp here).1 same
          exact dead (by simpa using alive)
        have sweeping := Interrupted.of_finished onward fun report => by
          cases report <;> exact ⟨_, rfl⟩
        exact taken.trans (ih sweeping kept later)
      · rw [here] at absent
        cases absent

/-- A sweep that is interrupted has taken away some reservations of owners that are not live. -/
theorem sweep_interrupted {live : List String}
    (interrupted : Interrupted refuses (sweep live) memory content) :
    memory.Thinned (· ∉ live) content := by
  rw [sweep] at interrupted
  rcases interrupted.of_lock fun _ => ⟨_, rfl⟩ with rfl | locked
  · exact .refl ..
  rcases locked.of_request (by simp) with rfl | ⟨_, _, listed, last⟩
  · exact .refl ..
  obtain ⟨rfl, rfl⟩ := listed.reservations
  refine sweepThrough_interrupted last (fun first member => ?_) (Memory.distinct _)
  exact Memory.find?_eq_some_iff.mpr ⟨member, rfl⟩

end AddressPool
