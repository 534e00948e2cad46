import AddressPool.Proofs.Allocation.Outcome
import AddressPool.Proofs.Ring.Circuit
import AddressPool.Proofs.Store.Site
import AddressPool.Sweep

/-!
# No address has two owners

Any number of rings hand out addresses from one store.  An address that has been
handed out stays with its owner through every call that neither releases that owner
nor sweeps it away (`Site.Does.find?`), whoever calls, for whatever ring, and
whether or not the call succeeds.  So before another owner can get the address one
of those calls has been made (`freed_between_owners`).
-/

namespace AddressPool

set_option autoImplicit false

/-! ## Calls -/

/-- What can be done with the store of a site. -/
inductive Call where
  | get (ring : Ring) (owner interface : String) (requested : Option Address)
  | release (ring : Ring) (owner : String)
  | lookup (ring : Ring) (owner interface : String)
  | sweep (live : List String)
  | reopen (lockTimeout : Duration)

/-- A call that may take its addresses from an owner. -/
def Call.Frees (owner : String) : Call → Prop
  | .release _ released => released = owner
  | .sweep live => owner ∉ live
  | _ => False

namespace Site

/-- The site behind a call. -/
def call (site : Site) : Call → Site
  | .get ring owner interface requested => (site.run (ring.get owner interface requested)).2
  | .release ring owner => (site.run (ring.release owner)).2
  | .lookup ring owner interface => (site.run (ring.lookup owner interface)).2
  | .sweep live => (site.run (AddressPool.sweep live)).2
  | .reopen lockTimeout => site.reopen lockTimeout

/-- The site behind some calls, one after the other. -/
def callAll (site : Site) (calls : List Call) : Site := calls.foldl call site

/-- A call hands out an address to an owner. -/
def Grants (site : Site) (call : Call) (address : Address) (owner : String) : Prop :=
  ∃ ring interface requested allocation, call = .get ring owner interface requested ∧
    (site.run (ring.get owner interface requested)).1 = .ok allocation ∧
      allocation.address = address

end Site

/-! ## What each call does -/

/-- Some reservations are taken away, and none but those of owners that are doomed. -/
def Memory.Thinned (memory : Memory) (doomed : String → Prop) (after : Memory) : Prop :=
  ∃ wanted : Reservation → Bool, after = memory.keep wanted ∧
    ∀ reservation ∈ memory.reservations, ¬ doomed reservation.owner → wanted reservation = true

variable {refuses : StoreRequest → Prop} {memory after : Memory} {address : Address}
variable {reservation : Reservation} {doomed : String → Prop}

namespace Memory.Thinned

theorem refl (memory : Memory) (doomed : String → Prop) : memory.Thinned doomed memory := by
  refine ⟨fun _ => true, (Memory.keep_eq_self fun _ _ => rfl).symm, ?_⟩
  intro reservation _ _
  rfl

theorem trans {middle : Memory} (first : memory.Thinned doomed middle)
    (second : middle.Thinned doomed after) : memory.Thinned doomed after := by
  obtain ⟨wanted, rfl, spared⟩ := first
  obtain ⟨further, rfl, kept⟩ := second
  refine ⟨_, Memory.keep_keep .., ?_⟩
  intro reservation member alive
  have here := spared reservation member alive
  rw [Bool.and_eq_true]
  exact ⟨here, kept reservation (List.mem_filter.mpr ⟨member, here⟩) alive⟩

/-- A reservation stays or goes; it only goes if its owner is doomed. -/
theorem find? (thinned : memory.Thinned doomed after)
    (found : memory.find? address = some reservation) :
    after.find? address = some reservation ∨
      doomed reservation.owner ∧ after.find? address = none := by
  obtain ⟨wanted, rfl, spared⟩ := thinned
  rw [Memory.find?_keep, found, Option.filter_some]
  cases here : wanted reservation with
  | true => exact .inl rfl
  | false =>
    refine .inr ⟨?_, rfl⟩
    by_contra alive
    rw [spared reservation (Memory.find?_eq_some_iff.mp found).1 alive] at here
    cases here

theorem cursors (thinned : memory.Thinned doomed after) : after.cursors = memory.cursors := by
  obtain ⟨wanted, rfl, _⟩ := thinned
  rfl

theorem mem_of_mem (thinned : memory.Thinned doomed after)
    (member : reservation ∈ after.reservations) : reservation ∈ memory.reservations := by
  obtain ⟨wanted, rfl, _⟩ := thinned
  exact List.mem_of_mem_filter member

end Memory.Thinned

/-- A release takes the addresses of its owner and no others, and counts them, unless the lock
cannot be had. -/
theorem Ring.release_outcome {ring : Ring} {owner : String} {result : Except AllocationError Nat}
    (run : StoreRun refuses (ring.release owner) memory result after) :
    (refuses .lock ∧ after = memory) ∨
      result = .ok (memory.ownedBy owner).length ∧
        after = memory.keep fun other => decide (other.owner ≠ owner) := by
  rw [Ring.release] at run
  obtain ⟨_, _, locked, rest⟩ := StoreRun.of_request run
  obtain ⟨same, rfl | ⟨refuse, _, rfl⟩⟩ := locked.lock
  · obtain ⟨_, _, released, last⟩ := StoreRun.of_request rest
    rw [same] at released
    obtain ⟨rfl, rfl⟩ := released.releaseByOwner_counted
    obtain ⟨rfl, rfl⟩ := last.of_done
    exact .inr ⟨rfl, rfl⟩
  · exact .inl ⟨refuse, rest.of_done.2.trans same⟩

/-- A release takes nothing but the addresses of its owner. -/
theorem Ring.release_thins {ring : Ring} {owner : String} {result : Except AllocationError Nat}
    (run : StoreRun refuses (ring.release owner) memory result after) :
    memory.Thinned (owner = ·) after := by
  rcases Ring.release_outcome run with ⟨_, rfl⟩ | ⟨_, rfl⟩
  · exact .refl ..
  · refine ⟨_, rfl, ?_⟩
    intro reservation _ alive
    exact decide_eq_true fun own => alive own.symm

/-- A sweep through reservations that are held takes those whose owners are not live. -/
theorem sweepThrough_outcome {live : List String} {reservations : List Reservation}
    {result : Except StoreError SweepReport}
    (run : StoreRun refuses (sweepThrough live reservations) memory result after)
    (held : ∀ first ∈ reservations, memory.find? first.address = some first)
    (distinct : reservations.Pairwise fun left right => left.address ≠ right.address) :
    result = .ok ⟨reservations.filter fun first => !live.contains first.owner,
        reservations.countP fun first => live.contains first.owner⟩ ∧
      after = memory.keep fun other =>
        live.contains other.owner || decide (other ∉ reservations) := by
  induction reservations generalizing memory result after with
  | nil =>
    rw [sweepThrough] at run
    obtain ⟨rfl, rfl⟩ := run.of_done
    refine ⟨rfl, (Memory.keep_eq_self fun other _ => ?_).symm⟩
    rw [decide_eq_true List.not_mem_nil, Bool.or_true]
  | cons first rest ih =>
    obtain ⟨apart, later⟩ := List.pairwise_cons.mp distinct
    have here := held first (List.mem_cons_self ..)
    have further : ∀ next ∈ rest, memory.find? next.address = some next := by
      intro next member
      exact held next (List.mem_cons_of_mem _ member)
    rw [sweepThrough] at run
    split at run
    · rename_i alive
      obtain ⟨_, _, swept, last⟩ := StoreRun.of_andThen run
      obtain ⟨rfl, rfl⟩ := ih swept further later
      obtain ⟨rfl, rfl⟩ := last.of_done
      refine ⟨?_, Memory.keep_congr fun other _ => ?_⟩
      · rw [List.filter_cons_of_neg (by simp only [alive]; decide),
          List.countP_cons_of_pos (by exact alive)]
      · by_cases same : other = first
        · rw [same, alive, Bool.true_or, Bool.true_or]
        · simp [same]
    · rename_i dead
      obtain ⟨_, _, released, onward⟩ := StoreRun.of_request run
      rcases released with ⟨rfl, rfl⟩ | ⟨_, absent, _⟩
      · have kept : ∀ next ∈ rest, (memory.keep fun other =>
            decide (other.address ≠ first.address)).find? next.address = some next := by
          intro next member
          rw [Memory.find?_keep_ne, if_neg (Ne.symm (apart next member)), further next member]
        have gone : (Memory.answer (.release first.address) memory).1 = .ok true := by
          rw [Memory.answer, here]
          rfl
        rw [gone] at onward
        obtain ⟨_, _, swept, last⟩ := StoreRun.of_andThen onward
        obtain ⟨rfl, rfl⟩ := ih swept kept later
        obtain ⟨rfl, rfl⟩ := last.of_done
        refine ⟨?_, ?_⟩
        · rw [List.filter_cons_of_pos (by simpa using dead),
            List.countP_cons_of_neg (by exact dead)]
          rfl
        · rw [Memory.answer, Memory.keep_keep]
          refine Memory.keep_congr fun other listed => ?_
          by_cases same : other = first
          · have dead' : first.owner ∉ live := by simpa using dead
            simp [same, dead']
          · have different : other.address ≠ first.address :=
              fun equal => same (Memory.eq_of_address listed (Memory.find?_eq_some_iff.mp here).1 equal)
            simp [same, different]
      · change memory.find? first.address = none at absent
        rw [here] at absent
        cases absent

/-- A sweep takes the addresses of all owners that are not live and no others, unless the lock
cannot be had. -/
theorem sweep_outcome {live : List String} {result : Except StoreError SweepReport}
    (run : StoreRun refuses (sweep live) memory result after) :
    (refuses .lock ∧ (∃ cause, result = .error cause) ∧ after = memory) ∨
      result = .ok ⟨memory.reservations.filter fun first => !live.contains first.owner,
          memory.reservations.countP fun first => live.contains first.owner⟩ ∧
        after = memory.keep fun other => live.contains other.owner := by
  rw [sweep] at run
  obtain ⟨_, _, locked, rest⟩ := StoreRun.of_request run
  obtain ⟨same, rfl | ⟨refuse, _, rfl⟩⟩ := locked.lock
  · obtain ⟨_, _, listed, last⟩ := StoreRun.of_request rest
    rw [same] at listed
    obtain ⟨rfl, again⟩ := listed.reservations
    rw [again] at last
    have held : ∀ first ∈ memory.reservations, memory.find? first.address = some first := by
      intro first member
      exact Memory.find?_eq_some_iff.mpr ⟨member, rfl⟩
    obtain ⟨rfl, rfl⟩ := sweepThrough_outcome last held memory.distinct
    refine .inr ⟨rfl, Memory.keep_congr fun other member => ?_⟩
    rw [decide_eq_false (not_not_intro member), Bool.or_false]
  · obtain ⟨rfl, rfl⟩ := rest.of_done
    exact .inl ⟨refuse, ⟨_, rfl⟩, same⟩

/-- A sweep takes no address from a live owner. -/
theorem sweep_thins {live : List String} {result : Except StoreError SweepReport}
    (run : StoreRun refuses (sweep live) memory result after) :
    memory.Thinned (· ∉ live) after := by
  rcases sweep_outcome run with ⟨_, _, rfl⟩ | ⟨_, rfl⟩
  · exact .refl ..
  · refine ⟨_, rfl, ?_⟩
    intro reservation _ alive
    simpa using alive

/-! ## Runs of calls -/

namespace Site

variable {site : Site}

/-- What a call may do to the content of a store: a request for an address has its outcome, and
every other call takes away reservations of owners that it frees. -/
inductive Does (site : Site) (memory : Memory) : Call → Memory → Prop where
  | get {ring : Ring} {owner interface : String} {requested : Option Address}
      {result : Except AllocationError Allocation} {after : Memory}
      (told : (site.run (ring.get owner interface requested)).1 = result)
      (outcome : ring.Outcome owner interface memory requested result after) :
      Does site memory (.get ring owner interface requested) after
  | other {call : Call} {after : Memory}
      (thinned : memory.Thinned (fun owner => call.Frees owner) after) :
      Does site memory call after

/-- **Every call does to the content of a store what such a call may do.** -/
theorem Holds.call (holds : site.Holds memory) (call : Call) :
    ∃ after, (site.call call).Holds after ∧ site.Does memory call after := by
  cases call with
  | get ring owner interface requested =>
    obtain ⟨after, run, held⟩ := holds.run (ring.get owner interface requested)
    exact ⟨after, held, .get rfl (Ring.get_cases run)⟩
  | release ring owner =>
    obtain ⟨after, run, held⟩ := holds.run (ring.release owner)
    exact ⟨after, held, .other (Ring.release_thins run)⟩
  | lookup ring owner interface =>
    obtain ⟨after, run, held⟩ := holds.run (ring.lookup owner interface)
    obtain ⟨rfl, _⟩ := Ring.lookup_outcome run
    exact ⟨_, held, .other (.refl ..)⟩
  | sweep live =>
    obtain ⟨after, run, held⟩ := holds.run (AddressPool.sweep live)
    exact ⟨after, held, .other (sweep_thins run)⟩
  | reopen lockTimeout => exact ⟨memory, holds.reopen lockTimeout, .other (.refl ..)⟩

/-- A call makes no difference to whether the lock can be had. -/
theorem Holds.refuses_lock_call (holds : site.Holds memory) (call : Call) :
    (site.call call).Refuses .lock ↔ site.Refuses .lock := by
  cases call with
  | get | release | lookup | sweep => rw [Site.call, refuses_run]
  | reopen lockTimeout => exact holds.refuses_lock_reopen lockTimeout

theorem Holds.refuses_lock_callAll (holds : site.Holds memory) (calls : List Call) :
    (site.callAll calls).Refuses .lock ↔ site.Refuses .lock := by
  induction calls generalizing site memory with
  | nil => rfl
  | cons call rest ih =>
    obtain ⟨after, held, _⟩ := holds.call call
    exact (ih held).trans (holds.refuses_lock_call call)

/-- A reservation stays as it is through a call, unless the call frees its owner and takes it
away. -/
theorem Does.find? {call : Call} (does : site.Does memory call after)
    (found : memory.find? address = some reservation) :
    after.find? address = some reservation ∨
      call.Frees reservation.owner ∧ after.find? address = none := by
  cases does with
  | get _ outcome => exact .inl (outcome.keeps found)
  | other thinned => exact thinned.find? found

/-- **What every call of a run preserves holds behind the run.** -/
theorem Holds.callAll_invariant {invariant : Memory → Prop} (holds : site.Holds memory)
    {calls : List Call} (base : invariant memory)
    (step : ∀ (here : Site) (content left : Memory), ∀ call ∈ calls,
      here.Does content call left → invariant content → invariant left) :
    ∃ after, (site.callAll calls).Holds after ∧ invariant after := by
  induction calls generalizing site memory with
  | nil => exact ⟨memory, holds, base⟩
  | cons call rest ih =>
    obtain ⟨middle, held, does⟩ := holds.call call
    refine ih held (step site memory middle call (List.mem_cons_self ..) does base) ?_
    intro here content left next member
    exact step here content left next (List.mem_cons_of_mem _ member)

/-- **An address stays with its owner through all calls that do not free the owner.** -/
theorem Holds.callAll_keeps (holds : site.Holds memory) {calls : List Call}
    (found : memory.find? address = some reservation)
    (spare : ∀ call ∈ calls, ¬ call.Frees reservation.owner) :
    ∃ after, (site.callAll calls).Holds after ∧ after.find? address = some reservation := by
  refine holds.callAll_invariant found ?_
  intro here content left call member does kept
  exact (does.find? kept).resolve_right fun freed => spare call member freed.1

/-- A site is written by calls. -/
theorem Written.callAll (written : Written site) (calls : List Call) :
    Written (site.callAll calls) := by
  induction calls generalizing site with
  | nil => exact written
  | cons call rest ih =>
    refine ih ?_
    cases call with
    | get | release | lookup | sweep => exact written.run _
    | reopen lockTimeout => exact written.reopen lockTimeout

/-- Who is handed out an address holds it behind the call. -/
theorem Holds.grants (holds : site.Holds memory) {call : Call} {owner : String}
    (granted : site.Grants call address owner) :
    ∃ after, (site.call call).Holds after ∧
      ∃ reservation, after.find? address = some reservation ∧ reservation.owner = owner := by
  obtain ⟨ring, interface, requested, allocation, rfl, handed, rfl⟩ := granted
  obtain ⟨after, run, held⟩ := holds.run (ring.get owner interface requested)
  rw [handed] at run
  exact ⟨after, held, Ring.get_holds run⟩

/-- An address that somebody holds is handed out to nobody else. -/
theorem Holds.owner_of_grants (holds : site.Holds memory) {call : Call} {owner : String}
    (found : memory.find? address = some reservation)
    (granted : site.Grants call address owner) : reservation.owner = owner := by
  obtain ⟨ring, interface, requested, allocation, rfl, handed, rfl⟩ := granted
  obtain ⟨after, run, _⟩ := holds.run (ring.get owner interface requested)
  rw [handed] at run
  have kept := Ring.get_keeps run found
  obtain ⟨other, held, own⟩ := Ring.get_holds run
  rw [kept] at held
  rw [Option.some.inj held, own]

end Site

/-- **Between two owners of an address the first one is freed.**

On a store that was in memory with any content, or on disk with an empty directory, an
address is handed out to an owner and later to another one.  Then one of the calls in
between has released the first owner, or has swept with that owner not among the live
ones. -/
theorem freed_between_owners {site : Site} (begun : site.Begun) (before between : List Call)
    {first second : Call} {address : Address} {owner other : String}
    (granted : (site.callAll before).Grants first address owner)
    (regranted : (site.callAll (before ++ first :: between)).Grants second address other)
    (different : other ≠ owner) : ∃ call ∈ between, call.Frees owner := by
  by_contra spared
  have spare : ∀ call ∈ between, ¬ call.Frees owner := by
    intro call member freed
    exact spared ⟨call, member, freed⟩
  obtain ⟨memory, holds⟩ := ((Site.Written.begun begun).callAll before).holds
  obtain ⟨middle, held, reservation, found, rfl⟩ := holds.grants granted
  obtain ⟨after, still, kept⟩ := held.callAll_keeps found spare
  have behind : site.callAll (before ++ first :: between) =
      ((site.callAll before).call first).callAll between := by
    simp only [Site.callAll, List.foldl_append, List.foldl_cons]
  rw [behind] at regranted
  exact different (still.owner_of_grants kept regranted).symm

/-- The first address of a ring goes to `a` and then, on request, to `b`: meanwhile the store is
opened again and swept with `b` as the only live owner. -/
theorem freed_between_owners_slash29 :
    Site.vacantNet.Begun ∧
      (Site.vacantNet.callAll []).Grants (.get .slash29 "a" "eth0" none) (.v4 0x0a000002) "a" ∧
      (Site.vacantNet.callAll ([] ++ .get .slash29 "a" "eth0" none ::
        [.reopen (.ofMilliseconds 5), .sweep ["b"]])).Grants
          (.get .slash29 "b" "eth1" (some (.v4 0x0a000002))) (.v4 0x0a000002) "b" ∧
      ∃ call ∈ [.reopen (.ofMilliseconds 5), .sweep ["b"]], Call.Frees "a" call := by
  have first : (Site.vacantNet.callAll []).Grants (.get .slash29 "a" "eth0" none)
      (.v4 0x0a000002) "a" := ⟨_, _, _, _, rfl, rfl, rfl⟩
  have second : (Site.vacantNet.callAll ([] ++ .get .slash29 "a" "eth0" none ::
      [.reopen (.ofMilliseconds 5), .sweep ["b"]])).Grants
        (.get .slash29 "b" "eth1" (some (.v4 0x0a000002))) (.v4 0x0a000002) "b" :=
    ⟨_, _, _, _, rfl, rfl, rfl⟩
  exact ⟨Site.begun_vacantNet, first, second,
    freed_between_owners Site.begun_vacantNet [] _ first second (by decide)⟩

end AddressPool
