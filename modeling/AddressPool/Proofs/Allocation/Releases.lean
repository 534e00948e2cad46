import AddressPool.Admin.Command
import AddressPool.Proofs.Allocation.Ownership
import AddressPool.Proofs.Store.Traces

/-!
# Sweeps and releases

What dead owners hold can be given up in two ways: a sweep goes through the listing and releases
one address after the other, while a release takes all addresses of one owner at once.  It makes
no difference which way is taken, nor in which order the dead owners are released: what is left
are the reservations of the live owners, and what the releases count adds up to what the sweep
has pruned (`sweep_is_release`).

The books balance at every step: what a release counts is what it takes from the listing
(`Memory.length_keep_add_ownedBy`), so that the counts of any number of releases add up to what
is missing behind the last one.  This is so for the command that releases an owner once for each
ring of a configuration, too, though all but the first of its releases find nothing.
-/

namespace AddressPool

set_option autoImplicit false

variable {refuses : StoreRequest → Prop} {memory after : Memory}

/-! ## Releasing one owner after the other -/

/-- Releases some owners one after the other; the answer is how many addresses each of them had. -/
def releaseOwners : List String → StoreProgram (Except StoreError (List Nat))
  | [] => return .ok []
  | owner :: rest => do
    match ← (StoreRequest.releaseByOwner owner).ask with
    | .error error => return .error error
    | .ok count => match ← releaseOwners rest with
      | .error error => return .error error
      | .ok counts => return .ok (count :: counts)

/-- Takes the lock, and releases some owners one after the other. -/
def releaseEach (owners : List String) : StoreProgram (Except StoreError (List Nat)) := do
  match ← StoreRequest.lock.ask with
  | .error error => return .error error
  | .ok () => releaseOwners owners

/-- The addresses of an owner are the ones that are missing when they are released. -/
theorem Memory.length_keep_add_ownedBy (memory : Memory) (owner : String) :
    (memory.keep fun other => decide (other.owner ≠ owner)).reservations.length +
      (memory.ownedBy owner).length = memory.reservations.length := by
  rw [length_ownedBy]
  have fewer : (memory.keep fun other => decide (other.owner ≠ owner)).reservations.length ≤
      memory.reservations.length := List.length_filter_le ..
  omega

/-- Releases in succession take the addresses of their owners, and count all that they take. -/
theorem releaseOwners_outcome {owners : List String} {result : Except StoreError (List Nat)}
    (run : StoreRun refuses (releaseOwners owners) memory result after) :
    ∃ counts, result = .ok counts ∧ counts.length = owners.length ∧
      after = (memory.keep fun other => decide (other.owner ∉ owners)) ∧
        after.reservations.length + counts.sum = memory.reservations.length := by
  induction owners generalizing memory result after with
  | nil =>
    rw [releaseOwners] at run
    obtain ⟨rfl, rfl⟩ := run.of_done
    exact ⟨[], rfl, rfl, (Memory.keep_eq_self fun _ _ => by simp).symm, rfl⟩
  | cons owner rest ih =>
    rw [releaseOwners] at run
    obtain ⟨_, _, released, onward⟩ := StoreRun.of_request run
    obtain ⟨rfl, rfl⟩ := released.releaseByOwner_counted
    obtain ⟨_, _, further, last⟩ := StoreRun.of_andThen onward
    obtain ⟨counts, rfl, length, rfl, balance⟩ := ih further
    obtain ⟨rfl, rfl⟩ := last.of_done
    refine ⟨_ :: counts, rfl, by rw [List.length_cons, List.length_cons, length], ?_, ?_⟩
    · rw [Memory.keep_keep]
      refine Memory.keep_congr fun other _ => ?_
      by_cases same : other.owner = owner <;> simp [same]
    · have here := memory.length_keep_add_ownedBy owner
      rw [List.sum_cons]
      omega

theorem releaseEach_outcome {owners : List String} {result : Except StoreError (List Nat)}
    (willing : ¬ refuses .lock)
    (run : StoreRun refuses (releaseEach owners) memory result after) :
    ∃ counts, result = .ok counts ∧ counts.length = owners.length ∧
      after = (memory.keep fun other => decide (other.owner ∉ owners)) ∧
        after.reservations.length + counts.sum = memory.reservations.length := by
  rw [releaseEach] at run
  obtain ⟨_, _, locked, rest⟩ := StoreRun.of_request run
  obtain ⟨rfl, rfl | ⟨refuse, _⟩⟩ := locked.lock
  · exact releaseOwners_outcome rest
  · exact absurd refuse willing

/-- An owner is released by the first ring; the others find nothing. -/
theorem Admin.releaseRings_outcome {owner : String} {rings : List Ring}
    {result : Except AllocationError Nat} (willing : ¬ refuses .lock)
    (run : StoreRun refuses (Admin.releaseRings owner rings) memory result after) :
    ∃ count, result = .ok count ∧
      after.reservations.length + count = memory.reservations.length ∧
        (rings = [] ∧ after = memory ∨
          after = memory.keep fun other => decide (other.owner ≠ owner)) := by
  induction rings generalizing memory result after with
  | nil =>
    rw [Admin.releaseRings] at run
    obtain ⟨rfl, rfl⟩ := run.of_done
    exact ⟨0, rfl, rfl, .inl ⟨rfl, rfl⟩⟩
  | cons ring rest ih =>
    rw [Admin.releaseRings] at run
    obtain ⟨_, _, released, onward⟩ := StoreRun.of_andThen run
    rcases Ring.release_outcome released with ⟨refuse, _⟩ | ⟨rfl, rfl⟩
    · exact absurd refuse willing
    · obtain ⟨_, _, further, last⟩ := StoreRun.of_andThen onward
      obtain ⟨count, rfl, balance, left⟩ := ih further
      obtain ⟨rfl, rfl⟩ := last.of_done
      have here := memory.length_keep_add_ownedBy owner
      refine ⟨_, rfl, by omega, .inr ?_⟩
      rcases left with ⟨_, same⟩ | same
      · exact same
      · rw [same, Memory.keep_keep]
        simp only [Bool.and_self]

/-- The command that releases an owner prints how many addresses it had. -/
theorem Admin.releaseStore_outcome {config : Config} {owner : String} {printed : Printed}
    (willing : ¬ refuses .lock)
    (run : StoreRun refuses (Admin.releaseStore config owner) memory printed after) :
    printed = .all [toString (memory.ownedBy owner).length ++ " released"] ∧
      after = memory.keep fun other => decide (other.owner ≠ owner) := by
  rw [Admin.releaseStore] at run
  obtain ⟨_, _, released, last⟩ := StoreRun.of_andThen run
  obtain ⟨count, rfl, balance, left⟩ := Admin.releaseRings_outcome willing released
  obtain ⟨rfl, rfl⟩ := last.of_done
  have left := left.resolve_left fun ringless => config.someRing ringless.1
  have here := memory.length_keep_add_ownedBy owner
  rw [← left] at here
  obtain rfl : count = (memory.ownedBy owner).length := by omega
  exact ⟨rfl, left⟩

/-! ## What is left on a site -/

namespace Site

variable {site : Site}

/-- Of what a store has listed it lists what is wanted, and tells the same of every cursor. -/
structure Retains (before : Site) (wanted : Reservation → Bool) (after : Site) : Prop where
  listed : ∃ listed, (before.run StoreRequest.reservations.ask).1 = .ok listed ∧
    (after.run StoreRequest.reservations.ask).1 = .ok (listed.filter wanted)
  cursor : ∀ id, (after.run (StoreRequest.cursor id).ask).1 =
    (before.run (StoreRequest.cursor id).ask).1

theorem Holds.retains {α : Type} {program : StoreProgram α} {wanted : Reservation → Bool}
    (holds : site.Holds memory) (held : (site.run program).2.Holds (memory.keep wanted)) :
    site.Retains wanted (site.run program).2 := by
  refine ⟨⟨_, holds.reservations, held.reservations⟩, ?_⟩
  exact holds.cursors_same held fun _ => rfl

/-- A sweep leaves the reservations of the live owners, and reports the others. -/
theorem Holds.sweep (holds : site.Holds memory) (willing : ¬ site.Refuses .lock)
    (live : List String) :
    (site.run (AddressPool.sweep live)).1 =
        .ok ⟨memory.reservations.filter fun other => decide (other.owner ∉ live),
          (memory.reservations.filter fun other => decide (other.owner ∈ live)).length⟩ ∧
      (site.run (AddressPool.sweep live)).2.Holds
        (memory.keep fun other => decide (other.owner ∈ live)) := by
  obtain ⟨after, run, held⟩ := holds.run (AddressPool.sweep live)
  rcases sweep_outcome run with ⟨refuse, _⟩ | ⟨told, rfl⟩
  · exact absurd refuse willing
  · simp only [List.contains_eq_mem, List.countP_eq_length_filter] at told held
    refine ⟨told.trans ?_, held⟩
    simp only [decide_not]

/-- Releases in succession leave what is not of any of the owners. -/
theorem Holds.releaseEach (holds : site.Holds memory) (willing : ¬ site.Refuses .lock)
    (owners : List String) :
    ∃ counts, (site.run (AddressPool.releaseEach owners)).1 = .ok counts ∧
      counts.length = owners.length ∧
        (memory.keep fun other => decide (other.owner ∉ owners)).reservations.length + counts.sum =
          memory.reservations.length ∧
        (site.run (AddressPool.releaseEach owners)).2.Holds
          (memory.keep fun other => decide (other.owner ∉ owners)) := by
  obtain ⟨after, run, held⟩ := holds.run (AddressPool.releaseEach owners)
  obtain ⟨counts, told, length, rfl, balance⟩ := releaseEach_outcome willing run
  exact ⟨counts, told, length, balance, held⟩

/-- When the dead owners have been released, those of the live ones are left, and the counts add
up to the others. -/
theorem Holds.releaseEach_dead (holds : site.Holds memory) (willing : ¬ site.Refuses .lock)
    {live dead : List String}
    (covers : ∀ other ∈ memory.reservations, other.owner ∈ dead ↔ other.owner ∉ live) :
    ∃ counts, (site.run (AddressPool.releaseEach dead)).1 = .ok counts ∧
      counts.length = dead.length ∧
        counts.sum =
          (memory.reservations.filter fun other => decide (other.owner ∉ live)).length ∧
        (site.run (AddressPool.releaseEach dead)).2.Holds
          (memory.keep fun other => decide (other.owner ∈ live)) := by
  obtain ⟨counts, counted, length, balance, left⟩ := holds.releaseEach willing dead
  have same : (memory.keep fun other => decide (other.owner ∉ dead)) =
      memory.keep fun other => decide (other.owner ∈ live) := by
    refine Memory.keep_congr fun other member => ?_
    rw [decide_eq_decide, covers other member, Decidable.not_not]
  rw [same] at balance left
  refine ⟨counts, counted, length, ?_, left⟩
  have parts := List.length_eq_length_filter_add (l := memory.reservations) fun other =>
    decide (other.owner ∈ live)
  simp only [← decide_not] at parts
  change (memory.reservations.filter fun other => decide (other.owner ∈ live)).length +
    counts.sum = memory.reservations.length at balance
  omega

end Site

/-- **A sweep is the release of all dead owners, one after the other and in any order.**

On any store, in memory or on disk, that nothing but programs on it has written to, a sweep
leaves exactly the reservations of the live owners, reports the others in the order of their
addresses and counts the ones that are left; a second sweep finds nothing.  Releasing the owners
that are not live by name, whatever the order, leaves the same reservations, and the counts of
these releases add up to the number of reservations that the sweep has pruned.  The command
that releases an owner once for every ring of a configuration takes the reservations of this
owner and no others, and prints their number.  None of these moves a cursor. -/
theorem sweep_is_release {site : Site} (written : site.Written) (willing : ¬ site.Refuses .lock)
    (live : List String) :
    ∃ listed report, (site.run StoreRequest.reservations.ask).1 = .ok listed ∧
      (site.run (sweep live)).1 = .ok report ∧
      report.pruned = (listed.filter fun other => decide (other.owner ∉ live)) ∧
      AscendingAddresses report.pruned ∧
      report.kept = (listed.filter fun other => decide (other.owner ∈ live)).length ∧
      site.Retains (fun other => decide (other.owner ∈ live)) (site.run (sweep live)).2 ∧
      ((site.run (sweep live)).2.run (sweep live)).1 = .ok ⟨[], report.kept⟩ ∧
      (∀ dead : List String, (∀ other ∈ listed, other.owner ∈ dead ↔ other.owner ∉ live) →
        ∃ counts, (site.run (releaseEach dead)).1 = .ok counts ∧
          counts.length = dead.length ∧ counts.sum = report.pruned.length ∧
          ((site.run (releaseEach dead)).2.run StoreRequest.reservations.ask).1 =
            ((site.run (sweep live)).2.run StoreRequest.reservations.ask).1 ∧
          ∀ id, ((site.run (releaseEach dead)).2.run (StoreRequest.cursor id).ask).1 =
            (site.run (StoreRequest.cursor id).ask).1) ∧
      ∀ (config : Config) (owner : String),
        (site.run (Admin.releaseStore config owner)).1 = .all [toString
          (listed.filter fun other => decide (other.owner = owner)).length ++ " released"] ∧
        site.Retains (fun other => decide (other.owner ≠ owner))
          (site.run (Admin.releaseStore config owner)).2 := by
  obtain ⟨memory, holds⟩ := written.holds
  obtain ⟨told, held⟩ := holds.sweep willing live
  have unlocked : ¬ (site.run (sweep live)).2.Refuses .lock := by
    rw [Site.refuses_run]
    exact willing
  refine ⟨memory.reservations, _, holds.reservations, told, rfl, memory.ascending.filter _, rfl,
    holds.retains held, ?_, ?_, ?_⟩
  · obtain ⟨again, _⟩ := held.sweep unlocked live
    rw [again]
    simp [Memory.keep, List.filter_filter]
  · intro dead covers
    obtain ⟨counts, counted, length, total, left⟩ := holds.releaseEach_dead willing covers
    refine ⟨counts, counted, length, total, ?_, (holds.retains left).cursor⟩
    rw [left.reservations, held.reservations]
  · intro config owner
    obtain ⟨after, run, released⟩ := holds.run (Admin.releaseStore config owner)
    obtain ⟨printed, rfl⟩ := Admin.releaseStore_outcome willing run
    exact ⟨printed, holds.retains released⟩

/-- Of two owners one is live, and the other one holds addresses for two interfaces. -/
theorem sweep_is_release_slash29 :
    let first := (Site.vacantNet.run (Ring.slash29.get "a" "eth0" none)).2
    let second := (first.run (Ring.slash29.get "b" "eth0" none)).2
    let site := (second.run (Ring.slash29.get "a" "eth1" none)).2
    ∃ report counts, (site.run (sweep ["b"])).1 = .ok report ∧
      report.pruned = [⟨.v4 0x0a000002, "a", "eth0"⟩, ⟨.v4 0x0a000004, "a", "eth1"⟩] ∧
      report.kept = 1 ∧ (site.run (releaseEach ["a", "c"])).1 = .ok counts ∧ counts.sum = 2 := by
  intro first second site
  have written : site.Written := .run (.run (.run (.begun Site.begun_vacantNet) _) _) _
  have willing : ¬ site.Refuses .lock := by
    simp only [site, second, first, Site.refuses_run]
    show ¬ Disk.Refuses ⟨Path.join "/d" "net", _⟩ .lock
    exact Disk.not_refuses Site.roomy_vacantNet trivial
  have listing : (site.run StoreRequest.reservations.ask).1 =
      .ok [⟨.v4 0x0a000002, "a", "eth0"⟩, ⟨.v4 0x0a000003, "b", "eth0"⟩,
        ⟨.v4 0x0a000004, "a", "eth1"⟩] := by
    decide +kernel
  obtain ⟨listed, report, told, swept, pruned, _, kept, _, _, released, _⟩ :=
    sweep_is_release written willing ["b"]
  obtain rfl := Except.ok.inj (listing.symm.trans told)
  obtain ⟨counts, counted, _, total, _⟩ := released ["a", "c"] (by decide)
  refine ⟨report, counts, swept, pruned, kept, counted, ?_⟩
  rw [total, pruned]
  rfl

end AddressPool
