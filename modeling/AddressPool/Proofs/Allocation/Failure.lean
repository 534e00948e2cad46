import AddressPool.Proofs.Allocation.Outcome
import AddressPool.Proofs.Ring.Circuit
import AddressPool.Proofs.Store.Traces

/-!
# Requests for addresses that fail

A request for an address may fail at many points: the store cannot be locked, a record
cannot be read, no address is left, or the cursor cannot be written, when an address has
already been reserved.  Wherever that is, nothing that counts is changed by it.

For a store on disk this holds whatever is in its directory.  A part of the request
restores the directory if it leaves it as it was where it fails (`Disk.Restores`), be it
that it has changed nothing so far or that a record has just been made.  Each part of a
request does so (`Ring.advance_restores`, `Ring.scan_restores`), and therefore the whole
(`failed_get_unaltered`).
-/

namespace AddressPool

set_option autoImplicit false

/-! ## Programs that restore the directory where they fail -/

namespace Disk

variable {disk : Disk} {location : Location} {ε α : Type}

/-- A program that fails, once it has been reached from some tree, leaves the directory as it was
in that tree. -/
def Restores (disk : Disk) (location : Location) (reached : FileTree → FileTree → Prop)
    (program : StoreProgram (Except ε α)) : Prop :=
  ∀ (before middle after : FileTree) (error : ε), before.LeadsTo disk.directory location →
    reached before middle → program.run disk.serve middle = (.error error, after) →
      FileTree.Alike isSpare location before after

/-- A program that has changed nothing so far. -/
abbrev Retracts (disk : Disk) (location : Location) (program : StoreProgram (Except ε α)) : Prop :=
  disk.Restores location (FileTree.Alike isSpare location) program

namespace Retracts

theorem done (result : Except ε α) : disk.Retracts location (.done result) := by
  intro before middle after error _ alike run
  obtain ⟨_, rfl⟩ := Prod.mk.inj run
  exact alike

/-- A request that leaves the directory as it is makes no difference. -/
theorem ask {request : StoreRequest} {next : request.Answer → StoreProgram (Except ε α)}
    (quiet : ∀ tree : FileTree, tree.LeadsTo disk.directory location →
      FileTree.Alike isSpare location tree (disk.serve request tree).2)
    (further : ∀ answer, disk.Retracts location (next answer)) :
    disk.Retracts location (.ask request next) := by
  intro before middle after error leads alike run
  exact further _ before _ after error leads
    (alike.trans (quiet middle (alike.leadsTo leads))) run

theorem lock {next : Except StoreError Unit → StoreProgram (Except ε α)}
    (further : ∀ answer, disk.Retracts location (next answer)) :
    disk.Retracts location (.ask .lock next) :=
  .ask (fun _ leads => lock_alike leads) further

theorem reservationsOf {owner : String}
    {follow : Except StoreError (List Reservation) → StoreProgram (Except ε α)}
    (further : ∀ listed, disk.Retracts location (follow listed)) :
    disk.Retracts location (AddressPool.reservationsOf owner >>= follow) := by
  refine .ask ?_ ?_
  · intro tree leads
    obtain ⟨told, run, _⟩ := reservations_same (.refl tree) leads
    rw [serve, answer, run]
    exact .refl tree
  · intro listed
    cases listed <;> exact further _

theorem cursor {id : String} {next : Except StoreError (Option Address) →
      StoreProgram (Except ε α)} (further : ∀ answer, disk.Retracts location (next answer)) :
    disk.Retracts location (.ask (.cursor id) next) := by
  refine .ask ?_ further
  intro tree _
  rw [serve, answer, cursor_run (readTextIfAny_run _ tree)]
  exact .refl tree

/-- Behind a request to reserve an address there is a new record, which has to be given up where
the program fails, or the directory is as it was. -/
theorem reserve {address : Address} {owner interface : String}
    {next : Except StoreError Bool → StoreProgram (Except ε α)}
    (failed : ∀ fault, disk.Retracts location (next (.error fault)))
    (again : disk.Retracts location (next (.ok false)))
    (fresh : disk.Restores location (disk.Recorded location address) (next (.ok true))) :
    disk.Retracts location (.ask (.reserve address owner interface) next) := by
  intro before middle after error leads alike run
  obtain ⟨answer, left, served, reserves⟩ :=
    reserve_cases (alike.leadsTo leads) address owner interface
  have here : disk.serve (.reserve address owner interface) middle = (answer, left) := served
  rw [Program.run, here] at run
  cases reserves with
  | failed same => exact failed _ before left after error leads (alike.trans same) run
  | again same => exact again before left after error leads (alike.trans same) run
  | fresh recorded => exact fresh before left after error leads (recorded.of_alike alike) run

/-- Nobody can tell that a program has been run that retracts what it has done and fails. -/
theorem unaltered {dataDirectory network : String} {program : StoreProgram (Except ε α)}
    (retracts : disk.Retracts location program) {tree : FileTree}
    (leads : tree.LeadsTo disk.directory location) {error : ε}
    (failed : (Site.run ⟨dataDirectory, network, .disk disk, tree⟩ program).1 = .error error) :
    Site.Unaltered ⟨dataDirectory, network, .disk disk, tree⟩
        (Site.run ⟨dataDirectory, network, .disk disk, tree⟩ program).2 ∧
      FileTree.Alike isSpare location tree
        (Site.run ⟨dataDirectory, network, .disk disk, tree⟩ program).2.tree := by
  simp only [Site.run_mk_disk] at failed ⊢
  have alike := retracts tree tree _ error leads (.refl tree) (Prod.ext failed rfl)
  exact ⟨Site.unaltered_of_alike alike leads, alike⟩

end Retracts

end Disk

/-! ## Requests for addresses -/

namespace Ring

variable {disk : Disk} {location : Location} {ring : Ring}

/-- **A new reservation is given up again if the cursor cannot be written.** -/
theorem advance_restores (upless : .up ∉ Path.steps ring.id) (allocation : Allocation) :
    disk.Restores location (disk.Recorded location allocation.address)
      (ring.advance allocation) := by
  intro before middle after error leads recorded run
  rw [advance] at run
  change (Program.ask (.setCursor ring.id allocation.address) _).run disk.serve middle = _ at run
  rw [Program.run] at run
  obtain ⟨left, alike, ⟨path, cause, failed⟩ | ⟨written, _, replaced⟩⟩ :=
    Disk.replace_cases (recorded.leadsTo leads) (Disk.spares_temporaryName_cursor upless)
      allocation.address.text
  · have served : disk.serve (.setCursor ring.id allocation.address) middle =
        (.error (.file path cause), left) := failed
    obtain ⟨last, removed, restored⟩ := recorded.release leads alike
    have released : disk.serve (.release allocation.address) left = (.ok true, last) := removed
    rw [served] at run
    change (Program.ask (.release allocation.address) _).run disk.serve left = _ at run
    rw [Program.run, released] at run
    obtain ⟨_, rfl⟩ := Prod.mk.inj run
    exact restored
  · have served : disk.serve (.setCursor ring.id allocation.address) middle =
        (.ok (), written) := replaced
    rw [served] at run
    cases run

theorem scan_restores (upless : .up ∉ Path.steps ring.id) (owner interface : String)
    (remaining : Nat) (start : Option Address) :
    disk.Retracts location (ring.scan owner interface remaining start) := by
  induction remaining generalizing start with
  | zero => exact .done _
  | succ remaining ih =>
    cases start with
    | none => exact .done _
    | some address =>
      rw [scan]
      cases found : ring.allocation? address with
      | none => exact ih _
      | some allocation =>
        obtain rfl := address_of_allocation? found
        refine .reserve ?_ (ih _) (advance_restores upless allocation)
        intro fault
        cases fault with
        | alreadyReserved => exact ih _
        | lockTimeout | file | invalidNetworkName | invalidRecordField => exact .done _

theorem getRequested_restores (owner interface : String) (address : Address) :
    disk.Retracts location (ring.getRequested owner interface address) := by
  rw [getRequested]
  split
  · exact .done _
  · cases found : ring.allocation? address with
    | none => exact .done _
    | some allocation =>
      refine .reserve ?_ (.done _) ?_
      · intro fault
        cases fault <;> exact .done _
      · -- Behind a new reservation there is nothing left to fail.
        intro before middle after error _ _ run
        cases run

theorem getNext_restores (upless : .up ∉ Path.steps ring.id) (owner interface : String) :
    disk.Retracts location (ring.getNext owner interface) := by
  refine .reservationsOf ?_
  intro listed
  cases listed with
  | error => exact .done _
  | ok owned =>
    show disk.Retracts location (match (ring.heldFor interface owned).head? with | _ => _)
    cases (ring.heldFor interface owned).head? with
    | some allocation => exact .done _
    | none =>
      refine .cursor ?_
      intro read
      cases read with
      | error => exact .done _
      | ok cursor => exact scan_restores upless owner interface _ _

/-- **Where a request for an address fails the directory is as it was.** -/
theorem get_restores (upless : .up ∉ Path.steps ring.id) (owner interface : String)
    (requested : Option Address) :
    disk.Retracts location (ring.get owner interface requested) := by
  refine .lock ?_
  intro locked
  cases locked with
  | error => exact .done _
  | ok =>
    cases requested with
    | some address => exact getRequested_restores owner interface address
    | none => exact getNext_restores upless owner interface

end Ring

/-- Stores that can be asked: a store in memory, and a store on disk whose directory is there,
with whatever is in it. -/
inductive Site.Present : Site → Prop where
  | memory (dataDirectory network : String) (memory : Memory) (tree : FileTree) :
      Present ⟨dataDirectory, network, .memory memory, tree⟩
  | disk {dataDirectory network : String} (lockTimeout : Duration) {tree : FileTree}
      {location : Location} (leads : tree.LeadsTo (Path.join dataDirectory network) location) :
      Present ⟨dataDirectory, network, .disk ⟨Path.join dataDirectory network, lockTimeout⟩, tree⟩

/-- **A request for an address that fails changes nothing that counts.**

Whatever is in the store, and whatever stands in its directory, the store lists the same
reservations behind the request and has the same cursors.  The files are as they were, but
for the locked file and what stands under names that start with a point.  The identifier
of the ring may be any text that has no step up in it. -/
theorem failed_get_unaltered {site : Site} (present : site.Present) {ring : Ring}
    (upless : .up ∉ Path.steps ring.id) {owner interface : String} {requested : Option Address}
    {error : AllocationError}
    (failed : (site.run (ring.get owner interface requested)).1 = .error error) :
    site.Unaltered (site.run (ring.get owner interface requested)).2 ∧
      ∀ location, site.tree.LeadsTo site.directory location →
        FileTree.Alike isSpare location site.tree
          (site.run (ring.get owner interface requested)).2.tree := by
  cases present with
  | memory dataDirectory network memory tree =>
    have outcome := Ring.get_cases (.of_memory (fun _ => False)
      (ring.get owner interface requested) memory)
    simp only [Site.run_mk_memory] at failed ⊢
    rw [failed] at outcome
    rw [outcome.unchanged]
    exact ⟨.refl _, fun _ _ => .refl tree⟩
  | @disk dataDirectory network lockTimeout tree location leads =>
    have retracts : Disk.Retracts ⟨Path.join dataDirectory network, lockTimeout⟩ location
        (ring.get owner interface requested) :=
      Ring.get_restores upless owner interface requested
    obtain ⟨unaltered, alike⟩ := retracts.unaltered leads failed
    refine ⟨unaltered, ?_⟩
    intro other there
    have same := leads.symm.trans there
    obtain ⟨rfl, _⟩ := Prod.mk.inj (Except.ok.inj same)
    exact alike

/-- A store on disk in which an address is reserved for `b`, and a directory stands where the cursor
of a ring would be written before it is moved into its place. -/
def Site.obstructedNet : Site :=
  ⟨"/d", "net", .disk ⟨Path.join "/d" "net", .ofMilliseconds 10000⟩,
    ⟨[(["10.0.0.2", "net", "d"], .file (recordText "b" "eth0").toUTF8 false),
      ([".last_reserved_ip.0.tmp", "net", "d"], .directory),
      (["net", "d"], .directory), (["d"], .directory)]⟩⟩

/-- The next address is reserved and given up again, since the cursor cannot be written. -/
theorem failed_get_unaltered_slash29 :
    let failure : AllocationError :=
      .store "net" (.file "/d/net/.last_reserved_ip.0.tmp" .isADirectory)
    let after := (Site.obstructedNet.run (Ring.slash29.get "a" "eth0" none)).2
    Site.obstructedNet.Present ∧ .up ∉ Path.steps Ring.slash29.id ∧
      (Site.obstructedNet.run (Ring.slash29.get "a" "eth0" none)).1 = .error failure ∧
      Site.obstructedNet.Unaltered after ∧
        ∀ location, Site.obstructedNet.tree.LeadsTo Site.obstructedNet.directory location →
          FileTree.Alike isSpare location Site.obstructedNet.tree after.tree := by
  intro failure after
  have leads : Site.obstructedNet.tree.LeadsTo (Path.join "/d" "net") ["net", "d"] := rfl
  have present : Site.obstructedNet.Present := .disk _ leads
  have upless : .up ∉ Path.steps Ring.slash29.id := by decide
  have failed : (Site.obstructedNet.run (Ring.slash29.get "a" "eth0" none)).1 =
      .error failure := by decide +kernel
  exact ⟨present, upless, failed, failed_get_unaltered present upless failed⟩

end AddressPool
