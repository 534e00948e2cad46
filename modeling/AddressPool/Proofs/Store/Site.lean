import AddressPool.Proofs.Store.Mirror
import AddressPool.Store.Backend

/-!
# Stores in use

A site is an opened store with the files around it.  Programs run on it one after
the other, each of them alone, and the store can be opened again at any time.

A site that nothing but such programs has written to always holds the content of
some store in memory (`Site.Written.holds`), and a program runs on the site as on
this content (`Site.Holds.run`).
-/

namespace AddressPool

set_option autoImplicit false

/-- An opened store, the network that it is opened for, and the files around it. -/
structure Site where
  dataDirectory : String
  network : String
  backend : Backend
  tree : FileTree

namespace Site

/-- The directory that belongs to the network. -/
def directory (site : Site) : String := Path.join site.dataDirectory site.network

/-- Runs a program on the store. -/
def run {α : Type} (site : Site) (program : StoreProgram α) : α × Site :=
  let ((result, backend), tree) := (site.backend.perform program).run FileTree.answer site.tree
  (result, { site with backend, tree })

/-- Opens the store again.  A store in memory is shared by all that have opened it. -/
def reopen (site : Site) (lockTimeout : Duration) : Site :=
  match site.backend with
  | .memory _ => site
  | .disk _ =>
    match (Backend.openFor (.disk site.dataDirectory lockTimeout) site.network).run
        FileTree.answer site.tree with
    | (.error _, tree) => { site with tree }
    | (.ok backend, tree) => { site with backend, tree }

/-- What the store of a site refuses. -/
def Refuses (site : Site) : StoreRequest → Prop :=
  match site.backend with
  | .memory _ => fun _ => False
  | .disk disk => disk.Refuses

/-- The store of a site holds the content of a store in memory. -/
inductive Holds : Site → Memory → Prop where
  | memory (dataDirectory network : String) (memory : Memory) (tree : FileTree) :
      Holds ⟨dataDirectory, network, .memory memory, tree⟩ memory
  | disk {dataDirectory network : String} {lockTimeout : Duration} {tree : FileTree}
      {memory : Memory} (valid : Disk.isNetworkName network = true) (location : Location)
      (locked : Bool) (mirrors : Mirrors ⟨Path.join dataDirectory network, lockTimeout⟩ tree
        location locked memory) :
      Holds ⟨dataDirectory, network, .disk ⟨Path.join dataDirectory network, lockTimeout⟩, tree⟩
        memory

/-- Sites as they are before anything has been done: a store in memory with whatever is in it, or
a store on disk with an empty directory. -/
inductive Begun : Site → Prop where
  | memory (dataDirectory network : String) (memory : Memory) (tree : FileTree) :
      Begun ⟨dataDirectory, network, .memory memory, tree⟩
  | disk {dataDirectory network : String} (lockTimeout : Duration) {tree : FileTree}
      {location : Location} (valid : Disk.isNetworkName network = true)
      (leads : tree.LeadsTo (Path.join dataDirectory network) location)
      (vacant : tree.namesIn location = []) :
      Begun ⟨dataDirectory, network, .disk ⟨Path.join dataDirectory network, lockTimeout⟩, tree⟩

/-- Sites of which the store has just been made: there is nothing in it. -/
inductive Fresh : Site → Prop where
  | memory (dataDirectory network : String) (tree : FileTree) :
      Fresh ⟨dataDirectory, network, .memory .empty, tree⟩
  | disk {dataDirectory network : String} (lockTimeout : Duration) {tree : FileTree}
      {location : Location} (valid : Disk.isNetworkName network = true)
      (leads : tree.LeadsTo (Path.join dataDirectory network) location)
      (vacant : tree.namesIn location = []) :
      Fresh ⟨dataDirectory, network, .disk ⟨Path.join dataDirectory network, lockTimeout⟩, tree⟩

/-- Sites that nothing but programs on their stores has changed since they were begun. -/
inductive Written : Site → Prop where
  | begun {site : Site} (begun : Begun site) : Written site
  | run {site : Site} (written : Written site) {α : Type} (program : StoreProgram α) :
      Written (site.run program).2
  | reopen {site : Site} (written : Written site) (lockTimeout : Duration) :
      Written (site.reopen lockTimeout)

end Site

/-! ## Opening a store again -/

section Opening

variable {tree : FileTree} {directory : String} {location : Location}

/-- A directory that is there is not made again. -/
theorem FileTree.answer_makeDirectory (leads : tree.LeadsTo directory location) :
    answer (.makeDirectory directory) tree = (.error .alreadyExists, tree) := by
  have faultless := (locate_eq_ok_iff.mp leads).1
  have planted : tree.plantDirectory directory = .error .alreadyExists := by
    unfold plantDirectory target
    simp only [faultless, leads.followAll_eq]
    cases (Path.steps directory).getLast? with
    | none => rfl
    | some step =>
      cases step with
      | stay | up => rfl
      | down name => simp only [leads.entryAt_eq]
  rw [answer, planted]
  rfl

theorem FileTree.answer_isDirectory (leads : tree.LeadsTo directory location) :
    answer (.isDirectory directory) tree = (true, tree) := by
  have located : tree.locate directory = .ok (location, .directory) := leads
  simp only [answer, located]

theorem makeDirectory_run (leads : tree.LeadsTo directory location)
    (ifMissing : FileProgram (Except FileError Unit)) :
    (makeDirectory directory ifMissing).run FileTree.answer tree = (.ok (), tree) := by
  rw [makeDirectory, Program.run_bind, FileTree.run_ask, FileTree.answer_makeDirectory leads]
  show ((FileRequest.isDirectory directory).ask >>= _ : FileProgram _).run FileTree.answer tree = _
  rw [Program.run_bind, FileTree.run_ask, FileTree.answer_isDirectory leads]
  rfl

theorem makeDirectories_run (leads : tree.LeadsTo directory location) (parents : List String) :
    (makeDirectories directory parents).run FileTree.answer tree = (.ok (), tree) := by
  cases parents with
  | nil =>
    rw [makeDirectories]
    split
    · rfl
    · exact makeDirectory_run leads _
  | cons parent above =>
    rw [makeDirectories]
    split
    · rfl
    · exact makeDirectory_run leads _

/-- Opening a store whose directory is there changes nothing. -/
theorem openFor_run {dataDirectory network : String} (valid : Disk.isNetworkName network = true)
    (leads : tree.LeadsTo (Path.join dataDirectory network) location) (lockTimeout : Duration) :
    (Backend.openFor (.disk dataDirectory lockTimeout) network).run FileTree.answer tree =
      (.ok (.disk ⟨Path.join dataDirectory network, lockTimeout⟩), tree) := by
  have opened : (Disk.openIn dataDirectory network lockTimeout).run FileTree.answer tree =
      (.ok ⟨Path.join dataDirectory network, lockTimeout⟩, tree) := by
    rw [Disk.openIn, valid]
    show (makeDirectories _ _ >>= _ : FileProgram _).run FileTree.answer tree = _
    rw [Program.run_bind, makeDirectories_run leads]
    rfl
  rw [Backend.openFor, Program.run_bind, opened]
  rfl

end Opening

/-! ## What a site holds -/

/-- How long one waits for the lock makes no difference to what a directory holds. -/
theorem Mirrors.of_lockTimeout {directory : String} {earlier : Duration} {tree : FileTree}
    {location : Location} {locked : Bool} {memory : Memory}
    (mirrors : Mirrors ⟨directory, earlier⟩ tree location locked memory) (later : Duration) :
    Mirrors ⟨directory, later⟩ tree location locked memory where
  pictures :=
    { leads := mirrors.pictures.leads
      listed := mirrors.pictures.listed
      entry := mirrors.pictures.entry
      others := mirrors.pictures.others
      reachable := mirrors.pictures.reachable }
  unbroken := mirrors.unbroken

/-- Nothing stands in an empty directory. -/
theorem FileTree.entryAt_of_vacant {tree : FileTree} {location : Location}
    (vacant : tree.namesIn location = []) (name : String) :
    tree.entryAt (name :: location) = none := by
  have absent : name ∉ tree.namesIn location := by simp [vacant]
  rw [mem_namesIn_iff, Option.not_isSome_iff_eq_none] at absent
  exact absent

/-- An empty directory mirrors the store that holds nothing. -/
theorem Mirrors.of_vacant {disk : Disk} {tree : FileTree} {location : Location}
    (leads : tree.LeadsTo disk.directory location) (vacant : tree.namesIn location = []) :
    Mirrors disk tree location false .empty := by
  have nothing := fun name => FileTree.entryAt_of_vacant vacant name
  have blank : ∀ file, imageOf false .empty file = none := by
    intro file
    cases file <;> rfl
  refine ⟨⟨leads, ?_, ?_, fun name _ => nothing name, ?_⟩, ?_⟩
  · rw [FileTree.Listed, vacant]
    exact List.nodup_nil
  · intro file
    rw [nothing, blank]
    rfl
  · intro file there
    rw [blank] at there
    cases there
  · intro reservation member
    cases member

/-- A store on disk stays what it is while a program runs. -/
theorem Backend.perform_disk {α : Type} {disk : Disk} {program : StoreProgram α} {result : α}
    {tree after : FileTree}
    (run : (program.expand disk.answer).run FileTree.answer tree = (result, after)) :
    ((Backend.disk disk).perform program).run FileTree.answer tree =
      ((result, .disk disk), after) := by
  rw [perform, Program.run_bind, run]
  rfl

/-- What a store on disk answers to a request, and the tree behind it. -/
def Disk.serve (disk : Disk) (request : StoreRequest) (tree : FileTree) :
    request.Answer × FileTree := (disk.answer request).run FileTree.answer tree

namespace Site

variable {site : Site} {memory : Memory}

/-- A program changes nothing but the content of a store in memory. -/
theorem run_mk_memory {α : Type} (dataDirectory network : String) (memory : Memory)
    (tree : FileTree) (program : StoreProgram α) :
    Site.run ⟨dataDirectory, network, .memory memory, tree⟩ program =
      ((program.run Memory.answer memory).1,
        ⟨dataDirectory, network, .memory (program.run Memory.answer memory).2, tree⟩) := rfl

/-- A program changes nothing but the files, if the store is on disk. -/
theorem run_mk_disk {α : Type} (dataDirectory network : String) (disk : Disk) (tree : FileTree)
    (program : StoreProgram α) :
    Site.run ⟨dataDirectory, network, .disk disk, tree⟩ program =
      ((program.run disk.serve tree).1,
        ⟨dataDirectory, network, .disk disk, (program.run disk.serve tree).2⟩) := by
  rw [Site.run, Backend.perform_disk rfl, Program.run_expand]
  rfl

/-- What a store on disk answers to one request. -/
theorem run_ask_disk (dataDirectory network : String) (disk : Disk) (tree : FileTree)
    (request : StoreRequest) :
    (Site.run ⟨dataDirectory, network, .disk disk, tree⟩ request.ask).1 =
      ((disk.answer request).run FileTree.answer tree).1 := by
  rw [run_mk_disk]
  rfl

/-- What a site refuses stays the same. -/
theorem refuses_run {α : Type} (site : Site) (program : StoreProgram α) :
    (site.run program).2.Refuses = site.Refuses := by
  obtain ⟨dataDirectory, network, backend, tree⟩ := site
  cases backend with
  | memory => rfl
  | disk disk =>
    rw [run_mk_disk]
    rfl

/-- **A program runs on a site as on the content that the site holds.** -/
theorem Holds.run {α : Type} (holds : site.Holds memory) (program : StoreProgram α) :
    ∃ after, StoreRun site.Refuses program memory (site.run program).1 after ∧
      (site.run program).2.Holds after := by
  cases holds with
  | memory dataDirectory network memory tree =>
    exact ⟨_, .of_memory _ program memory, .memory ..⟩
  | disk valid location locked mirrors =>
    obtain ⟨result, after, run, content, follows, still, _, mirrored⟩ := mirrors.run program
    refine ⟨content, ?_, ?_⟩
    · rw [Site.run, Backend.perform_disk run]
      exact follows
    · rw [Site.run, Backend.perform_disk run]
      exact .disk valid location still mirrored

theorem run_pure {α : Type} (site : Site) (value : α) : site.run (pure value) = (value, site) := by
  obtain ⟨dataDirectory, network, backend, tree⟩ := site
  cases backend <;> rfl

/-- Two programs in sequence run one after the other. -/
theorem run_bind {α β : Type} (site : Site) (program : StoreProgram α)
    (follow : α → StoreProgram β) :
    site.run (program >>= follow) = (site.run program).2.run (follow (site.run program).1) := by
  obtain ⟨dataDirectory, network, backend, tree⟩ := site
  cases backend with
  | memory memory => simp only [run_mk_memory, Program.run_bind]
  | disk disk => simp only [run_mk_disk, Program.run_bind]

/-- A store that refuses to be locked says so. -/
theorem Holds.lock_refused (holds : site.Holds memory) (refuse : site.Refuses .lock) :
    ∃ fault, (site.run StoreRequest.lock.ask).1 = .error fault := by
  cases holds with
  | memory => exact refuse.elim
  | disk valid location locked mirrors =>
    obtain ⟨path, cause, run⟩ := mirrors.pictures.lock_missed refuse
    refine ⟨.file path cause, ?_⟩
    rw [run_ask_disk, Disk.answer, run]

/-- How long one waits for the lock makes no difference to whether it can be had. -/
theorem Holds.refuses_lock_reopen (holds : site.Holds memory) (lockTimeout : Duration) :
    (site.reopen lockTimeout).Refuses .lock ↔ site.Refuses .lock := by
  cases holds with
  | memory => rfl
  | disk valid location locked mirrors =>
    rw [Site.reopen]
    simp only [openFor_run valid mirrors.pictures.leads]
    rfl

/-- What a site holds outlasts its being opened again. -/
theorem Holds.reopen (holds : site.Holds memory) (lockTimeout : Duration) :
    (site.reopen lockTimeout).Holds memory := by
  cases holds with
  | memory => exact .memory ..
  | disk valid location locked mirrors =>
    rw [Site.reopen]
    simp only [openFor_run valid mirrors.pictures.leads]
    exact .disk valid location locked (mirrors.of_lockTimeout lockTimeout)

theorem Begun.holds (begun : Begun site) : ∃ memory, site.Holds memory := by
  cases begun with
  | memory dataDirectory network memory tree => exact ⟨memory, .memory ..⟩
  | disk lockTimeout valid leads vacant =>
    exact ⟨.empty, .disk valid _ false (.of_vacant leads vacant)⟩

theorem Fresh.holds (fresh : Fresh site) : site.Holds .empty := by
  cases fresh with
  | memory => exact .memory ..
  | disk lockTimeout valid leads vacant =>
    exact .disk valid _ false (.of_vacant leads vacant)

/-- **A site always holds the content of some store in memory.** -/
theorem Written.holds (written : Written site) : ∃ memory, site.Holds memory := by
  induction written with
  | begun begun => exact begun.holds
  | run _ program ih =>
    obtain ⟨memory, holds⟩ := ih
    obtain ⟨after, _, held⟩ := holds.run program
    exact ⟨after, held⟩
  | reopen _ lockTimeout ih =>
    obtain ⟨memory, holds⟩ := ih
    exact ⟨memory, holds.reopen lockTimeout⟩

/-! ## What a site lists -/

/-- The store lists a reservation, and no other one of its address. -/
def Lists (site : Site) (reservation : Reservation) : Prop :=
  ∃ listed, (site.run StoreRequest.reservations.ask).1 = .ok listed ∧
    (listed.filter fun other => decide (other.address = reservation.address)) = [reservation]

/-- The store lists a reservation of an address. -/
def Reserved (site : Site) (address : Address) : Prop :=
  ∃ reservation, site.Lists reservation ∧ reservation.address = address

/-- A site lists the reservations that it holds. -/
theorem Holds.reservations (holds : site.Holds memory) :
    (site.run StoreRequest.reservations.ask).1 = .ok memory.reservations := by
  obtain ⟨after, run, _⟩ := holds.run StoreRequest.reservations.ask
  obtain ⟨answer, middle, told, rest⟩ := run.of_ask
  obtain ⟨rfl, rfl⟩ := told.reservations
  exact rest.of_done.1

theorem Holds.lists_iff (holds : site.Holds memory) {reservation : Reservation} :
    site.Lists reservation ↔ memory.find? reservation.address = some reservation := by
  rw [← Memory.filter_eq_singleton_iff, Lists, holds.reservations]
  constructor
  · rintro ⟨listed, same, alone⟩
    obtain rfl := Except.ok.inj same
    exact alone
  · intro alone
    exact ⟨_, rfl, alone⟩

theorem Holds.reserved_iff (holds : site.Holds memory) {address : Address} :
    site.Reserved address ↔ ∃ reservation, memory.find? address = some reservation := by
  constructor
  · rintro ⟨reservation, listed, rfl⟩
    exact ⟨reservation, holds.lists_iff.mp listed⟩
  · rintro ⟨reservation, found⟩
    obtain rfl := Memory.address_of_find? found
    exact ⟨reservation, holds.lists_iff.mpr found, rfl⟩

theorem Holds.not_reserved_iff (holds : site.Holds memory) {address : Address} :
    ¬ site.Reserved address ↔ memory.find? address = none := by
  rw [holds.reserved_iff, Option.eq_none_iff_forall_ne_some, not_exists]

/-- What is not in the listing of a store is not reserved. -/
theorem not_reserved_of_listed {listed : List Reservation} {address : Address}
    (told : (site.run StoreRequest.reservations.ask).1 = .ok listed)
    (absent : ∀ reservation ∈ listed, reservation.address ≠ address) :
    ¬ site.Reserved address := by
  rintro ⟨reservation, ⟨others, again, alone⟩, same⟩
  obtain rfl := Except.ok.inj (told.symm.trans again)
  have member : reservation ∈ [reservation] := List.mem_singleton_self _
  rw [← alone, List.mem_filter] at member
  exact absent reservation member.1 same

/-- A store on disk for the network `net`, in an empty directory. -/
def vacantNet : Site :=
  ⟨"/d", "net", .disk ⟨Path.join "/d" "net", .ofMilliseconds 10000⟩,
    ⟨[(["net", "d"], .directory), (["d"], .directory)]⟩⟩

theorem leadsTo_vacantNet : vacantNet.tree.LeadsTo (Path.join "/d" "net") ["net", "d"] := rfl

theorem begun_vacantNet : vacantNet.Begun := .disk _ (by decide) leadsTo_vacantNet rfl

theorem holds_vacantNet : vacantNet.Holds .empty :=
  .disk (by decide) ["net", "d"] false (.of_vacant leadsTo_vacantNet rfl)

theorem roomy_vacantNet : Roomy (Path.join "/d" "net") := roomy_of_size (by decide)

end Site

end AddressPool
