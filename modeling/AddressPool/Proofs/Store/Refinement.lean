import AddressPool.Proofs.Store.Site

/-!
# A store on disk refines one in memory

The same steps are taken on a store in memory, which is empty at first, and on a
store on disk, whose directory is empty at first.  Whatever is asked then of the two
is answered alike, and the directory holds just the files that stand for what the
store in memory holds (`disk_refines_memory`).

The steps are the requests of a store, taking its lock among them, the reservations
of an owner, and opening the store again.  There is no line break in an owner or an
interface, and the identifiers of rings have neither slashes nor null characters in
them and are no longer than the limit on names allows.

Of the file system it is assumed that paths are short enough: the limit on names is
known to the stores that are written here, but that on paths depends on where the
directory stands.
-/

namespace AddressPool

set_option autoImplicit false

/-! ## Steps -/

/-- A step that can be taken on a store. -/
inductive StoreStep where
  | ask (request : StoreRequest)
  | reservationsOf (owner : String)
  | reopen (lockTimeout : Duration)

/-- A step that a store is made for. -/
def StoreStep.Admissible : StoreStep → Prop
  | .ask request => request.Admissible
  | _ => True

namespace Site

/-- The site behind a step. -/
def take (site : Site) : StoreStep → Site
  | .ask request => (site.run request.ask).2
  | .reservationsOf owner => (site.run (AddressPool.reservationsOf owner)).2
  | .reopen lockTimeout => site.reopen lockTimeout

/-- The site behind some steps, one after the other. -/
def takeAll (site : Site) (steps : List StoreStep) : Site := steps.foldl take site

end Site

/-! ## The files that stand for a store -/

/-- The files that stand for a store which has been locked: a name, and what stands there. -/
inductive FileOf (memory : Memory) : String → Entry → Prop where
  | lock : FileOf memory "lock" (.ofText "")
  | record {reservation : Reservation} (listed : reservation ∈ memory.reservations) :
      FileOf memory reservation.address.text
        (.ofText (reservation.owner ++ "\n" ++ reservation.interface))
  | cursor {id : String} {address : Address} (listed : memory.cursors.lookup id = some address) :
      FileOf memory ("last_reserved_ip." ++ id) (.ofText address.text)

/-- These files in a list. -/
def Memory.files (memory : Memory) : List (String × Entry) :=
  ("lock", .ofText "") ::
    (memory.reservations.map (fun reservation => (reservation.address.text,
        .ofText (reservation.owner ++ "\n" ++ reservation.interface))) ++
      memory.cursors.map fun cursor => ("last_reserved_ip." ++ cursor.1, .ofText cursor.2.text))

/-- Where no key is bound twice, a look-up finds what is listed. -/
theorem lookup_eq_some_iff_mem {κ υ : Type} [BEq κ] [LawfulBEq κ] {bindings : List (κ × υ)}
    (distinct : (bindings.map Prod.fst).Nodup) {key : κ} {value : υ} :
    bindings.lookup key = some value ↔ (key, value) ∈ bindings := by
  rw [List.lookup_eq_some_iff]
  constructor
  · rintro ⟨before, behind, rfl, _⟩
    exact List.mem_append_right _ (List.mem_cons_self ..)
  · intro member
    obtain ⟨before, behind, rfl⟩ := List.append_of_mem member
    rw [List.map_append, List.map_cons, List.nodup_append] at distinct
    refine ⟨before, behind, rfl, fun other ahead => bne_iff_ne.mpr fun same => ?_⟩
    exact distinct.2.2 _ (List.mem_map_of_mem ahead) _ (List.mem_cons_self ..) same.symm

theorem fileOf_iff_mem_files {memory : Memory} (distinct : (memory.cursors.map Prod.fst).Nodup)
    {name : String} {entry : Entry} :
    FileOf memory name entry ↔ (name, entry) ∈ memory.files := by
  rw [Memory.files, List.mem_cons, List.mem_append, List.mem_map, List.mem_map]
  constructor
  · intro stands
    cases stands with
    | lock => exact .inl rfl
    | record listed => exact .inr (.inl ⟨_, listed, rfl⟩)
    | cursor listed =>
      exact .inr (.inr ⟨_, (lookup_eq_some_iff_mem distinct).mp listed, rfl⟩)
  · rintro (same | ⟨reservation, listed, same⟩ | ⟨cursor, listed, same⟩)
    · cases same
      exact .lock
    · cases same
      exact .record listed
    · cases same
      exact .cursor ((lookup_eq_some_iff_mem distinct).mpr listed)

/-- The directory of a site holds the files that stand for a store and nothing else. -/
structure Site.HoldsFilesOf (site : Site) (location : Location) (memory : Memory) : Prop where
  leads : site.tree.LeadsTo site.directory location
  listed : (site.tree.namesIn location).Nodup
  exactly : ∀ name entry,
    site.tree.entryAt (name :: location) = some entry ↔ FileOf memory name entry

/-- A directory that mirrors a locked store holds the files that stand for it. -/
theorem Mirrors.entryAt_eq_some_iff {disk : Disk} {tree : FileTree} {location : Location}
    {memory : Memory} (mirrors : Mirrors disk tree location true memory) {name : String}
    {entry : Entry} :
    tree.entryAt (name :: location) = some entry ↔ FileOf memory name entry := by
  constructor
  · intro found
    by_cases kept : ∃ file : StoreFile, file.name = name
    · obtain ⟨file, rfl⟩ := kept
      rw [mirrors.pictures.entry, Option.map_eq_some_iff] at found
      obtain ⟨text, shown, rfl⟩ := found
      cases file with
      | lock =>
        obtain rfl := Option.some.inj shown
        exact .lock
      | record address =>
        obtain ⟨reservation, held, rfl⟩ := Option.map_eq_some_iff.mp shown
        obtain ⟨listed, rfl⟩ := Memory.find?_eq_some_iff.mp held
        exact .record listed
      | cursor id =>
        obtain ⟨address, listed, rfl⟩ := Option.map_eq_some_iff.mp shown
        exact .cursor listed
    · rw [mirrors.pictures.others name fun file same => kept ⟨file, same⟩] at found
      cases found
  · intro stands
    cases stands with
    | lock => exact mirrors.pictures.entry .lock
    | record listed =>
      rename_i reservation
      have held := Memory.find?_eq_some_iff.mpr ⟨listed, rfl⟩
      have entry := mirrors.pictures.entry (.record reservation.address)
      rw [imageOf, held] at entry
      exact entry
    | cursor listed =>
      rename_i id address
      have entry := mirrors.pictures.entry (.cursor id)
      rw [imageOf, listed] at entry
      exact entry

/-! ## The simulation -/

/-- A store in memory, and one on disk whose directory mirrors it. -/
structure Twins (inMemory onDisk : Site) (location : Location) (locked : Bool)
    (memory : Memory) : Prop where
  content : inMemory.backend = .memory memory
  valid : Disk.isNetworkName onDisk.network = true
  roomy : Roomy onDisk.directory
  mirrors : ∃ lockTimeout, onDisk.backend = .disk ⟨onDisk.directory, lockTimeout⟩ ∧
    Mirrors ⟨onDisk.directory, lockTimeout⟩ onDisk.tree location locked memory

/-- What a program does to a store in memory. -/
theorem Site.run_memory {α : Type} {site : Site} {memory : Memory}
    (content : site.backend = .memory memory) (program : StoreProgram α) :
    (site.run program).1 = (program.run Memory.answer memory).1 ∧
      (site.run program).2.backend = .memory (program.run Memory.answer memory).2 := by
  rw [Site.run, content]
  exact ⟨rfl, rfl⟩

/-- What a program does to a store on disk. -/
theorem Site.run_disk {α : Type} {site : Site} {disk : Disk} {program : StoreProgram α}
    {result : α} {after : FileTree} (stands : site.backend = .disk disk)
    (run : (program.expand disk.answer).run FileTree.answer site.tree = (result, after)) :
    site.run program = (result, { site with tree := after }) := by
  obtain ⟨dataDirectory, network, backend, tree⟩ := site
  obtain rfl : backend = .disk disk := stands
  rw [Site.run, Backend.perform_disk run]

namespace Twins

variable {inMemory onDisk : Site} {location : Location} {locked : Bool} {memory : Memory}

/-- The twins answer an admissible request alike, and are twins behind it. -/
theorem ask (twins : Twins inMemory onDisk location locked memory) {request : StoreRequest}
    (admissible : request.Admissible) :
    (onDisk.run request.ask).1 = (inMemory.run request.ask).1 ∧
      ∃ still after, (locked = true ∨ request = .lock → still = true) ∧
        Twins (inMemory.run request.ask).2 (onDisk.run request.ask).2 location still after := by
  obtain ⟨lockTimeout, stands, mirrors⟩ := twins.mirrors
  obtain ⟨after, still, run, locks, mirrored⟩ :=
    mirrors.serves_admissible twins.roomy admissible
  have expanded : (request.ask.expand (Disk.answer ⟨onDisk.directory, lockTimeout⟩)).run
      FileTree.answer onDisk.tree = ((Memory.answer request memory).1, after) := by
    rw [Program.run_expand]
    exact run
  obtain ⟨told, kept⟩ := Site.run_memory twins.content request.ask
  rw [Site.run_disk stands expanded]
  exact ⟨told.symm, still, _, locks, kept, twins.valid, twins.roomy, lockTimeout, stands, mirrored⟩

/-- The twins tell the same reservations of an owner. -/
theorem reservationsOf (twins : Twins inMemory onDisk location locked memory) (owner : String) :
    (onDisk.run (AddressPool.reservationsOf owner)).1 =
        (inMemory.run (AddressPool.reservationsOf owner)).1 ∧
      Twins (inMemory.run (AddressPool.reservationsOf owner)).2
        (onDisk.run (AddressPool.reservationsOf owner)).2 location locked memory := by
  obtain ⟨lockTimeout, stands, mirrors⟩ := twins.mirrors
  have expanded : ((AddressPool.reservationsOf owner).expand
      (Disk.answer ⟨onDisk.directory, lockTimeout⟩)).run FileTree.answer onDisk.tree =
        (.ok (memory.ownedBy owner), onDisk.tree) := by
    have listed : StoreRequest.reservations.ask.run
        (fun request => (Disk.answer ⟨onDisk.directory, lockTimeout⟩ request).run FileTree.answer)
        onDisk.tree = (.ok memory.reservations, onDisk.tree) := mirrors.reservations_run
    rw [Program.run_expand, AddressPool.reservationsOf, Program.run_bind, listed]
    rfl
  obtain ⟨told, kept⟩ := Site.run_memory twins.content (AddressPool.reservationsOf owner)
  rw [Site.run_disk stands expanded]
  exact ⟨told.symm, kept, twins.valid, twins.roomy, lockTimeout, stands, mirrors⟩

/-- Opening the stores again leaves the twins as they are. -/
theorem reopen (twins : Twins inMemory onDisk location locked memory) (lockTimeout : Duration) :
    Twins (inMemory.reopen lockTimeout) (onDisk.reopen lockTimeout) location locked memory := by
  obtain ⟨earlier, stands, mirrors⟩ := twins.mirrors
  have same : inMemory.reopen lockTimeout = inMemory := by rw [Site.reopen, twins.content]
  have opened := openFor_run twins.valid mirrors.pictures.leads lockTimeout
  rw [same, Site.reopen, stands]
  simp only [opened]
  exact ⟨twins.content, twins.valid, twins.roomy, lockTimeout, rfl,
    mirrors.of_lockTimeout lockTimeout⟩

/-- Twins are twins behind any step. -/
theorem take (twins : Twins inMemory onDisk location locked memory) {step : StoreStep}
    (admissible : step.Admissible) :
    ∃ still after, (locked = true ∨ step = .ask .lock → still = true) ∧
      Twins (inMemory.take step) (onDisk.take step) location still after := by
  cases step with
  | ask request =>
    obtain ⟨_, still, after, locks, behind⟩ := twins.ask admissible
    refine ⟨still, after, fun held => locks (held.imp_right ?_), behind⟩
    intro same
    exact StoreStep.ask.inj same
  | reservationsOf owner =>
    exact ⟨locked, memory, fun held => held.resolve_right nofun, (twins.reservationsOf owner).2⟩
  | reopen lockTimeout =>
    exact ⟨locked, memory, fun held => held.resolve_right nofun, twins.reopen lockTimeout⟩

/-- Twins are twins behind any number of steps. -/
theorem takeAll (twins : Twins inMemory onDisk location locked memory) {steps : List StoreStep}
    (admissible : ∀ step ∈ steps, step.Admissible) :
    ∃ still after, (locked = true ∨ .ask .lock ∈ steps → still = true) ∧
      Twins (inMemory.takeAll steps) (onDisk.takeAll steps) location still after := by
  induction steps generalizing inMemory onDisk locked memory with
  | nil => exact ⟨locked, memory, fun held => held.resolve_right List.not_mem_nil, twins⟩
  | cons step rest ih =>
    obtain ⟨middle, content, early, behind⟩ := twins.take (admissible step (List.mem_cons_self ..))
    obtain ⟨still, after, late, final⟩ :=
      ih behind fun other member => admissible other (List.mem_cons_of_mem _ member)
    refine ⟨still, after, fun held => late ?_, final⟩
    rcases held with held | member
    · exact .inl (early (.inl held))
    · rcases List.mem_cons.mp member with same | later
      · exact .inl (early (.inr same.symm))
      · exact .inr later

end Twins

/-- **A store on disk refines a store in memory.**

On a memory store that is empty and on a disk store whose directory is empty, after any
admissible steps: every admissible request has the same answer, and so have the
reservations of every owner; and once the lock has been taken the directory holds just
the files that stand for what the memory store holds. -/
theorem disk_refines_memory {dataDirectory network : String} (lockTimeout : Duration)
    {tree : FileTree} {location : Location} (valid : Disk.isNetworkName network = true)
    (leads : tree.LeadsTo (Path.join dataDirectory network) location)
    (vacant : tree.namesIn location = []) (roomy : Roomy (Path.join dataDirectory network))
    (steps : List StoreStep) (admissible : ∀ step ∈ steps, step.Admissible) :
    let inMemory := (Site.mk dataDirectory network (.memory .empty) tree).takeAll steps
    let onDisk := (Site.mk dataDirectory network
      (.disk ⟨Path.join dataDirectory network, lockTimeout⟩) tree).takeAll steps
    (∀ request : StoreRequest, request.Admissible →
        (onDisk.run request.ask).1 = (inMemory.run request.ask).1) ∧
      (∀ owner, (onDisk.run (reservationsOf owner)).1 =
        (inMemory.run (reservationsOf owner)).1) ∧
      (.ask .lock ∈ steps →
        ∃ memory, inMemory.backend = .memory memory ∧ onDisk.HoldsFilesOf location memory) := by
  intro inMemory onDisk
  have mirrors : Mirrors ⟨Path.join dataDirectory network, lockTimeout⟩ tree location false
      .empty := .of_vacant leads vacant
  have started : Twins (Site.mk dataDirectory network (.memory .empty) tree)
      (Site.mk dataDirectory network
        (.disk ⟨Path.join dataDirectory network, lockTimeout⟩) tree) location false .empty :=
    ⟨rfl, valid, roomy, lockTimeout, rfl, mirrors⟩
  obtain ⟨locked, memory, locks, twins⟩ := started.takeAll admissible
  refine ⟨fun request allowed => (twins.ask allowed).1,
    fun owner => (twins.reservationsOf owner).1, fun taken => ⟨memory, twins.content, ?_⟩⟩
  obtain rfl := locks (.inr taken)
  obtain ⟨_, _, mirrored⟩ := twins.mirrors
  exact ⟨mirrored.pictures.leads, mirrored.pictures.listed,
    fun name entry => mirrored.entryAt_eq_some_iff⟩

/-- One owner takes the lock and an address, which becomes a cursor; the stores are opened again,
and another owner, who has spaces about it, takes the same address mapped into IPv6.  Then there are
four files in the directory. -/
theorem disk_refines_memory_net :
    let steps : List StoreStep :=
      [.ask .lock, .ask (.reserve (.v4 0x0a000002) "a" "eth0"),
        .ask (.setCursor "0" (.v4 0x0a000002)), .reopen (.ofMilliseconds 5),
        .ask (.reserve (.v6 0xffff0a000002) " b " "")]
    (∀ step ∈ steps, step.Admissible) ∧
      ∃ memory, (Site.vacantNet.takeAll steps).HoldsFilesOf ["net", "d"] memory ∧
        ∀ name entry, (Site.vacantNet.takeAll steps).tree.entryAt [name, "net", "d"] = some entry ↔
          (name, entry) ∈ [("lock", .ofText ""), ("10.0.0.2", .ofText "a\neth0"),
            ("::ffff:10.0.0.2", .ofText " b \n"), ("last_reserved_ip.0", .ofText "10.0.0.2")] := by
  intro steps
  have admissible : ∀ step ∈ steps, step.Admissible := by
    simp only [steps, List.forall_mem_cons]
    exact ⟨trivial, rfl, (by decide : ShortId "0"), trivial, rfl, nofun⟩
  obtain ⟨memory, content, holds⟩ := (disk_refines_memory (.ofMilliseconds 10000) (by decide)
    Site.leadsTo_vacantNet rfl Site.roomy_vacantNet steps admissible).2.2 (List.mem_cons_self ..)
  have stored := Backend.memory.inj content
  have distinct : (memory.cursors.map Prod.fst).Nodup := by
    rw [← stored]
    decide
  have files : memory.files = [("lock", .ofText ""), ("10.0.0.2", .ofText "a\neth0"),
      ("::ffff:10.0.0.2", .ofText " b \n"), ("last_reserved_ip.0", .ofText "10.0.0.2")] := by
    rw [← stored]
    decide
  refine ⟨admissible, memory, holds, fun name entry => ?_⟩
  rw [← files, ← fileOf_iff_mem_files distinct]
  exact holds.exactly name entry

end AddressPool
