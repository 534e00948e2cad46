import AddressPool.Proofs.Allocation.Interruption
import AddressPool.Proofs.Config.Retries
import AddressPool.Proofs.Store.Listing

/-!
# Recovery from calls that have been killed

Whoever calls a store on disk may be killed at any time, and then leaves in the directory
what the call has done so far (`Site.Kills`).  A directory that was empty at first, and in
which scans, releases and sweeps of one configuration have been made, some of them killed
(`Site.Lived`), still shows the content of a store: nobody holds two addresses of a ring for
one interface, and every record is of a call for its owner and its interface
(`Site.Lived.tended`).

So nothing has to be done to recover.  A call that has been killed can be made again, and
comes to what it would have come to (`killed_calls_are_recovered`).
-/

namespace AddressPool

set_option autoImplicit false

/-! ## Calls that are killed -/

/-- A site as it may be when a program on its store is killed. -/
def Site.Killed {α : Type} (site : Site) (program : StoreProgram α) (after : Site) : Prop :=
  ∃ tree, AddressPool.Killed (site.backend.perform program) site.tree tree ∧
    after = { site with tree }

/-- A site as it may be when a call on its store is killed. -/
inductive Site.Kills (site : Site) : Call → Site → Prop where
  | get {ring : Ring} {owner interface : String} {requested : Option Address} {after : Site}
      (killed : site.Killed (ring.get owner interface requested) after) :
      Kills site (.get ring owner interface requested) after
  | release {ring : Ring} {owner : String} {after : Site}
      (killed : site.Killed (ring.release owner) after) : Kills site (.release ring owner) after
  | sweep {live : List String} {after : Site}
      (killed : site.Killed (AddressPool.sweep live) after) :
      Kills site (.sweep live) after

/-- Scans, releases and sweeps of a configuration, for owners and interfaces that can be written
in records. -/
def Config.Regular (config : Config) : Call → Prop
  | .get ring owner interface requested =>
    ring ∈ config.rings ∧ requested = none ∧ Disk.brokenField? owner interface = none
  | .release ring _ => ring ∈ config.rings
  | .sweep _ => True
  | .lookup .. => False
  | .reopen _ => False

/-- A scan of a ring whose identifier is short asks for nothing but what a store is made for. -/
theorem Config.Regular.permitted {config : Config} {ring : Ring} {owner interface : String}
    {requested : Option Address} (regular : config.Regular (.get ring owner interface requested))
    (short : ∀ ring ∈ config.rings, ShortId ring.id) :
    ring.Permitted owner interface StoreRequest.Admissible where
  lock := trivial
  listing := trivial
  cursor := short ring regular.1
  reserve _ := regular.2.2
  setCursor _ := short ring regular.1
  release _ := trivial

/-- Sites on which calls have been made one after the other, of which some have been killed. -/
inductive Site.Lived (config : Config) (start : Site) : List Call → Site → Prop where
  | begun : Lived config start [] start
  | finished {calls : List Call} {site : Site} {call : Call} (lived : Lived config start calls site)
      (regular : config.Regular call) : Lived config start (calls ++ [call]) (site.call call)
  | killed {calls : List Call} {site after : Site} {call : Call}
      (lived : Lived config start calls site) (regular : config.Regular call)
      (kills : site.Kills call after) : Lived config start (calls ++ [call]) after

/-- Some call was made by a scan for the owner and the interface of a reservation, on the ring that
the address belongs to. -/
def Config.Made (config : Config) (calls : List Call) (reservation : Reservation) : Prop :=
  ∃ ring ∈ config.rings, ring.contains reservation.address = true ∧
    .get ring reservation.owner reservation.interface none ∈ calls

/-! ## What a call leaves in a store -/

/-- What a store holds behind a call that nothing interrupts. -/
def Call.effect (memory : Memory) : Call → Memory
  | .get ring owner interface requested =>
    ((ring.get owner interface requested).run Memory.answer memory).2
  | .release ring owner => ((ring.release owner).run Memory.answer memory).2
  | .lookup ring owner interface => ((ring.lookup owner interface).run Memory.answer memory).2
  | .sweep live => ((AddressPool.sweep live).run Memory.answer memory).2
  | .reopen _ => memory

/-- What a store may hold when a call is interrupted. -/
inductive Call.MayLeave (memory content : Memory) : Call → Prop where
  | get {ring : Ring} {owner interface : String}
      (begun : ring.Begun owner interface memory (ring.next? memory owner interface) content) :
      MayLeave memory content (.get ring owner interface none)
  | release {ring : Ring} {owner : String} (thinned : memory.Thinned (owner = ·) content) :
      MayLeave memory content (.release ring owner)
  | sweep {live : List String} (thinned : memory.Thinned (· ∉ live) content) :
      MayLeave memory content (.sweep live)

variable {config : Config} {memory content : Memory} {call : Call} {calls : List Call}
variable {ring : Ring} {owner interface : String}

namespace Call.MayLeave

theorem release_gone {owner : String} {reservation : Reservation}
    (doomed : owner = reservation.owner) : decide (reservation.owner ≠ owner) = false := by
  rw [doomed]
  simp

theorem sweep_gone {live : List String} {reservation : Reservation}
    (doomed : reservation.owner ∉ live) : live.contains reservation.owner = false := by
  simpa using doomed

/-- Each address is as before the call, or as behind it when nothing interrupts it. -/
theorem between (leaves : call.MayLeave memory content) :
    memory.Between (call.effect memory) content := by
  cases leaves with
  | get begun => exact begun.between
  | release thinned =>
    rw [effect, Ring.release_run]
    exact thinned.between fun _ => release_gone
  | sweep thinned =>
    rw [effect, sweep_run]
    exact thinned.between fun _ => sweep_gone

/-- A release or a sweep that is made again ends as it would have ended. -/
theorem effect_eq (leaves : call.MayLeave memory content)
    (other : ∀ ring owner interface requested, call ≠ .get ring owner interface requested) :
    call.effect content = call.effect memory := by
  cases leaves with
  | get => exact (other _ _ _ _ rfl).elim
  | release thinned =>
    rw [effect, effect, Ring.release_run, Ring.release_run]
    exact thinned.keep_eq fun _ => release_gone
  | sweep thinned =>
    rw [effect, effect, sweep_run, sweep_run]
    exact thinned.keep_eq fun _ => sweep_gone

end Call.MayLeave

/-- The address that a scan has begun to hand out is the only one of the caller. -/
theorem Config.Single.begun (single : config.Single memory) (member : ring ∈ config.rings)
    (begun : ring.Begun owner interface memory (ring.next? memory owner interface) content) :
    config.Single content := by
  cases begun with
  | unchanged => exact single
  | recorded here | handedOut here =>
    -- The cursor has nothing to do with who holds what.
    exact single.handOut member (Ring.contains_of_next? here) (Ring.unheld_of_next? here).1

theorem Config.Single.mayLeave (single : config.Single memory) (regular : config.Regular call)
    (leaves : call.MayLeave memory content) : config.Single content := by
  cases leaves with
  | get begun => exact single.begun regular.1 begun
  | release thinned => exact single.thinned thinned
  | sweep thinned => exact single.thinned thinned

/-- What is recorded by a call is for its owner and its interface. -/
theorem Config.made_of_mayLeave
    (made : ∀ reservation ∈ memory.reservations, config.Made calls reservation)
    (regular : config.Regular call) (leaves : call.MayLeave memory content) :
    ∀ reservation ∈ content.reservations, config.Made (calls ++ [call]) reservation := by
  have before : ∀ reservation ∈ memory.reservations, config.Made (calls ++ [call]) reservation := by
    intro reservation member
    obtain ⟨ring, listed, inside, earlier⟩ := made reservation member
    exact ⟨ring, listed, inside, List.mem_append_left _ earlier⟩
  intro reservation member
  cases leaves with
  | release thinned => exact before _ (thinned.mem_of_mem member)
  | sweep thinned => exact before _ (thinned.mem_of_mem member)
  | get begun =>
    cases begun with
    | unchanged => exact before _ member
    | recorded here | handedOut here =>
      rcases Memory.mem_put.mp member with rfl | ⟨there, _⟩
      · exact ⟨_, regular.1, Ring.contains_of_next? here,
          List.mem_append_right _ (List.mem_singleton_self _)⟩
      · exact before _ there

/-- Whoever holds one address of a ring for an interface, and no other, holds this one. -/
theorem Ring.Single.holdings_eq {allocation : Allocation} (single : ring.Single memory)
    (found : memory.find? allocation.address = some ⟨allocation.address, owner, interface⟩)
    (inside : ring.contains allocation.address = true) :
    ring.holdings owner interface memory.reservations =
      [⟨allocation.address, owner, interface⟩] := by
  have listed := (Memory.find?_eq_some_iff.mp found).1
  refine List.perm_singleton.mp ((List.perm_ext_iff_of_nodup
    (memory.nodup_reservations.filter _) (List.pairwise_singleton _ _)).mpr fun reservation => ?_)
  rw [List.mem_singleton]
  constructor
  · intro held
    obtain ⟨there, ⟨own, same⟩, also⟩ := Ring.mem_holdings.mp held
    exact single _ there _ listed own same also inside
  · rintro rfl
    exact Ring.mem_holdings.mpr ⟨listed, ⟨rfl, rfl⟩, inside⟩

/-- **A scan that is made again comes to what it would have come to.** -/
theorem Ring.Begun.repeated (single : config.Single memory) (member : ring ∈ config.rings)
    (begun : ring.Begun owner interface memory (ring.next? memory owner interface) content) :
    ((ring.get owner interface none).run Memory.answer content).1 =
      ((ring.get owner interface none).run Memory.answer memory).1 := by
  have still := single.begun member begun ring member
  have again := StoreRun.of_memory (fun _ => False) (ring.get owner interface none) content
  cases begun with
  | unchanged => rfl
  | recorded here | handedOut here =>
    obtain ⟨allocation, offered, run⟩ := get_run_of_next? here
    obtain rfl := address_of_allocation? offered
    have found := (ring.find?_handOut memory owner interface allocation.address
      allocation.address).trans (if_pos rfl)
    rw [run]
    exact (get_again not_false (still.heldFor found offered) again).1

/-- A scan that succeeds leaves the caller with one address of the ring. -/
theorem Ring.holdings_of_get (single : config.Single memory) (member : ring ∈ config.rings)
    {allocation : Allocation}
    (granted : ((ring.get owner interface none).run Memory.answer memory).1 = .ok allocation) :
    ring.holdings owner interface
        ((ring.get owner interface none).run Memory.answer memory).2.reservations =
      [⟨allocation.address, owner, interface⟩] := by
  have run := StoreRun.of_memory (fun _ => False) (ring.get owner interface none) memory
  have still := single.begun member (get_interrupted (.of_run run)) ring member
  rw [granted] at run
  have outcome := get_cases run
  refine still.holdings_eq (outcome.record.resolve_right fun requested => nomatch requested.1) ?_
  rw [← isSome_allocation?, outcome.offered]
  rfl

/-! ## Directories in which calls have been killed -/

/-- A directory that shows the content of a store, with nothing in the way of the requests that a
store is made for. -/
structure Tended (disk : Disk) (tree : FileTree) (location : Location) (memory : Memory) :
    Prop where
  shows : Shows disk tree location PlainId memory
  willing : ∀ request : StoreRequest, request.Admissible → ¬ disk.Hinders tree location request
  readable : ∀ id, PlainId id → FitsIn disk.directory (cursorName id) →
    ∃ text, disk.textOf tree (cursorName id) = .ok text

theorem StoreRequest.concerns_of_admissible (request : StoreRequest)
    (admissible : request.Admissible) : request.Concerns PlainId := by
  cases request with
  | cursor | setCursor => exact admissible.1
  | lock | reserve | release | releaseByOwner | reservations => trivial

namespace Tended

variable {disk : Disk} {tree after : FileTree} {location : Location}

section Vacant

variable (leads : tree.LeadsTo disk.directory location) (vacant : tree.namesIn location = [])
include leads vacant

theorem unwritten_of_vacant {id : String} (plain : PlainId id)
    (fits : FitsIn disk.directory (cursorName id)) :
    disk.textOf tree (cursorName id) = .ok none := by
  have reachable : disk.Reachable (.cursor id) := ⟨plain_cursorName plain, fits⟩
  have absent := FileTree.entryAt_of_vacant vacant (StoreFile.cursor id).name
  have read := Disk.textOf_of_none leads reachable absent
  exact read

/-- Nothing is in the way in an empty directory. -/
theorem willing_of_vacant (roomy : Roomy disk.directory) (request : StoreRequest)
    (admissible : request.Admissible) : ¬ disk.Hinders tree location request := by
  have nothing := fun name => FileTree.entryAt_of_vacant vacant name
  have clear : ∀ file, disk.Writable file → disk.Clear tree location file := fun file writable =>
    ⟨writable, FileTree.noDirectory_of_none (nothing _), FileTree.noDirectory_of_none (nothing _)⟩
  cases request with
  | lock =>
    refine not_not_intro ⟨Disk.reachable_lock roomy, fun entry there => ?_⟩
    rw [nothing] at there
    cases there
  | reserve address owner interface =>
    rintro (broken | blocked)
    · exact broken admissible
    · exact blocked (clear _ (Disk.writable_record roomy address))
  | release address => exact not_not_intro (Disk.writable_record roomy address).reachable
  | releaseByOwner | reservations => exact not_false
  | cursor id =>
    have reachable := (Disk.writable_cursor roomy admissible).reachable
    exact not_not_intro
      ⟨admissible.1, none, unwritten_of_vacant leads vacant admissible.1 reachable.2⟩
  | setCursor id address => exact not_not_intro (clear _ (Disk.writable_cursor roomy admissible))

/-- An empty directory shows the store that holds nothing. -/
theorem of_vacant (roomy : Roomy disk.directory) : Tended disk tree location .empty := by
  have nothing := fun name => FileTree.entryAt_of_vacant vacant name
  refine ⟨⟨leads, ?_, ?_, fun _ plain => plain, ?_⟩, willing_of_vacant leads vacant roomy, ?_⟩
  · rw [vacant]
    exact List.nodup_nil
  · intro name address _ there
    rw [nothing] at there
    cases there
  · intro file
    cases file with
    | lock => trivial
    | record address => exact nothing _
    | cursor id =>
      intro plain text told
      by_cases fits : FitsIn disk.directory (cursorName id)
      · rw [unwritten_of_vacant leads vacant plain fits] at told
        cases told
        rfl
      · have long := Disk.textOf_unfit (.cursor id) leads (plain_cursorName plain)
          fun reachable => fits reachable.2
        rw [StoreFile.name, told] at long
        cases long
  · intro id plain fits
    exact ⟨none, unwritten_of_vacant leads vacant plain fits⟩

end Vacant

variable (tended : Tended disk tree location memory)
include tended

theorem of_leaves (leaves : Leaves disk location PlainId tree after content) :
    Tended disk after location content := by
  refine ⟨leaves.shows, fun request admissible hinders => ?_, fun id plain fits => ?_⟩
  · exact tended.willing request admissible (leaves.noWorse request hinders)
  · by_contra unread
    have hinders : disk.Hinders after location (.cursor id) := fun usable => unread usable.2
    exact leaves.noWorse _ hinders ⟨plain, tended.readable id plain fits⟩

section Programs

variable {α : Type} {program : StoreProgram α}
variable (asks : program.AsksOnly StoreRequest.Admissible)
include asks

/-- A program runs on the directory as on the store that it shows. -/
theorem run (dataDirectory network : String) :
    ∃ after, Site.run ⟨dataDirectory, network, .disk disk, tree⟩ program =
        ((program.run Memory.answer memory).1, ⟨dataDirectory, network, .disk disk, after⟩) ∧
      Tended disk after location (program.run Memory.answer memory).2 := by
  obtain ⟨result, after, content, run, follows, leaves⟩ :=
    tended.shows.site_run (asks.imp StoreRequest.concerns_of_admissible) dataDirectory network
  have same := follows.eq_run (asks.imp tended.willing)
  rw [same]
  exact ⟨after, run, tended.of_leaves leaves⟩

/-- A program that is killed on the directory is interrupted on the store that it shows. -/
theorem killed {dataDirectory network : String} {site : Site}
    (killed : Site.Killed ⟨dataDirectory, network, .disk disk, tree⟩ program site) :
    ∃ after content, site = ⟨dataDirectory, network, .disk disk, after⟩ ∧
      Interrupted (disk.Hinders tree location) program memory content ∧
        Tended disk after location content := by
  obtain ⟨after, performing, rfl⟩ := killed
  have expanded := Killed.of_finished performing fun result => ⟨_, rfl⟩
  obtain ⟨content, interrupted, leaves⟩ :=
    tended.shows.killed (asks.imp StoreRequest.concerns_of_admissible) expanded
  exact ⟨after, content, rfl, interrupted, tended.of_leaves leaves⟩

end Programs

variable (short : ∀ ring ∈ config.rings, ShortId ring.id)
include short

/-- A call on the directory does to it what it does to the store that the directory shows. -/
theorem call_run (regular : config.Regular call) (dataDirectory network : String) :
    ∃ after, Site.call ⟨dataDirectory, network, .disk disk, tree⟩ call =
        ⟨dataDirectory, network, .disk disk, after⟩ ∧
      Tended disk after location (call.effect memory) := by
  cases call with
  | get ring owner interface requested =>
    have permitted := regular.permitted short
    obtain ⟨_, rfl, _⟩ := regular
    obtain ⟨after, run, behind⟩ :=
      tended.run (Ring.get_asksOnly permitted) dataDirectory network
    exact ⟨after, congrArg Prod.snd run, behind⟩
  | release ring owner =>
    have asks : (ring.release owner).AsksOnly StoreRequest.Admissible :=
      ring.release_asksOnly trivial trivial
    obtain ⟨after, run, behind⟩ := tended.run asks dataDirectory network
    exact ⟨after, congrArg Prod.snd run, behind⟩
  | sweep live =>
    obtain ⟨after, run, behind⟩ :=
      tended.run (sweep_asksOnly trivial trivial (fun _ => trivial) live) dataDirectory network
    exact ⟨after, congrArg Prod.snd run, behind⟩
  | lookup | reopen => exact regular.elim

/-- A call that is killed on the directory leaves what it may leave in the store that the directory
shows. -/
theorem kills (regular : config.Regular call) {dataDirectory network : String} {site : Site}
    (kills : Site.Kills ⟨dataDirectory, network, .disk disk, tree⟩ call site) :
    ∃ after content, site = ⟨dataDirectory, network, .disk disk, after⟩ ∧
      call.MayLeave memory content ∧ Tended disk after location content := by
  cases kills with
  | get killed =>
    have permitted := regular.permitted short
    obtain ⟨_, rfl, _⟩ := regular
    obtain ⟨after, content, rfl, interrupted, behind⟩ :=
      tended.killed (Ring.get_asksOnly permitted) killed
    exact ⟨after, content, rfl, .get (Ring.get_interrupted interrupted), behind⟩
  | release killed =>
    obtain ⟨after, content, rfl, interrupted, behind⟩ :=
      tended.killed (Ring.release_asksOnly _ trivial trivial) killed
    exact ⟨after, content, rfl, .release (Ring.release_interrupted interrupted), behind⟩
  | sweep killed =>
    obtain ⟨after, content, rfl, interrupted, behind⟩ :=
      tended.killed (sweep_asksOnly trivial trivial (fun _ => trivial) _) killed
    exact ⟨after, content, rfl, .sweep (sweep_interrupted interrupted), behind⟩

end Tended

/-- A call that nothing interrupts leaves what an interrupted one may leave. -/
theorem Config.Regular.mayLeave_effect (regular : config.Regular call) (memory : Memory) :
    call.MayLeave memory (call.effect memory) := by
  cases call with
  | get ring owner interface requested =>
    obtain ⟨_, rfl, _⟩ := regular
    exact .get (Ring.get_interrupted (.of_run (.of_memory (fun _ => False) _ memory)))
  | release ring owner =>
    exact .release (Ring.release_interrupted (.of_run (.of_memory (fun _ => False) _ memory)))
  | sweep live =>
    exact .sweep (sweep_interrupted (.of_run (.of_memory (fun _ => False) _ memory)))
  | lookup | reopen => exact regular.elim

/-- **However many calls have been killed, the directory shows a store in which nobody holds two
addresses of a ring for one interface, and each record is of a call.** -/
theorem Site.Lived.tended {disk : Disk} {tree : FileTree} {location : Location}
    {dataDirectory network : String} (short : ∀ ring ∈ config.rings, ShortId ring.id)
    (start : Tended disk tree location .empty) {site : Site}
    (lived : Site.Lived config ⟨dataDirectory, network, .disk disk, tree⟩ calls site) :
    ∃ here memory, site = ⟨dataDirectory, network, .disk disk, here⟩ ∧
      Tended disk here location memory ∧ config.Single memory ∧
        ∀ reservation ∈ memory.reservations, config.Made calls reservation := by
  induction lived with
  | begun =>
    refine ⟨tree, .empty, rfl, start, ?_, nofun⟩
    intro ring _ left listed
    cases listed
  | finished _ regular ih =>
    obtain ⟨here, memory, rfl, tended, single, made⟩ := ih
    obtain ⟨after, called, behind⟩ := tended.call_run short regular dataDirectory network
    have leaves := regular.mayLeave_effect memory
    exact ⟨after, _, called, behind, single.mayLeave regular leaves,
      Config.made_of_mayLeave made regular leaves⟩
  | killed _ regular kills ih =>
    obtain ⟨here, memory, rfl, tended, single, made⟩ := ih
    obtain ⟨after, content, rfl, leaves, behind⟩ := tended.kills short regular kills
    exact ⟨after, content, rfl, behind, single.mayLeave regular leaves,
      Config.made_of_mayLeave made regular leaves⟩

/-! ## What cannot be told apart -/

/-- Directories that show the same store cannot be told apart. -/
theorem Tended.unaltered {disk : Disk} {before after : FileTree} {location : Location}
    (here : Tended disk before location memory) (there : Tended disk after location memory)
    (dataDirectory network : String) :
    Site.Unaltered ⟨dataDirectory, network, .disk disk, before⟩
      ⟨dataDirectory, network, .disk disk, after⟩ := by
  constructor
  · rw [Site.run_ask_disk, Site.run_ask_disk, Disk.answer, here.shows.reservations_run,
      there.shows.reservations_run]
  · intro id slashless
    rw [Site.run_ask_disk, Site.run_ask_disk, Disk.answer,
      Disk.cursor_run (Disk.readTextIfAny_run _ after),
      Disk.cursor_run (Disk.readTextIfAny_run _ before)]
    by_cases null : Char.ofNat 0 ∈ id.toList
    · have inside : Char.ofNat 0 ∈ (disk.path (cursorName id)).toList := by
        rw [Disk.path, Path.mem_join (by decide), toList_cursorName]
        exact .inr (List.mem_append_right _ null)
      rw [FileTree.locate_of_null inside, FileTree.locate_of_null inside]
    have plain : PlainId id := ⟨slashless, null⟩
    by_cases fits : FitsIn disk.directory (cursorName id)
    · obtain ⟨text, told⟩ := here.readable id plain fits
      obtain ⟨other, still⟩ := there.readable id plain fits
      have first := here.shows.keeps (.cursor id) plain text told
      have second := there.shows.keeps (.cursor id) plain other still
      rw [Disk.textOf] at told still
      rw [told, still]
      exact congrArg Except.ok (second.symm.trans first)
    · rw [Disk.path, FileTree.locate_unfit here.shows.leads (plain_cursorName plain) fits,
        FileTree.locate_unfit there.shows.leads (plain_cursorName plain) fits]

/-- The reservations of an address among others. -/
def Reservation.ofAddress (address : Address) (reservations : List Reservation) :
    List Reservation := reservations.filter fun reservation => decide (reservation.address = address)

theorem Memory.ofAddress_reservations (memory : Memory) (address : Address) :
    Reservation.ofAddress address memory.reservations = (memory.find? address).toList := by
  cases found : memory.find? address with
  | none =>
    refine List.filter_eq_nil_iff.mpr fun reservation member => ?_
    simpa using Memory.find?_eq_none_iff.mp found reservation member
  | some reservation =>
    obtain rfl := Memory.address_of_find? found
    exact Memory.filter_eq_singleton_iff.mpr found

/-! ## The main result -/

/-- **Calls that have been killed are recovered from by making them again.**

The directory of a store was empty at first.  Scans, releases and sweeps of one
configuration have been made in it, and each of them may have been killed at any time; no
limit on names or paths is in their way.  Now one more such call is killed.  Then the
directory still lists no address twice, and all records are of calls for their owners and
interfaces, on the rings that their addresses belong to.  Each address is listed as it was
before the call, or as it is behind the call when nothing kills it.  A scan that is made
again comes to what it would have come to, and if it succeeds, what it tells is the only
address of the ring that the owner holds for the interface.  Behind a release or a sweep
that is made again, the reservations and the cursors are those behind one that has not been
killed. -/
theorem killed_calls_are_recovered (config : Config)
    (short : ∀ ring ∈ config.rings, ShortId ring.id) {disk : Disk} (roomy : Roomy disk.directory)
    {tree : FileTree} {location : Location} (leads : tree.LeadsTo disk.directory location)
    (vacant : tree.namesIn location = []) (dataDirectory network : String) {calls : List Call}
    {site : Site}
    (lived : Site.Lived config ⟨dataDirectory, network, .disk disk, tree⟩ calls site)
    {call : Call} (regular : config.Regular call) {after : Site} (kills : site.Kills call after) :
    (∃ listed whole later : List Reservation, site.listing = .ok listed ∧
      (site.call call).listing = .ok whole ∧ after.listing = .ok later ∧
      (later.map (·.address)).Nodup ∧
      (∀ reservation ∈ later, config.Made (calls ++ [call]) reservation) ∧
      ∀ address, Reservation.ofAddress address later = Reservation.ofAddress address listed ∨
        Reservation.ofAddress address later = Reservation.ofAddress address whole) ∧
    (∀ ring owner interface, call = .get ring owner interface none →
      let again := after.run (ring.get owner interface none)
      again.1 = (site.run (ring.get owner interface none)).1 ∧
        ∀ allocation, again.1 = .ok allocation → ∃ listed, again.2.listing = .ok listed ∧
          ring.holdings owner interface listed = [⟨allocation.address, owner, interface⟩]) ∧
    ((∀ ring owner interface requested, call ≠ .get ring owner interface requested) →
      (site.call call).Unaltered (after.call call)) := by
  obtain ⟨here, memory, rfl, tended, single, made⟩ :=
    lived.tended short (.of_vacant leads vacant roomy)
  obtain ⟨whole, called, finished⟩ := tended.call_run short regular dataDirectory network
  obtain ⟨there, content, rfl, leaves, behind⟩ := tended.kills short regular kills
  refine ⟨⟨memory.reservations, (call.effect memory).reservations, content.reservations,
    tended.shows.listing .., ?_, behind.shows.listing .., ?_, ?_, ?_⟩, ?_, ?_⟩
  · rw [called]
    exact finished.shows.listing ..
  · exact List.pairwise_map.mpr content.distinct
  · exact Config.made_of_mayLeave made regular leaves
  · intro address
    simp only [Memory.ofAddress_reservations]
    exact (leaves.between address).imp (congrArg Option.toList) (congrArg Option.toList)
  · rintro ring owner interface rfl again
    have asks := Ring.get_asksOnly (regular.permitted short)
    obtain ⟨_, first, _⟩ := tended.run asks dataDirectory network
    obtain ⟨last, second, held⟩ := behind.run asks dataDirectory network
    cases leaves with
    | get begun =>
      simp only [again, first, second]
      refine ⟨begun.repeated single regular.1, fun allocation granted => ?_⟩
      exact ⟨_, held.shows.listing .., Ring.holdings_of_get (single.begun regular.1 begun)
        regular.1 granted⟩
  · intro other
    obtain ⟨last, again, repeated⟩ := behind.call_run short regular dataDirectory network
    rw [leaves.effect_eq other] at repeated
    rw [called, again]
    exact finished.unaltered repeated dataDirectory network

/-- An owner has been handed out an address.  Another one is killed when its record has been written
and the cursor has not: its address is the next one, and it is told so when it asks again. -/
theorem killed_calls_are_recovered_slash29 :
    let text := "[\"net\",[[[\"10.0.0.0/29\"]]]]"
    let allocation : Allocation :=
      ⟨.v4 0x0a000003, ⟨.v4 0x0a000000, 29, by decide⟩, .v4 0x0a000001⟩
    ∃ config ring site after, Config.ofText text = .ok config ∧ ring ∈ config.rings ∧
      Site.Lived config Site.vacantNet [.get ring "a" "eth0" none] site ∧
        site.Kills (.get ring "b" "eth0" none) after ∧
        (after.run (StoreRequest.cursor "0").ask).1 = .ok (some (.v4 0x0a000002)) ∧
          (site.run (ring.get "b" "eth0" none)).1 = .ok allocation ∧
          (after.run (ring.get "b" "eth0" none)).1 = .ok allocation ∧
          ∃ listed, (after.run (ring.get "b" "eth0" none)).2.listing = .ok listed ∧
            ring.holdings "b" "eth0" listed = [⟨.v4 0x0a000003, "b", "eth0"⟩] := by
  intro text allocation
  have run : ((Config.ofText text).toOption.bind fun config => config.rings[0]?.map fun ring =>
      let site := Site.vacantNet.call (.get ring "a" "eth0" none)
      let tree := site.tree.behind 9 (site.backend.perform (ring.get "b" "eth0" none))
      (config.rings.all fun ring => decide (ShortId ring.id),
        (Site.run { site with tree } (StoreRequest.cursor "0").ask).1,
        (site.run (ring.get "b" "eth0" none)).1)) =
      some (true, .ok (some (.v4 0x0a000002)), .ok allocation) := by
    decide +kernel
  cases accepted : Config.ofText text with
  | error error =>
    rw [accepted] at run
    cases run
  | ok config =>
    rw [accepted] at run
    obtain ⟨ring, placed, results⟩ := Option.map_eq_some_iff.mp run
    obtain ⟨all, rest⟩ := Prod.mk.inj results
    obtain ⟨cursor, granted⟩ := Prod.mk.inj rest
    have member := List.mem_of_getElem? placed
    have short : ∀ ring ∈ config.rings, ShortId ring.id := fun ring member =>
      of_decide_eq_true (List.all_eq_true.mp all ring member)
    have first : config.Regular (.get ring "a" "eth0" none) := ⟨member, rfl, by decide⟩
    have second : config.Regular (.get ring "b" "eth0" none) := ⟨member, rfl, by decide⟩
    have lived : Site.Lived config Site.vacantNet ([] ++ [.get ring "a" "eth0" none]) _ :=
      .finished .begun first
    have kills : Site.Kills (Site.vacantNet.call (.get ring "a" "eth0" none))
        (.get ring "b" "eth0" none) _ := .get ⟨_, Killed.behind 9 _ _, rfl⟩
    obtain ⟨_, again, _⟩ := killed_calls_are_recovered config short Site.roomy_vacantNet
      Site.leadsTo_vacantNet rfl "/d" "net" lived second kills
    obtain ⟨told, alone⟩ := again ring "b" "eth0" rfl
    rw [granted] at told
    exact ⟨config, ring, _, _, rfl, member, lived, kills, cursor, granted, told,
      alone allocation told⟩

end AddressPool
