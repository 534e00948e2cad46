import AddressPool.Proofs.Allocation.Ownership
import AddressPool.Proofs.Store.Served

/-!
# Listing a directory, and looking addresses up in it

A store lists its directory by reading the names there as addresses, and it looks an
address up by writing its text and asking for the file of that name.  The two agree
where every name that is read as an address is the text of this address, whoever has
put the file there: then an address is listed at most once, it can be reserved if it is
not listed, and what is released or swept is not listed any more, while everything else
is (`listing_agrees_with_access`).

They do not agree otherwise.  An address of version 6 can be written in many ways, all of
which are read as the address, and only one is its text.  Under another name a record is
listed and cannot be found: the address can be reserved again, and the owner cannot
be released (`two_records_of_one_address`).
-/

namespace AddressPool

set_option autoImplicit false

variable {disk : Disk} {tree : FileTree} {location : Location}
variable {ids : String → Prop} {memory : Memory}

/-! ## Directories in order -/

/-- A directory in which every name that is read as an address is the text of this address, and
stands for a file with a text in it. -/
structure Disk.Orderly (disk : Disk) (tree : FileTree) (location : Location) : Prop where
  leads : tree.LeadsTo disk.directory location
  listed : tree.Listed location
  canonical : ∀ name ∈ tree.namesIn location, ∀ address,
    Address.ofString? name = some address → name = address.text
  readable : ∀ name ∈ tree.namesIn location, ∀ address,
    Address.ofString? name = some address → ∃ text, disk.textOf tree name = .ok (some text)

namespace Disk

/-- The reservation in the record of an address. -/
def recordOf? (disk : Disk) (tree : FileTree) (address : Address) : Option Reservation :=
  match disk.textOf tree address.text with
  | .ok (some text) => some ⟨address, (readRecord text).1, (readRecord text).2⟩
  | _ => none

theorem recordOf?_eq_some_iff {address : Address} {reservation : Reservation} :
    disk.recordOf? tree address = some reservation ↔
      reservation.address = address ∧ ∃ text, disk.textOf tree address.text = .ok (some text) ∧
        readRecord text = (reservation.owner, reservation.interface) := by
  unfold recordOf?
  constructor
  · intro found
    split at found
    · rename_i text told
      obtain rfl := Option.some.inj found
      exact ⟨rfl, text, told, rfl⟩
    · cases found
  · rintro ⟨rfl, text, told, read⟩
    simp only [told, read]

namespace Orderly

variable (orderly : disk.Orderly tree location)
include orderly

/-- The reservations that the names in the directory stand for are of different addresses. -/
theorem distinct : ((tree.namesIn location).filterMap fun name =>
    (Address.ofString? name).bind (disk.recordOf? tree)).Pairwise
      fun left right => left.address ≠ right.address := by
  refine List.pairwise_filterMap.mpr (List.Pairwise.imp_of_mem ?_ orderly.listed)
  intro left right here there different first one second two same
  obtain ⟨address, read, found⟩ := Option.bind_eq_some_iff.mp one
  obtain ⟨other, reread, refound⟩ := Option.bind_eq_some_iff.mp two
  refine different ?_
  rw [orderly.canonical left here address read, orderly.canonical right there other reread,
    ← (recordOf?_eq_some_iff.mp found).1, ← (recordOf?_eq_some_iff.mp refound).1, same]

/-- The reservation that is found for an address, among those that the names stand for, is that in
the record of the address. -/
theorem mem_sort_iff {address : Address} {reservation : Reservation} :
    (reservation ∈ Reservation.sort ((tree.namesIn location).filterMap fun name =>
        (Address.ofString? name).bind (disk.recordOf? tree)) ∧ reservation.address = address) ↔
      disk.recordOf? tree address = some reservation := by
  rw [(Memory.perm_sort _).mem_iff, List.mem_filterMap]
  constructor
  · rintro ⟨⟨name, _, found⟩, rfl⟩
    obtain ⟨other, _, found⟩ := Option.bind_eq_some_iff.mp found
    rw [(recordOf?_eq_some_iff.mp found).1]
    exact found
  · intro found
    obtain ⟨same, text, told, _⟩ := recordOf?_eq_some_iff.mp found
    obtain ⟨_, _, _, there⟩ :=
      of_textOf (.record address) orderly.leads (plain_text address) told
    refine ⟨⟨address.text, ?_, ?_⟩, same⟩
    · rw [FileTree.mem_namesIn_iff]
      exact Option.isSome_iff_exists.mpr ⟨_, there⟩
    · rw [Address.ofString?_text, Option.bind_some, found]

/-- **A directory in order shows the content of a store in memory.** -/
theorem exists_shows (ids : String → Prop) (cursors : List (String × Address))
    (plain : ∀ id, ids id → PlainId id)
    (told : ∀ id, ids id → ∀ text, disk.textOf tree (cursorName id) = .ok text →
      cursors.lookup id = cursorIn text) :
    ∃ memory, Shows disk tree location ids memory ∧
      ∀ address, memory.find? address = disk.recordOf? tree address := by
  obtain ⟨memory, same, finds⟩ : ∃ memory : Memory, memory.cursors = cursors ∧
      ∀ address, memory.find? address = disk.recordOf? tree address := by
    refine ⟨⟨_, Memory.ascending_sort orderly.distinct, cursors⟩, rfl, fun address => ?_⟩
    rw [Option.ext_iff]
    intro reservation
    rw [Memory.find?_eq_some_iff]
    exact orderly.mem_sort_iff
  refine ⟨memory, ⟨orderly.leads, orderly.listed.filter _, ?_, plain, ?_⟩, finds⟩
  · intro name address read there
    exact orderly.canonical name (FileTree.mem_namesIn_iff.mpr there) address read
  intro file
  cases file with
  | lock => trivial
  | cursor id =>
    intro matters text found
    rw [same]
    exact told id matters text found
  | record address =>
    rw [Keeps, finds]
    cases found : disk.recordOf? tree address with
    | some reservation => exact (recordOf?_eq_some_iff.mp found).2
    | none =>
      cases there : tree.entryAt (address.text :: location) with
      | none => rfl
      | some entry =>
        have listed : address.text ∈ tree.namesIn location := by
          rw [FileTree.mem_namesIn_iff, there]
          rfl
        obtain ⟨text, told⟩ := orderly.readable _ listed address address.ofString?_text
        have held : disk.recordOf? tree address =
            some ⟨address, (readRecord text).1, (readRecord text).2⟩ :=
          recordOf?_eq_some_iff.mpr ⟨rfl, text, told, rfl⟩
        rw [found] at held
        cases held

/-- With the cursor of one ring, whatever its file says. -/
theorem exists_shows_cursor {id : String} (plain : PlainId id) :
    ∃ memory, Shows disk tree location (· = id) memory := by
  obtain ⟨cursors, told⟩ : ∃ cursors : List (String × Address),
      ∀ text, disk.textOf tree (cursorName id) = .ok text →
        cursors.lookup id = cursorIn text := by
    cases disk.textOf tree (cursorName id) with
    | error => exact ⟨[], nofun⟩
    | ok text =>
      refine ⟨(cursorIn text).toList.map fun address => (id, address), ?_⟩
      rintro _ ⟨⟩
      cases cursorIn text <;> simp
  obtain ⟨memory, shows, _⟩ := orderly.exists_shows (· = id) cursors
    (fun other same => same ▸ plain) (fun other same => same ▸ told)
  exact ⟨memory, shows⟩

end Orderly

end Disk

/-! ## Programs on a directory -/

/-- What a store lists. -/
def Site.listing (site : Site) : Except StoreError (List Reservation) :=
  (site.run StoreRequest.reservations.ask).1

namespace Shows

variable (shows : Shows disk tree location ids memory)
include shows

/-- A store is listed as its directory shows. -/
theorem listing (dataDirectory network : String) :
    Site.listing ⟨dataDirectory, network, .disk disk, tree⟩ = .ok memory.reservations := by
  rw [Site.listing, Site.run_ask_disk, Disk.answer, shows.reservations_run]

/-- A program runs on a site as on what its directory shows. -/
theorem site_run {α : Type} {program : StoreProgram α}
    (asks : program.AsksOnly (StoreRequest.Concerns ids)) (dataDirectory network : String) :
    ∃ result after content,
      Site.run ⟨dataDirectory, network, .disk disk, tree⟩ program =
          (result, ⟨dataDirectory, network, .disk disk, after⟩) ∧
        StoreRun (disk.Hinders tree location) program memory result content ∧
          Leaves disk location ids tree after content := by
  obtain ⟨result, after, content, run, follows, leaves⟩ := shows.run asks
  exact ⟨result, after, content, by rw [Site.run_mk_disk, run], follows, leaves⟩

/-- One request is told from what the directory shows. -/
theorem site_ask {request : StoreRequest} (concerns : request.Concerns ids)
    (dataDirectory network : String) :
    ∃ answer after content,
      Site.run ⟨dataDirectory, network, .disk disk, tree⟩ request.ask =
          (answer, ⟨dataDirectory, network, .disk disk, after⟩) ∧
        Answers (disk.Hinders tree location) memory request answer content ∧
          Site.listing ⟨dataDirectory, network, .disk disk, after⟩ = .ok content.reservations := by
  obtain ⟨answer, after, content, run, follows, leaves⟩ :=
    shows.site_run (StoreRequest.ask_asksOnly concerns) dataDirectory network
  obtain ⟨_, middle, answers, rest⟩ := follows.of_ask
  obtain ⟨rfl, rfl⟩ := rest.of_done
  exact ⟨_, after, _, run, answers, leaves.shows.listing ..⟩

end Shows

/-! ## The main result -/

/-- **Listings and look-ups agree on a directory that is in order.**

Every name in the directory of a store that is read as an address is the text of this
address and stands for a file with a text in it; whoever has written it, and whatever
else is there.  Then no address is listed twice, and what is listed is what the records
of the addresses say.  A record is made only of an address that is not listed, and
then it is listed too.  An address that has been released is not listed any more; nor is
any address of an owner that has been released, or of an owner that is not live behind a
sweep.  Nothing else ever leaves the listing. -/
theorem listing_agrees_with_access (dataDirectory network : String)
    (orderly : disk.Orderly tree location) :
    let site : Site := ⟨dataDirectory, network, .disk disk, tree⟩
    ∃ listed : List Reservation, site.listing = .ok listed ∧ (listed.map (·.address)).Nodup ∧
      (∀ reservation, reservation ∈ listed ↔
        ∃ text, disk.textOf tree reservation.address.text = .ok (some text) ∧
          readRecord text = (reservation.owner, reservation.interface)) ∧
      (∀ address owner interface,
        let reply := site.run (StoreRequest.reserve address owner interface).ask
        ∃ later, reply.2.listing = .ok later ∧
          (reply.1 = .ok true → (∀ reservation ∈ listed, reservation.address ≠ address) ∧
            ∀ reservation, reservation ∈ later ↔
              reservation = ⟨address, owner, interface⟩ ∨ reservation ∈ listed) ∧
          (reply.1 ≠ .ok true → later = listed)) ∧
      (∀ address released,
        let reply := site.run (StoreRequest.release address).ask
        reply.1 = .ok released → reply.2.listing =
          .ok (listed.filter fun reservation => decide (reservation.address ≠ address))) ∧
      (∀ owner,
        let reply := site.run (StoreRequest.releaseByOwner owner).ask
        (∃ count, reply.1 = .ok count) ∧ reply.2.listing =
          .ok (listed.filter fun reservation => decide (reservation.owner ≠ owner))) ∧
      ∀ live,
        let reply := site.run (sweep live)
        (∃ cause, reply.1 = .error cause) ∧ reply.2.listing = .ok listed ∨
          reply.1 = .ok ⟨listed.filter fun reservation => !live.contains reservation.owner,
              listed.countP fun reservation => live.contains reservation.owner⟩ ∧
            reply.2.listing =
              .ok (listed.filter fun reservation => live.contains reservation.owner) := by
  intro site
  obtain ⟨memory, shows, finds⟩ := orderly.exists_shows (fun _ => False) [] (fun _ => nofun)
    (fun _ => nofun)
  have asked := fun (request : StoreRequest) (concerns : request.Concerns fun _ => False) =>
    shows.site_ask concerns dataDirectory network
  refine ⟨memory.reservations, shows.listing .., ?_, ?_, ?_, ?_, ?_, ?_⟩
  · exact List.pairwise_map.mpr memory.distinct
  · intro reservation
    have recorded := finds reservation.address
    constructor
    · intro member
      rw [Memory.find?_eq_some_iff.mpr ⟨member, rfl⟩] at recorded
      exact (Disk.recordOf?_eq_some_iff.mp recorded.symm).2
    · intro told
      rw [Disk.recordOf?_eq_some_iff.mpr ⟨rfl, told⟩] at recorded
      exact (Memory.find?_eq_some_iff.mp recorded).1
  · intro address owner interface reply
    obtain ⟨answer, after, content, run, answers, later⟩ :=
      asked (.reserve address owner interface) trivial
    simp only [reply, site, run]
    refine ⟨content.reservations, later, ?_⟩
    rcases answers.reserve with ⟨free, rfl, rfl⟩ | ⟨holder, held, rfl, told⟩ |
      ⟨_, rfl, fault, _, rfl⟩
    · refine ⟨fun _ => ⟨Memory.find?_eq_none_iff.mp free, fun _ => ?_⟩,
        fun failed => absurd rfl failed⟩
      exact Memory.mem_put_of_free free
    · refine ⟨fun fresh => ?_, fun _ => rfl⟩
      rcases told with ⟨_, rfl⟩ | ⟨_, rfl⟩ <;> cases fresh
    · refine ⟨fun fresh => ?_, fun _ => rfl⟩
      cases fresh
  · intro address released reply told
    obtain ⟨answer, after, content, run, answers, later⟩ := asked (.release address) trivial
    simp only [reply, site, run] at told ⊢
    rcases answers.release with ⟨_, rfl⟩ | ⟨_, _, _, fault, rfl⟩
    · exact later
    · cases told
  · intro owner reply
    obtain ⟨answer, after, content, run, answers, later⟩ := asked (.releaseByOwner owner) trivial
    obtain ⟨counted, rfl⟩ := answers.releaseByOwner
    simp only [reply, site, run]
    exact ⟨counted, later⟩
  · intro live reply
    obtain ⟨result, after, content, run, follows, leaves⟩ := shows.site_run
      (sweep_asksOnly trivial trivial (fun _ => trivial) live) dataDirectory network
    have later := leaves.shows.listing dataDirectory network
    simp only [reply, site, run]
    rcases sweep_outcome follows with ⟨_, failed, rfl⟩ | ⟨rfl, rfl⟩
    · exact .inl ⟨failed, later⟩
    · exact .inr ⟨rfl, later⟩

/-- A store on disk for the network `net`, with some files in its directory. -/
def Site.netWith (files : List (String × Entry)) : Site :=
  { Site.vacantNet with
    tree := ⟨files.map (fun file => ([file.1, "net", "d"], file.2)) ++
      Site.vacantNet.tree.entries⟩ }

/-- Two records have been written by hand, next to a file that is no text and a directory.  When
the owner of one is released the other one is left. -/
theorem listing_agrees_with_access_by_hand :
    let site := Site.netWith [("10.0.0.2", .ofText "a\neth0"), ("2001:db8::2", .ofText "b\n"),
      ("notes", .file ⟨#[255]⟩ false), ("old", .directory)]
    let first : Reservation := ⟨.v4 0x0a000002, "a", "eth0"⟩
    let second : Reservation := ⟨.v6 0x20010db8000000000000000000000002, "b", ""⟩
    site.listing = .ok [first, second] ∧
      (site.run (StoreRequest.releaseByOwner "a").ask).2.listing = .ok [second] := by
  intro site first second
  have names : site.tree.namesIn ["net", "d"] = ["10.0.0.2", "2001:db8::2", "notes", "old"] := rfl
  have orderly : Disk.Orderly ⟨Path.join "/d" "net", .ofMilliseconds 10000⟩ site.tree
      ["net", "d"] := by
    have one : Address.ofString? "10.0.0.2" = some first.address := by decide
    have two : Address.ofString? "2001:db8::2" = some second.address := by decide
    have neither : Address.ofString? "notes" = none ∧ Address.ofString? "old" = none := by decide
    refine ⟨rfl, ?_, ?_, ?_⟩
    · rw [FileTree.Listed, names]
      decide
    · rw [names]
      simp only [List.forall_mem_cons, one, two, neither, Option.some.injEq, forall_eq']
      decide
    · rw [names]
      simp only [List.forall_mem_cons, one, two, neither, Option.some.injEq, forall_eq']
      exact ⟨⟨"a\neth0", by decide +kernel⟩, ⟨"b\n", by decide +kernel⟩, by simp, by simp, by simp⟩
  obtain ⟨listed, told, _, _, _, _, released, _⟩ :=
    listing_agrees_with_access "/d" "net" orderly
  have same : site.listing = .ok [first, second] := by decide +kernel
  obtain rfl := Except.ok.inj (told.symm.trans same)
  exact ⟨same, (released "a").2⟩

/-- **An address that is written in another way than the store writes it has two records.**

It is listed for the owner that the file of the other name speaks of, and no sweep takes it
away.  Yet it is reserved for another owner.  Then it is listed twice, and when the first owner
is released it is the record of the other one that goes. -/
theorem two_records_of_one_address :
    let site := Site.netWith [("0:0:0:0:0:0:0:2", .ofText "a\neth0")]
    let later := (site.run (StoreRequest.reserve (.v6 2) "b" "eth0").ask).2
    site.listing = .ok [⟨.v6 2, "a", "eth0"⟩] ∧
      (site.run (sweep ["b"])).2.listing = .ok [⟨.v6 2, "a", "eth0"⟩] ∧
      (site.run (StoreRequest.reserve (.v6 2) "b" "eth0").ask).1 = .ok true ∧
      later.listing = .ok [⟨.v6 2, "a", "eth0"⟩, ⟨.v6 2, "b", "eth0"⟩] ∧
      (later.run (StoreRequest.releaseByOwner "a").ask).2.listing =
        .ok [⟨.v6 2, "a", "eth0"⟩] := by
  decide +kernel

end AddressPool
