import AddressPool.Proofs.Allocation.Succession
import AddressPool.Proofs.Store.Listing

/-!
# Cursors that anybody may have written

A scan starts behind the cursor of its ring, which is whatever can be read from the file
of the cursor: an address of the ring or of another family, one that may not be handed
out, or no address at all.  Wherever it starts, the walk goes all the way round.  So as
long as the file is a text, or is missing, it makes no difference to whether a scan hands
out an address, but only to which one (`cursor_is_only_a_hint`).

A file that is no text is another matter.  It cannot be read, and every scan of the ring
fails until somebody takes it away, though addresses may be free
(`unreadable_cursor_fails`).
-/

namespace AddressPool

set_option autoImplicit false

variable {disk : Disk} {tree : FileTree} {location : Location} {ids : String → Prop}
variable {memory : Memory} {ring : Ring} {owner interface : String}

/-! ## What is in the file of a cursor -/

theorem decodeText_valid {bytes : ByteArray} (valid : bytes.IsValidUTF8) :
    ∃ text, decodeText bytes = .ok text := by
  refine ⟨String.fromUTF8 bytes valid, ?_⟩
  rw [decodeText, String.fromUTF8?, dif_pos valid]

theorem decodeText_invalid {bytes : ByteArray} (invalid : ¬ bytes.IsValidUTF8) :
    decodeText bytes = .error .invalidText := by
  rw [decodeText, String.fromUTF8?, dif_neg invalid]

/-- A file is read as the text that its content stands for. -/
theorem Disk.textOf_of_file {file : StoreFile} {bytes : ByteArray} {held : Bool}
    (leads : tree.LeadsTo disk.directory location) (reachable : disk.Reachable file)
    (there : tree.entryAt (file.name :: location) = some (.file bytes held)) :
    disk.textOf tree file.name = (decodeText bytes).map some := by
  rw [textOf, path, FileTree.locate_named leads reachable.1 reachable.2, there]
  rfl

/-- Nothing in the directory is in the way of a scan of the ring, whatever the text of the cursor
may be. -/
structure Disk.Unobstructed (disk : Disk) (tree : FileTree) (location : Location) (ring : Ring) :
    Prop where
  roomy : Roomy disk.directory
  short : ShortId ring.id
  lock : disk.Usable tree location .lock
  records : ∀ address : Address,
    tree.entryAt (temporaryName address.text :: location) ≠ some .directory
  cursor : tree.entryAt (temporaryName (cursorName ring.id) :: location) ≠ some .directory

/-! ## Scans of a directory -/

namespace Disk.Unobstructed

variable (unobstructed : disk.Unobstructed tree location ring)
include unobstructed

/-- A cursor that is missing, or is any text, can be read. -/
theorem textOf_valid (leads : tree.LeadsTo disk.directory location) {cursor : Option ByteArray}
    {held : Bool} (stands : tree.entryAt (cursorName ring.id :: location) =
      cursor.map fun bytes => .file bytes held) (valid : ∀ bytes ∈ cursor, bytes.IsValidUTF8) :
    ∃ text, disk.textOf tree (cursorName ring.id) = .ok text := by
  have reachable := (writable_cursor unobstructed.roomy unobstructed.short).reachable
  cases cursor with
  | none =>
    have vacant := textOf_of_none leads reachable stands
    exact ⟨none, vacant⟩
  | some bytes =>
    obtain ⟨text, decoded⟩ := decodeText_valid (valid bytes rfl)
    have read := textOf_of_file leads reachable stands
    rw [decoded] at read
    exact ⟨some text, read⟩

/-- A cursor that is no text cannot be read. -/
theorem textOf_invalid (leads : tree.LeadsTo disk.directory location) {bytes : ByteArray}
    {held : Bool} (stands : tree.entryAt (cursorName ring.id :: location) =
      some (.file bytes held)) (invalid : ¬ bytes.IsValidUTF8) :
    disk.textOf tree (cursorName ring.id) = .error .invalidText := by
  have reachable := (writable_cursor unobstructed.roomy unobstructed.short).reachable
  have read := textOf_of_file leads reachable stands
  rw [decodeText_invalid invalid] at read
  exact read

/-- No request of a scan is hindered, as long as the cursor can be read. -/
theorem willing (shows : Shows disk tree location ids memory)
    (unbroken : Disk.brokenField? owner interface = none)
    (noDirectory : tree.entryAt (cursorName ring.id :: location) ≠ some .directory)
    {text : Option String} (told : disk.textOf tree (cursorName ring.id) = .ok text)
    {request : StoreRequest} (asks : ring.Asks owner interface request) :
    ¬ disk.Hinders tree location request := by
  cases asks with
  | lock => exact not_not_intro unobstructed.lock
  | cursor => exact not_not_intro ⟨unobstructed.short.1, text, told⟩
  | reserve address =>
    rintro (broken | blocked)
    · exact broken unbroken
    · exact blocked ⟨writable_record unobstructed.roomy address, unobstructed.records address,
        shows.no_directory address⟩
  | setCursor address =>
    exact not_not_intro ⟨writable_cursor unobstructed.roomy unobstructed.short,
      unobstructed.cursor, noDirectory⟩

end Disk.Unobstructed

namespace Ring

/-- The free addresses of a ring are those that may be handed out and are not reserved. -/
theorem mem_free {address : Address} : address ∈ ring.free memory ↔
    ring.contains address = true ∧
      ∀ reservation ∈ memory.reservations, reservation.address ≠ address := by
  rw [free, candidates_eq_circuit, List.mem_filter, mem_circuit, Memory.isFree_iff,
    Memory.find?_eq_none_iff]

/-- A ring has a free address unless each of its addresses is reserved. -/
theorem free_eq_nil_iff : ring.free memory = [] ↔
    ∀ address, ring.contains address = true →
      ∃ reservation ∈ memory.reservations, reservation.address = address := by
  rw [List.eq_nil_iff_forall_not_mem]
  refine forall_congr' fun address => ?_
  rw [mem_free]
  simp only [ne_eq, not_and, not_forall, Decidable.not_not, exists_prop]

end Ring

namespace Shows

/-- A scan fails if the file of the cursor cannot be read. -/
theorem get_unreadable (shows : Shows disk tree location ids memory)
    (usable : disk.Usable tree location .lock) (plain : PlainId ring.id)
    (waiting : ring.Waiting memory (owner, interface)) {cause : FileError}
    (unread : disk.textOf tree (cursorName ring.id) = .error cause) :
    ∃ after, (ring.get owner interface none).run disk.serve tree =
        (.error (ring.storeError (.file (disk.path (cursorName ring.id)) cause)), after) ∧
      Leaves disk location ids tree after memory := by
  obtain ⟨_, middle, taken, _, answers, leaves⟩ := shows.served_lock
  obtain ⟨rfl, same⟩ := answers.eq_of_not_refused (not_not_intro usable)
  rw [same] at leaves
  have locked : disk.serve .lock tree = (.ok (), middle) := taken
  -- The lock is no cursor, so that the cursor is as unreadable as before.
  have alike := Disk.lock_alike shows.leads
  rw [show disk.lock.run FileTree.answer tree = (.ok (), middle) from taken] at alike
  have still : disk.textOf middle (cursorName ring.id) = .error cause := by
    rw [← unread, Disk.textOf, Disk.path,
      alike.locate_eq shows.leads (plain_cursorName plain) (isSpare_cursorName ring.id)]
    rfl
  have read : disk.serve (.cursor ring.id) middle =
      (.error (.file (disk.path (cursorName ring.id)) cause), middle) := by
    have run := Disk.cursor_run (Disk.readTextIfAny_run (disk.path (cursorName ring.id)) middle)
    rw [show Disk.textAt (middle.locate _) = .error cause from still] at run
    exact run
  have listed : (reservationsOf owner).run disk.serve middle =
      (.ok (memory.ownedBy owner), middle) := by
    have told : disk.serve .reservations middle = (.ok memory.reservations, middle) :=
      leaves.shows.reservations_run
    show (Program.ask StoreRequest.reservations _).run disk.serve middle = _
    rw [Program.run, told]
    rfl
  refine ⟨middle, ?_, leaves⟩
  show (Program.ask StoreRequest.lock _).run disk.serve tree = _
  rw [Program.run, locked]
  show (ring.getNext owner interface).run disk.serve middle = _
  rw [Ring.getNext, Program.run_bind, listed]
  simp only [waiting.heldFor_eq_nil, List.head?_nil]
  show (Program.ask (StoreRequest.cursor ring.id) _).run disk.serve middle = _
  rw [Program.run, read]
  rfl

/-- A scan hands out the first free address if the file of the cursor can be read. -/
theorem get_readable (shows : Shows disk tree location (· = ring.id) memory)
    (willing : ∀ request, ring.Asks owner interface request →
      ¬ disk.Hinders tree location request)
    (waiting : ring.Waiting memory (owner, interface)) (dataDirectory network : String) :
    ∃ result after content,
      Site.run ⟨dataDirectory, network, .disk disk, tree⟩ (ring.get owner interface none) =
          (result, ⟨dataDirectory, network, .disk disk, after⟩) ∧
        ring.Scanned owner interface memory (ring.free memory).head? result content ∧
          Site.listing ⟨dataDirectory, network, .disk disk, after⟩ = .ok content.reservations := by
  have permitted : ring.Permitted owner interface
      (StoreRequest.Concerns fun id => id = ring.id) :=
    ⟨trivial, trivial, rfl, fun _ => trivial, fun _ => rfl, fun _ => trivial⟩
  obtain ⟨result, after, content, run, follows, leaves⟩ :=
    shows.site_run (Ring.get_asksOnly permitted) dataDirectory network
  exact ⟨result, after, content, run, Ring.get_waiting willing waiting follows,
    leaves.shows.listing ..⟩

end Shows

/-! ## The main result -/

/-- **What the cursor says makes no difference to whether a scan succeeds, if it can be read.**

The records in the directory of a store are in order, whatever else is there; nothing is in
the way of what a scan writes, and the lock is free.  A caller that holds no address of the
ring scans it.  If there is no file of the cursor, or a text of whatever kind is in it, then
the caller gets an address of the ring that has not been reserved, and the record of it, as
long as there is one; otherwise it is told that there is none, and nothing is reserved or
released.  But if the content of the file is no text, the scan fails, whether there are
addresses or not. -/
theorem cursor_is_only_a_hint (dataDirectory network : String)
    (orderly : disk.Orderly tree location) (unobstructed : disk.Unobstructed tree location ring)
    (unbroken : Disk.brokenField? owner interface = none) (cursor : Option ByteArray) {held : Bool}
    (stands : tree.entryAt (cursorName ring.id :: location) =
      cursor.map fun bytes => .file bytes held) :
    let site : Site := ⟨dataDirectory, network, .disk disk, tree⟩
    let reply := site.run (ring.get owner interface none)
    ∃ listed : List Reservation, site.listing = .ok listed ∧
      ((∀ reservation ∈ listed, reservation.owner = owner → reservation.interface = interface →
          ring.contains reservation.address = false) →
        ((∀ bytes ∈ cursor, bytes.IsValidUTF8) →
          ((∃ address, ring.contains address = true ∧
              ∀ reservation ∈ listed, reservation.address ≠ address) →
            ∃ allocation later, reply.1 = .ok allocation ∧
              ring.contains allocation.address = true ∧
              (∀ reservation ∈ listed, reservation.address ≠ allocation.address) ∧
              reply.2.listing = .ok later ∧ ∀ reservation, reservation ∈ later ↔
                reservation = ⟨allocation.address, owner, interface⟩ ∨ reservation ∈ listed) ∧
          ((∀ address, ring.contains address = true →
              ∃ reservation ∈ listed, reservation.address = address) →
            reply.1 = .error (.addressesExhausted ring.network) ∧ reply.2.listing = .ok listed)) ∧
        ((∃ bytes ∈ cursor, ¬ bytes.IsValidUTF8) →
          reply.1 = .error (.store ring.network
              (.file (disk.path (cursorName ring.id)) .invalidText)) ∧
            reply.2.listing = .ok listed)) := by
  intro site reply
  have noDirectory : tree.entryAt (cursorName ring.id :: location) ≠ some .directory := by
    rw [stands]
    cases cursor <;> simp
  obtain ⟨memory, shows⟩ := orderly.exists_shows_cursor unobstructed.short.1
  refine ⟨memory.reservations, shows.listing .., fun waiting => ⟨fun valid => ?_, ?_⟩⟩
  · obtain ⟨text, told⟩ := unobstructed.textOf_valid orderly.leads stands valid
    obtain ⟨result, after, content, run, scanned, later⟩ := shows.get_readable
      (fun _ asks => unobstructed.willing shows unbroken noDirectory told asks) waiting
      dataDirectory network
    simp only [reply, site, run]
    cases free : ring.free memory with
    | nil =>
      rw [free] at scanned
      obtain ⟨rfl, rfl⟩ := scanned
      refine ⟨?_, fun _ => ⟨rfl, later⟩⟩
      rintro ⟨address, usable, unreserved⟩
      obtain ⟨reservation, member, same⟩ := Ring.free_eq_nil_iff.mp free address usable
      exact absurd same (unreserved reservation member)
    | cons address rest =>
      have first : address ∈ ring.free memory := by
        rw [free]
        exact List.mem_cons_self ..
      obtain ⟨usable, unreserved⟩ := Ring.mem_free.mp first
      rw [free] at scanned
      obtain ⟨⟨allocation, offered, rfl⟩, rfl⟩ := scanned
      obtain rfl := Ring.address_of_allocation? offered
      refine ⟨fun _ => ⟨allocation, _, rfl, usable, unreserved, later, ?_⟩, fun taken => ?_⟩
      · intro reservation
        exact Memory.mem_put_of_free (Memory.find?_eq_none_iff.mpr unreserved)
      · obtain ⟨reservation, member, same⟩ := taken _ usable
        exact absurd same (unreserved reservation member)
  · rintro ⟨bytes, rfl, invalid⟩
    obtain ⟨after, run, leaves⟩ := shows.get_unreadable unobstructed.lock unobstructed.short.1
      waiting (unobstructed.textOf_invalid orderly.leads stands invalid)
    have answered : reply = (.error (ring.storeError
        (.file (disk.path (cursorName ring.id)) .invalidText)),
          ⟨dataDirectory, network, .disk disk, after⟩) := by
      simp only [reply, site]
      rw [Site.run_mk_disk, run]
    rw [answered]
    exact ⟨rfl, leaves.shows.listing ..⟩

/-- The first address of a ring is reserved, and the file of the cursor says something that is no
address: another one is handed out all the same. -/
theorem cursor_is_only_a_hint_slash29 :
    let site := Site.netWith [("10.0.0.2", .ofText "a\neth0"),
      ("last_reserved_ip.0", .ofText "nowhere")]
    let reply := site.run (Ring.slash29.get "b" "eth0" none)
    ∃ allocation later, reply.1 = .ok allocation ∧ allocation.address ≠ .v4 0x0a000002 ∧
      reply.2.listing = .ok later ∧ ⟨allocation.address, "b", "eth0"⟩ ∈ later := by
  intro site reply
  have names : site.tree.namesIn ["net", "d"] = ["10.0.0.2", "last_reserved_ip.0"] := rfl
  have one : Address.ofString? "10.0.0.2" = some (.v4 0x0a000002) := by decide
  have none_other : Address.ofString? "last_reserved_ip.0" = none :=
    Address.ofString?_cursorName "0"
  have unhidden : ∀ name, isHidden name = true → site.tree.entryAt [name, "net", "d"] = none := by
    intro name hidden
    rw [← Option.not_isSome_iff_eq_none, ← FileTree.mem_namesIn_iff, names]
    rintro (_ | ⟨_, _ | ⟨_, ⟨⟩⟩⟩) <;> exact absurd hidden (by decide)
  have orderly : Disk.Orderly ⟨Path.join "/d" "net", .ofMilliseconds 10000⟩ site.tree
      ["net", "d"] := by
    refine ⟨rfl, ?_, ?_, ?_⟩
    · rw [FileTree.Listed, names]
      decide
    · rw [names]
      simp only [List.forall_mem_cons, one, none_other, Option.some.injEq, forall_eq']
      decide
    · rw [names]
      simp only [List.forall_mem_cons, one, none_other, Option.some.injEq, forall_eq']
      exact ⟨⟨"a\neth0", by decide +kernel⟩, by simp, by simp⟩
  have unobstructed : Disk.Unobstructed ⟨Path.join "/d" "net", .ofMilliseconds 10000⟩ site.tree
      ["net", "d"] Ring.slash29 := by
    refine ⟨Site.roomy_vacantNet, by decide, ⟨Disk.reachable_lock Site.roomy_vacantNet, ?_⟩, ?_, ?_⟩
    · intro entry there
      cases there
    · intro address
      rw [unhidden _ (isHidden_temporaryName _)]
      simp
    · rw [unhidden _ (isHidden_temporaryName _)]
      simp
  obtain ⟨listed, told, hint⟩ := cursor_is_only_a_hint "/d" "net" orderly unobstructed
    (by decide : Disk.brokenField? "b" "eth0" = none) (some "nowhere".toUTF8) rfl
  have same : site.listing = .ok [⟨.v4 0x0a000002, "a", "eth0"⟩] := by decide +kernel
  obtain rfl := Except.ok.inj (told.symm.trans same)
  simp only [List.forall_mem_singleton] at hint
  have valid : ∀ bytes ∈ some "nowhere".toUTF8, bytes.IsValidUTF8 := by
    rintro _ ⟨⟩
    exact "nowhere".isValidUTF8
  obtain ⟨allocation, later, granted, _, different, relisted, members⟩ :=
    ((hint (by decide)).1 valid).1 ⟨.v4 0x0a000003, by decide, by decide⟩
  exact ⟨allocation, later, granted, different.symm, relisted, (members _).mpr (.inl rfl)⟩

/-- **A cursor that is no text keeps all addresses of its ring from being handed out.** -/
theorem unreadable_cursor_fails :
    let site := Site.netWith [("last_reserved_ip.0", .file ⟨#[0xff]⟩ false)]
    site.listing = .ok [] ∧ Ring.slash29.contains (.v4 0x0a000002) = true ∧
      (site.run (Ring.slash29.get "a" "eth0" none)).1 =
        .error (.store "net" (.file "/d/net/last_reserved_ip.0" .invalidText)) := by
  decide +kernel

end AddressPool
