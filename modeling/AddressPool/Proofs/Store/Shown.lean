import AddressPool.Proofs.Store.Traces

/-!
# Directories with other files in them

The directory of a store may hold files that the store has not written: records and
cursors that somebody has put there by hand, temporary files that have been left behind,
and names that mean nothing to the store.  Such a directory shows the content of a store
in memory (`Shows`) if each name that is read as an address is the text of this address
and stands for a file with a text in it, and if the cursors, of those rings that matter,
are what their files say.

A change of one file, and of what the store holds, is seen in that file alone
(`Shows.change`); what happens to temporary files is not seen at all (`Shows.of_alike`).
Something may be in the way of a request (`Disk.Hinders`).  What is not in the way at first
never comes to be (`Disk.NoWorse`), so that a directory in which a request can be served
stays one (`Leaves`).
-/

namespace AddressPool

set_option autoImplicit false

open AddressPool.Path (Plain)

variable {disk : Disk} {tree middle after : FileTree} {location : Location}
variable {ids : String → Prop} {memory content : Memory} {file : StoreFile}

/-! ## What a directory shows -/

/-- The names that start with a point, as those of temporary files do. -/
def isHidden (name : String) : Bool := decide (name.toList.head? = some '.')

theorem isHidden_temporaryName (name : String) : isHidden (temporaryName name) = true := by
  rw [isHidden, toList_temporaryName]
  rfl

/-- The files that a store keeps are not hidden. -/
theorem isHidden_name (file : StoreFile) : isHidden file.name = false := by
  refine decide_eq_false fun point => ?_
  obtain ⟨rest, shape⟩ := List.head?_eq_some_iff.mp point
  exact file.name_ne_of_point shape rfl

theorem isHidden_of_ofString? {name : String} {address : Address}
    (read : Address.ofString? name = some address) : isHidden name = false := by
  have kept := isSpare_of_ofString? read
  rw [isSpare, Bool.or_eq_false_iff] at kept
  exact kept.2

/-- The address in the text of a cursor; a text that is no address is none. -/
def cursorIn (text : Option String) : Option Address :=
  text.bind fun text => Address.ofChars? (Text.trim text.toList)

namespace Disk

/-- The text under a name in the directory, if there is anything. -/
def textOf (disk : Disk) (tree : FileTree) (name : String) : Except FileError (Option String) :=
  textAt (tree.locate (disk.path name))

/-- A file of a store tells what the store holds; a cursor does so for the rings that matter. -/
def Keeps (disk : Disk) (tree : FileTree) (location : Location) (ids : String → Prop)
    (memory : Memory) : StoreFile → Prop
  | .lock => True
  | .record address => match memory.find? address with
    | none => tree.entryAt (address.text :: location) = none
    | some reservation => ∃ text, disk.textOf tree address.text = .ok (some text) ∧
        readRecord text = (reservation.owner, reservation.interface)
  | .cursor id => ids id → ∀ text, disk.textOf tree (cursorName id) = .ok text →
      memory.cursors.lookup id = cursorIn text

end Disk

/-- A directory that shows the content of a store: what is read there by name is what the store
holds. -/
structure Shows (disk : Disk) (tree : FileTree) (location : Location) (ids : String → Prop)
    (memory : Memory) : Prop where
  leads : tree.LeadsTo disk.directory location
  listed : ((tree.namesIn location).filter fun name => !isHidden name).Nodup
  canonical : ∀ name address, Address.ofString? name = some address →
    (tree.entryAt (name :: location)).isSome = true → name = address.text
  plain : ∀ id, ids id → PlainId id
  keeps : ∀ file, disk.Keeps tree location ids memory file

/-! ## What is in the way -/

namespace Disk

/-- A file stands so that the store can do with it what it does first: the lock is free, and the
text of a cursor can be read. -/
def Usable (disk : Disk) (tree : FileTree) (location : Location) : StoreFile → Prop
  | .lock => disk.Reachable .lock ∧ ∀ entry, tree.entryAt (lockName :: location) = some entry →
      ∃ content, entry = .file content false
  | .record _ => True
  | .cursor id => PlainId id ∧ ∃ text, disk.textOf tree (cursorName id) = .ok text

/-- The requests that something in the directory, a limit on names or paths, or a line break is in
the way of. -/
def Hinders (disk : Disk) (tree : FileTree) (location : Location) : StoreRequest → Prop
  | .lock => ¬ disk.Usable tree location .lock
  | .reserve address owner interface =>
    brokenField? owner interface ≠ none ∨ ¬ disk.Clear tree location (.record address)
  | .release address => ¬ disk.Reachable (.record address)
  | .releaseByOwner _ => False
  | .reservations => False
  | .cursor id => ¬ disk.Usable tree location (.cursor id)
  | .setCursor id _ => ¬ disk.Clear tree location (.cursor id)

/-- Nothing is in the way afterwards that was not in the way before. -/
def NoWorse (disk : Disk) (location : Location) (before after : FileTree) : Prop :=
  ∀ request, disk.Hinders after location request → disk.Hinders before location request

theorem NoWorse.refl (tree : FileTree) : disk.NoWorse location tree tree := fun _ hinders => hinders

theorem NoWorse.trans (first : disk.NoWorse location tree middle)
    (second : disk.NoWorse location middle after) : disk.NoWorse location tree after :=
  fun request hinders => first request (second request hinders)

theorem Clear.of_same (same : FileTree.SameDirectories tree after)
    (clear : disk.Clear tree location file) : disk.Clear after location file :=
  ⟨clear.writable, mt (same _).mp clear.temporary, mt (same _).mp clear.goal⟩

/-- Nothing new is in the way while directories stay where they are, the lock does not get held,
and texts can still be read. -/
theorem noWorse_of_usable (same : FileTree.SameDirectories tree after)
    (usable : ∀ file, disk.Usable tree location file → disk.Usable after location file) :
    disk.NoWorse location tree after := by
  intro request hinders
  cases request with
  | lock => exact mt (usable .lock) hinders
  | reserve => exact hinders.imp_right (mt (Clear.of_same same))
  | release => exact hinders
  | releaseByOwner => exact hinders
  | reservations => exact hinders
  | cursor id => exact mt (usable (.cursor id)) hinders
  | setCursor => exact mt (Clear.of_same same) hinders

end Disk

/-! ## Files that stay as they are -/

section Untouched

variable (same : FileTree.SameDirectories tree after) (leads : tree.LeadsTo disk.directory location)
include same leads

theorem Disk.textOf_untouched {name : String} (plain : Plain name)
    (entry : after.entryAt (name :: location) = tree.entryAt (name :: location)) :
    disk.textOf after name = disk.textOf tree name := by
  rw [Disk.textOf, Disk.path, FileTree.locate_eq_of_entry same leads plain entry]
  rfl

variable (entry : after.entryAt (file.name :: location) = tree.entryAt (file.name :: location))
include entry

/-- A file that stays as it is tells what it has told, and that is what the store still holds. -/
theorem Disk.Keeps.untouched (keeps : disk.Keeps tree location ids memory file)
    (plain : ∀ id, ids id → PlainId id)
    (finds : ∀ address, file = .record address → content.find? address = memory.find? address)
    (cursors : ∀ id, file = .cursor id →
      content.cursors.lookup id = memory.cursors.lookup id) :
    disk.Keeps after location ids content file := by
  cases file with
  | lock => trivial
  | record address =>
    have text := Disk.textOf_untouched same leads (plain_text address) entry
    rw [StoreFile.name] at entry
    rw [Disk.Keeps] at keeps ⊢
    rw [finds address rfl, entry, text]
    exact keeps
  | cursor id =>
    intro matters found told
    have text := Disk.textOf_untouched same leads (plain_cursorName (plain id matters)) entry
    rw [cursors id rfl]
    exact keeps matters found (text.symm.trans told)

theorem Disk.Usable.untouched (usable : disk.Usable tree location file) :
    disk.Usable after location file := by
  cases file with
  | lock =>
    refine ⟨usable.1, fun present there => usable.2 present ?_⟩
    rw [← there]
    exact entry.symm
  | record => trivial
  | cursor id =>
    obtain ⟨plain, found, told⟩ := usable
    have text := Disk.textOf_untouched same leads (plain_cursorName plain) entry
    exact ⟨plain, found, text.trans told⟩

end Untouched

/-- What a request may leave behind: the directory shows what the store holds then, and nothing new
is in the way. -/
structure Leaves (disk : Disk) (location : Location) (ids : String → Prop) (tree after : FileTree)
    (memory : Memory) : Prop where
  shows : Shows disk after location ids memory
  noWorse : disk.NoWorse location tree after

namespace Leaves

theorem refl (shows : Shows disk tree location ids memory) :
    Leaves disk location ids tree tree memory := ⟨shows, .refl tree⟩

theorem behind (noWorse : disk.NoWorse location tree middle)
    (leaves : Leaves disk location ids middle after memory) :
    Leaves disk location ids tree after memory := ⟨leaves.shows, noWorse.trans leaves.noWorse⟩

end Leaves

/-! ## Texts of files -/

namespace Disk

theorem textOf_of_none (leads : tree.LeadsTo disk.directory location)
    (reachable : disk.Reachable file) (absent : tree.entryAt (file.name :: location) = none) :
    disk.textOf tree file.name = .ok none := by
  rw [textOf, path, FileTree.locate_named leads reachable.1 reachable.2, absent]
  rfl

theorem textOf_unfit (file : StoreFile) (leads : tree.LeadsTo disk.directory location)
    (plain : Plain file.name) (unfit : ¬ disk.Reachable file) :
    disk.textOf tree file.name = .error .nameTooLong := by
  rw [textOf, path, FileTree.locate_unfit leads plain fun fits => unfit ⟨plain, fits⟩]
  rfl

/-- A text that has been put somewhere is found there. -/
theorem textOf_put (leads : tree.LeadsTo disk.directory location)
    (reachable : disk.Reachable file)
    (noDirectory : tree.entryAt (file.name :: location) ≠ some .directory) (text : String)
    (held : Bool) :
    disk.textOf (tree.put (file.name :: location) (.file text.toUTF8 held)) file.name =
      .ok (some text) := by
  have same : FileTree.SameDirectories tree
      (tree.put (file.name :: location) (.file text.toUTF8 held)) :=
    FileTree.sameDirectories_put (List.cons_ne_nil _ _) noDirectory
  rw [textOf, path, FileTree.locate_named (leads.of_same same) reachable.1 reachable.2,
    FileTree.entryAt_put_self _ (List.cons_ne_nil _ _)]
  simp only [textAt, Pictures.decodeText_toUTF8]
  rfl

/-- Where there is a text the name is within reach, and there is a file. -/
theorem of_textOf (file : StoreFile) {text : String} (leads : tree.LeadsTo disk.directory location)
    (plain : Plain file.name) (found : disk.textOf tree file.name = .ok (some text)) :
    disk.Reachable file ∧
      ∃ content held, tree.entryAt (file.name :: location) = some (.file content held) := by
  by_cases reachable : disk.Reachable file
  · refine ⟨reachable, ?_⟩
    rw [textOf, path, FileTree.locate_named leads reachable.1 reachable.2] at found
    cases there : tree.entryAt (file.name :: location) with
    | none =>
      rw [there] at found
      cases found
    | some entry =>
      rw [there] at found
      cases entry with
      | file content held => exact ⟨content, held, rfl⟩
      | directory => cases found
  · rw [textOf_unfit file leads plain reachable] at found
    cases found

end Disk

namespace Shows

section Content

variable (shows : Shows disk tree location ids memory)
include shows

theorem record {address : Address} {reservation : Reservation}
    (found : memory.find? address = some reservation) :
    ∃ text, disk.textOf tree address.text = .ok (some text) ∧
      readRecord text = (reservation.owner, reservation.interface) := by
  have keeps := shows.keeps (.record address)
  rw [Disk.Keeps, found] at keeps
  exact keeps

theorem vacant {address : Address} (free : memory.find? address = none) :
    tree.entryAt (address.text :: location) = none := by
  have keeps := shows.keeps (.record address)
  rw [Disk.Keeps, free] at keeps
  exact keeps

/-- The record of a reservation is a file within reach. -/
theorem file_of_find? {address : Address} {reservation : Reservation}
    (found : memory.find? address = some reservation) :
    disk.Reachable (.record address) ∧
      ∃ content held, tree.entryAt (address.text :: location) = some (.file content held) := by
  obtain ⟨text, told, _⟩ := shows.record found
  exact Disk.of_textOf (.record address) shows.leads (plain_text address) told

/-- No directory stands in the place of a record. -/
theorem no_directory (address : Address) :
    tree.entryAt (address.text :: location) ≠ some .directory := by
  cases found : memory.find? address with
  | none => exact FileTree.noDirectory_of_none (shows.vacant found)
  | some reservation =>
    obtain ⟨_, _, _, there⟩ := shows.file_of_find? found
    exact FileTree.noDirectory_of_file there

/-- A reservation is listed under the text of its address. -/
theorem mem_namesIn {reservation : Reservation} (member : reservation ∈ memory.reservations) :
    reservation.address.text ∈ tree.namesIn location := by
  obtain ⟨_, _, _, there⟩ := shows.file_of_find? (Memory.find?_eq_some_iff.mpr ⟨member, rfl⟩)
  rw [FileTree.mem_namesIn_iff, there]
  rfl

/-- A name that is read as an address stands for a reservation. -/
theorem find?_of_named {name : String} {address : Address}
    (read : Address.ofString? name = some address)
    (listed : (tree.entryAt (name :: location)).isSome = true) :
    ∃ reservation, memory.find? address = some reservation := by
  obtain rfl := shows.canonical name address read listed
  cases found : memory.find? address with
  | some reservation => exact ⟨reservation, rfl⟩
  | none =>
    rw [shows.vacant found] at listed
    cases listed

/-! ## Changes of a directory -/

/-- A change of one file of the store, and of what the store holds, is seen in that file alone. -/
theorem change (file : StoreFile) (same : FileTree.SameDirectories tree after)
    (listed : ((after.namesIn location).filter fun name => !isHidden name).Nodup)
    (elsewhere : ∀ name, isHidden name = false → name ≠ file.name →
      after.entryAt (name :: location) = tree.entryAt (name :: location))
    (finds : ∀ address, .record address ≠ file → content.find? address = memory.find? address)
    (cursors : ∀ id, StoreFile.cursor id ≠ file →
      content.cursors.lookup id = memory.cursors.lookup id)
    (here : disk.Keeps after location ids content file)
    (usable : disk.Usable tree location file → disk.Usable after location file) :
    Leaves disk location ids tree after content := by
  have entry : ∀ other : StoreFile, other ≠ file →
      after.entryAt (other.name :: location) = tree.entryAt (other.name :: location) := by
    intro other different
    refine elsewhere other.name (isHidden_name other) fun equal => ?_
    exact different (StoreFile.name_injective equal)
  constructor
  · refine ⟨shows.leads.of_same same, listed, ?_, shows.plain, ?_⟩
    · intro name address read found
      by_cases kept : name = file.name
      · subst kept
        obtain rfl := StoreFile.eq_record_of_ofString? read
        rfl
      · rw [elsewhere name (isHidden_of_ofString? read) kept] at found
        exact shows.canonical name address read found
    · intro other
      by_cases changed : other = file
      · exact changed ▸ here
      refine (shows.keeps other).untouched same shows.leads (entry other changed) shows.plain ?_ ?_
      · rintro address rfl
        exact finds address changed
      · rintro id rfl
        exact cursors id changed
  · refine Disk.noWorse_of_usable same fun other could => ?_
    by_cases changed : other = file
    · subst changed
      exact usable could
    · exact could.untouched same shows.leads (entry other changed)

/-- What happens to names that are hidden makes no difference. -/
theorem of_alike (alike : FileTree.Alike isHidden location tree after) :
    Leaves disk location ids tree after memory := by
  refine shows.change .lock alike.directories ?_ ?_ (fun _ _ => rfl) (fun _ _ => rfl)
    trivial ?_
  · rw [alike.names]
    exact shows.listed
  · intro name kept _
    exact alike.entryAt_eq kept
  · rintro ⟨reachable, free⟩
    refine ⟨reachable, fun entry there => free entry ?_⟩
    rw [← there]
    exact (alike.entryAt_eq (isHidden_name .lock)).symm

theorem listed_put (name : String) (entry : Entry) :
    (((tree.put (name :: location) entry).namesIn location).filter
      fun name => !isHidden name).Nodup := by
  have others : (((tree.namesIn location).filter fun other => decide (other ≠ name)).filter
      fun name => !isHidden name).Nodup := by
    rw [List.filter_comm]
    exact shows.listed.filter _
  rw [FileTree.namesIn_put, List.filter_cons]
  split
  · refine List.nodup_cons.mpr ⟨?_, others⟩
    simp
  · exact others

theorem listed_erase (name : String) :
    (((tree.erase (name :: location)).namesIn location).filter
      fun name => !isHidden name).Nodup := by
  rw [FileTree.namesIn_erase, List.filter_comm]
  exact shows.listed.filter _

/-- A file of the store is put in its place. -/
theorem put (file : StoreFile)
    (noDirectory : tree.entryAt (file.name :: location) ≠ some .directory) {bytes : ByteArray}
    {held : Bool}
    (finds : ∀ address, .record address ≠ file → content.find? address = memory.find? address)
    (cursors : ∀ id, StoreFile.cursor id ≠ file →
      content.cursors.lookup id = memory.cursors.lookup id)
    (here : disk.Keeps (tree.put (file.name :: location) (.file bytes held)) location ids
      content file)
    (usable : disk.Usable tree location file →
      disk.Usable (tree.put (file.name :: location) (.file bytes held)) location file) :
    Leaves disk location ids tree (tree.put (file.name :: location) (.file bytes held))
      content := by
  refine shows.change file (FileTree.sameDirectories_put (List.cons_ne_nil _ _) noDirectory)
    (shows.listed_put _ _) ?_ finds cursors here usable
  intro name _ different
  rw [FileTree.entryAt_put_of_ne]
  intro place
  exact different (List.cons.inj place).1

/-- A record that is put in its place is the reservation of its address. -/
theorem put_record {address : Address} {owner interface : String}
    (reachable : disk.Reachable (.record address))
    (unbroken : Disk.brokenField? owner interface = none) (held : Bool) :
    Leaves disk location ids tree
      (tree.put (address.text :: location) (.file (recordText owner interface).toUTF8 held))
      (memory.put ⟨address, owner, interface⟩) := by
  have noDirectory := shows.no_directory address
  refine shows.put (.record address) noDirectory ?_ (fun _ _ => rfl) ?_ id
  · intro other different
    rw [Memory.find?_put, if_neg]
    rintro rfl
    exact different rfl
  · rw [Disk.Keeps, Memory.find?_put, if_pos rfl]
    exact ⟨_, Disk.textOf_put shows.leads reachable noDirectory _ _,
      readRecord_recordText unbroken⟩

/-- The text of an address that is put in the place of a cursor is the cursor. -/
theorem put_cursor {id : String} (reachable : disk.Reachable (.cursor id))
    (noDirectory : tree.entryAt (cursorName id :: location) ≠ some .directory)
    (address : Address) (held : Bool) :
    Leaves disk location ids tree
      (tree.put (cursorName id :: location) (.file address.text.toUTF8 held))
      (memory.putCursor id address) := by
  have written := Disk.textOf_put shows.leads reachable noDirectory address.text held
  refine shows.put (.cursor id) noDirectory (fun _ _ => rfl) ?_ ?_ ?_
  · intro other different
    rw [Memory.lookup_putCursor, if_neg]
    rintro rfl
    exact different rfl
  · intro _ text told
    obtain rfl := Except.ok.inj (written.symm.trans told)
    rw [Memory.lookup_putCursor, if_pos rfl]
    exact address.ofChars?_trim_text.symm
  · rintro ⟨plain, _⟩
    exact ⟨plain, _, written⟩

/-- A record that is taken away is no reservation any more. -/
theorem erase_record (address : Address) :
    Leaves disk location ids tree (tree.erase (address.text :: location))
      (memory.keep fun other => decide (other.address ≠ address)) := by
  refine shows.change (.record address)
    (FileTree.sameDirectories_erase (List.cons_ne_nil _ _) (shows.no_directory address))
    (shows.listed_erase _) ?_ ?_ (fun _ _ => rfl) ?_ id
  · intro name _ different
    rw [FileTree.entryAt_erase_of_ne]
    intro place
    exact different (List.cons.inj place).1
  · intro other different
    rw [Memory.find?_keep_ne, if_neg]
    rintro rfl
    exact different rfl
  · rw [Disk.Keeps, Memory.find?_keep_ne, if_pos rfl]
    exact FileTree.entryAt_erase_self _ (List.cons_ne_nil _ _)

/-- The temporary file of a file that is replaced is taken away. -/
theorem erase_temporary (clear : disk.Clear tree location file) :
    Leaves disk location ids tree (tree.erase (temporaryName file.name :: location)) memory := by
  have beneath : FileTree.Beneath isHidden location (temporaryName file.name :: location) :=
    FileTree.beneath_name_iff.mpr (isHidden_temporaryName _)
  exact shows.of_alike (.erase beneath clear.temporary)

end Content

end Shows

/-! ## Replacing -/

namespace Disk

theorem spares_temporaryName (plain : Plain file.name) :
    disk.Spares isHidden location (temporaryName file.name) :=
  spares_of_plain (plain_temporaryName plain) (isHidden_temporaryName _)

/-- A file into whose place the temporary one has been moved can be replaced. -/
theorem clear_of_move (leads : tree.LeadsTo disk.directory location) (plain : Plain file.name)
    (moved : tree.move (disk.path (temporaryName file.name)) (disk.path file.name) = .ok after) :
    disk.Clear tree location file := by
  have plain_temporary := plain_temporaryName plain
  obtain ⟨origin, destination, content, held, source, goal, there, free, _⟩ :=
    FileTree.file_of_move moved
  have writable : disk.Writable file := by
    refine ⟨plain, ?_⟩
    by_contra unfit
    rw [path, FileTree.target_unfit leads plain_temporary unfit] at source
    cases source
  rw [path, FileTree.target_named leads plain_temporary writable.2] at source
  rw [path, FileTree.target_named leads plain writable.reachable.2] at goal
  obtain rfl := FileTree.Target.named.inj (Except.ok.inj source)
  obtain rfl := FileTree.Target.named.inj (Except.ok.inj goal)
  exact ⟨writable, FileTree.noDirectory_of_file there, free⟩

/-- Where something is in the way a file is not replaced, and nothing but hidden names is
touched. -/
theorem replace_hindered (file : StoreFile) (leads : tree.LeadsTo disk.directory location)
    (plain : Plain file.name) (hindered : ¬ disk.Clear tree location file) (text : String) :
    ∃ path cause middle, (disk.replace file.name text).run FileTree.answer tree =
        (.error (.file path cause), middle) ∧
      FileTree.Alike isHidden location tree middle := by
  obtain ⟨middle, alike, ⟨path, cause, failed⟩ | ⟨after, moved, _⟩⟩ :=
    replace_cases leads (spares_temporaryName plain) text
  · exact ⟨path, cause, middle, failed, alike⟩
  · have clear := clear_of_move (alike.leadsTo leads) plain moved
    exact absurd (clear.of_same fun place => (alike.directories place).symm) hindered

end Disk

end AddressPool
