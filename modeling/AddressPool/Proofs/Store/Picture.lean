import AddressPool.Proofs.Store.Conduct
import AddressPool.Proofs.Store.Names

/-!
# What the files of a store hold

An image says of each file of a store whether it is there and which text it holds.
A directory pictures an image if it holds these files with these texts and nothing
else (`Pictures`).

The programs by which a store on disk reads, replaces and takes away one of its
files do just that to the image (`Pictures.readTextIfAny_run`, `Pictures.replace_run`,
`Pictures.remove_run`), or they report a fault and change nothing, if the file is not
within reach.  No temporary file outlasts them.  What becomes of the tree when a file
is replaced does not depend on what else is in the directory: all that matters is whether
the temporary file can be written, and whether it can be moved then (`Disk.replace_received`,
`Disk.replace_run`).
-/

namespace AddressPool

set_option autoImplicit false

open AddressPool.Path (Plain)

/-- The entry of a file that holds a text and that nobody else has locked. -/
def Entry.ofText (text : String) : Entry := .file text.toUTF8 false

/-- The text of each file of a store that is there. -/
abbrev Image := StoreFile → Option String

/-- The image in which one file has another text, or none. -/
def Image.set (image : Image) (file : StoreFile) (text : Option String) : Image := fun other =>
  if other = file then text else image other

theorem Image.set_self (image : Image) (file : StoreFile) :
    image.set file (image file) = image := by
  funext other
  unfold Image.set
  split
  · rename_i same
    rw [same]
  · rfl

namespace Disk

/-- A file that can be read and taken away. -/
def Reachable (disk : Disk) (file : StoreFile) : Prop :=
  Plain file.name ∧ FitsIn disk.directory file.name

/-- A file that can be replaced. -/
def Writable (disk : Disk) (file : StoreFile) : Prop :=
  Plain file.name ∧ FitsIn disk.directory (temporaryName file.name)

theorem Writable.reachable {disk : Disk} {file : StoreFile} (writable : disk.Writable file) :
    disk.Reachable file := ⟨writable.1, writable.2.of_temporary⟩

end Disk

/-! ## Replacing a file -/

/-- Whether somebody holds the file at a place. -/
def FileTree.heldAt (tree : FileTree) (place : Location) : Bool :=
  match tree.entryAt place with
  | some (.file _ held) => held
  | _ => false

namespace FileTree

variable {tree : FileTree} {path directory name : String} {place location : Location}

/-- A file can be written where a path ends at a name and no directory stands. -/
structure Receives (tree : FileTree) (path : String) (place : Location) : Prop where
  target : tree.target path = .ok (.named place)
  slashless : Path.endsWithSlash path = false
  free : tree.entryAt place ≠ some .directory

namespace Receives

variable (receives : tree.Receives path place)
include receives

theorem inner : place ≠ [] := by
  rintro rfl
  exact receives.free rfl

/-- The file is emptied, or it is new. -/
theorem answer_create :
    answer (.create path) tree = (.ok (), tree.put place (.file .empty (tree.heldAt place))) := by
  have free := receives.free
  unfold answer openToWrite
  simp only [receives.target, receives.slashless, Bool.false_eq_true, if_false, heldAt]
  cases there : tree.entryAt place with
  | none => rfl
  | some entry =>
    cases entry with
    | file content held => rfl
    | directory => exact absurd there free

/-- What is added to an empty file is all that is in it. -/
theorem answer_append (content : ByteArray) (held : Bool) :
    answer (.append path content) (tree.put place (.file .empty held)) =
      (.ok (), tree.put place (.file content held)) := by
  have same : SameDirectories tree (tree.put place (.file .empty held)) :=
    sameDirectories_put receives.inner receives.free
  have target := target_of_kept (fun location => (same location).mpr) receives.target
  unfold answer openToWrite
  simp only [target, receives.slashless, Bool.false_eq_true, if_false,
    entryAt_put_self _ receives.inner, ByteArray.empty_append, put_put]
  rfl

/-- A text is written where it can be. -/
theorem write_run (content : String) :
    (Disk.replace.write path content).run answer tree =
      (.ok (), tree.put place (.file content.toUTF8 (tree.heldAt place))) := by
  rw [Disk.replace.write, Program.run_bind, run_ask, receives.answer_create]
  exact receives.answer_append ..

end Receives

/-- A file can be written under a plain name if the limits allow it and no directory has the name. -/
theorem receives_named_iff (leads : tree.LeadsTo directory location) (plain : Plain name) :
    tree.Receives (Path.join directory name) place ↔
      place = name :: location ∧ FitsIn directory name ∧
        tree.entryAt (name :: location) ≠ some .directory := by
  constructor
  · intro receives
    have fits : FitsIn directory name := by
      by_contra unfit
      have target := receives.target
      rw [target_unfit leads plain unfit] at target
      cases target
    have target := receives.target
    rw [target_named leads plain fits] at target
    obtain rfl := Target.named.inj (Except.ok.inj target)
    exact ⟨rfl, fits, receives.free⟩
  · rintro ⟨rfl, fits, free⟩
    exact ⟨target_named leads plain fits, endsWithSlash_join plain, free⟩

end FileTree

namespace Disk

variable {disk : Disk} {tree : FileTree} {location : Location} {file : StoreFile}

/-- Where no temporary file can be made, a file stays as it is. -/
theorem replace_refused {name : String} {error fault : FileError}
    (uncreated : FileTree.answer (.create (disk.path (temporaryName name))) tree =
      (.error error, tree))
    (unremoved : FileTree.answer (.remove (disk.path (temporaryName name))) tree =
      (.error fault, tree)) (content : String) :
    (disk.replace name content).run FileTree.answer tree =
      (.error (.file (disk.path (temporaryName name)) error), tree) := by
  have unwritten : (replace.write (disk.path (temporaryName name)) content).run
      FileTree.answer tree = (.error error, tree) := by
    rw [replace.write, Program.run_bind, FileTree.run_ask, uncreated]
    rfl
  rw [replace, Program.run_bind, unwritten]
  show ((FileRequest.remove _).ask >>= _ : FileProgram _).run _ _ = _
  rw [Program.run_bind, FileTree.run_ask, unremoved]
  rfl

/-- Where the temporary file can be written, all depends on whether it can be moved. -/
theorem replace_received {name : String} {place : Location}
    (receives : tree.Receives (disk.path (temporaryName name)) place) (content : String) :
    (disk.replace name content).run FileTree.answer tree =
      match (tree.put place (.file content.toUTF8 (tree.heldAt place))).move
        (disk.path (temporaryName name)) (disk.path name) with
      | .error cause => (.error (.file (disk.path name) cause),
        tree.put place (.file content.toUTF8 (tree.heldAt place)))
      | .ok after => (.ok (), after) := by
  rw [replace, Program.run_bind, receives.write_run]
  show ((FileRequest.rename _ _).ask >>= _ : FileProgram _).run _ _ = _
  rw [Program.run_bind, FileTree.run_ask, FileTree.answer]
  cases (tree.put place (.file content.toUTF8 (tree.heldAt place))).move
    (disk.path (temporaryName name)) (disk.path name) <;> rfl

/-- A file that can be replaced as things are: no directory is in the way, be it where the text is
written first or where it goes then. -/
structure Clear (disk : Disk) (tree : FileTree) (location : Location) (file : StoreFile) :
    Prop where
  writable : disk.Writable file
  temporary : tree.entryAt (temporaryName file.name :: location) ≠ some .directory
  goal : tree.entryAt (file.name :: location) ≠ some .directory

/-- A temporary file that has been written can be moved unless a directory is in its place. -/
theorem move_temporary (leads : tree.LeadsTo disk.directory location)
    (writable : disk.Writable file)
    (free : tree.entryAt (temporaryName file.name :: location) ≠ some .directory)
    (content : ByteArray) (held : Bool) :
    (tree.put (temporaryName file.name :: location) (.file content held)).move
        (disk.path (temporaryName file.name)) (disk.path file.name) =
      if tree.entryAt (file.name :: location) = some .directory then .error .isADirectory
      else .ok ((tree.erase (temporaryName file.name :: location)).put (file.name :: location)
        (.file content held)) := by
  have inner := List.cons_ne_nil (temporaryName file.name) location
  have moved := FileTree.move_named
    (leads.of_same (FileTree.sameDirectories_put inner free))
    (plain_temporaryName writable.1) writable.1 writable.2 writable.reachable.2
    (FileTree.entryAt_put_self tree inner (.file content held))
  rw [FileTree.erase_put, FileTree.entryAt_put_of_ne] at moved
  · exact moved
  · intro place
    exact file.name_ne_temporaryName file.name (List.cons.inj place).1

section Replacing

variable (leads : tree.LeadsTo disk.directory location) (clear : disk.Clear tree location file)
include leads clear

/-- The temporary file can be written. -/
theorem Clear.receives : tree.Receives (disk.path (temporaryName file.name))
    (temporaryName file.name :: location) :=
  (FileTree.receives_named_iff leads (plain_temporaryName clear.writable.1)).mpr
    ⟨rfl, clear.writable.2, clear.temporary⟩

/-- **A file is replaced by way of the temporary one, which is gone in the end.** -/
theorem replace_run (text : String) :
    (disk.replace file.name text).run FileTree.answer tree =
      (.ok (), (tree.erase (temporaryName file.name :: location)).put (file.name :: location)
        (.file text.toUTF8 (tree.heldAt (temporaryName file.name :: location)))) := by
  rw [replace_received (clear.receives leads),
    move_temporary leads clear.writable clear.temporary, if_neg clear.goal]

end Replacing

end Disk

/-! ## Directories that picture an image -/

/-- A directory that holds the files of an image and nothing else. -/
structure Pictures (disk : Disk) (tree : FileTree) (location : Location) (image : Image) :
    Prop where
  leads : tree.LeadsTo disk.directory location
  listed : tree.Listed location
  entry : ∀ file, tree.entryAt (file.name :: location) = (image file).map Entry.ofText
  others : ∀ name, (∀ file : StoreFile, file.name ≠ name) → tree.entryAt (name :: location) = none
  reachable : ∀ file, (image file).isSome = true → disk.Reachable file

namespace Pictures

variable {disk : Disk} {tree after : FileTree} {location : Location} {image : Image}
variable {file : StoreFile} {text name : String}

section Changes

variable (pictures : Pictures disk tree location image)
include pictures

theorem no_directory (name : String) : tree.entryAt (name :: location) ≠ some .directory := by
  by_cases kept : ∃ file : StoreFile, file.name = name
  · obtain ⟨file, rfl⟩ := kept
    rw [pictures.entry file]
    cases image file <;> simp [Entry.ofText]
  · rw [pictures.others name fun file same => kept ⟨file, same⟩]
    simp

/-- A change at the place of one file alone changes the image at that file alone. -/
theorem change {text : Option String} (same : tree.SameDirectories after)
    (listed : after.Listed location)
    (here : after.entryAt (file.name :: location) = text.map Entry.ofText)
    (elsewhere : ∀ place, place ≠ file.name :: location → after.entryAt place = tree.entryAt place)
    (reachable : text.isSome = true → disk.Reachable file) :
    Pictures disk after location (image.set file text) where
  leads := pictures.leads.of_same same
  listed := listed
  entry other := by
    by_cases own : other = file
    · subst own
      rw [here, Image.set, if_pos rfl]
    · rw [elsewhere _ (StoreFile.place_ne own location), pictures.entry other, Image.set, if_neg own]
  others name foreign := by
    rw [elsewhere, pictures.others name foreign]
    intro place
    exact foreign file (List.cons.inj place).1.symm
  reachable other there := by
    unfold Image.set at there
    split at there
    · rename_i own
      exact own ▸ reachable there
    · exact pictures.reachable other there

/-- A file that is put in its place becomes part of the image. -/
theorem put (reachable : disk.Reachable file) (text : String) :
    Pictures disk (tree.put (file.name :: location) (.ofText text)) location
      (image.set file (some text)) :=
  pictures.change (FileTree.sameDirectories_put (List.cons_ne_nil _ _) (pictures.no_directory _))
    (pictures.listed.put _ _) (FileTree.entryAt_put_self _ (List.cons_ne_nil _ _) _)
    (fun _ different => FileTree.entryAt_put_of_ne _ different _) fun _ => reachable

/-- A file that is taken away is no longer part of the image. -/
theorem erase (file : StoreFile) :
    Pictures disk (tree.erase (file.name :: location)) location (image.set file none) :=
  pictures.change (FileTree.sameDirectories_erase (List.cons_ne_nil _ _) (pictures.no_directory _))
    (pictures.listed.erase _) (FileTree.entryAt_erase_self _ (List.cons_ne_nil _ _))
    (fun _ different => FileTree.entryAt_erase_of_ne _ different) nofun

/-- Nothing is lost with a name that is none of the store's. -/
theorem erase_foreign (foreign : ∀ file : StoreFile, file.name ≠ name) :
    Pictures disk (tree.erase (name :: location)) location image where
  leads := pictures.leads.of_same
    (FileTree.sameDirectories_erase (List.cons_ne_nil _ _) (pictures.no_directory _))
  listed := pictures.listed.erase _
  entry file := by
    rw [FileTree.entryAt_erase_of_ne, pictures.entry file]
    intro place
    exact foreign file (List.cons.inj place).1
  others other absent := by
    by_cases same : other = name
    · rw [same, FileTree.entryAt_erase_self _ (List.cons_ne_nil _ _)]
    · rw [FileTree.entryAt_erase_of_ne, pictures.others other absent]
      intro place
      exact same (List.cons.inj place).1
  reachable := pictures.reachable

/-! ## Files out of reach -/

/-- A slash or a null character in an identifier keeps a name out of reach. -/
theorem unreachable_of_unplain {id : String} (front back : List Char)
    (shape : name.toList = front ++ id.toList ++ back) (letter : 'l' ∈ front)
    (slashless : '/' ∉ front) (nullless : Char.ofNat 0 ∉ front) (unplain : ¬ PlainId id) :
    tree.Unreachable (Path.join disk.directory name) := by
  by_cases null : Char.ofNat 0 ∈ id.toList
  · refine FileTree.unreachable_of_null ((Path.mem_join (by decide)).mpr (.inr ?_))
    rw [shape]
    exact List.mem_append_left _ (List.mem_append_right _ null)
  · have slash : '/' ∈ id.toList := Decidable.byContradiction fun absent => unplain ⟨absent, null⟩
    obtain ⟨before, behind, _, plain, parts⟩ :=
      plain_front front back shape letter slashless nullless slash null
    exact FileTree.unreachable_of_slash pictures.leads plain parts (pictures.no_directory _)

/-- Every request on a file out of reach fails. -/
theorem unreachable_of_not_reachable (absent : ¬ disk.Reachable file) :
    tree.Unreachable (disk.path file.name) := by
  have unfit : Plain file.name → tree.Unreachable (disk.path file.name) := by
    intro plain
    exact FileTree.unreachable_of_unfit pictures.leads plain fun fits => absent ⟨plain, fits⟩
  cases file with
  | lock => exact unfit plain_lockName
  | record address => exact unfit (plain_text address)
  | cursor id =>
    by_cases plain : PlainId id
    · exact unfit (plain_cursorName plain)
    · have shape : (cursorName id).toList = "last_reserved_ip.".toList ++ id.toList ++ [] := by
        rw [toList_cursorName, List.append_nil]
      exact pictures.unreachable_of_unplain _ [] shape (by decide) (by decide) (by decide) plain

/-- Every request on the temporary file fails where a file cannot be written. -/
theorem unreachable_of_not_writable (absent : ¬ disk.Writable file) :
    tree.Unreachable (disk.path (temporaryName file.name)) := by
  have unfit : Plain file.name → tree.Unreachable (disk.path (temporaryName file.name)) := by
    intro plain
    exact FileTree.unreachable_of_unfit pictures.leads (plain_temporaryName plain)
      fun fits => absent ⟨plain, fits⟩
  cases file with
  | lock => exact unfit plain_lockName
  | record address => exact unfit (plain_text address)
  | cursor id =>
    by_cases plain : PlainId id
    · exact unfit (plain_cursorName plain)
    · have shape : (temporaryName (cursorName id)).toList =
          ('.' :: "last_reserved_ip.".toList) ++ id.toList ++ ".tmp".toList := by
        rw [toList_temporaryName, toList_cursorName]
        rfl
      exact pictures.unreachable_of_unplain _ _ shape (by decide) (by decide) (by decide) plain

end Changes

/-! ## Reading -/

/-- The text of a file comes back as it was written. -/
theorem decodeText_toUTF8 (text : String) : decodeText text.toUTF8 = .ok text := by
  have read : String.fromUTF8? text.toUTF8 = some text := by
    rw [String.fromUTF8?, String.toUTF8_eq_toByteArray, dif_pos text.isValidUTF8]
    rfl
  rw [decodeText, read]

section Runs

variable (pictures : Pictures disk tree location image)
include pictures

theorem answer_read (reachable : disk.Reachable file) :
    FileTree.answer (.read (disk.path file.name)) tree =
      match image file with
      | none => (.error .notFound, tree)
      | some text => (.ok text.toUTF8, tree) := by
  have located := FileTree.locate_named pictures.leads reachable.1 reachable.2
  rw [pictures.entry file] at located
  simp only [FileTree.answer, Disk.path, located]
  cases image file with
  | none => rfl
  | some text => rfl

/-- A file within reach is read as the image says. -/
theorem readTextIfAny_run (reachable : disk.Reachable file) :
    (readTextIfAny (disk.path file.name)).run FileTree.answer tree = (.ok (image file), tree) := by
  rw [readTextIfAny, readText, Program.run_bind, Program.run_bind, FileTree.run_ask,
    pictures.answer_read reachable]
  cases image file with
  | none => rfl
  | some text =>
    simp only [decodeText_toUTF8]
    rfl

theorem image_eq_none (absent : ¬ disk.Reachable file) : image file = none := by
  cases found : image file with
  | none => rfl
  | some text => exact absurd (pictures.reachable file (by simp [found])) absent

/-- A file out of reach is missing, or reading it fails. -/
theorem readTextIfAny_missed (absent : ¬ disk.Reachable file) :
    ∃ answer, (readTextIfAny (disk.path file.name)).run FileTree.answer tree = (answer, tree) ∧
      (answer = .ok (image file) ∨ ∃ cause, answer = .error cause) := by
  obtain ⟨error, located⟩ := (pictures.unreachable_of_not_reachable absent).locate
  have answered : FileTree.answer (.read (disk.path file.name)) tree = (.error error, tree) := by
    simp only [FileTree.answer, located]
  rw [readTextIfAny, readText, Program.run_bind, Program.run_bind, FileTree.run_ask, answered,
    pictures.image_eq_none absent]
  cases error with
  | notFound => exact ⟨_, rfl, .inl rfl⟩
  | alreadyExists | notADirectory | isADirectory | nameTooLong | busy | invalidText | nullInName
  | other => exact ⟨_, rfl, .inr ⟨_, rfl⟩⟩

/-! ## Taking away -/

/-- A file within reach is taken away, if it is there. -/
theorem remove_run (reachable : disk.Reachable file) :
    ∃ after, (disk.remove file.name).run FileTree.answer tree =
        (.ok (image file).isSome, after) ∧
      Pictures disk after location (image.set file none) := by
  have discarded := FileTree.discard_named pictures.leads reachable.1 reachable.2
  rw [pictures.entry file] at discarded
  rw [Disk.remove, Program.run_bind, FileTree.run_ask, FileTree.answer, Disk.path, discarded]
  cases found : image file with
  | none =>
    refine ⟨tree, rfl, ?_⟩
    rw [← found, Image.set_self]
    exact pictures
  | some text => exact ⟨_, rfl, pictures.erase file⟩

/-- A file out of reach is missing, or taking it away fails. -/
theorem remove_missed (absent : ¬ disk.Reachable file) :
    ∃ answer, (disk.remove file.name).run FileTree.answer tree = (answer, tree) ∧
      (answer = .ok (image file).isSome ∨ ∃ path cause, answer = .error (.file path cause)) := by
  obtain ⟨error, discarded⟩ := (pictures.unreachable_of_not_reachable absent).discard
  have answered : FileTree.answer (.remove (disk.path file.name)) tree = (.error error, tree) := by
    rw [FileTree.answer, discarded]
    rfl
  rw [Disk.remove, Program.run_bind, FileTree.run_ask, answered, pictures.image_eq_none absent]
  cases error with
  | notFound => exact ⟨_, rfl, .inl rfl⟩
  | alreadyExists | notADirectory | isADirectory | nameTooLong | busy | invalidText | nullInName
  | other => exact ⟨_, rfl, .inr ⟨_, _, rfl⟩⟩

/-! ## Replacing -/

theorem temporary_absent (file : StoreFile) :
    tree.entryAt (temporaryName file.name :: location) = none :=
  pictures.others _ fun other => other.name_ne_temporaryName file.name

theorem clear (writable : disk.Writable file) : disk.Clear tree location file :=
  ⟨writable, pictures.no_directory _, pictures.no_directory _⟩

/-- **A file that can be written is replaced, and nothing else changes.** -/
theorem replace_run (writable : disk.Writable file) (text : String) :
    ∃ after, (disk.replace file.name text).run FileTree.answer tree = (.ok (), after) ∧
      Pictures disk after location (image.set file (some text)) := by
  have cleared := pictures.erase_foreign fun other => other.name_ne_temporaryName file.name
  have free : tree.heldAt (temporaryName file.name :: location) = false := by
    rw [FileTree.heldAt, pictures.temporary_absent file]
  have replaced := Disk.replace_run pictures.leads (pictures.clear writable) text
  rw [free] at replaced
  exact ⟨_, replaced, cleared.put writable.reachable text⟩

/-- A file that cannot be written stays as it is. -/
theorem replace_missed (absent : ¬ disk.Writable file) (text : String) :
    ∃ path cause, (disk.replace file.name text).run FileTree.answer tree =
      (.error (.file path cause), tree) := by
  have unreachable := pictures.unreachable_of_not_writable absent
  obtain ⟨error, failed⟩ := unreachable.openToWrite
  obtain ⟨fault, undiscarded⟩ := unreachable.discard
  have created : FileTree.answer (.create (disk.path (temporaryName file.name))) tree =
      (.error error, tree) := by
    rw [FileTree.answer, failed]
    rfl
  have removed : FileTree.answer (.remove (disk.path (temporaryName file.name))) tree =
      (.error fault, tree) := by
    rw [FileTree.answer, undiscarded]
    rfl
  exact ⟨disk.path (temporaryName file.name), error, Disk.replace_refused created removed text⟩

/-! ## Locking -/

/-- The lock is taken, and its file is there from then on. -/
theorem lock_run (reachable : disk.Reachable .lock)
    (vacant : ∀ text, image .lock = some text → text = "") :
    ∃ after, disk.lock.run FileTree.answer tree = (.ok (), after) ∧
      Pictures disk after location (image.set .lock (some "")) := by
  have opened := FileTree.openToWrite_named pictures.leads reachable.1 reachable.2 id
  have answered : FileTree.answer (.lock (disk.path lockName) disk.lockTimeout) tree =
      (.ok true, tree.put (StoreFile.lock.name :: location) (.ofText "")) := by
    rw [pictures.entry .lock] at opened
    rw [FileTree.answer, Disk.path, show lockName = StoreFile.lock.name from rfl, opened]
    cases found : image .lock with
    | none => rfl
    | some text =>
      obtain rfl := vacant text found
      rfl
  refine ⟨_, ?_, pictures.put reachable ""⟩
  rw [Disk.lock, Program.run_bind, FileTree.run_ask, answered]
  rfl

/-- A lock out of reach is not taken. -/
theorem lock_missed (absent : ¬ disk.Reachable .lock) :
    ∃ path cause, disk.lock.run FileTree.answer tree = (.error (.file path cause), tree) := by
  obtain ⟨error, failed⟩ := (pictures.unreachable_of_not_reachable absent).openToWrite
  have answered : FileTree.answer (.lock (disk.path lockName) disk.lockTimeout) tree =
      (.error error, tree) := by
    rw [FileTree.answer, show disk.path lockName = disk.path StoreFile.lock.name from rfl, failed]
  refine ⟨disk.path lockName, error, ?_⟩
  rw [Disk.lock, Program.run_bind, FileTree.run_ask, answered]
  rfl

end Runs

end Pictures

end AddressPool
