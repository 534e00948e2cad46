import AddressPool.Proofs.Files.Alike
import AddressPool.Proofs.Store.Site

/-!
# What a store leaves in its directory

The directory of a store may hold whatever somebody has put there: directories in the
place of records, files that are no text, names that are none of the store's.  The store
writes to names that count for nothing, the locked file and those that start with a point
(`isSpare`), and it moves what it has written there into its place.

So a request that does not reserve an address or set a cursor leaves the directory as it
was but for such names; and so do the requests to reserve an address and to set a cursor
when they fail (`Disk.reserve_cases`, `Disk.replace_cases`).  A reservation that has just
been made can be given up, after which the directory is again as before
(`Disk.Recorded.release`).

Nobody can tell directories apart that differ at such names only: the store lists the
same reservations and finds the same cursors in them (`Site.unaltered_of_alike`).
-/

namespace AddressPool

set_option autoImplicit false

open AddressPool.Path (Plain)

/-! ## Names that count for nothing -/

/-- The locked file and all names that start with a point count for nothing. -/
def isSpare (name : String) : Bool :=
  decide (name = lockName) || decide (name.toList.head? = some '.')

theorem isSpare_of_point {name : String} {rest : List Char} (shape : name.toList = '.' :: rest) :
    isSpare name = true := by
  rw [isSpare, shape]
  simp

theorem isSpare_temporaryName (name : String) : isSpare (temporaryName name) = true :=
  isSpare_of_point (toList_temporaryName name)

/-- A spare name cannot be read as an address. -/
theorem ofString?_of_isSpare {name : String} (spared : isSpare name = true) :
    Address.ofString? name = none := by
  rw [isSpare, Bool.or_eq_true, decide_eq_true_eq, decide_eq_true_eq] at spared
  rcases spared with rfl | point
  · exact Address.ofString?_lockName
  · obtain ⟨rest, shape⟩ := List.head?_eq_some_iff.mp point
    exact Address.ofString?_eq_none shape (by decide) (by decide)

theorem isSpare_of_ofString? {name : String} {address : Address}
    (read : Address.ofString? name = some address) : isSpare name = false := by
  cases spared : isSpare name with
  | false => rfl
  | true =>
    rw [ofString?_of_isSpare spared] at read
    cases read

theorem isSpare_cursorName (id : String) : isSpare (cursorName id) = false := by
  rw [isSpare, toList_cursorName]
  simp [(lockName_ne_cursorName id).symm]

/-! ## Paths of spare names -/

/-- A step up is written with two points. -/
theorem ofPiece_ne_up {piece : List Char} (long : 2 < piece.length) :
    Path.Step.ofPiece piece ≠ some .up := by
  have other : piece ≠ ['.', '.'] := by
    rintro rfl
    exact absurd long (by decide)
  rw [Path.Step.ofPiece, if_neg other]
  intro step
  split at step
  · cases step
  · split at step <;> cases step

/-- Text behind a name that is long enough does not make a step up of its last piece. -/
theorem up_notMem_append {chars tail : List Char} (slashless : '/' ∉ tail)
    (long : 2 < tail.length) (upless : .up ∉ (chars.splitOn '/').filterMap Path.Step.ofPiece) :
    .up ∉ ((chars ++ tail).splitOn '/').filterMap Path.Step.ofPiece := by
  have last : ∀ piece : List Char, '/' ∉ piece →
      .up ∉ ((piece ++ tail).splitOn '/').filterMap Path.Step.ofPiece := by
    intro piece without member
    have whole : '/' ∉ piece ++ tail := by
      rw [List.mem_append, not_or]
      exact ⟨without, slashless⟩
    rw [List.splitOn_eq_singleton whole, List.mem_filterMap] at member
    obtain ⟨other, same, step⟩ := member
    rw [List.mem_singleton] at same
    refine ofPiece_ne_up ?_ step
    rw [same, List.length_append]
    omega
  by_cases slash : '/' ∈ chars
  · -- The text is cut at its last slash; only the piece behind it changes.
    obtain ⟨back, front, cut, without⟩ := List.eq_append_cons_of_mem (List.mem_reverse.mpr slash)
    have shape : chars = front.reverse ++ '/' :: back.reverse := by
      rw [← List.reverse_reverse chars, cut]
      simp
    rw [shape, Path.filterMap_splitOn_slash, List.mem_append, not_or] at upless
    rw [shape, List.append_assoc, List.cons_append, Path.filterMap_splitOn_slash,
      List.mem_append, not_or]
    exact ⟨upless.1, last _ fun member => without (List.mem_reverse.mp member)⟩
  · exact last chars slash

namespace Disk

variable {disk : Disk} {location : Location} {name : String} {spare : String → Bool}

/-- The path of a name ends under a spare one, whatever else is in the directory. -/
def Spares (disk : Disk) (spare : String → Bool) (location : Location) (name : String) : Prop :=
  ∀ tree : FileTree, tree.LeadsTo disk.directory location →
    tree.Aims spare location (disk.path name)

theorem spares_of_plain (plain : Plain name) (spared : spare name = true) :
    disk.Spares spare location name := by
  intro tree leads
  exact FileTree.aims_of_steps leads plain.steps_eq List.not_mem_nil spared

theorem spares_lockName : disk.Spares isSpare location lockName :=
  spares_of_plain plain_lockName (by decide)

theorem spares_temporaryName_text (address : Address) :
    disk.Spares isSpare location (temporaryName address.text) :=
  spares_of_plain (plain_temporaryName (plain_text address)) (isSpare_temporaryName _)

/-- The temporary file of a cursor stands under a spare name, be there slashes in the identifier of
the ring or not, as long as there is no step up in it. -/
theorem spares_temporaryName_cursor {id : String} (upless : .up ∉ Path.steps id) :
    disk.Spares isSpare location (temporaryName (cursorName id)) := by
  have shape : (temporaryName (cursorName id)).toList =
      ('.' :: "last_reserved_ip.".toList) ++ id.toList ++ ".tmp".toList := by
    rw [toList_temporaryName, toList_cursorName]
    rfl
  intro tree leads
  by_cases null : Char.ofNat 0 ∈ id.toList
  · -- Such a path leads nowhere.
    have inside : Char.ofNat 0 ∈ (disk.path (temporaryName (cursorName id))).toList := by
      rw [path, Path.mem_join (by decide), shape]
      exact .inr (List.mem_append_left _ (List.mem_append_right _ null))
    have fault : FileTree.pathFault? (disk.path (temporaryName (cursorName id))) =
        some .nullInName := by simp [FileTree.pathFault?, inside]
    intro place found
    simp only [FileTree.target, fault] at found
    cases found
  · by_cases slash : '/' ∈ id.toList
    · obtain ⟨before, behind, cut, plain, parts⟩ :=
        plain_front _ _ shape (by decide) (by decide) (by decide) slash null
      have steps : Path.steps (temporaryName (cursorName id)) =
          .down (String.ofList ('.' :: "last_reserved_ip.".toList ++ before)) ::
            ((behind ++ ".tmp".toList).splitOn '/').filterMap Path.Step.ofPiece := by
        rw [Path.steps_of_toList _ parts, Path.filterMap_splitOn_slash,
          ← Path.steps_of_toList _ rfl, plain.steps_eq, List.singleton_append]
      have further : .up ∉ (behind.splitOn '/').filterMap Path.Step.ofPiece := by
        rw [Path.steps_of_toList _ cut, Path.filterMap_splitOn_slash, List.mem_append,
          not_or] at upless
        exact upless.2
      exact FileTree.aims_of_steps leads steps
        (up_notMem_append (by decide) (by decide) further) (isSpare_of_point String.toList_ofList)
    · exact spares_of_plain (plain_temporaryName (plain_cursorName ⟨slash, null⟩))
        (isSpare_temporaryName _) tree leads

/-! ## Reading -/

/-- The text at the end of a path, if there is anything. -/
def textAt : Except FileError (Location × Entry) → Except FileError (Option String)
  | .error .notFound => .ok none
  | .error error => .error error
  | .ok (_, .directory) => .error .isADirectory
  | .ok (_, .file content _) => (decodeText content).map some

/-- What is read depends on what the path leads to, and nothing is changed. -/
theorem readTextIfAny_run (path : String) (tree : FileTree) :
    (readTextIfAny path).run FileTree.answer tree = (textAt (tree.locate path), tree) := by
  rw [readTextIfAny, readText, Program.run_bind, Program.run_bind, FileTree.run_ask,
    FileTree.answer]
  cases tree.locate path with
  | error error => cases error <;> rfl
  | ok found =>
    obtain ⟨place, entry⟩ := found
    cases entry with
    | directory => rfl
    | file content held =>
      have decoded : (∃ text, decodeText content = .ok text) ∨
          decodeText content = .error .invalidText := by
        unfold decodeText
        cases String.fromUTF8? content with
        | none => exact .inr rfl
        | some text => exact .inl ⟨text, rfl⟩
      rcases decoded with ⟨text, decoded⟩ | decoded
      all_goals
        simp only [textAt, decoded]
        rfl

/-- Nothing but a path that leads nowhere has no text and does not fail. -/
theorem locate_of_textAt {located : Except FileError (Location × Entry)}
    (absent : textAt located = .ok none) : located = .error .notFound := by
  unfold textAt at absent
  split at absent
  · rfl
  · cases absent
  · cases absent
  · unfold decodeText at absent
    split at absent <;> cases absent

theorem locate_cursor_null {tree : FileTree} {id : String} (null : Char.ofNat 0 ∈ id.toList) :
    tree.locate (disk.path (cursorName id)) = .error .nullInName := by
  refine FileTree.locate_of_null ?_ tree
  rw [path, Path.mem_join (by decide), toList_cursorName]
  exact .inr (List.mem_append_right _ null)

/-- The cursor of a ring is the same in two trees if the same text is found under its name; a name
with a null character in it is refused in either. -/
theorem cursor_congr {before after : FileTree} {id : String} (slashless : '/' ∉ id.toList)
    (same : Plain (cursorName id) → textAt (after.locate (disk.path (cursorName id))) =
      textAt (before.locate (disk.path (cursorName id)))) :
    ((disk.cursor id).run FileTree.answer after).1 =
      ((disk.cursor id).run FileTree.answer before).1 := by
  rw [cursor_run (readTextIfAny_run _ after), cursor_run (readTextIfAny_run _ before)]
  by_cases null : Char.ofNat 0 ∈ id.toList
  · rw [locate_cursor_null null, locate_cursor_null null]
  · rw [same (plain_cursorName ⟨slashless, null⟩)]

/-- Names that cannot be read as addresses make no difference to a listing. -/
theorem reservationsNamed_filter (spared : ∀ name, spare name = true →
    Address.ofString? name = none) (disk : Disk) (names : List String) :
    disk.reservationsNamed names =
      disk.reservationsNamed (names.filter fun name => !spare name) := by
  induction names with
  | nil => rfl
  | cons name rest ih =>
    cases skipped : spare name with
    | true =>
      rw [List.filter_cons_of_neg (by simp [skipped]), ← ih, reservationsNamed,
        spared name skipped]
    | false =>
      rw [List.filter_cons_of_pos (by simp [skipped]), reservationsNamed, reservationsNamed, ih]

section Alike

variable {before after : FileTree} (alike : FileTree.Alike isSpare location before after)
variable (leads : before.LeadsTo disk.directory location)
include alike leads

/-- The record of an address is the same in two directories that are alike. -/
theorem record?_same {address : Address} (read : Address.ofString? name = some address) :
    ∃ told, (disk.record? name).run FileTree.answer before = (told, before) ∧
      (disk.record? name).run FileTree.answer after = (told, after) := by
  have found := alike.locate_eq leads (plain_of_ofString? read) (isSpare_of_ofString? read)
  refine ⟨_, record?_run (readTextIfAny_run _ before), ?_⟩
  rw [record?_run (readTextIfAny_run _ after), path, found]

/-- The cursor of a ring is the same in two directories that are alike. -/
theorem cursor_same {id : String} (slashless : '/' ∉ id.toList) :
    ((disk.cursor id).run FileTree.answer after).1 =
      ((disk.cursor id).run FileTree.answer before).1 := by
  refine cursor_congr slashless ?_
  intro plain
  rw [path, alike.locate_eq leads plain (isSpare_cursorName id)]

theorem reservationsNamed_same (names : List String) :
    ∃ told, (disk.reservationsNamed names).run FileTree.answer before = (told, before) ∧
      (disk.reservationsNamed names).run FileTree.answer after = (told, after) := by
  induction names with
  | nil => exact ⟨_, rfl, rfl⟩
  | cons name rest ih =>
    rw [reservationsNamed]
    cases read : Address.ofString? name with
    | none => exact ih
    | some address =>
      obtain ⟨record, here, there⟩ := record?_same alike leads read
      obtain ⟨others, later, still⟩ := ih
      show ∃ told, (disk.record? name >>= _ : FileProgram _).run FileTree.answer before = _ ∧
        (disk.record? name >>= _ : FileProgram _).run FileTree.answer after = _
      rw [Program.run_bind, Program.run_bind, here, there]
      cases record with
      | error => exact ⟨_, rfl, rfl⟩
      | ok found =>
        show ∃ told, (disk.reservationsNamed rest >>= _ : FileProgram _).run FileTree.answer
            before = _ ∧
          (disk.reservationsNamed rest >>= _ : FileProgram _).run FileTree.answer after = _
        rw [Program.run_bind, Program.run_bind, later, still]
        cases others with
        | error => exact ⟨_, rfl, rfl⟩
        | ok listed => cases found <;> exact ⟨_, rfl, rfl⟩

/-- Two directories that are alike are listed alike. -/
theorem reservations_same :
    ∃ told, disk.reservations.run FileTree.answer before = (told, before) ∧
      disk.reservations.run FileTree.answer after = (told, after) := by
  have spared : ∀ name, isSpare name = true → Address.ofString? name = none :=
    fun _ => ofString?_of_isSpare
  have named := reservationsNamed_filter spared disk (after.namesIn location)
  rw [alike.names, ← reservationsNamed_filter spared] at named
  obtain ⟨found, here, there⟩ := reservationsNamed_same alike leads (before.namesIn location)
  rw [reservations, Program.run_bind, Program.run_bind, FileTree.run_ask, FileTree.run_ask,
    FileTree.answer_names leads, FileTree.answer_names (alike.leadsTo leads)]
  show ∃ told, (disk.reservationsNamed _ >>= _ : FileProgram _).run FileTree.answer before = _ ∧
    (disk.reservationsNamed _ >>= _ : FileProgram _).run FileTree.answer after = _
  rw [named, Program.run_bind, Program.run_bind, here, there]
  cases found <;> exact ⟨_, rfl, rfl⟩

end Alike

/-! ## Writing -/

section Requests

variable {tree : FileTree} (leads : tree.LeadsTo disk.directory location)
include leads

/-- Nothing but the locked file is touched when the lock is taken. -/
theorem lock_alike : FileTree.Alike isSpare location tree
    (disk.lock.run FileTree.answer tree).2 := by
  have alike := FileTree.Alike.lock (spares_lockName tree leads) disk.lockTimeout
  rw [lock, Program.run_bind, FileTree.run_ask]
  generalize FileTree.answer (.lock (disk.path lockName) disk.lockTimeout) tree = answered at alike
  obtain ⟨answer, after⟩ := answered
  cases answer with
  | error => exact alike
  | ok free => cases free <;> exact alike

/-- Nothing but the temporary file is touched when a text is written to it. -/
theorem write_alike (spares : disk.Spares spare location name) (content : String) :
    FileTree.Alike spare location tree
      ((replace.write (disk.path name) content).run FileTree.answer tree).2 := by
  have created := FileTree.Alike.create (spares tree leads)
  rw [replace.write, Program.run_bind, FileTree.run_ask]
  generalize FileTree.answer (.create (disk.path name)) tree = answered at created
  obtain ⟨answer, middle⟩ := answered
  cases answer with
  | error => exact created
  | ok =>
    exact created.trans (.append (spares middle (created.leadsTo leads)) content.toUTF8)

/-- A file is replaced by moving the temporary one, or nothing but that is touched. -/
theorem replace_cases (spares : disk.Spares spare location (temporaryName name))
    (content : String) :
    ∃ middle, FileTree.Alike spare location tree middle ∧
      ((∃ path cause, (disk.replace name content).run FileTree.answer tree =
          (.error (.file path cause), middle)) ∨
        ∃ after, middle.move (disk.path (temporaryName name)) (disk.path name) = .ok after ∧
          (disk.replace name content).run FileTree.answer tree = (.ok (), after)) := by
  have written := write_alike leads spares content
  rw [replace, Program.run_bind]
  generalize (replace.write (disk.path (temporaryName name)) content).run FileTree.answer tree =
    answered at written
  obtain ⟨answer, middle⟩ := answered
  cases answer with
  | error =>
    have removed := FileTree.Alike.remove (spares middle (written.leadsTo leads))
    exact ⟨_, written.trans removed, .inl ⟨_, _, rfl⟩⟩
  | ok =>
    refine ⟨middle, written, ?_⟩
    show (∃ path cause, ((FileRequest.rename _ _).ask >>= _ : FileProgram _).run _ middle = _) ∨
      ∃ after, _ ∧ ((FileRequest.rename _ _).ask >>= _ : FileProgram _).run _ middle = _
    rw [Program.run_bind, FileTree.run_ask, FileTree.answer]
    cases middle.move (disk.path (temporaryName name)) (disk.path name) with
    | error => exact .inl ⟨_, _, rfl⟩
    | ok after => exact .inr ⟨after, rfl, rfl⟩

end Requests

/-- A record has just been made: the directory is as before but for the record. -/
structure Recorded (disk : Disk) (location : Location) (address : Address)
    (before after : FileTree) : Prop where
  fits : FitsIn disk.directory address.text
  there : ∃ content held, after.entryAt (address.text :: location) = some (.file content held)
  alike : FileTree.Alike isSpare location before (after.erase (address.text :: location))

namespace Recorded

variable {address : Address} {before middle later : FileTree}

theorem of_alike (recorded : disk.Recorded location address middle later)
    (alike : FileTree.Alike isSpare location before middle) :
    disk.Recorded location address before later :=
  { recorded with alike := alike.trans recorded.alike }

variable (recorded : disk.Recorded location address before middle)
variable (leads : before.LeadsTo disk.directory location)
include recorded leads

theorem leadsTo : middle.LeadsTo disk.directory location := by
  obtain ⟨content, held, there⟩ := recorded.there
  have same := FileTree.sameDirectories_erase (List.cons_ne_nil _ _)
    (FileTree.noDirectory_of_file there)
  refine (recorded.alike.leadsTo leads).of_same ?_
  intro place
  exact (same place).symm

/-- **A record that has just been made can be taken away again, and then the directory is as it
was.** -/
theorem release (alike : FileTree.Alike isSpare location middle later) :
    ∃ after, (disk.remove address.text).run FileTree.answer later = (.ok true, after) ∧
      FileTree.Alike isSpare location before after := by
  obtain ⟨content, held, there⟩ := recorded.there
  have still := alike.entryAt_eq (isSpare_of_ofString? address.ofString?_text)
  rw [there] at still
  have discarded := FileTree.discard_named (alike.leadsTo (recorded.leadsTo leads))
    (plain_text address) recorded.fits
  rw [still] at discarded
  refine ⟨_, ?_, recorded.alike.trans (alike.erase_both _)⟩
  rw [remove, Program.run_bind, FileTree.run_ask, FileTree.answer, path, discarded]
  rfl

end Recorded

/-- What may come of a request to reserve an address. -/
inductive Reserves (disk : Disk) (location : Location) (address : Address) (before : FileTree) :
    Except StoreError Bool → FileTree → Prop where
  | failed {fault : StoreError} {after : FileTree}
      (alike : FileTree.Alike isSpare location before after) :
      Reserves disk location address before (.error fault) after
  | again {after : FileTree} (alike : FileTree.Alike isSpare location before after) :
      Reserves disk location address before (.ok false) after
  | fresh {after : FileTree} (recorded : disk.Recorded location address before after) :
      Reserves disk location address before (.ok true) after

/-- To reserve an address is to replace its record, if there is none; otherwise nothing is
touched and nothing reserved. -/
theorem reserve_steps (disk : Disk) (tree : FileTree) (address : Address)
    (owner interface : String) :
    (∃ answer, (disk.reserve address owner interface).run FileTree.answer tree =
        (answer, tree) ∧ answer ≠ .ok true) ∨
      ∃ answer after, tree.locate (disk.path address.text) = .error .notFound ∧
        (disk.replace address.text (recordText owner interface)).run FileTree.answer tree =
          (answer, after) ∧
        (disk.reserve address owner interface).run FileTree.answer tree =
          (answer.map fun _ => true, after) := by
  cases broken : brokenField? owner interface with
  | some field =>
    obtain ⟨field, value⟩ := field
    refine .inl ⟨.error (.invalidRecordField field value), ?_, by rintro ⟨⟩⟩
    rw [reserve, broken]
    rfl
  | none =>
    have read := record?_run (readTextIfAny_run (disk.path address.text) tree)
    cases found : textAt (tree.locate (disk.path address.text)) with
    | error cause =>
      rw [found] at read
      exact .inl ⟨_, reserve_run_unread broken read, by rintro ⟨⟩⟩
    | ok text =>
      rw [found] at read
      cases text with
      | some text =>
        refine .inl ⟨_, reserve_run_held broken read, ?_⟩
        split <;> rintro ⟨⟩
      | none =>
        exact .inr ⟨_, _, locate_of_textAt found, rfl, reserve_run broken read rfl⟩

section Reserve

variable {tree middle after : FileTree} {address : Address}
variable (leads : tree.LeadsTo disk.directory location)
include leads

/-- A temporary file that is moved to where no record was becomes the record. -/
theorem recorded_of_move (absent : tree.locate (disk.path address.text) = .error .notFound)
    (alike : FileTree.Alike isSpare location tree middle)
    (moved : middle.move (disk.path (temporaryName address.text)) (disk.path address.text) =
      .ok after) : disk.Recorded location address tree after := by
  have plain := plain_text address
  have kept := isSpare_of_ofString? address.ofString?_text
  obtain ⟨fits, vacant⟩ := FileTree.vacant_of_locate leads plain absent
  obtain ⟨origin, destination, content, held, source, goal, there, _, rfl⟩ :=
    FileTree.file_of_move moved
  have target := FileTree.target_named (alike.leadsTo leads) plain fits
  rw [path, target] at goal
  obtain rfl := FileTree.Target.named.inj (Except.ok.inj goal)
  have beneath := spares_temporaryName_text address middle (alike.leadsTo leads) origin source
  have elsewhere : address.text :: location ≠ origin := by
    rintro rfl
    rw [FileTree.beneath_name_iff, kept] at beneath
    cases beneath
  have erased : (middle.erase origin).entryAt (address.text :: location) = none := by
    rw [FileTree.entryAt_erase_of_ne _ elsewhere, alike.entryAt_eq kept, vacant]
  refine ⟨fits, ⟨content, held, FileTree.entryAt_put_self _ (List.cons_ne_nil _ _) _⟩, ?_⟩
  rw [FileTree.erase_put, FileTree.erase_eq_self erased]
  exact alike.trans (.erase beneath (FileTree.noDirectory_of_file there))

/-- **A request to reserve an address makes a record of it, or leaves the directory as it was.** -/
theorem reserve_cases (address : Address) (owner interface : String) :
    ∃ answer after, (disk.reserve address owner interface).run FileTree.answer tree =
      (answer, after) ∧ disk.Reserves location address tree answer after := by
  obtain ⟨answer, run, nothing⟩ | ⟨answer, after, absent, replaced, run⟩ :=
    reserve_steps disk tree address owner interface
  · refine ⟨answer, tree, run, ?_⟩
    cases answer with
    | error => exact .failed (.refl tree)
    | ok made =>
      cases made with
      | false => exact .again (.refl tree)
      | true => exact absurd rfl nothing
  · obtain ⟨middle, alike, ⟨path, cause, failed⟩ | ⟨last, moved, done⟩⟩ :=
      replace_cases leads (spares_temporaryName_text address) (recordText owner interface)
    · obtain ⟨rfl, rfl⟩ := Prod.mk.inj (replaced.symm.trans failed)
      exact ⟨_, _, run, .failed alike⟩
    · obtain ⟨rfl, rfl⟩ := Prod.mk.inj (replaced.symm.trans done)
      exact ⟨_, _, run, .fresh (recorded_of_move leads absent alike moved)⟩

end Reserve

end Disk

/-! ## What cannot be told apart -/

namespace Site

/-- The store answers as before when it is asked for its reservations, and for the cursor of any
ring whose identifier has no slash in it. -/
structure Unaltered (before after : Site) : Prop where
  reservations : (after.run StoreRequest.reservations.ask).1 =
    (before.run StoreRequest.reservations.ask).1
  cursor : ∀ id : String, '/' ∉ id.toList →
    (after.run (StoreRequest.cursor id).ask).1 = (before.run (StoreRequest.cursor id).ask).1

theorem Unaltered.refl (site : Site) : site.Unaltered site := by
  refine ⟨rfl, ?_⟩
  intro id _
  rfl

/-- **Directories that are alike cannot be told apart.** -/
theorem unaltered_of_alike {dataDirectory network : String} {disk : Disk} {location : Location}
    {before after : FileTree} (alike : FileTree.Alike isSpare location before after)
    (leads : before.LeadsTo disk.directory location) :
    Unaltered ⟨dataDirectory, network, .disk disk, before⟩
      ⟨dataDirectory, network, .disk disk, after⟩ := by
  constructor
  · obtain ⟨told, here, there⟩ := Disk.reservations_same alike leads
    rw [run_ask_disk, run_ask_disk, Disk.answer, here, there]
  · intro id slashless
    rw [run_ask_disk, run_ask_disk]
    exact Disk.cursor_same alike leads slashless

/-- Directories that mirror stores with one cursor for a ring have that cursor for it. -/
theorem cursor_same_of_mirrors {disk : Disk} {before after : FileTree} {location other : Location}
    {locked still : Bool} {memory content : Memory}
    (mirrors : Mirrors disk before location locked memory)
    (again : Mirrors disk after other still content) {id : String} (slashless : '/' ∉ id.toList)
    (same : content.cursors.lookup id = memory.cursors.lookup id) :
    ((disk.cursor id).run FileTree.answer after).1 =
      ((disk.cursor id).run FileTree.answer before).1 := by
  refine Disk.cursor_congr slashless ?_
  intro plain
  by_cases fits : FitsIn disk.directory (cursorName id)
  · -- The image of a cursor has nothing to do with the lock.
    have reachable : disk.Reachable (.cursor id) := ⟨plain, fits⟩
    have here := mirrors.pictures.readTextIfAny_run reachable
    have there := again.pictures.readTextIfAny_run reachable
    rw [Disk.readTextIfAny_run, imageOf] at here there
    rw [same] at there
    exact (congrArg Prod.fst there).trans (congrArg Prod.fst here).symm
  · rw [Disk.path, FileTree.locate_unfit mirrors.pictures.leads plain fits,
      FileTree.locate_unfit again.pictures.leads plain fits]

/-- Directories that mirror stores with the same cursors tell the same of every cursor, be it one
whose identifier has a slash in it, which leads nowhere in both. -/
theorem cursors_same_of_mirrors {disk : Disk} {before after : FileTree} {location other : Location}
    {locked still : Bool} {memory content : Memory}
    (mirrors : Mirrors disk before location locked memory)
    (again : Mirrors disk after other still content)
    (same : ∀ id, content.cursors.lookup id = memory.cursors.lookup id) (id : String) :
    ((disk.cursor id).run FileTree.answer after).1 =
      ((disk.cursor id).run FileTree.answer before).1 := by
  by_cases slash : '/' ∈ id.toList
  · suffices located : after.locate (disk.path (cursorName id)) =
        before.locate (disk.path (cursorName id)) by
      rw [Disk.cursor_run (Disk.readTextIfAny_run _ after),
        Disk.cursor_run (Disk.readTextIfAny_run _ before), located]
    by_cases null : Char.ofNat 0 ∈ id.toList
    · rw [Disk.locate_cursor_null null, Disk.locate_cursor_null null]
    · -- What stands in front of the slash is the file of a cursor, if anything.
      have shape : (cursorName id).toList = "last_reserved_ip.".toList ++ id.toList ++ [] := by
        rw [toList_cursorName, List.append_nil]
      obtain ⟨front, behind, _, plain, parts⟩ :=
        plain_front _ [] shape (by decide) (by decide) (by decide) slash null
      have named : String.ofList ("last_reserved_ip.".toList ++ front) =
          (StoreFile.cursor (String.ofList front)).name := by
        rw [String.ofList_append, String.ofList_toList]
        rfl
      have entries : after.entryAt (String.ofList ("last_reserved_ip.".toList ++ front) :: other) =
          before.entryAt (String.ofList ("last_reserved_ip.".toList ++ front) :: location) := by
        rw [named, mirrors.pictures.entry, again.pictures.entry, imageOf, imageOf, same]
      exact FileTree.locate_slash_same mirrors.pictures.leads again.pictures.leads plain parts
        (mirrors.pictures.no_directory _) entries
  · exact cursor_same_of_mirrors mirrors again slash (same id)

section Runs

variable {site : Site} {memory content : Memory} {α : Type} {program : StoreProgram α}

/-- What is told of a cursor behind a program is what was told before, if it is the same cursor and
directories tell the same of it. -/
theorem Holds.cursor_congr (holds : site.Holds memory) (held : (site.run program).2.Holds content)
    {id : String} (same : content.cursors.lookup id = memory.cursors.lookup id)
    (onDisk : ∀ {disk : Disk} {before after : FileTree} {location other : Location}
      {locked still : Bool}, Mirrors disk before location locked memory →
        Mirrors disk after other still content →
          ((disk.cursor id).run FileTree.answer after).1 =
            ((disk.cursor id).run FileTree.answer before).1) :
    ((site.run program).2.run (StoreRequest.cursor id).ask).1 =
      (site.run (StoreRequest.cursor id).ask).1 := by
  cases holds with
  | memory dataDirectory network memory tree =>
    rw [run_mk_memory] at held ⊢
    generalize (program.run Memory.answer memory).2 = after at held ⊢
    cases held
    exact congrArg Except.ok same
  | disk valid location locked mirrors =>
    rw [run_mk_disk] at held ⊢
    generalize (program.run _ _).2 = after at held ⊢
    cases held with
    | disk _ other still again =>
      rw [run_ask_disk, run_ask_disk]
      exact onDisk mirrors again

/-- **A program that leaves the cursor of a ring as it was cannot be told to have been run from
it.** -/
theorem Holds.cursor_same (holds : site.Holds memory) (held : (site.run program).2.Holds content)
    {id : String} (slashless : '/' ∉ id.toList)
    (same : content.cursors.lookup id = memory.cursors.lookup id) :
    ((site.run program).2.run (StoreRequest.cursor id).ask).1 =
      (site.run (StoreRequest.cursor id).ask).1 :=
  holds.cursor_congr held same fun mirrors again =>
    cursor_same_of_mirrors mirrors again slashless same

/-- **A program that leaves all cursors as they were cannot be told to have been run from any of
them.** -/
theorem Holds.cursors_same (holds : site.Holds memory) (held : (site.run program).2.Holds content)
    (same : ∀ id, content.cursors.lookup id = memory.cursors.lookup id) (id : String) :
    ((site.run program).2.run (StoreRequest.cursor id).ask).1 =
      (site.run (StoreRequest.cursor id).ask).1 :=
  holds.cursor_congr held (same id) fun mirrors again => cursors_same_of_mirrors mirrors again same id

/-- A cursor that a site holds is told. -/
theorem Holds.cursor_of_lookup (holds : site.Holds memory) {id : String} {address : Address}
    (found : memory.cursors.lookup id = some address) :
    (site.run (StoreRequest.cursor id).ask).1 = .ok (some address) := by
  cases holds with
  | memory => exact congrArg Except.ok found
  | disk valid location locked mirrors =>
    have reachable := mirrors.pictures.reachable (.cursor id) (by simp [imageOf, found])
    obtain ⟨answer, after, run, content, answers, _⟩ := mirrors.serves_cursor id
    obtain ⟨rfl, _⟩ := answers.eq_of_not_refused (not_not_intro reachable)
    rw [run_ask_disk, run]
    exact congrArg Except.ok found

/-- **A program that leaves the content of a store as it was cannot be told to have been run.** -/
theorem Holds.unaltered (holds : site.Holds memory) (held : (site.run program).2.Holds memory) :
    site.Unaltered (site.run program).2 := by
  refine ⟨by rw [held.reservations, holds.reservations], ?_⟩
  intro id slashless
  exact holds.cursor_same held slashless rfl

end Runs

end Site

end AddressPool
