import AddressPool.Proofs.Store.Listing

/-!
# Changes that fail

A record and a cursor are written to a temporary file, which is then moved to its place.  The
directory may hold whatever somebody has put there, so that each of these steps can be refused.
If the temporary file cannot be written, nothing has been changed.  If it cannot be moved, it is
left behind: nobody takes it away (`Disk.Strands`).

A record is looked for before it is written, and a move to where nothing stands is not refused.
So a reservation that fails leaves all files as they were; a cursor that cannot be set does so
unless its move is refused, which happens where a directory stands in its place
(`failed_changes_leave_files`, `stranded_cursor`).
-/

namespace AddressPool

set_option autoImplicit false

open AddressPool.Path (Plain)

/-! ## Replacing a file -/

/-- Where no file can be written nothing can be taken away either. -/
theorem FileTree.refused_of_not_receives {tree : FileTree} {path : String}
    (absent : ∀ place, ¬ tree.Receives path place) :
    (∃ error, answer (.create path) tree = (.error error, tree)) ∧
      ∃ fault, answer (.remove path) tree = (.error fault, tree) := by
  obtain ⟨⟨error, unopened⟩, fault, undiscarded⟩ :
      (∃ error, tree.openToWrite path (fun _ => .empty) = .error error) ∧
        ∃ fault, tree.discard path = .error fault := by
    unfold openToWrite discard
    cases aimed : tree.target path with
    | error error => exact ⟨⟨_, rfl⟩, _, rfl⟩
    | ok goal =>
      cases goal with
      | itself => exact ⟨⟨_, rfl⟩, _, rfl⟩
      | named place =>
        cases slash : Path.endsWithSlash path with
        | true =>
          refine ⟨⟨.isADirectory, by simp only [if_true]⟩, ?_⟩
          cases there : tree.entryAt place with
          | none => exact ⟨.notFound, by simp only [there]⟩
          | some entry => cases entry <;> simp [there]
        | false =>
          have blocked : tree.entryAt place = some .directory := by
            by_contra free
            exact absent place ⟨aimed, slash, free⟩
          simp [blocked]
  refine ⟨⟨error, ?_⟩, fault, ?_⟩
  · rw [answer, unopened]
    rfl
  · rw [answer, undiscarded]
    rfl

namespace Disk

variable {disk : Disk} {tree after : FileTree} {location : Location} {name content : String}
variable {address : Address} {owner interface : String} {fault : StoreError}

/-- A text has been written to the temporary file of a name, which stays where it is since it
cannot be moved. -/
def Strands (disk : Disk) (tree : FileTree) (name content : String) (after : FileTree) : Prop :=
  ∃ place, tree.Receives (disk.path (temporaryName name)) place ∧
    after = tree.put place (.file content.toUTF8 (tree.heldAt place)) ∧
      ∃ cause, after.move (disk.path (temporaryName name)) (disk.path name) = .error cause

/-- **If a file cannot be replaced, everything is as it was, or the temporary file is stranded.** -/
theorem replace_failed
    (failed : (disk.replace name content).run FileTree.answer tree = (.error fault, after)) :
    after = tree ∨ disk.Strands tree name content after := by
  by_cases received : ∃ place, tree.Receives (disk.path (temporaryName name)) place
  · right
    obtain ⟨place, receives⟩ := received
    refine ⟨place, receives, ?_⟩
    rw [replace_received receives] at failed
    split at failed
    · rename_i cause stuck
      obtain rfl := (Prod.mk.inj failed).2
      exact ⟨rfl, cause, stuck⟩
    · cases failed
  · left
    obtain ⟨⟨error, uncreated⟩, cause, unremoved⟩ :=
      FileTree.refused_of_not_receives (not_exists.mp received)
    rw [replace_refused uncreated unremoved] at failed
    exact (congrArg Prod.snd failed).symm

/-- A file that is stranded has been asked to be replaced, and the answer says that it cannot be
moved. -/
theorem Strands.replace_run (strands : disk.Strands tree name content after) :
    ∃ cause, (disk.replace name content).run FileTree.answer tree =
      (.error (.file (disk.path name) cause), after) := by
  obtain ⟨place, receives, rfl, cause, stuck⟩ := strands
  exact ⟨cause, by rw [replace_received receives, stuck]⟩

section Named

variable (leads : tree.LeadsTo disk.directory location)
include leads

/-- **A file of the store is stranded if and only if a directory has its name.** -/
theorem strands_named_iff (file : StoreFile) (plain : Plain file.name) :
    disk.Strands tree file.name content after ↔
      (FitsIn disk.directory (temporaryName file.name) ∧
        tree.entryAt (temporaryName file.name :: location) ≠ some .directory ∧
        tree.entryAt (file.name :: location) = some .directory) ∧
      after = tree.put (temporaryName file.name :: location)
        (.file content.toUTF8 (tree.heldAt (temporaryName file.name :: location))) := by
  have plain_temporary := plain_temporaryName plain
  constructor
  · rintro ⟨place, receives, rfl, cause, stuck⟩
    obtain ⟨rfl, fits, free⟩ := (FileTree.receives_named_iff leads plain_temporary).mp receives
    refine ⟨⟨fits, free, ?_⟩, rfl⟩
    by_contra vacant
    rw [move_temporary leads ⟨plain, fits⟩ free, if_neg vacant] at stuck
    cases stuck
  · rintro ⟨⟨fits, free, blocked⟩, rfl⟩
    refine ⟨_, (FileTree.receives_named_iff leads plain_temporary).mpr ⟨rfl, fits, free⟩, rfl,
      .isADirectory, ?_⟩
    rw [move_temporary leads ⟨plain, fits⟩ free, if_pos blocked]

/-- **A reservation that fails leaves all files as they were.** -/
theorem reserve_failed
    (failed : (disk.reserve address owner interface).run FileTree.answer tree =
      (.error fault, after)) : after = tree := by
  obtain ⟨answer, run, _⟩ | ⟨answer, last, absent, replaced, run⟩ :=
    reserve_steps disk tree address owner interface
  · exact congrArg Prod.snd (failed.symm.trans run)
  · obtain ⟨_, vacant⟩ := FileTree.vacant_of_locate leads (plain_text address) absent
    obtain ⟨refused, rfl⟩ := Prod.mk.inj (failed.symm.trans run)
    cases answer with
    | ok _ => cases refused
    | error fault =>
      -- Where no record has been found no directory can be in the way of the move.
      refine (replace_failed replaced).resolve_right fun strands => ?_
      obtain ⟨⟨_, _, blocked⟩, _⟩ :=
        (strands_named_iff leads (.record address) (plain_text address)).mp strands
      rw [StoreFile.name, vacant] at blocked
      cases blocked

end Named

end Disk

/-- **A reservation that fails leaves all files as they were, and so does a cursor that cannot be
set, unless its temporary file is stranded.**

It is stranded if it can be written and not moved.  For the cursor of a ring whose identifier has
no slash and no null character in it, this is where a directory has the name of the cursor. -/
theorem failed_changes_leave_files {disk : Disk} {tree : FileTree} {location : Location}
    (leads : tree.LeadsTo disk.directory location) :
    (∀ address owner interface fault after,
      disk.serve (.reserve address owner interface) tree = (.error fault, after) →
        after = tree) ∧
    (∀ id address fault after,
      disk.serve (.setCursor id address) tree = (.error fault, after) →
        after = tree ∨ disk.Strands tree (cursorName id) address.text after) ∧
    (∀ id address after, disk.Strands tree (cursorName id) address.text after →
      ∃ cause, disk.serve (.setCursor id address) tree =
        (.error (.file (disk.path (cursorName id)) cause), after)) ∧
    ∀ id, PlainId id → ∀ (address : Address) after,
      disk.Strands tree (cursorName id) address.text after ↔
        (FitsIn disk.directory (temporaryName (cursorName id)) ∧
          tree.entryAt (temporaryName (cursorName id) :: location) ≠ some .directory ∧
          tree.entryAt (cursorName id :: location) = some .directory) ∧
        after = tree.put (temporaryName (cursorName id) :: location)
          (.file address.text.toUTF8
            (tree.heldAt (temporaryName (cursorName id) :: location))) := by
  refine ⟨?reserve, ?failed, ?stranded, ?named⟩
  case reserve =>
    intro address owner interface fault after failed
    exact Disk.reserve_failed leads failed
  case failed =>
    intro id address fault after failed
    exact Disk.replace_failed failed
  case stranded =>
    intro id address after strands
    exact strands.replace_run
  case named =>
    intro id plain address after
    exact Disk.strands_named_iff leads (.cursor id) (plain_cursorName plain)

/-- Directories have the names of a record and of a cursor.  The reservation fails and nothing is
changed; the cursor is stranded. -/
theorem failed_changes_leave_files_net :
    let disk : Disk := ⟨Path.join "/d" "net", .ofMilliseconds 10000⟩
    let tree := (Site.netWith [("10.0.0.2", .directory), ("last_reserved_ip.0", .directory)]).tree
    let after := tree.put [".last_reserved_ip.0.tmp", "net", "d"] (.ofText "10.0.0.2")
    (disk.serve (.reserve (.v4 0x0a000002) "a" "eth0") tree).2 = tree ∧
      ∃ cause, disk.serve (.setCursor "0" (.v4 0x0a000002)) tree =
        (.error (.file (disk.path "last_reserved_ip.0") cause), after) := by
  intro disk tree after
  have found : tree.LeadsTo (Path.join "/d" "net") ["net", "d"] := by rfl
  have leads : tree.LeadsTo disk.directory ["net", "d"] := found
  obtain ⟨reserve, _, stranded, named⟩ := failed_changes_leave_files leads
  have failed : ∃ fault, (disk.serve (.reserve (.v4 0x0a000002) "a" "eth0") tree).1 = .error fault :=
    ⟨.file "/d/net/10.0.0.2" .isADirectory, by decide +kernel⟩
  obtain ⟨fault, failed⟩ := failed
  refine ⟨reserve _ _ _ fault _ (Prod.ext failed rfl), stranded _ _ _ ?_⟩
  have plain : PlainId "0" := by decide
  exact (named "0" plain _ _).mpr ⟨⟨by decide +kernel, by decide +kernel, rfl⟩, rfl⟩

/-- **A cursor is stranded where a directory has its name.**

The lock is held and the cursor cannot be set.  Before there was one name in the directory besides
that of the lock; afterwards there is one more. -/
theorem stranded_cursor :
    let site := ((Site.netWith [("last_reserved_ip.0", .directory)]).run StoreRequest.lock.ask).2
    let later := (site.run (StoreRequest.setCursor "0" (.v4 0x0a000002)).ask).2
    (site.run (StoreRequest.setCursor "0" (.v4 0x0a000002)).ask).1 =
        .error (.file "/d/net/last_reserved_ip.0" .isADirectory) ∧
      site.tree.namesIn ["net", "d"] = ["lock", "last_reserved_ip.0"] ∧
      later.tree.namesIn ["net", "d"] =
        [".last_reserved_ip.0.tmp", "lock", "last_reserved_ip.0"] ∧
      later.tree.entryAt [".last_reserved_ip.0.tmp", "net", "d"] = some (.ofText "10.0.0.2") := by
  decide +kernel

end AddressPool
