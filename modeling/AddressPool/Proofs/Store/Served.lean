import AddressPool.Proofs.Allocation.Asking
import AddressPool.Proofs.Store.Shown

/-!
# Requests on a directory with other files in it

A directory that shows the content of a store serves requests as that store does: each
request, as long as it does not concern the cursor of a ring that does not matter, is
answered as by the store in memory, or something that is in the way of it is reported
and the store is left as it was (`Shows.serves`).  From this follows the same of whole
programs (`Shows.run`).
-/

namespace AddressPool

set_option autoImplicit false

open AddressPool.Path (Plain)

/-- The requests that concern no cursors but those of rings that matter. -/
def StoreRequest.Concerns (ids : String → Prop) : StoreRequest → Prop
  | .cursor id => ids id
  | .setCursor id _ => ids id
  | _ => True

theorem StoreRun.eq_run {α : Type} {refuses : StoreRequest → Prop} {program : StoreProgram α}
    {memory after : Memory} {result : α}
    (willing : program.AsksOnly fun request => ¬ refuses request)
    (run : StoreRun refuses program memory result after) :
    program.run Memory.answer memory = (result, after) := by
  induction run with
  | done => rfl
  | ask answers _ ih =>
    obtain ⟨rfl, rfl⟩ := answers.eq_of_not_refused willing.1
    exact ih (willing.2 _)

variable {disk : Disk} {tree after : FileTree} {location : Location}
variable {ids : String → Prop} {memory : Memory} {file : StoreFile}

/-! ## Requests one by one -/

/-- A request is served from a directory that shows the content of a store. -/
def Served (disk : Disk) (tree : FileTree) (location : Location) (ids : String → Prop)
    (memory : Memory) (request : StoreRequest) : Prop :=
  ∃ answer after, (disk.answer request).run FileTree.answer tree = (answer, after) ∧
    ∃ content, Answers (disk.Hinders tree location) memory request answer content ∧
      Leaves disk location ids tree after content

namespace Served

/-- A request is answered as by the store in memory. -/
theorem given {request : StoreRequest} {answer : request.Answer} {content : Memory}
    (reply : Memory.answer request memory = (answer, content))
    (run : (disk.answer request).run FileTree.answer tree = (answer, after))
    (leaves : Leaves disk location ids tree after content) :
    Served disk tree location ids memory request := by
  refine ⟨answer, after, run, content, .inl ?_, leaves⟩
  rw [reply]
  exact ⟨rfl, rfl⟩

/-- What is in the way of a request is reported, and nothing that counts changes. -/
theorem hindered {request : StoreRequest} {fault : StoreError}
    (run : (disk.answer request).run FileTree.answer tree = (request.refusal fault, after))
    (leaves : Leaves disk location ids tree after memory)
    (hinders : disk.Hinders tree location request) (outward : fault.Outward)
    (spared : request.Refusable memory) : Served disk tree location ids memory request :=
  ⟨_, after, run, memory, .inr ⟨hinders, spared, rfl, fault, outward, rfl⟩, leaves⟩

end Served

namespace Disk

/-- Whoever opens the file of the lock learns whether it is held. -/
theorem lock_run_of_opened {held : Bool}
    (opened : tree.openToWrite (disk.path lockName) id = .ok (held, after)) :
    disk.lock.run FileTree.answer tree =
      (if held then .error (.lockTimeout disk.lockTimeout) else .ok (), after) := by
  have answered : FileTree.answer (.lock (disk.path lockName) disk.lockTimeout) tree =
      (.ok !held, after) := by rw [FileTree.answer, opened]
  rw [lock, Program.run_bind, FileTree.run_ask, answered]
  cases held <;> rfl

theorem lock_run_of_error {cause : FileError}
    (failed : tree.openToWrite (disk.path lockName) id = .error cause) :
    disk.lock.run FileTree.answer tree = (.error (.file (disk.path lockName) cause), tree) := by
  have answered : FileTree.answer (.lock (disk.path lockName) disk.lockTimeout) tree =
      (.error cause, tree) := by rw [FileTree.answer, failed]
  rw [lock, Program.run_bind, FileTree.run_ask, answered]
  rfl

/-- The record of an address is what is found under its text. -/
theorem record?_told (disk : Disk) (tree : FileTree) (address : Address) :
    (disk.record? address.text).run FileTree.answer tree =
      (((disk.textOf tree address.text).mapError (.file (disk.path address.text))).map
        (·.map readRecord), tree) := record?_run (readTextIfAny_run _ tree)

end Disk

namespace Shows

section Requests

variable (shows : Shows disk tree location ids memory)
include shows

/-- The file of the lock stays, or it is made. -/
theorem put_lock (noDirectory : tree.entryAt (lockName :: location) ≠ some .directory)
    (content : ByteArray) {held : Bool} (same : disk.Usable tree location .lock → held = false) :
    Leaves disk location ids tree (tree.put (lockName :: location) (.file content held))
      memory := by
  refine shows.put .lock noDirectory (fun _ _ => rfl) (fun _ _ => rfl) trivial ?_
  intro usable
  refine ⟨usable.1, fun entry there => ⟨content, ?_⟩⟩
  obtain rfl := same usable
  have put := FileTree.entryAt_put_self tree (List.cons_ne_nil lockName location)
    (.file content false)
  exact Option.some.inj (there.symm.trans put)

theorem served_lock : Served disk tree location ids memory .lock := by
  by_cases reachable : disk.Reachable .lock
  · have opened := FileTree.openToWrite_named shows.leads reachable.1 reachable.2 id
    rw [StoreFile.name] at opened
    cases stands : tree.entryAt (lockName :: location) with
    | none =>
      rw [stands] at opened
      exact .given rfl (Disk.lock_run_of_opened opened)
        (shows.put_lock (FileTree.noDirectory_of_none stands) _ fun _ => rfl)
    | some entry =>
      rw [stands] at opened
      cases entry with
      | directory =>
        refine .hindered (Disk.lock_run_of_error opened) (.refl shows) ?_ (.file _ _) trivial
        rintro ⟨_, free⟩
        obtain ⟨_, same⟩ := free _ stands
        cases same
      | file content held =>
        have run := Disk.lock_run_of_opened opened
        have free : disk.Usable tree location .lock → held = false := by
          rintro ⟨_, free⟩
          obtain ⟨_, same⟩ := free _ stands
          exact (Entry.file.inj same).2
        have leaves := shows.put_lock (FileTree.noDirectory_of_file stands) content free
        cases held with
        | false => exact .given rfl run leaves
        | true =>
          refine .hindered run leaves (fun usable => ?_) (by rintro _ _ ⟨⟩) trivial
          exact Bool.noConfusion (free usable)
  · have unfit : ¬ FitsIn disk.directory lockName := fun fits => reachable ⟨plain_lockName, fits⟩
    obtain ⟨error, failed⟩ :=
      (FileTree.unreachable_of_unfit shows.leads plain_lockName unfit).openToWrite
    exact .hindered (Disk.lock_run_of_error (failed id)) (.refl shows)
      (fun usable => reachable usable.1) (.file _ error) trivial

/-- The record of a reservation is read as the reservation. -/
theorem record?_held {address : Address} {reservation : Reservation}
    (found : memory.find? address = some reservation) :
    (disk.record? address.text).run FileTree.answer tree =
      (.ok (some (reservation.owner, reservation.interface)), tree) := by
  obtain ⟨text, told, read⟩ := shows.record found
  rw [Disk.record?_told, told, ← read]
  rfl

/-- An address without a record gets one, or something is in the way. -/
theorem served_reserve_absent {address : Address} {owner interface : String}
    (unbroken : Disk.brokenField? owner interface = none)
    (absent : memory.find? address = none) :
    Served disk tree location ids memory (.reserve address owner interface) := by
  by_cases reachable : disk.Reachable (.record address)
  · have unread : (disk.record? address.text).run FileTree.answer tree = (.ok none, tree) := by
      have told := Disk.textOf_of_none shows.leads reachable (shows.vacant absent)
      rw [StoreFile.name] at told
      rw [Disk.record?_told, told]
      rfl
    by_cases clear : disk.Clear tree location (.record address)
    · have replaced := Disk.replace_run shows.leads clear (recordText owner interface)
      have cleared := shows.erase_temporary clear
      have written := cleared.shows.put_record reachable unbroken
        (tree.heldAt (temporaryName (StoreFile.record address).name :: location))
      have reply : Memory.answer (.reserve address owner interface) memory =
          (.ok true, memory.put ⟨address, owner, interface⟩) := by
        simp only [Memory.answer, absent]
      exact .given reply (Disk.reserve_run unbroken unread replaced)
        (.behind cleared.noWorse written)
    · obtain ⟨path, cause, middle, failed, alike⟩ :=
        Disk.replace_hindered (.record address) shows.leads (plain_text address) clear
          (recordText owner interface)
      exact .hindered (Disk.reserve_run unbroken unread failed) (shows.of_alike alike)
        (.inr clear) (.file path cause) trivial
  · have failed : (disk.record? address.text).run FileTree.answer tree =
        (.error (.file (disk.path address.text) .nameTooLong), tree) := by
      have told := Disk.textOf_unfit (.record address) shows.leads (plain_text address)
        reachable
      rw [StoreFile.name] at told
      rw [Disk.record?_told, told]
      rfl
    exact .hindered (Disk.reserve_run_unread unbroken failed) (.refl shows)
      (.inr fun clear => reachable clear.writable.reachable) (.file _ _) trivial

theorem served_reserve (address : Address) (owner interface : String) :
    Served disk tree location ids memory (.reserve address owner interface) := by
  cases broken : Disk.brokenField? owner interface with
  | some field =>
    obtain ⟨field, value⟩ := field
    have run : (disk.reserve address owner interface).run FileTree.answer tree =
        (.error (.invalidRecordField field value), tree) := by
      rw [Disk.reserve, broken]
      rfl
    refine .hindered run (.refl shows) (.inl ?_) (by rintro _ _ ⟨⟩) trivial
    rw [broken]
    exact Option.some_ne_none _
  | none =>
    cases found : memory.find? address with
    | none => exact shows.served_reserve_absent broken found
    | some holder =>
      have run := Disk.reserve_run_held broken (shows.record?_held found)
      have reply : Memory.answer (.reserve address owner interface) memory =
          (if holder.owner = owner then .ok false
            else .error (.alreadyReserved address holder.owner), memory) := by
        simp only [Memory.answer, found]
        split <;> rfl
      exact .given reply run (.refl shows)

/-- A record that is there is taken away. -/
theorem remove_held {address : Address} (held : (memory.find? address).isSome = true) :
    ∃ after, (disk.remove address.text).run FileTree.answer tree = (.ok true, after) ∧
      Leaves disk location ids tree after
        (memory.keep fun other => decide (other.address ≠ address)) := by
  obtain ⟨reservation, found⟩ := Option.isSome_iff_exists.mp held
  obtain ⟨reachable, content, locked, there⟩ := shows.file_of_find? found
  have discarded := FileTree.discard_named shows.leads reachable.1 reachable.2
  rw [StoreFile.name, there] at discarded
  refine ⟨_, ?_, shows.erase_record address⟩
  rw [Disk.remove, Program.run_bind, FileTree.run_ask, FileTree.answer, Disk.path, discarded]
  rfl

theorem served_release (address : Address) :
    Served disk tree location ids memory (.release address) := by
  cases found : memory.find? address with
  | some reservation =>
    have held : (memory.find? address).isSome = true := by rw [found]; rfl
    obtain ⟨after, run, leaves⟩ := shows.remove_held held
    exact .given (by rw [Memory.answer, held]) run leaves
  | none =>
    have same : memory.keep (fun other => decide (other.address ≠ address)) = memory := by
      refine Memory.keep_eq_self fun other member => decide_eq_true ?_
      exact Memory.find?_eq_none_iff.mp found other member
    by_cases reachable : disk.Reachable (.record address)
    · have discarded := FileTree.discard_named shows.leads reachable.1 reachable.2
      rw [StoreFile.name, shows.vacant found] at discarded
      have run : (disk.remove address.text).run FileTree.answer tree = (.ok false, tree) := by
        rw [Disk.remove, Program.run_bind, FileTree.run_ask, FileTree.answer, Disk.path, discarded]
        rfl
      have reply : Memory.answer (.release address) memory = (.ok false, memory) := by
        rw [Memory.answer, found, same]
        rfl
      exact .given reply run (.refl shows)
    · have unfit : ¬ FitsIn disk.directory address.text :=
        fun fits => reachable ⟨plain_text address, fits⟩
      have failed : tree.discard (disk.path address.text) = .error .nameTooLong := by
        rw [FileTree.discard, Disk.path,
          FileTree.target_unfit shows.leads (plain_text address) unfit]
      have run : (disk.remove address.text).run FileTree.answer tree =
          (.error (.file (disk.path address.text) .nameTooLong), tree) := by
        rw [Disk.remove, Program.run_bind, FileTree.run_ask, FileTree.answer, failed]
        rfl
      exact .hindered run (.refl shows) reachable (.file _ _) found

theorem served_cursor {id : String} (matters : ids id) :
    Served disk tree location ids memory (.cursor id) := by
  have run := Disk.cursor_run (Disk.readTextIfAny_run (disk.path (cursorName id)) tree)
  cases told : disk.textOf tree (cursorName id) with
  | ok text =>
    have reply : Memory.answer (.cursor id) memory = (.ok (cursorIn text), memory) := by
      rw [Memory.answer, shows.keeps (.cursor id) matters text told]
    rw [Disk.textOf] at told
    rw [told] at run
    exact .given reply run (.refl shows)
  | error cause =>
    have hinders : ¬ disk.Usable tree location (.cursor id) := by
      rintro ⟨_, text, found⟩
      rw [told] at found
      cases found
    rw [Disk.textOf] at told
    rw [told] at run
    exact .hindered run (.refl shows) hinders (.file _ cause) trivial

theorem served_setCursor {id : String} (matters : ids id) (address : Address) :
    Served disk tree location ids memory (.setCursor id address) := by
  by_cases clear : disk.Clear tree location (.cursor id)
  · have replaced := Disk.replace_run shows.leads clear address.text
    have cleared := shows.erase_temporary clear
    have goal : (tree.erase (temporaryName (cursorName id) :: location)).entryAt
        (cursorName id :: location) ≠ some .directory := by
      rw [FileTree.entryAt_erase_of_ne]
      · exact clear.goal
      · intro place
        exact StoreFile.name_ne_temporaryName (.cursor id) _ (List.cons.inj place).1
    have written := cleared.shows.put_cursor clear.writable.reachable goal address
      (tree.heldAt (temporaryName (StoreFile.cursor id).name :: location))
    exact .given rfl replaced (.behind cleared.noWorse written)
  · obtain ⟨path, cause, middle, failed, alike⟩ :=
      Disk.replace_hindered (.cursor id) shows.leads
        (plain_cursorName (shows.plain id matters)) clear address.text
    exact .hindered failed (shows.of_alike alike) clear (.file path cause) trivial

/-! ## Listings -/

/-- **The directory is listed as the store lists its reservations.** -/
theorem reservations_run :
    disk.reservations.run FileTree.answer tree = (.ok memory.reservations, tree) := by
  have spared : ∀ name, isHidden name = true → Address.ofString? name = none := by
    intro name hidden
    cases read : Address.ofString? name with
    | none => rfl
    | some address =>
      rw [isHidden_of_ofString? read] at hidden
      cases hidden
  have present : ∀ name ∈ (tree.namesIn location).filter fun name => !isHidden name,
      (tree.entryAt (name :: location)).isSome = true := by
    intro name member
    exact FileTree.mem_namesIn_iff.mp (List.mem_of_mem_filter member)
  have reads : ∀ name ∈ (tree.namesIn location).filter fun name => !isHidden name,
      ∀ address, Address.ofString? name = some address →
        ∃ reservation, memory.find? address = some reservation ∧
          (disk.record? name).run FileTree.answer tree =
            (.ok (some (reservation.owner, reservation.interface)), tree) := by
    intro name member address read
    obtain ⟨reservation, found⟩ := shows.find?_of_named read (present name member)
    obtain rfl := shows.canonical name address read (present name member)
    exact ⟨reservation, found, shows.record?_held found⟩
  have all : ∀ reservation ∈ memory.reservations,
      reservation.address.text ∈ (tree.namesIn location).filter fun name => !isHidden name := by
    intro reservation member
    have shown := isHidden_name (.record reservation.address)
    rw [StoreFile.name] at shown
    rw [List.mem_filter, shown]
    exact ⟨shows.mem_namesIn member, rfl⟩
  have sorted := Memory.sort_named shows.listed
    (fun name member address read => shows.canonical name address read (present name member)) all
  rw [Disk.reservations, Program.run_bind, FileTree.run_ask, FileTree.answer_names shows.leads]
  show (disk.reservationsNamed _ >>= _ : FileProgram _).run FileTree.answer tree = _
  rw [Disk.reservationsNamed_filter spared, Program.run_bind, Disk.reservationsNamed_run reads]
  show (Except.ok (Reservation.sort _), tree) = _
  rw [sorted]

theorem served_releaseByOwner (owner : String) :
    Served disk tree location ids memory (.releaseByOwner owner) := by
  have removed : ∀ {middle : FileTree} {content : Memory} {address : Address},
      Leaves disk location ids tree middle content → (content.find? address).isSome = true →
      ∃ after, (disk.remove address.text).run FileTree.answer middle = (.ok true, after) ∧
        Leaves disk location ids tree after
          (content.keep fun other => decide (other.address ≠ address)) := by
    intro middle content address leaves held
    obtain ⟨after, run, further⟩ := leaves.shows.remove_held held
    exact ⟨after, run, .behind leaves.noWorse further⟩
  obtain ⟨after, run, leaves⟩ :=
    Disk.releaseByOwner_run removed (.refl shows) shows.reservations_run owner
  exact .given rfl run leaves

/-- **Every request on the directory is served as by the store that it shows.** -/
theorem serves {request : StoreRequest} (concerns : request.Concerns ids) :
    Served disk tree location ids memory request := by
  cases request with
  | lock => exact shows.served_lock
  | reserve address owner interface => exact shows.served_reserve address owner interface
  | release address => exact shows.served_release address
  | releaseByOwner owner => exact shows.served_releaseByOwner owner
  | reservations => exact .given rfl shows.reservations_run (.refl shows)
  | cursor id => exact shows.served_cursor concerns
  | setCursor id address => exact shows.served_setCursor concerns address

end Requests

/-- **A run on the directory is a run on the store that it shows.** -/
theorem run {α : Type} {tree : FileTree} {memory : Memory}
    (shows : Shows disk tree location ids memory) {program : StoreProgram α}
    (asks : program.AsksOnly (StoreRequest.Concerns ids)) :
    ∃ result after content, program.run disk.serve tree = (result, after) ∧
      StoreRun (disk.Hinders tree location) program memory result content ∧
        Leaves disk location ids tree after content := by
  induction program generalizing tree memory with
  | done value => exact ⟨value, tree, memory, rfl, .done value memory, .refl shows⟩
  | ask request next ih =>
    obtain ⟨answer, middle, run, content, answers, leaves⟩ := shows.serves asks.1
    obtain ⟨result, after, final, rest, follows, further⟩ := ih answer leaves.shows (asks.2 answer)
    refine ⟨result, after, final, ?_, .ask answers (follows.mono leaves.noWorse),
      .behind leaves.noWorse further⟩
    rw [Program.run, Disk.serve, run]
    exact rest

end Shows

end AddressPool
