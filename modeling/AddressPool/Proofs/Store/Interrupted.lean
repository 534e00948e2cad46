import AddressPool.Proofs.Allocation.Ownership
import AddressPool.Proofs.Files.Killed
import AddressPool.Proofs.Store.Asking
import AddressPool.Proofs.Store.Served

/-!
# Requests on a directory that are interrupted

A caller of a store on disk may be killed while one of its requests is being answered.  A
record or a cursor is replaced in one step, and what is done before that step, and what
is left undone behind it, has to do with hidden names only; so a request that has been
interrupted has been answered as a whole, or the directory shows the same store as before
(`Shows.killed_single`).  Only when an owner is released this takes many steps, and some of
its records may be left (`Shows.releaseAll_killed`).

So a program that is killed on a directory leaves it showing what a store in memory holds
when the program is interrupted between two of its requests, or while an owner is released
(`Interrupted`, `Shows.killed`).
-/

namespace AddressPool

set_option autoImplicit false

open AddressPool.Path (Plain)

/-! ## Programs that only read -/

/-- The requests that change nothing. -/
def FileRequest.Reads : FileRequest → Prop
  | .read _ => True
  | .names _ => True
  | .isDirectory _ => True
  | _ => False

theorem FileRequest.Reads.unchanged {request : FileRequest} (reads : request.Reads)
    (tree : FileTree) : (FileTree.answer request tree).2 = tree := by
  cases request with
  | read path | names path | isDirectory path =>
    rw [FileTree.answer]
    split <;> rfl
  | lock | create | append | rename | remove | makeDirectory => exact reads.elim

/-- A program that only reads leaves the tree as it was, whenever it is killed. -/
theorem Killed.of_reads {α : Type} {program : FileProgram α} {tree after : FileTree}
    (killed : Killed program tree after) (reads : program.AsksOnly FileRequest.Reads) :
    after = tree := by
  induction killed with
  | here => rfl
  | within => exact reads.1.elim
  | later _ ih => rw [ih (reads.2 _), reads.1.unchanged]

namespace Disk

variable {disk : Disk} {tree after : FileTree} {location : Location} {name : String}
variable {spare : String → Bool}

theorem reservations_reads : disk.reservations.AsksOnly FileRequest.Reads :=
  reservations_asksOnly (fun _ _ _ => trivial) trivial

/-! ## Requests of one step -/

theorem lock_killed (killed : Killed disk.lock tree after) :
    after = tree ∨ after = (disk.lock.run FileTree.answer tree).2 := by
  refine Killed.of_single killed nofun fun answer => ?_
  cases answer with
  | error => exact ⟨_, rfl⟩
  | ok free => cases free <;> exact ⟨_, rfl⟩

theorem remove_killed (killed : Killed (disk.remove name) tree after) :
    after = tree ∨ after = ((disk.remove name).run FileTree.answer tree).2 := by
  refine Killed.of_single killed nofun fun answer => ?_
  cases answer with
  | ok => exact ⟨_, rfl⟩
  | error cause => cases cause <;> exact ⟨_, rfl⟩

/-! ## Replacing -/

section Replacing

variable (leads : tree.LeadsTo disk.directory location)
include leads

/-- Nothing but the temporary file is touched while a text is written to it. -/
theorem write_killed (spares : disk.Spares spare location name) {content : String}
    (killed : Killed (replace.write (disk.path name) content) tree after) :
    FileTree.Alike spare location tree after := by
  rcases killed.of_request nofun with rfl | rest
  · exact .refl after
  have created := FileTree.Alike.create (spares tree leads)
  generalize FileTree.answer (.create (disk.path name)) tree = answered at created rest
  obtain ⟨answer, middle⟩ := answered
  cases answer with
  | error =>
    rw [rest.of_done]
    exact created
  | ok =>
    rcases Killed.of_append rest with rfl | ⟨written, rfl⟩
    · exact created
    · exact created.trans (.append (spares middle (created.leadsTo leads)) written)

/-- **A file that is being replaced is replaced as a whole, or nothing but the temporary file is
touched.** -/
theorem replace_killed (spares : disk.Spares spare location (temporaryName name))
    {content : String} (killed : Killed (disk.replace name content) tree after) :
    FileTree.Alike spare location tree after ∨
      after = ((disk.replace name content).run FileTree.answer tree).2 := by
  rcases Killed.of_bind killed with writing | rest
  · exact .inl (write_killed leads spares writing)
  have written := write_alike leads spares content
  have whole : (disk.replace name content).run FileTree.answer tree = _ :=
    Program.run_bind FileTree.answer (replace.write (disk.path (temporaryName name)) content) _ tree
  rw [whole]
  generalize (replace.write (disk.path (temporaryName name)) content).run FileTree.answer tree =
    answered at written rest ⊢
  obtain ⟨answer, middle⟩ := answered
  cases answer with
  | error =>
    rcases Killed.of_single rest nofun fun _ => ⟨_, rfl⟩ with rfl | rfl
    · exact .inl written
    · exact .inr rfl
  | ok =>
    have finished := Killed.of_single rest nofun fun answer => by cases answer <;> exact ⟨_, rfl⟩
    rcases finished with rfl | rfl
    · exact .inl written
    · exact .inr rfl

theorem reserve_killed {address : Address} {owner interface : String}
    (killed : Killed (disk.reserve address owner interface) tree after) :
    FileTree.Alike isHidden location tree after ∨
      after = ((disk.reserve address owner interface).run FileTree.answer tree).2 := by
  cases broken : brokenField? owner interface with
  | some field =>
    rw [reserve, broken] at killed
    rw [killed.of_done]
    exact .inl (.refl tree)
  | none =>
    have read := record?_run (readTextIfAny_run (disk.path address.text) tree)
    rw [reserve, broken] at killed
    rcases Killed.of_bind killed with reading | rest
    · rw [reading.of_reads (record?_asksOnly trivial)]
      exact .inl (.refl tree)
    cases found : textAt (tree.locate (disk.path address.text)) with
    | error cause =>
      rw [read, found] at rest
      rw [rest.of_done]
      exact .inl (.refl tree)
    | ok text =>
      rw [found] at read
      rw [read] at rest
      cases text with
      | some text =>
        change Killed (if _ = owner then _ else _) tree after at rest
        split at rest
        · rw [rest.of_done]
          exact .inl (.refl tree)
        · rw [rest.of_done]
          exact .inl (.refl tree)
      | none =>
        have replacing := Killed.of_finished rest fun answer => by cases answer <;> exact ⟨_, rfl⟩
        have plain : Plain (StoreFile.record address).name := plain_text address
        refine (replace_killed leads (spares_temporaryName plain) replacing).imp_right ?_
        rw [StoreFile.name]
        cases replaced : (disk.replace address.text (recordText owner interface)).run
          FileTree.answer tree with
        | mk answer middle =>
          rintro rfl
          rw [reserve_run broken read replaced]

end Replacing

end Disk

/-! ## Programs that are interrupted -/

/-- What a store may hold when a program on it is interrupted: some of its requests have been
answered, and of an owner that is being released some reservations may be left. -/
inductive Interrupted (refuses : StoreRequest → Prop) {α : Type} :
    StoreProgram α → Memory → Memory → Prop where
  | here (program : StoreProgram α) (memory : Memory) : Interrupted refuses program memory memory
  | within {owner : String} {next : Except StoreError Nat → StoreProgram α}
      {memory content : Memory} (thinned : memory.Thinned (owner = ·) content) :
      Interrupted refuses (.ask (.releaseByOwner owner) next) memory content
  | later {request : StoreRequest} {next : request.Answer → StoreProgram α}
      {answer : request.Answer} {memory middle content : Memory}
      (answers : Answers refuses memory request answer middle)
      (rest : Interrupted refuses (next answer) middle content) :
      Interrupted refuses (.ask request next) memory content

namespace Interrupted

variable {refuses : StoreRequest → Prop} {α β : Type} {memory content : Memory}

theorem of_done {result : α} (interrupted : Interrupted refuses (.done result) memory content) :
    content = memory := by
  cases interrupted with
  | here => rfl

/-- A program is interrupted before its first request has been answered, or behind it. -/
theorem of_request {request : StoreRequest} {next : request.Answer → StoreProgram α}
    (interrupted : Interrupted refuses (request.ask >>= next) memory content)
    (single : ∀ owner, request ≠ .releaseByOwner owner) :
    content = memory ∨ ∃ answer middle, Answers refuses memory request answer middle ∧
      Interrupted refuses (next answer) middle content := by
  change Interrupted refuses (.ask request _) memory content at interrupted
  cases interrupted with
  | here => exact .inl rfl
  | within thinned => exact absurd rfl (single _)
  | later answers rest => exact .inr ⟨_, _, answers, rest⟩

/-- A program that takes the lock is interrupted when it has got it, or it has done nothing. -/
theorem of_lock {next : Except StoreError Unit → StoreProgram α}
    (interrupted : Interrupted refuses (StoreRequest.lock.ask >>= next) memory content)
    (fails : ∀ fault, ∃ result, next (.error fault) = .done result) :
    content = memory ∨ Interrupted refuses (next (.ok ())) memory content := by
  rcases interrupted.of_request (by simp) with unchanged | ⟨_, _, locked, rest⟩
  · exact .inl unchanged
  obtain ⟨same, rfl | ⟨_, fault, rfl⟩⟩ := locked.lock
  · exact .inr (same ▸ rest)
  · obtain ⟨result, done⟩ := fails fault
    rw [done] at rest
    exact .inl (rest.of_done.trans same)

/-- One of two programs in sequence is interrupted, and the other one is done or has not been
started. -/
theorem of_andThen {program : StoreProgram α} {follow : α → StoreProgram β}
    (interrupted : Interrupted refuses (program.andThen follow) memory content) :
    Interrupted refuses program memory content ∨
      ∃ result middle, StoreRun refuses program memory result middle ∧
        Interrupted refuses (follow result) middle content := by
  induction program generalizing memory with
  | done result => exact .inr ⟨result, memory, .done result memory, interrupted⟩
  | ask request next ih =>
    rw [Program.andThen] at interrupted
    cases interrupted with
    | here => exact .inl (.here _ _)
    | within thinned => exact .inl (.within thinned)
    | later answers rest =>
      rcases ih _ rest with first | ⟨result, middle, run, second⟩
      · exact .inl (.later answers first)
      · exact .inr ⟨result, middle, .ask answers run, second⟩

/-- A program may be interrupted when it has asked everything. -/
theorem of_run {program : StoreProgram α} {result : α}
    (run : StoreRun refuses program memory result content) :
    Interrupted refuses program memory content := by
  induction run with
  | done result memory => exact .here _ memory
  | ask answers _ ih => exact .later answers ih

/-- Where nothing is asked behind a program, it is the program itself that is interrupted. -/
theorem of_finished {program : StoreProgram α} {follow : α → StoreProgram β}
    (interrupted : Interrupted refuses (program >>= follow) memory content)
    (finished : ∀ result, ∃ value, follow result = .done value) :
    Interrupted refuses program memory content := by
  rcases interrupted.of_andThen with first | ⟨result, middle, run, second⟩
  · exact first
  · obtain ⟨value, last⟩ := finished result
    rw [last] at second
    rw [second.of_done]
    exact .of_run run

theorem mono {willing : StoreRequest → Prop} (fewer : ∀ request, refuses request → willing request)
    {program : StoreProgram α} (interrupted : Interrupted refuses program memory content) :
    Interrupted willing program memory content := by
  induction interrupted with
  | here program memory => exact .here program memory
  | within thinned => exact .within thinned
  | later answers _ ih => exact .later (answers.mono fewer) ih

end Interrupted

/-! ## Requests on what a directory shows -/

namespace Shows

variable {disk : Disk} {tree after : FileTree} {location : Location} {ids : String → Prop}
variable {memory : Memory}

section Requests

variable (shows : Shows disk tree location ids memory)
include shows

/-- **A request is answered as a whole, or nothing but hidden names is touched, unless it is to
release an owner.** -/
theorem killed_single {request : StoreRequest} (concerns : request.Concerns ids)
    (single : ∀ owner, request ≠ .releaseByOwner owner)
    (killed : Killed (disk.answer request) tree after) :
    FileTree.Alike isHidden location tree after ∨
      after = ((disk.answer request).run FileTree.answer tree).2 := by
  have unchanged : after = tree → FileTree.Alike isHidden location tree after := by
    rintro rfl
    exact .refl after
  cases request with
  | lock => exact (Disk.lock_killed killed).imp_left unchanged
  | reserve address owner interface => exact Disk.reserve_killed shows.leads killed
  | release address => exact (Disk.remove_killed killed).imp_left unchanged
  | releaseByOwner owner => exact absurd rfl (single owner)
  | reservations => exact .inl (unchanged (killed.of_reads Disk.reservations_reads))
  | cursor id => exact .inl (unchanged (killed.of_reads (Disk.cursor_asksOnly trivial)))
  | setCursor id address =>
    have plain : Plain (StoreFile.cursor id).name := plain_cursorName (shows.plain id concerns)
    exact Disk.replace_killed shows.leads (Disk.spares_temporaryName plain) killed

/-- Some of the records that are to be taken away have been taken away. -/
theorem releaseAll_killed {addresses : List Address} (nodup : addresses.Nodup)
    (held : ∀ address ∈ addresses, (memory.find? address).isSome = true)
    (killed : Killed (disk.releaseAll addresses) tree after) :
    ∃ gone, gone ⊆ addresses ∧ Leaves disk location ids tree after
      (memory.keep fun other => decide (other.address ∉ gone)) := by
  induction addresses generalizing tree memory with
  | nil =>
    rw [killed.of_done]
    refine ⟨[], List.nil_subset _, ?_⟩
    rw [Memory.keep_eq_self fun _ _ => by simp]
    exact .refl shows
  | cons address rest ih =>
    obtain ⟨absent, distinct⟩ := List.nodup_cons.mp nodup
    obtain ⟨middle, gone, behind⟩ := shows.remove_held (held address (List.mem_cons_self ..))
    rw [Disk.releaseAll] at killed
    rcases killed.of_bind with removing | further
    · rcases Disk.remove_killed removing with rfl | rfl
      · refine ⟨[], List.nil_subset _, ?_⟩
        rw [Memory.keep_eq_self fun _ _ => by simp]
        exact .refl shows
      · refine ⟨[address], by simp, ?_⟩
        rw [gone]
        simpa using behind
    · have kept := Memory.held_keep_ne absent fun other member =>
        held other (List.mem_cons_of_mem _ member)
      rw [gone] at further
      have removing := Killed.of_finished further fun count => by cases count <;> exact ⟨_, rfl⟩
      obtain ⟨others, listed, leaves⟩ := ih behind.shows distinct kept removing
      refine ⟨address :: others, List.cons_subset_cons _ listed, .behind behind.noWorse ?_⟩
      rw [Memory.keep_keep, Memory.keep_congr] at leaves
      · exact leaves
      · intro other _
        simp [not_or]

theorem releaseByOwner_killed {owner : String}
    (killed : Killed (disk.releaseByOwner owner) tree after) :
    ∃ content, memory.Thinned (owner = ·) content ∧
      Leaves disk location ids tree after content := by
  rcases killed.of_bind with reading | removing
  · rw [reading.of_reads Disk.reservations_reads]
    exact ⟨memory, .refl .., .refl shows⟩
  · rw [shows.reservations_run] at removing
    obtain ⟨gone, listed, leaves⟩ := shows.releaseAll_killed (memory.nodup_addresses owner)
      (memory.held_of_owned owner) removing
    refine ⟨_, ⟨_, rfl, fun reservation member alive => ?_⟩, leaves⟩
    refine decide_eq_true fun inside => ?_
    obtain ⟨other, owned, same⟩ := List.mem_map.mp (listed inside)
    obtain ⟨there, own⟩ := Memory.mem_ownedBy.mp owned
    rw [← Memory.eq_of_address there member same] at alive
    exact alive own.symm

end Requests

/-- **A program that is killed on a directory is interrupted on the store that the directory
shows.** -/
theorem killed {α : Type} {tree : FileTree} {memory : Memory}
    (shows : Shows disk tree location ids memory) {program : StoreProgram α}
    (asks : program.AsksOnly (StoreRequest.Concerns ids))
    (killed : Killed (program.expand disk.answer) tree after) :
    ∃ content, Interrupted (disk.Hinders tree location) program memory content ∧
      Leaves disk location ids tree after content := by
  induction program generalizing tree memory with
  | done result =>
    rw [killed.of_done]
    exact ⟨memory, .here _ memory, .refl shows⟩
  | ask request next ih =>
    obtain ⟨answer, middle, run, content, answers, leaves⟩ := shows.serves asks.1
    rcases Killed.of_bind killed with first | further
    · by_cases many : ∃ owner, request = .releaseByOwner owner
      · obtain ⟨owner, rfl⟩ := many
        obtain ⟨rest, thinned, left⟩ := shows.releaseByOwner_killed first
        exact ⟨rest, .within thinned, left⟩
      · rcases shows.killed_single asks.1 (fun owner same => many ⟨owner, same⟩) first with
          alike | whole
        · exact ⟨memory, .here _ memory, shows.of_alike alike⟩
        · rw [whole, run]
          exact ⟨content, .later answers (.here _ content), leaves⟩
    · rw [run] at further
      obtain ⟨final, interrupted, behind⟩ := ih answer leaves.shows (asks.2 answer) further
      exact ⟨final, .later answers (interrupted.mono leaves.noWorse),
        .behind leaves.noWorse behind⟩

end Shows

end AddressPool
