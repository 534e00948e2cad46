import AddressPool.Files.Tree

/-!
# Programs that are killed

A program that changes files may be killed at any time.  What it has done by then stays:
some of its requests have been answered and the others have not been asked (`Killed`).  A
request is done as a whole or not at all, except that any first part of what a file was to
be extended by may have been written.  Nobody holds a lock any longer than until it is
killed, and a tree tells only what others hold, so that nothing has to be undone.

A program that is killed behind its last request has done all that it does
(`Killed.of_run`); and of two programs in sequence, one that is killed has been killed in
the first one or in the second one (`Killed.of_bind`).
-/

namespace AddressPool

set_option autoImplicit false

/-- What a program may leave behind when it is killed on a tree. -/
inductive Killed {α : Type} : FileProgram α → FileTree → FileTree → Prop where
  /-- Nothing more has been asked. -/
  | here (program : FileProgram α) (tree : FileTree) : Killed program tree tree
  /-- Not all of the content has been written. -/
  | within (path : String) (content : ByteArray) (count : Nat)
      (next : Except FileError Unit → FileProgram α) (tree : FileTree) :
      Killed (.ask (.append path content) next) tree
        (FileTree.answer (.append path (content.extract 0 count)) tree).2
  /-- A request has been answered before. -/
  | later {request : FileRequest} {next : request.Answer → FileProgram α} {tree after : FileTree}
      (rest : Killed (next (FileTree.answer request tree).1) (FileTree.answer request tree).2
        after) : Killed (.ask request next) tree after

/-- The tree behind the first requests of a program. -/
def FileTree.behind {α : Type} : Nat → FileProgram α → FileTree → FileTree
  | 0, _, tree => tree
  | _ + 1, .done _, tree => tree
  | count + 1, .ask request next, tree =>
    behind count (next (answer request tree).1) (answer request tree).2

namespace Killed

variable {α β : Type} {program : FileProgram α} {follow : α → FileProgram β}
variable {request : FileRequest} {tree after : FileTree}

theorem of_done {result : α} (killed : Killed (.done result) tree after) : after = tree := by
  cases killed with
  | here => rfl

/-- A program may be killed when it has asked everything. -/
theorem of_run (program : FileProgram α) (tree : FileTree) :
    Killed program tree (program.run FileTree.answer tree).2 := by
  induction program generalizing tree with
  | done result => exact .here _ tree
  | ask request next ih => exact .later (ih _ _)

/-- A program may be killed behind any number of requests. -/
theorem behind (count : Nat) (program : FileProgram α) (tree : FileTree) :
    Killed program tree (tree.behind count program) := by
  induction count generalizing program tree with
  | zero => exact .here program tree
  | succ count ih =>
    cases program with
    | done result => exact .here _ tree
    | ask request next => exact .later (ih _ _)

/-- A program that is killed behind a request has been killed there or further on. -/
theorem of_request {next : request.Answer → FileProgram α}
    (killed : Killed (request.ask >>= next) tree after)
    (whole : ∀ path content, request ≠ .append path content) :
    after = tree ∨
      Killed (next (FileTree.answer request tree).1) (FileTree.answer request tree).2 after := by
  change Killed (.ask request _) tree after at killed
  cases killed with
  | here => exact .inl rfl
  | within path content => exact absurd rfl (whole path content)
  | later rest => exact .inr rest

/-- Some first part of the content has been written, if anything has. -/
theorem of_append {path : String} {content : ByteArray}
    (killed : Killed (FileRequest.append path content).ask tree after) :
    after = tree ∨ ∃ written, after = (FileTree.answer (.append path written) tree).2 := by
  change Killed (.ask (.append path content) .done) tree after at killed
  cases killed with
  | here => exact .inl rfl
  | within _ _ count => exact .inr ⟨_, rfl⟩
  | later rest => exact .inr ⟨content, rest.of_done⟩

/-- **One of two programs in sequence has been killed, and the other one is done or has not been
started.** -/
theorem of_bind (killed : Killed (program >>= follow) tree after) :
    Killed program tree after ∨
      Killed (follow (program.run FileTree.answer tree).1) (program.run FileTree.answer tree).2
        after := by
  change Killed (program.andThen follow) tree after at killed
  induction program generalizing tree with
  | done result => exact .inr killed
  | ask request next ih =>
    rw [Program.andThen] at killed
    cases killed with
    | here => exact .inl (.here _ _)
    | within path content count => exact .inl (.within path content count _ _)
    | later rest => exact (ih _ rest).imp_left .later

/-- Where nothing is asked behind a program, it is the program itself that has been killed. -/
theorem of_finished (killed : Killed (program >>= follow) tree after)
    (finished : ∀ result, ∃ value, follow result = .done value) : Killed program tree after := by
  rcases killed.of_bind with killed | killed
  · exact killed
  · obtain ⟨value, last⟩ := finished (program.run FileTree.answer tree).1
    rw [last] at killed
    rw [killed.of_done]
    exact of_run program tree

/-- A program of one request, other than for writing content, is done as a whole or not at all. -/
theorem of_single {next : request.Answer → FileProgram α}
    (killed : Killed (request.ask >>= next) tree after)
    (whole : ∀ path content, request ≠ .append path content)
    (finished : ∀ answer, ∃ value, next answer = .done value) :
    after = tree ∨ after = ((request.ask >>= next).run FileTree.answer tree).2 := by
  obtain ⟨value, last⟩ := finished (FileTree.answer request tree).1
  refine (killed.of_request whole).imp_right fun rest => ?_
  rw [last] at rest
  have behind : (request.ask >>= next).run FileTree.answer tree =
      (next (FileTree.answer request tree).1).run FileTree.answer
        (FileTree.answer request tree).2 := Program.run_bind FileTree.answer request.ask next tree
  rw [behind, last]
  exact rest.of_done

end Killed

end AddressPool
