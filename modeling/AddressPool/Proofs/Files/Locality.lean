import AddressPool.Proofs.Allocation.Asking
import AddressPool.Proofs.Files.Alike

/-!
# Requests on the files of one directory

A program that asks only for the names in a directory, and for the files under plain names
in it, changes nothing but what stands under names in this directory (`Confined`).  What it
is told, and what it leaves in the directory, depends on what is in the directory, and on
nothing else in the tree: in two trees that hold the same things there (`SameUnder`) it comes
to the same result and leaves the same things (`run_local`).

What happens in one directory makes no difference to another one beside it
(`Confined.sameUnder`).
-/

namespace AddressPool

set_option autoImplicit false

open AddressPool.Path (Plain)

/-- The path of a plain name in a directory. -/
def Path.Names (directory path : String) : Prop := ∃ name, Plain name ∧ path = join directory name

/-- Requests on the names of one directory. -/
def FileRequest.Local (directory : String) : FileRequest → Prop
  | .read path => Path.Names directory path
  | .names path => path = directory
  | .isDirectory _ => False
  | .lock path _ => Path.Names directory path
  | .create path => Path.Names directory path
  | .append path _ => Path.Names directory path
  | .rename source goal => Path.Names directory source ∧ Path.Names directory goal
  | .remove path => Path.Names directory path
  | .makeDirectory _ => False

namespace FileTree

variable {directory name sibling : String} {location parent place : Location}
variable {tree before middle after left right later latter : FileTree}

/-! ## What stands in a directory, and what stands elsewhere -/

/-- Two trees that hold the same things at a place and under it. -/
structure SameUnder (location : Location) (left right : FileTree) : Prop where
  entries : ∀ front, right.entryAt (front ++ location) = left.entryAt (front ++ location)
  names : right.namesIn location = left.namesIn location

/-- A change of what stands under the names of a directory, where directories stay what they are,
and of nothing else. -/
structure Confined (location : Location) (before after : FileTree) : Prop where
  directories : SameDirectories before after
  entries : ∀ place, (∀ name, place ≠ name :: location) → after.entryAt place = before.entryAt place
  names : ∀ other, other ≠ location → after.namesIn other = before.namesIn other

theorem SameUnder.refl (location : Location) (tree : FileTree) :
    SameUnder location tree tree := by
  refine ⟨?_, rfl⟩
  intro front
  rfl

theorem SameUnder.trans (first : SameUnder location before middle)
    (second : SameUnder location middle after) : SameUnder location before after := by
  refine ⟨?_, second.names.trans first.names⟩
  intro front
  exact (second.entries front).trans (first.entries front)

/-- A place beside another one is not above it. -/
theorem name_of_suffix (suffix : name :: parent <:+ sibling :: parent) : name = sibling := by
  rcases List.suffix_cons_iff.mp suffix with whole | inner
  · exact (List.cons.inj whole).1
  · exact absurd inner.length_le (Nat.not_succ_le_self _)

/-- The same entry stands under each name. -/
theorem SameUnder.entryAt_name (same : SameUnder location left right) (name : String) :
    right.entryAt (name :: location) = left.entryAt (name :: location) := same.entries [name]

namespace Confined

theorem refl (location : Location) (tree : FileTree) : Confined location tree tree := by
  refine ⟨?_, ?_, ?_⟩
  · intro place
    rfl
  · intro place _
    rfl
  · intro other _
    rfl

theorem trans (first : Confined location before middle)
    (second : Confined location middle after) : Confined location before after := by
  refine ⟨?_, ?_, ?_⟩
  · intro place
    exact (second.directories place).trans (first.directories place)
  · intro place elsewhere
    exact (second.entries place elsewhere).trans (first.entries place elsewhere)
  · intro other different
    exact (second.names other different).trans (first.names other different)

theorem put (noDirectory : tree.entryAt (name :: location) ≠ some .directory)
    (content : ByteArray) (held : Bool) :
    Confined location tree (tree.put (name :: location) (.file content held)) where
  directories := sameDirectories_put (List.cons_ne_nil _ _) noDirectory
  entries place elsewhere := entryAt_put_of_ne _ (elsewhere name) _
  names other different := by
    refine namesIn_put_elsewhere (fun child same => ?_) _
    exact different (List.cons.inj same).2.symm

theorem erase (noDirectory : tree.entryAt (name :: location) ≠ some .directory) :
    Confined location tree (tree.erase (name :: location)) where
  directories := sameDirectories_erase (List.cons_ne_nil _ _) noDirectory
  entries place elsewhere := entryAt_erase_of_ne _ (elsewhere name)
  names other different := by
    refine namesIn_erase_elsewhere fun child same => ?_
    exact different (List.cons.inj same).2.symm

/-- **What is confined to a directory makes no difference to another one beside it.** -/
theorem sameUnder (confined : Confined (sibling :: parent) before after)
    (different : name ≠ sibling) : SameUnder (name :: parent) before after := by
  have apart : name :: parent ≠ sibling :: parent := fun same => different (List.cons.inj same).1
  refine ⟨fun front => confined.entries _ fun child same => ?_, confined.names _ apart⟩
  rcases List.suffix_cons_iff.mp ⟨front, same⟩ with whole | inner
  · simpa using congrArg List.length whole
  · exact different (name_of_suffix inner)

end Confined

/-! ## Two trees that change in step -/

/-- Two trees that hold the same things in a directory change there alike, and nowhere else. -/
structure InStep (location : Location) (left right later latter : FileTree) : Prop where
  left_confined : Confined location left later
  right_confined : Confined location right latter
  same : SameUnder location later latter

namespace InStep

theorem refl (same : SameUnder location left right) : InStep location left right left right :=
  ⟨.refl .., .refl .., same⟩

theorem trans {last final : FileTree} (first : InStep location left right later latter)
    (second : InStep location later latter last final) :
    InStep location left right last final :=
  ⟨first.left_confined.trans second.left_confined,
    first.right_confined.trans second.right_confined, second.same⟩

variable (same : SameUnder location left right)
variable (noDirectory : left.entryAt (name :: location) ≠ some .directory)
include same noDirectory

/-- A file is put under one name. -/
theorem put (content : ByteArray) (held : Bool) :
    InStep location left right (left.put (name :: location) (.file content held))
      (right.put (name :: location) (.file content held)) := by
  refine ⟨.put noDirectory content held, .put (same.entryAt_name name ▸ noDirectory) content held,
    fun front => ?_, ?_⟩
  · by_cases here : front ++ location = name :: location
    · rw [here, entryAt_put_self _ (List.cons_ne_nil _ _), entryAt_put_self _ (List.cons_ne_nil _ _)]
    · rw [entryAt_put_of_ne _ here, entryAt_put_of_ne _ here, same.entries]
  · rw [namesIn_put, namesIn_put, same.names]

/-- What stands under one name is taken away. -/
theorem erase :
    InStep location left right (left.erase (name :: location)) (right.erase (name :: location)) := by
  refine ⟨.erase noDirectory, .erase (same.entryAt_name name ▸ noDirectory), fun front => ?_, ?_⟩
  · by_cases here : front ++ location = name :: location
    · rw [here, entryAt_erase_self _ (List.cons_ne_nil _ _),
        entryAt_erase_self _ (List.cons_ne_nil _ _)]
    · rw [entryAt_erase_of_ne _ here, entryAt_erase_of_ne _ here, same.entries]
  · rw [namesIn_erase, namesIn_erase, same.names]

end InStep

/-! ## Requests and programs -/

/-- A request is answered alike in two trees, which change in step. -/
def AnswersAlike (location : Location) (left right : FileTree) (request : FileRequest) : Prop :=
  ∃ answered later latter, answer request left = (answered, later) ∧
    answer request right = (answered, latter) ∧ InStep location left right later latter

section Requests

variable (leads : left.LeadsTo directory location) (also : right.LeadsTo directory location)
variable (same : SameUnder location left right)
include leads also same

theorem locate_same (plain : Plain name) :
    right.locate (Path.join directory name) = left.locate (Path.join directory name) := by
  by_cases fits : FitsIn directory name
  · rw [locate_named leads plain fits, locate_named also plain fits, same.entryAt_name]
  · rw [locate_unfit leads plain fits, locate_unfit also plain fits]

/-- A file is opened for writing in both trees or in none. -/
theorem openToWrite_same (plain : Plain name) (existing : ByteArray → ByteArray) :
    (∃ error, left.openToWrite (Path.join directory name) existing = .error error ∧
        right.openToWrite (Path.join directory name) existing = .error error) ∨
      ∃ held later latter,
        left.openToWrite (Path.join directory name) existing = .ok (held, later) ∧
        right.openToWrite (Path.join directory name) existing = .ok (held, latter) ∧
        InStep location left right later latter := by
  by_cases fits : FitsIn directory name
  · rw [openToWrite_named leads plain fits, openToWrite_named also plain fits, same.entryAt_name]
    cases found : left.entryAt (name :: location) with
    | none => exact .inr ⟨_, _, _, rfl, rfl, .put same (noDirectory_of_none found) _ _⟩
    | some entry =>
      cases entry with
      | directory => exact .inl ⟨_, rfl, rfl⟩
      | file content held =>
        exact .inr ⟨_, _, _, rfl, rfl, .put same (noDirectory_of_file found) _ _⟩
  · refine .inl ⟨.nameTooLong, ?_, ?_⟩
    · unfold openToWrite
      simp only [target_unfit leads plain fits]
    · unfold openToWrite
      simp only [target_unfit also plain fits]

/-- A request to write is answered alike in both trees. -/
theorem changed_openToWrite (plain : Plain name) (existing : ByteArray → ByteArray) :
    ∃ answered later latter,
      left.changed ((left.openToWrite (Path.join directory name) existing).map (·.2)) =
          (answered, later) ∧
        right.changed ((right.openToWrite (Path.join directory name) existing).map (·.2)) =
          (answered, latter) ∧ InStep location left right later latter := by
  rcases openToWrite_same leads also same plain existing with
    ⟨error, here, there⟩ | ⟨held, later, latter, here, there, step⟩
  · rw [here, there]
    exact ⟨_, _, _, rfl, rfl, .refl same⟩
  · rw [here, there]
    exact ⟨_, _, _, rfl, rfl, step⟩

theorem remove_same (plain : Plain name) :
    AnswersAlike location left right (.remove (Path.join directory name)) := by
  unfold AnswersAlike
  simp only [answer]
  by_cases fits : FitsIn directory name
  · rw [discard_named leads plain fits, discard_named also plain fits, same.entryAt_name]
    cases found : left.entryAt (name :: location) with
    | none => exact ⟨_, _, _, rfl, rfl, .refl same⟩
    | some entry =>
      cases entry with
      | directory => exact ⟨_, _, _, rfl, rfl, .refl same⟩
      | file => exact ⟨_, _, _, rfl, rfl, .erase same (noDirectory_of_file found)⟩
  · refine ⟨.error .nameTooLong, left, right, ?_, ?_, .refl same⟩
    · unfold discard
      simp only [target_unfit leads plain fits]
      rfl
    · unfold discard
      simp only [target_unfit also plain fits]
      rfl

omit also same in
/-- What comes of moving a file to another name of the directory. -/
theorem move_fitting {goal : String} (plain : Plain name) (plain_goal : Plain goal)
    (fits : FitsIn directory name) (fits_goal : FitsIn directory goal) :
    left.move (Path.join directory name) (Path.join directory goal) =
      match left.entryAt (name :: location) with
      | none => .error .notFound
      | some .directory => .error .isADirectory
      | some (.file content held) =>
        if left.entryAt (goal :: location) = some .directory then .error .isADirectory
        else .ok ((left.erase (name :: location)).put (goal :: location) (.file content held)) := by
  unfold move
  simp only [target_named leads plain fits, target_named leads plain_goal fits_goal,
    endsWithSlash_join plain, endsWithSlash_join plain_goal, Bool.or_self, Bool.false_eq_true,
    if_false]
  cases left.entryAt (name :: location) with
  | none => rfl
  | some entry => cases entry <;> rfl

omit also same in
theorem move_unfit {goal : String} (plain : Plain name) (plain_goal : Plain goal)
    (unfit : ¬ (FitsIn directory name ∧ FitsIn directory goal)) :
    left.move (Path.join directory name) (Path.join directory goal) = .error .nameTooLong := by
  unfold move
  by_cases fits : FitsIn directory name
  · have unfit_goal : ¬ FitsIn directory goal := fun fits_goal => unfit ⟨fits, fits_goal⟩
    simp only [target_named leads plain fits, target_unfit leads plain_goal unfit_goal]
  · simp only [target_unfit leads plain fits]

theorem rename_same {goal : String} (plain : Plain name) (plain_goal : Plain goal) :
    AnswersAlike location left right
      (.rename (Path.join directory name) (Path.join directory goal)) := by
  unfold AnswersAlike
  simp only [answer]
  by_cases fits : FitsIn directory name ∧ FitsIn directory goal
  · rw [move_fitting leads plain plain_goal fits.1 fits.2,
      move_fitting also plain plain_goal fits.1 fits.2, same.entryAt_name, same.entryAt_name]
    cases found : left.entryAt (name :: location) with
    | none => exact ⟨_, _, _, rfl, rfl, .refl same⟩
    | some entry =>
      cases entry with
      | directory => exact ⟨_, _, _, rfl, rfl, .refl same⟩
      | file content held =>
        simp only
        by_cases taken : left.entryAt (goal :: location) = some .directory
        · rw [if_pos taken, if_pos taken]
          exact ⟨_, _, _, rfl, rfl, .refl same⟩
        · rw [if_neg taken, if_neg taken]
          have erased := InStep.erase same (noDirectory_of_file found)
          refine ⟨_, _, _, rfl, rfl, erased.trans (.put erased.same ?_ content held)⟩
          intro directory
          exact taken ((erased.left_confined.directories _).mp directory)
  · rw [move_unfit leads plain plain_goal fits, move_unfit also plain plain_goal fits]
    exact ⟨_, _, _, rfl, rfl, .refl same⟩

/-- **A request on the names of a directory is answered alike in two trees that hold the same
things there.** -/
theorem answersAlike {request : FileRequest} (inside : request.Local directory) :
    AnswersAlike location left right request := by
  cases request with
  | read path =>
    obtain ⟨name, plain, rfl⟩ := inside
    unfold AnswersAlike
    simp only [answer, locate_same leads also same plain]
    cases left.locate (Path.join directory name) with
    | error => exact ⟨_, _, _, rfl, rfl, .refl same⟩
    | ok found =>
      obtain ⟨place, entry⟩ := found
      cases entry <;> exact ⟨_, _, _, rfl, rfl, .refl same⟩
  | names path =>
    obtain rfl : path = directory := inside
    refine ⟨_, _, _, answer_names leads, ?_, .refl same⟩
    rw [answer_names also, same.names]
  | lock path timeout =>
    obtain ⟨name, plain, rfl⟩ := inside
    unfold AnswersAlike
    simp only [answer]
    rcases openToWrite_same leads also same plain id with
      ⟨error, here, there⟩ | ⟨held, later, latter, here, there, step⟩
    · rw [here, there]
      exact ⟨_, _, _, rfl, rfl, .refl same⟩
    · rw [here, there]
      exact ⟨_, _, _, rfl, rfl, step⟩
  | create path =>
    obtain ⟨name, plain, rfl⟩ := inside
    exact changed_openToWrite leads also same plain fun _ => .empty
  | append path content =>
    obtain ⟨name, plain, rfl⟩ := inside
    exact changed_openToWrite leads also same plain (· ++ content)
  | rename source goal =>
    obtain ⟨⟨name, plain, rfl⟩, other, plain_goal, rfl⟩ := inside
    exact rename_same leads also same plain plain_goal
  | remove path =>
    obtain ⟨name, plain, rfl⟩ := inside
    exact remove_same leads also same plain
  | isDirectory | makeDirectory => exact inside.elim

/-- **A program that asks only for what is in a directory comes to the same result in two trees
that hold the same things there, and they change in step.** -/
theorem run_local {α : Type} {program : FileProgram α}
    (asks : program.AsksOnly (FileRequest.Local directory)) :
    ∃ result later latter, program.run answer left = (result, later) ∧
      program.run answer right = (result, latter) ∧
      InStep location left right later latter := by
  induction program generalizing left right with
  | done result => exact ⟨result, left, right, rfl, rfl, .refl same⟩
  | ask request next ih =>
    obtain ⟨answered, later, latter, here, there, step⟩ := answersAlike leads also same asks.1
    obtain ⟨result, last, final, run, rerun, further⟩ := ih answered
      (leads.of_same step.left_confined.directories)
      (also.of_same step.right_confined.directories) step.same (asks.2 answered)
    refine ⟨result, last, final, ?_, ?_, step.trans further⟩
    · rw [Program.run, here]
      exact run
    · rw [Program.run, there]
      exact rerun

end Requests

end FileTree

end AddressPool
