import AddressPool.Proofs.Files.Requests

/-!
# Trees that differ at spare names only

Some names in a directory may be spare: nobody minds what stands under them.  Two trees
are alike for the directory if everything else stands in them at the same places, and the
directory lists the same other names in the same order (`FileTree.Alike`).

A path made of the directory and a name can only end under that name, as long as the name
has no step up in it (`FileTree.aims_of_steps`).  So whatever is asked of a path under a
spare name leaves the tree alike, and a plain name that is not spare leads to the same
entry in both trees (`FileTree.Alike.locate_eq`).
-/

namespace AddressPool

set_option autoImplicit false

open AddressPool.Path (Plain)

namespace FileTree

variable {spare : String → Bool} {directory name path : String} {location place here : Location}
variable {tree before middle after : FileTree}

/-! ## Places under spare names -/

/-- A place under one of the spare names of a directory, or of such a name itself. -/
def Beneath (spare : String → Bool) (location place : Location) : Prop :=
  ∃ front name, place = front ++ name :: location ∧ spare name = true

theorem Beneath.inner (beneath : Beneath spare location place) : place ≠ [] := by
  obtain ⟨front, name, rfl, _⟩ := beneath
  exact List.append_ne_nil_of_right_ne_nil _ (List.cons_ne_nil _ _)

/-- The place of a name in the directory is under a spare name only if the name is spare. -/
theorem beneath_name_iff : Beneath spare location (name :: location) ↔ spare name = true := by
  constructor
  · rintro ⟨front, other, same, spared⟩
    have length := congrArg List.length same
    rw [List.length_append, List.length_cons, List.length_cons] at length
    have none_in_front : front = [] := List.eq_nil_of_length_eq_zero (by omega)
    rw [none_in_front, List.nil_append] at same
    rw [(List.cons.inj same).1]
    exact spared
  · intro spared
    exact ⟨[], name, rfl, spared⟩

/-- A path ends under one of the spare names of a directory, if it does not fail. -/
def Aims (spare : String → Bool) (location : Location) (tree : FileTree) (path : String) : Prop :=
  ∀ place, tree.target path = .ok (.named place) → Beneath spare location place

/-- Steps none of which leads up only lead further down. -/
theorem front_of_followAll {steps : List Path.Step} (upless : .up ∉ steps)
    (followed : tree.followAll here steps = .ok place) : ∃ front, place = front ++ here := by
  induction steps generalizing here with
  | nil =>
    obtain rfl := Except.ok.inj followed
    exact ⟨[], rfl⟩
  | cons step rest ih =>
    rw [List.mem_cons, not_or] at upless
    rw [followAll] at followed
    split at followed
    · cases followed
    · rename_i next one
      obtain ⟨front, rfl⟩ := ih upless.2 followed
      unfold follow at one
      split at one
      · cases one
      · cases step with
        | stay =>
          obtain rfl := Except.ok.inj one
          exact ⟨front, rfl⟩
        | up => exact absurd rfl upless.1
        | down name =>
          simp only at one
          split at one
          · cases one
          · obtain rfl := Except.ok.inj one
            exact ⟨front ++ [name], by simp⟩

/-- A path into a directory that starts with a spare name, and from there does not lead up, ends
under that name. -/
theorem aims_of_steps {rest : List Path.Step} (leads : tree.LeadsTo directory location)
    (steps : Path.steps path = .down name :: rest) (upless : .up ∉ rest)
    (spared : spare name = true) : tree.Aims spare location (Path.join directory path) := by
  intro place found
  unfold target at found
  split at found
  · cases found
  · simp only at found
    split at found
    · cases found
    · rename_i goal followed
      have way : tree.followAll location (.down name :: rest) = .ok goal := by
        rw [Path.steps_join, followAll_append, leads.followAll_eq, steps] at followed
        exact followed
      rw [followAll, follow, dirFault?_eq_none_iff.mpr leads.entryAt_eq] at way
      obtain ⟨front, rfl⟩ : ∃ front, goal = front ++ name :: location := by
        simp only at way
        split at way
        · cases way
        · rename_i next one
          split at one
          · cases one
          · obtain rfl := Except.ok.inj one
            exact front_of_followAll upless way
      split at found
      · obtain rfl := Target.named.inj (Except.ok.inj found)
        exact ⟨front, name, rfl, spared⟩
      · cases found

/-! ## Trees that are alike -/

/-- Trees that agree everywhere but under the spare names of a directory. -/
structure Alike (spare : String → Bool) (location : Location) (before after : FileTree) : Prop where
  directories : SameDirectories before after
  entries : ∀ place, ¬ Beneath spare location place → after.entryAt place = before.entryAt place
  names : ((after.namesIn location).filter fun name => !spare name) =
    (before.namesIn location).filter fun name => !spare name

namespace Alike

theorem refl (tree : FileTree) : Alike spare location tree tree := by
  refine ⟨?_, ?_, rfl⟩
  · intro place
    rfl
  · intro place _
    rfl

theorem trans (first : Alike spare location before middle)
    (second : Alike spare location middle after) : Alike spare location before after := by
  refine ⟨?_, ?_, second.names.trans first.names⟩
  · intro place
    exact (second.directories place).trans (first.directories place)
  · intro place elsewhere
    exact (second.entries place elsewhere).trans (first.entries place elsewhere)

theorem leadsTo (alike : Alike spare location before after)
    (leads : before.LeadsTo directory location) : after.LeadsTo directory location :=
  leads.of_same alike.directories

/-- A name that is not spare has the same entry in both trees. -/
theorem entryAt_eq (alike : Alike spare location before after) (kept : spare name = false) :
    after.entryAt (name :: location) = before.entryAt (name :: location) := by
  refine alike.entries _ ?_
  rw [beneath_name_iff, kept]
  exact Bool.false_ne_true

end Alike

/-! ## Changes under spare names -/

/-- What is erased elsewhere makes no difference to the names in a directory. -/
theorem namesIn_erase_elsewhere (elsewhere : ∀ name, place ≠ name :: location) :
    (tree.erase place).namesIn location = tree.namesIn location := by
  obtain ⟨entries⟩ := tree
  simp only [erase, namesIn]
  induction entries with
  | nil => rfl
  | cons entry rest ih =>
    obtain ⟨other, content⟩ := entry
    by_cases erased : other = place
    · rw [List.filter_cons_of_neg (by simpa using erased), ih, List.filterMap_cons]
      cases other with
      | nil => rfl
      | cons name parent =>
        have outside : parent ≠ location := by
          rintro rfl
          exact elsewhere name erased.symm
        simp only [outside, if_false]
    · rw [List.filter_cons_of_pos (by simpa using erased), List.filterMap_cons,
        List.filterMap_cons, ih]

/-- What is put elsewhere makes no difference to the names in a directory. -/
theorem namesIn_put_elsewhere (elsewhere : ∀ name, place ≠ name :: location) (entry : Entry) :
    (tree.put place entry).namesIn location = tree.namesIn location := by
  rw [← namesIn_erase_elsewhere elsewhere, erase_put, namesIn_erase_elsewhere elsewhere]

/-- Erasing under a spare name makes no difference to the other names. -/
theorem namesIn_erase_beneath (beneath : Beneath spare location place) :
    (((tree.erase place).namesIn location).filter fun name => !spare name) =
      (tree.namesIn location).filter fun name => !spare name := by
  obtain ⟨front, name, rfl, spared⟩ := beneath
  cases front with
  | nil =>
    rw [List.nil_append, namesIn_erase, List.filter_filter]
    refine List.filter_congr fun other _ => ?_
    by_cases same : other = name
    · rw [same, spared]
      rfl
    · simp [same]
  | cons first others =>
    rw [namesIn_erase_elsewhere]
    intro other same
    have length := congrArg List.length same
    simp only [List.cons_append, List.length_cons, List.length_append] at length
    omega

/-- Putting something under a spare name makes no difference to the other names. -/
theorem namesIn_put_beneath (beneath : Beneath spare location place) (entry : Entry) :
    (((tree.put place entry).namesIn location).filter fun name => !spare name) =
      (tree.namesIn location).filter fun name => !spare name := by
  have without : (((tree.erase place).namesIn location).filter fun name => !spare name) =
      (tree.namesIn location).filter fun name => !spare name := namesIn_erase_beneath beneath
  rw [← namesIn_erase_beneath beneath, erase_put, without]

namespace Alike

/-- A file that is put under a spare name. -/
theorem put (beneath : Beneath spare location place)
    (noDirectory : tree.entryAt place ≠ some .directory) (content : ByteArray) (held : Bool) :
    Alike spare location tree (tree.put place (.file content held)) where
  directories := sameDirectories_put beneath.inner noDirectory
  entries other elsewhere := by
    rw [entryAt_put_of_ne]
    rintro rfl
    exact elsewhere beneath
  names := namesIn_put_beneath beneath _

/-- Nothing but a directory is taken away under a spare name. -/
theorem erase (beneath : Beneath spare location place)
    (noDirectory : tree.entryAt place ≠ some .directory) :
    Alike spare location tree (tree.erase place) where
  directories := sameDirectories_erase beneath.inner noDirectory
  entries other elsewhere := by
    rw [entryAt_erase_of_ne]
    rintro rfl
    exact elsewhere beneath
  names := namesIn_erase_beneath beneath

/-- A name that is taken away in both of two trees that are alike. -/
theorem erase_both (alike : Alike spare location before after) (name : String) :
    Alike spare location (before.erase (name :: location)) (after.erase (name :: location)) where
  directories place := by
    by_cases same : place = name :: location
    · rw [same, entryAt_erase_self _ (List.cons_ne_nil _ _),
        entryAt_erase_self _ (List.cons_ne_nil _ _)]
    · rw [entryAt_erase_of_ne _ same, entryAt_erase_of_ne _ same]
      exact alike.directories place
  entries place elsewhere := by
    by_cases same : place = name :: location
    · rw [same, entryAt_erase_self _ (List.cons_ne_nil _ _),
        entryAt_erase_self _ (List.cons_ne_nil _ _)]
    · rw [entryAt_erase_of_ne _ same, entryAt_erase_of_ne _ same]
      exact alike.entries place elsewhere
  names := by
    simp only [namesIn_erase, List.filter_filter, Bool.and_comm (_ : Bool) (decide _)]
    simp only [← List.filter_filter, alike.names]

end Alike

theorem noDirectory_of_none (absent : tree.entryAt place = none) :
    tree.entryAt place ≠ some .directory := by
  rw [absent]
  intro same
  cases same

theorem noDirectory_of_file {content : ByteArray} {held : Bool}
    (there : tree.entryAt place = some (.file content held)) :
    tree.entryAt place ≠ some .directory := by
  rw [there]
  intro same
  cases same

/-! ## Requests on paths under spare names -/

section Requests

variable (aims : tree.Aims spare location path)
include aims

theorem Alike.openToWrite {existing : ByteArray → ByteArray} {held : Bool}
    (opened : tree.openToWrite path existing = .ok (held, after)) :
    Alike spare location tree after := by
  unfold FileTree.openToWrite at opened
  split at opened
  · cases opened
  · cases opened
  · rename_i place found
    have beneath := aims place found
    split at opened
    · cases opened
    · split at opened
      · rename_i absent
        obtain ⟨_, rfl⟩ := Prod.mk.inj (Except.ok.inj opened)
        exact .put beneath (noDirectory_of_none absent) _ _
      · rename_i there
        obtain ⟨_, rfl⟩ := Prod.mk.inj (Except.ok.inj opened)
        exact .put beneath (noDirectory_of_file there) _ _
      · cases opened

theorem Alike.discard (discarded : tree.discard path = .ok after) :
    Alike spare location tree after := by
  unfold FileTree.discard at discarded
  split at discarded
  · cases discarded
  · cases discarded
  · rename_i place found
    split at discarded
    · cases discarded
    · cases discarded
    · rename_i there
      split at discarded
      · cases discarded
      · obtain rfl := Except.ok.inj discarded
        exact .erase (aims place found) (noDirectory_of_file there)

theorem Alike.lock (timeout : Duration) :
    Alike spare location tree (answer (.lock path timeout) tree).2 := by
  rw [answer]
  split
  · exact .refl tree
  · rename_i opened
    exact .openToWrite aims opened

theorem Alike.create : Alike spare location tree (answer (.create path) tree).2 := by
  rw [answer]
  cases opened : tree.openToWrite path fun _ => .empty with
  | error => exact .refl tree
  | ok opened' => exact .openToWrite aims opened

theorem Alike.append (content : ByteArray) :
    Alike spare location tree (answer (.append path content) tree).2 := by
  rw [answer]
  cases opened : tree.openToWrite path (· ++ content) with
  | error => exact .refl tree
  | ok opened' => exact .openToWrite aims opened

theorem Alike.remove : Alike spare location tree (answer (.remove path) tree).2 := by
  rw [answer]
  cases discarded : tree.discard path with
  | error => exact .refl tree
  | ok after => exact .discard aims discarded

end Requests

/-- A file that has been moved was there, and no directory was in its way. -/
theorem file_of_move {source goal : String} (moved : tree.move source goal = .ok after) :
    ∃ origin destination content held, tree.target source = .ok (.named origin) ∧
      tree.target goal = .ok (.named destination) ∧
      tree.entryAt origin = some (.file content held) ∧
      tree.entryAt destination ≠ some .directory ∧
      after = (tree.erase origin).put destination (.file content held) := by
  unfold move at moved
  split at moved
  · cases moved
  · cases moved
  · rename_i origin destination from_source to_goal
    split at moved
    · cases moved
    · cases moved
    · rename_i entry absent there
      split at moved
      · cases moved
      · split at moved
        · cases moved
        · rename_i free
          obtain rfl := Except.ok.inj moved
          cases entry with
          | directory => exact absurd rfl absent
          | file content held =>
            exact ⟨origin, destination, content, held, from_source, to_goal, there, free, rfl⟩
  · cases moved

/-- Nothing is erased where nothing stands. -/
theorem erase_eq_self (absent : tree.entryAt place = none) : tree.erase place = tree := by
  obtain ⟨entries⟩ := tree
  cases place with
  | nil => cases absent
  | cons name parent =>
    rw [erase, List.filter_eq_self.mpr]
    intro entry member
    refine decide_eq_true fun same => ?_
    have different := List.lookup_eq_none_iff.mp absent entry member
    rw [same] at different
    simp at different

/-! ## Looking things up -/

/-- A plain name leads to the same thing in two trees that have the same directories and the same
entry under this name, or to nothing in either. -/
theorem locate_eq_of_entry (same : SameDirectories before after)
    (leads : before.LeadsTo directory location) (plain : Plain name)
    (entry : after.entryAt (name :: location) = before.entryAt (name :: location)) :
    after.locate (Path.join directory name) = before.locate (Path.join directory name) := by
  by_cases fits : FitsIn directory name
  · rw [locate_named leads plain fits, locate_named (leads.of_same same) plain fits, entry]
  · rw [locate_unfit leads plain fits, locate_unfit (leads.of_same same) plain fits]

/-- A name that is not spare leads to the same thing in two trees that are alike. -/
theorem Alike.locate_eq (alike : Alike spare location before after)
    (leads : before.LeadsTo directory location) (plain : Plain name) (kept : spare name = false) :
    after.locate (Path.join directory name) = before.locate (Path.join directory name) :=
  locate_eq_of_entry alike.directories leads plain (alike.entryAt_eq kept)

/-- A null character in a path is found whatever the tree holds. -/
theorem locate_of_null (member : Char.ofNat 0 ∈ path.toList) (tree : FileTree) :
    tree.locate path = .error .nullInName := by
  have fault : pathFault? path = some .nullInName := by simp [pathFault?, member]
  simp only [locate, fault]

end FileTree

end AddressPool
