import AddressPool.Proofs.Files.Locality
import AddressPool.Proofs.Store.Site

/-!
# Making the directory of a name

A directory is made with all of its parents that are missing.  Whether this succeeds or
not, nothing else is changed: at a place where nothing stood there is now a directory, and
the path that was asked for, or the path of one of its parents, leads to it
(`makeDirectories_grows`).

What has to be done for a name in a directory before the name itself is made does not
depend on the name.  So when the directory of one name has been made, there is a tree in
which the parent is there, and from which the directory of any other name is made as it is
from the tree at hand (`exists_ready`).
-/

namespace AddressPool

set_option autoImplicit false

open AddressPool.Path (Plain)

/-! ## The parents of a name -/

namespace Path

variable {directory name : String}

/-- The pieces that count for the path of a parent. -/
def isNamed (piece : List Char) : Bool := decide (piece ≠ [] ∧ piece ≠ ['.'])

theorem filter_splitOn_slash (front back : List Char) :
    ((front ++ '/' :: back).splitOn '/').filter isNamed =
      (front.splitOn '/').filter isNamed ++ (back.splitOn '/').filter isNamed := by
  rw [List.splitOn_append_cons_self, List.filter_append]

/-- The name comes last among the pieces of its path. -/
theorem filter_pieces_join (plain : Plain name) :
    (pieces (join directory name)).filter isNamed =
      (pieces directory).filter isNamed ++ [name.toList] := by
  have vacant : (([] : List Char).splitOn '/').filter isNamed = [] := rfl
  have named : (name.toList.splitOn '/').filter isNamed = [name.toList] := by
    have here : name.toList ≠ ['.'] := fun same =>
      plain.not_here (String.toList_injective same)
    rw [List.splitOn_eq_singleton plain.slashless]
    exact List.filter_cons_of_pos (decide_eq_true ⟨toList_ne_nil plain.nonempty, here⟩)
  rw [pieces, pieces]
  rcases toList_join directory name with ⟨shape, empty | ⟨front, slash⟩⟩ | shape
  · rw [shape, empty, List.nil_append, named, vacant, List.nil_append]
  · rw [shape, slash, List.append_assoc, List.singleton_append, filter_splitOn_slash,
      filter_splitOn_slash, vacant, List.append_nil, named]
  · rw [shape, filter_splitOn_slash, named]

/-- Whether a path starts at the root is up to its directory, not to the name in it. -/
theorem exists_isAbsolute (directory : String) :
    ∃ absolute, ∀ name, Plain name → isAbsolute (join directory name) = absolute := by
  cases shape : directory.toList with
  | nil =>
    have empty : directory = "" := String.toList_injective (shape.trans String.toList_empty.symm)
    refine ⟨false, fun name plain => ?_⟩
    have joined : join directory name = name := by
      rw [empty, join]
      exact String.empty_append
    rw [joined, isAbsolute, beq_eq_false_iff_ne]
    intro first
    exact plain.slashless (List.mem_of_head? first)
  | cons first rest =>
    refine ⟨some first == some '/', fun name _ => ?_⟩
    rcases toList_join directory name with ⟨joined, _⟩ | joined
    · rw [isAbsolute, joined, shape]
      rfl
    · rw [isAbsolute, joined, shape]
      rfl

/-- The parents of a path that is made of some pieces. -/
def parents (absolute : Bool) (named : List (List Char)) : List String :=
  (List.range named.length).reverse.map fun count => ofPieces absolute (named.take count)

theorem ancestors_eq_parents (path : String) :
    ancestors path = parents (isAbsolute path) ((pieces path).filter isNamed) := rfl

/-- The last piece has no part in the parents. -/
theorem parents_concat (absolute : Bool) (named : List (List Char)) (last : List Char) :
    parents absolute (named ++ [last]) = ofPieces absolute named :: parents absolute named := by
  rw [parents, List.length_append, List.length_singleton, List.range_succ, List.reverse_append,
    List.reverse_singleton, List.singleton_append, List.map_cons, List.take_left, parents]
  congr 1
  refine List.map_congr_left fun count listed => ?_
  have short : count < named.length := List.mem_range.mp (List.mem_reverse.mp listed)
  rw [List.take_append_of_le_length (Nat.le_of_lt short)]

/-- All names in a directory have the same parents. -/
theorem exists_ancestors (directory : String) :
    ∃ parent above, ∀ name, Plain name →
      ancestors (join directory name) = parent :: above := by
  obtain ⟨absolute, rooted⟩ := exists_isAbsolute directory
  refine ⟨ofPieces absolute ((pieces directory).filter isNamed),
    parents absolute ((pieces directory).filter isNamed), fun name plain => ?_⟩
  rw [ancestors_eq_parents, filter_pieces_join plain, rooted name plain, parents_concat]

end Path

namespace FileTree

variable {directory name other path : String} {location place : Location} {paths : List String}
variable {tree before middle after : FileTree} {ifMissing : FileProgram (Except FileError Unit)}

/-! ## What is made -/

/-- Nothing is changed but that there are directories where nothing stood, to which some of these
paths lead. -/
def Grows (paths : List String) (before after : FileTree) : Prop :=
  ∀ place, after.entryAt place = before.entryAt place ∨
    before.entryAt place = none ∧ after.entryAt place = some .directory ∧
      ∃ path ∈ paths, after.LeadsTo path place

namespace Grows

theorem refl (paths : List String) (tree : FileTree) : Grows paths tree tree :=
  fun _ => .inl rfl

theorem kept (grows : Grows paths before after) : KeepsDirectories before after := by
  intro place there
  rcases grows place with same | ⟨absent, _⟩
  · rw [same, there]
  · rw [there] at absent
    cases absent

theorem mono {others : List String} (grows : Grows paths before after)
    (more : ∀ path ∈ paths, path ∈ others) : Grows others before after := by
  intro place
  refine (grows place).imp_right ?_
  rintro ⟨absent, made, path, listed, leads⟩
  exact ⟨absent, made, path, more path listed, leads⟩

theorem trans (first : Grows paths before middle) (second : Grows paths middle after) :
    Grows paths before after := by
  intro place
  rcases first place with same | ⟨absent, made, path, listed, leads⟩
  · rw [← same]
    exact second place
  · exact .inr ⟨absent, second.kept place made, path, listed, leads.of_kept second.kept⟩

end Grows

/-- The end of a path is where its steps lead. -/
theorem followAll_of_target (found : tree.target path = .ok (.named place)) :
    pathFault? path = none ∧ tree.followAll [] (Path.steps path) = .ok place := by
  unfold target at found
  split at found
  · cases found
  · rename_i faultless
    simp only at found
    split at found
    · cases found
    · rename_i reached followed
      split at found
      · obtain rfl := Target.named.inj (Except.ok.inj found)
        exact ⟨faultless, followed⟩
      · cases found

/-- A directory is made at the end of its path, where nothing stood. -/
theorem of_plantDirectory (planted : tree.plantDirectory path = .ok after) :
    ∃ place, tree.target path = .ok (.named place) ∧ tree.entryAt place = none ∧
      after = tree.put place .directory := by
  unfold plantDirectory at planted
  split at planted
  · cases planted
  · cases planted
  · rename_i place found
    split at planted
    · rename_i absent
      exact ⟨place, found, absent, (Except.ok.inj planted).symm⟩
    · cases planted

/-- A path leads to a directory that stands where its steps lead. -/
theorem leadsTo_of_followAll (faultless : pathFault? path = none)
    (followed : tree.followAll [] (Path.steps path) = .ok place)
    (there : tree.entryAt place = some .directory) : tree.LeadsTo path place := by
  refine locate_eq_ok_iff.mpr ⟨faultless, ?_, there⟩
  rw [locatingSteps, followAll_append, followed]
  show tree.followAll place _ = _
  split
  · rw [followAll, follow, dirFault?_eq_none_iff.mpr there]
    rfl
  · rfl

/-- A directory stands at a place, and nothing else is different from before. -/
structure Planted (place : Location) (before after : FileTree) : Prop where
  made : after.entryAt place = some .directory
  elsewhere : ∀ other, other ≠ place → after.entryAt other = before.entryAt other
  names : ∀ location, (∀ name, place ≠ name :: location) →
    after.namesIn location = before.namesIn location

theorem planted_put (absent : tree.entryAt place = none) :
    Planted place tree (tree.put place .directory) := by
  have inner : place ≠ [] := by
    rintro rfl
    cases absent
  exact ⟨entryAt_put_self _ inner _, fun other different => entryAt_put_of_ne _ different _,
    fun location apart => namesIn_put_elsewhere apart _⟩

theorem Planted.kept (planted : Planted place before after) : KeepsDirectories before after := by
  intro other there
  by_cases here : other = place
  · rw [here, planted.made]
  · rw [planted.elsewhere other here, there]

/-- A directory that has just been made was not there, and its path leads to it. -/
theorem grows_of_planted (listed : path ∈ paths)
    (planted : tree.plantDirectory path = .ok after) : Grows paths tree after := by
  obtain ⟨place, found, absent, rfl⟩ := of_plantDirectory planted
  obtain ⟨faultless, followed⟩ := followAll_of_target found
  have put := planted_put absent
  have leads := leadsTo_of_followAll faultless (followAll_of_kept put.kept followed) put.made
  intro other
  by_cases here : other = place
  · rw [here]
    exact .inr ⟨absent, put.made, path, listed, leads⟩
  · exact .inl (put.elsewhere other here)

/-- What may come of making one directory. -/
inductive MakesDirectory (path : String) (ifMissing : FileProgram (Except FileError Unit))
    (tree : FileTree) : Except FileError Unit × FileTree → Prop where
  | made {after : FileTree} (planted : tree.plantDirectory path = .ok after) :
      MakesDirectory path ifMissing tree (.ok (), after)
  | missing (unplanted : tree.plantDirectory path = .error .notFound) :
      MakesDirectory path ifMissing tree (ifMissing.run answer tree)
  | there {location : Location} (leads : tree.LeadsTo path location) :
      MakesDirectory path ifMissing tree (.ok (), tree)
  | failed (error : FileError) : MakesDirectory path ifMissing tree (.error error, tree)

theorem makeDirectory_cases (path : String) (ifMissing : FileProgram (Except FileError Unit))
    (tree : FileTree) : MakesDirectory path ifMissing tree
      ((makeDirectory path ifMissing).run answer tree) := by
  rw [makeDirectory, Program.run_bind, run_ask, answer]
  cases planted : tree.plantDirectory path with
  | ok after => exact .made planted
  | error error =>
    have settled : MakesDirectory path ifMissing tree
        (((FileRequest.isDirectory path).ask >>= fun found => if found then pure (Except.ok ())
          else pure (Except.error error) : FileProgram (Except FileError Unit)).run answer tree) := by
      rw [Program.run_bind, run_ask, answer]
      split
      · rename_i location leads
        exact .there leads
      · exact .failed error
    cases error with
    | notFound => exact .missing planted
    | alreadyExists | notADirectory | isADirectory | nameTooLong | busy | invalidText | nullInName
    | other => exact settled

theorem makeDirectory_grows (listed : path ∈ paths)
    (otherwise : Grows paths tree (ifMissing.run answer tree).2) :
    Grows paths tree ((makeDirectory path ifMissing).run answer tree).2 := by
  have comes := makeDirectory_cases path ifMissing tree
  generalize (makeDirectory path ifMissing).run answer tree = outcome at comes
  cases comes with
  | made planted => exact grows_of_planted listed planted
  | missing => exact otherwise
  | there | failed => exact .refl paths tree

/-- **Making a directory makes nothing but it and its parents, where nothing stood.** -/
theorem makeDirectories_grows (path : String) (above : List String) (tree : FileTree) :
    Grows (path :: above) tree ((makeDirectories path above).run answer tree).2 := by
  induction above generalizing path tree with
  | nil =>
    rw [makeDirectories]
    split
    · exact .refl _ tree
    · exact makeDirectory_grows (List.mem_cons_self ..) (.refl _ tree)
  | cons parent above ih =>
    rw [makeDirectories]
    split
    · exact .refl _ tree
    · refine makeDirectory_grows (List.mem_cons_self ..) ?_
      have parents := (ih parent tree).mono fun _ => List.mem_cons_of_mem path
      rw [Program.run_bind]
      generalize (makeDirectories parent above).run answer tree = outcome at parents
      obtain ⟨result, middle⟩ := outcome
      cases result with
      | error => exact parents
      | ok => exact parents.trans (makeDirectory_grows (List.mem_cons_self ..) (.refl _ middle))

/-! ## Directories whose parent is there -/

/-- What comes of making a directory at a place whose parent is there. -/
def plantAt (tree : FileTree) (place : Location) : Except FileError Unit × FileTree :=
  match tree.entryAt place with
  | none => (.ok (), tree.put place .directory)
  | some .directory => (.ok (), tree)
  | some (.file ..) => (.error .alreadyExists, tree)

theorem planted_of_plantAt (planted : tree.plantAt place = (.ok (), after)) :
    Planted place tree after := by
  unfold plantAt at planted
  split at planted
  · rename_i absent
    obtain rfl := congrArg Prod.snd planted
    exact planted_put absent
  · rename_i there
    obtain rfl := congrArg Prod.snd planted
    exact ⟨there, fun _ _ => rfl, fun _ _ => rfl⟩
  · cases congrArg Prod.fst planted

/-- A directory that is made makes no difference to another one beside it. -/
theorem Planted.beside {sibling : String} {parent : Location}
    (planted : Planted (sibling :: parent) before after) (different : name ≠ sibling) :
    SameUnder (name :: parent) before after := by
  refine ⟨fun front => planted.elsewhere _ fun same => ?_, planted.names _ fun child same => ?_⟩
  · exact different (name_of_suffix ⟨front, same⟩)
  · simpa using congrArg List.length same

/-- Where two trees hold the same things a directory is made in both or in none. -/
theorem SameUnder.plantAt {left right : FileTree} (same : SameUnder location left right) :
    (right.plantAt location).1 = (left.plantAt location).1 ∧
      SameUnder location (left.plantAt location).2 (right.plantAt location).2 := by
  have entry : right.entryAt location = left.entryAt location := same.entries []
  unfold FileTree.plantAt
  rw [entry]
  cases found : left.entryAt location with
  | none =>
    have inner : location ≠ [] := by
      rintro rfl
      cases found
    have apart : ∀ name, location ≠ name :: location := by
      intro name equal
      simpa using congrArg List.length equal
    refine ⟨rfl, fun front => ?_, ?_⟩
    · by_cases here : front ++ location = location
      · rw [here, entryAt_put_self _ inner, entryAt_put_self _ inner]
      · rw [entryAt_put_of_ne _ here, entryAt_put_of_ne _ here, same.entries]
    · rw [namesIn_put_elsewhere apart, namesIn_put_elsewhere apart, same.names]
  | some entry => cases entry <;> exact ⟨rfl, same⟩

/-- A path that has a name is made by one attempt, and by something else where that fails. -/
theorem exists_makeDirectory {path : String} (named : path.isEmpty = false) (parent : String)
    (above : List String) :
    ∃ ifMissing, makeDirectories path (parent :: above) = makeDirectory path ifMissing := by
  have nonempty : ¬ path.isEmpty = true := by
    rw [named]
    exact Bool.false_ne_true
  exact ⟨_, if_neg nonempty⟩

section Reached

variable (reaches : tree.Reaches directory location) (plain : Plain name)
variable (fits : FitsIn directory name)
include reaches plain fits

theorem Reaches.makeDirectory_run (ifMissing : FileProgram (Except FileError Unit)) :
    (makeDirectory (Path.join directory name) ifMissing).run answer tree =
      tree.plantAt (name :: location) := by
  have target := reaches.target_named plain fits
  have located := reaches.locate_named plain fits
  rw [makeDirectory, Program.run_bind, run_ask, answer, plantDirectory, plantAt, target]
  cases found : tree.entryAt (name :: location) with
  | none =>
    simp only [found]
    rfl
  | some entry =>
    rw [found] at located
    simp only [found]
    show ((FileRequest.isDirectory _).ask >>= _ : FileProgram _).run answer tree = _
    rw [Program.run_bind, run_ask, answer, located]
    cases entry <;> rfl

theorem Reaches.makeDirectories_run :
    (makeDirectories (Path.join directory name) (Path.ancestors (Path.join directory name))).run
      answer tree = tree.plantAt (name :: location) := by
  obtain ⟨parent, above, ancestors⟩ := Path.exists_ancestors directory
  obtain ⟨ifMissing, attempt⟩ :=
    exists_makeDirectory (Path.join_ne_empty plain.nonempty) parent above
  rw [ancestors name plain, attempt]
  exact reaches.makeDirectory_run plain fits ifMissing

/-- A directory stays where it is when one is made beside it. -/
theorem Reaches.leadsTo (there : tree.entryAt (name :: location) = some .directory) :
    tree.LeadsTo (Path.join directory name) (name :: location) := by
  rw [LeadsTo, reaches.locate_named plain fits, there]

end Reached

/-! ## What has to be done before -/

/-- Whoever gets to a plain name gets to its directory before. -/
theorem exists_reaches (plain : Plain name)
    (faultless : pathFault? (Path.join directory name) = none)
    (followed : tree.followAll [] (Path.steps (Path.join directory name)) = .ok place) :
    FitsIn directory name ∧ ∃ location, tree.Reaches directory location := by
  have nullless : Char.ofNat 0 ∉ directory.toList := by
    intro member
    have inside : Char.ofNat 0 ∈ (Path.join directory name).toList :=
      (Path.mem_join (by decide)).mpr (.inl member)
    simp [pathFault?, inside] at faultless
  rw [pathFault?_join nullless plain] at faultless
  rw [Path.steps_join, plain.steps_eq, followAll_append] at followed
  split at followed
  · cases followed
  · rename_i location reached
    rw [followAll, follow] at followed
    split at followed
    · cases followed
    · rename_i next one
      split at one
      · cases one
      · rename_i here
        have short : ¬ nameLimit < name.utf8ByteSize := by
          intro long
          rw [if_pos long] at one
          cases one
        refine ⟨⟨Nat.not_lt.mp short, ?_⟩, location, nullless, reached,
          dirFault?_eq_none_iff.mp here⟩
        by_contra long
        rw [if_pos (Nat.not_lt.mp long)] at faultless
        cases faultless

/-- The place of a directory, if it is there. -/
def approach (tree : FileTree) (directory : String) : Except FileError Location :=
  match tree.followAll [] (Path.steps directory) with
  | .error error => .error error
  | .ok location => match tree.dirFault? location with
    | some error => .error error
    | none => .ok location

/-- Where a directory is missing, or has something else in its way, is the same for all names in
it. -/
theorem plantDirectory_join (nullless : Char.ofNat 0 ∉ directory.toList) (plain : Plain name)
    (fits : FitsIn directory name) :
    tree.plantDirectory (Path.join directory name) = match tree.approach directory with
      | .error error => .error error
      | .ok location => match tree.entryAt (name :: location) with
        | none => .ok (tree.put (name :: location) .directory)
        | some _ => .error .alreadyExists := by
  have faultless : pathFault? (Path.join directory name) = none := by
    rw [pathFault?_join nullless plain, if_neg (Nat.not_le.mpr fits.2)]
  have last : (Path.steps (Path.join directory name)).getLast? = some (.down name) := by
    rw [Path.steps_join, plain.steps_eq, List.getLast?_concat]
  have followed : tree.followAll [] (Path.steps (Path.join directory name)) =
      match tree.approach directory with
      | .error error => .error error
      | .ok location => .ok (name :: location) := by
    rw [Path.steps_join, plain.steps_eq, followAll_append, approach]
    cases tree.followAll [] (Path.steps directory) with
    | error error => rfl
    | ok location =>
      simp only [followAll, follow, if_neg (Nat.not_lt.mpr fits.1)]
      cases tree.dirFault? location <;> rfl
  unfold plantDirectory target
  simp only [faultless, followed, last]
  cases tree.approach directory <;> rfl

theorem approach_of_unplanted (nullless : Char.ofNat 0 ∉ directory.toList) (plain : Plain name)
    (fits : FitsIn directory name)
    (unplanted : tree.plantDirectory (Path.join directory name) = .error .notFound) :
    tree.approach directory = .error .notFound := by
  rw [plantDirectory_join nullless plain fits] at unplanted
  cases found : tree.approach directory with
  | error error =>
    rw [found] at unplanted
    obtain rfl := Except.error.inj unplanted
    rfl
  | ok location =>
    rw [found] at unplanted
    simp only at unplanted
    split at unplanted <;> cases unplanted

/-- A name whose directory is made, or is there, is in a directory that is there. -/
theorem exists_reaches_of_ok (plain : Plain name) {ifMissing : FileProgram (Except FileError Unit)}
    (opened : ((makeDirectory (Path.join directory name) ifMissing).run answer tree).1 = .ok ())
    (present : tree.plantDirectory (Path.join directory name) ≠ .error .notFound) :
    FitsIn directory name ∧ ∃ location, tree.Reaches directory location := by
  have comes := makeDirectory_cases (Path.join directory name) ifMissing tree
  generalize (makeDirectory (Path.join directory name) ifMissing).run answer tree =
    outcome at comes opened
  cases comes with
  | made planted =>
    obtain ⟨place, found, _⟩ := of_plantDirectory planted
    obtain ⟨faultless, followed⟩ := followAll_of_target found
    exact exists_reaches plain faultless followed
  | missing unplanted => exact absurd unplanted present
  | there leads => exact exists_reaches plain (locate_eq_ok_iff.mp leads).1 leads.followAll_eq
  | failed => cases opened

theorem makeDirectory_missing (unplanted : tree.plantDirectory path = .error .notFound)
    (ifMissing : FileProgram (Except FileError Unit)) :
    (makeDirectory path ifMissing).run answer tree = ifMissing.run answer tree := by
  rw [makeDirectory, Program.run_bind, run_ask, answer, unplanted]
  rfl

/-- For a directory without a parent its parents are made first, and the directory only if they can
be. -/
theorem makeDirectories_missing {parent : String} {above : List String}
    (named : path.isEmpty = false) (unplanted : tree.plantDirectory path = .error .notFound) :
    (makeDirectories path (parent :: above)).run answer tree =
      match (makeDirectories parent above).run answer tree with
      | (.error error, after) => (.error error, after)
      | (.ok (), after) => (makeDirectory path (return .error .notFound)).run answer after := by
  rw [makeDirectories, named, if_neg Bool.false_ne_true, makeDirectory_missing unplanted,
    Program.run_bind]
  rcases (makeDirectories parent above).run answer tree with ⟨error | made, after⟩
  · rfl
  · rfl

/-- **When the directory of one name has been made, the directories of all names are made as in a
tree in which the parent is there.** -/
theorem exists_ready (plain : Plain name)
    (opened : ((makeDirectories (Path.join directory name)
      (Path.ancestors (Path.join directory name))).run answer tree).1 = .ok ()) :
    FitsIn directory name ∧ ∃ ready : FileTree, ∃ location, ready.Reaches directory location ∧
      ∀ other, Plain other → FitsIn directory other →
        (makeDirectories (Path.join directory other)
            (Path.ancestors (Path.join directory other))).run answer tree =
          ready.plantAt (other :: location) := by
  obtain ⟨parent, above, ancestors⟩ := Path.exists_ancestors directory
  have named : (Path.join directory name).isEmpty = false := Path.join_ne_empty plain.nonempty
  rw [ancestors name plain] at opened
  by_cases missing : tree.plantDirectory (Path.join directory name) = .error .notFound
  · -- The parents are made first, and all of them.
    cases made : (makeDirectories parent above).run answer tree with
    | mk result ready =>
      cases result with
      | error error =>
        rw [makeDirectories_missing named missing, made] at opened
        cases opened
      | ok =>
        rw [makeDirectories_missing named missing, made] at opened
        simp only at opened
        have present : ready.plantDirectory (Path.join directory name) ≠ .error .notFound := by
          intro absent
          rw [makeDirectory_missing absent] at opened
          cases opened
        obtain ⟨fits, location, reaches⟩ := exists_reaches_of_ok plain opened present
        have absent : tree.approach directory = .error .notFound :=
          approach_of_unplanted reaches.nullless plain fits missing
        refine ⟨fits, ready, location, reaches, fun other also room => ?_⟩
        have unplanted : tree.plantDirectory (Path.join directory other) = .error .notFound := by
          rw [plantDirectory_join reaches.nullless also room, absent]
        rw [ancestors other also,
          makeDirectories_missing (Path.join_ne_empty also.nonempty) unplanted, made]
        exact reaches.makeDirectory_run also room _
  · obtain ⟨ifMissing, attempt⟩ := exists_makeDirectory named parent above
    rw [attempt] at opened
    obtain ⟨fits, location, reaches⟩ := exists_reaches_of_ok plain opened missing
    exact ⟨fits, tree, location, reaches, fun other also room =>
      reaches.makeDirectories_run also room⟩

end FileTree

end AddressPool
