import AddressPool.Files.Tree
import Mathlib.Data.List.Basic

/-!
# Files of one directory

Whoever keeps files in a directory asks for paths that are made of the directory
and a name.  This module says what the requests on such paths do, once it is known
to which place the directory leads.

A plain name leads to the place of that name, if the limits on names and paths
allow it; otherwise every request fails.  A name with a slash or a null character
in it leads nowhere, as long as the directory holds no directories
(`FileTree.unreachable_of_slash`, `FileTree.unreachable_of_null`).

Requests on files leave directories alone (`SameDirectories`), so that a directory
keeps its place whatever is done to the files in it.
-/

namespace AddressPool

set_option autoImplicit false

/-! ## Paths of names -/

namespace Path

/-- A name that can stand in a directory. -/
structure Plain (name : String) : Prop where
  nonempty : name ≠ ""
  not_here : name ≠ "."
  not_up : name ≠ ".."
  slashless : '/' ∉ name.toList
  nullless : Char.ofNat 0 ∉ name.toList

theorem toList_ne_nil {text : String} (nonempty : text ≠ "") : text.toList ≠ [] := fun empty =>
  nonempty (String.toList_injective (empty.trans String.toList_empty.symm))

theorem steps_of_toList {path : String} (chars : List Char) (shape : path.toList = chars) :
    steps path = (chars.splitOn '/').filterMap Step.ofPiece := by
  rw [steps, pieces, shape]

/-- The steps of two texts with a slash between them are those of the first and the second. -/
theorem filterMap_splitOn_slash (front back : List Char) :
    ((front ++ '/' :: back).splitOn '/').filterMap Step.ofPiece =
      (front.splitOn '/').filterMap Step.ofPiece ++
        (back.splitOn '/').filterMap Step.ofPiece := by
  rw [List.splitOn_append_cons_self, List.filterMap_append]

/-- A directory and a name are joined with a slash between them, unless there is one. -/
theorem toList_join (directory name : String) :
    (join directory name).toList = directory.toList ++ name.toList ∧
        (directory.toList = [] ∨ ∃ front, directory.toList = front ++ ['/']) ∨
      (join directory name).toList = directory.toList ++ '/' :: name.toList := by
  unfold join
  split
  · rename_i short
    left
    refine ⟨String.toList_append, ?_⟩
    simp only [Bool.or_eq_true, String.isEmpty_iff, endsWithSlash, beq_iff_eq] at short
    rcases short with rfl | slash
    · exact .inl String.toList_empty
    · exact .inr ⟨directory.toList.dropLast, by
        rw [List.dropLast_append_getLast? _ slash]⟩
  · right
    have slash : "/".toList = ['/'] := rfl
    rw [String.toList_append, String.toList_append, slash, List.append_assoc,
      List.singleton_append]

/-- The steps of a name in a directory are those of the directory and then those of the name. -/
theorem steps_join (directory name : String) :
    steps (join directory name) = steps directory ++ steps name := by
  have vacant : (([] : List Char).splitOn '/').filterMap Step.ofPiece = [] := rfl
  rcases toList_join directory name with ⟨shape, empty | ⟨front, slash⟩⟩ | shape
  · rw [empty, List.nil_append] at shape
    rw [steps_of_toList _ shape, steps_of_toList _ empty, vacant, List.nil_append,
      steps_of_toList _ rfl]
  · rw [slash, List.append_assoc, List.singleton_append] at shape
    rw [steps_of_toList _ shape, steps_of_toList _ slash, filterMap_splitOn_slash,
      filterMap_splitOn_slash, vacant, List.append_nil, steps_of_toList _ rfl]
  · rw [steps_of_toList _ shape, filterMap_splitOn_slash, steps_of_toList _ rfl,
      steps_of_toList _ rfl]

theorem getLast?_join {directory name : String} (nonempty : name ≠ "") :
    (join directory name).toList.getLast? = name.toList.getLast? := by
  obtain ⟨first, rest, shape⟩ := List.exists_cons_of_ne_nil (toList_ne_nil nonempty)
  rcases toList_join directory name with ⟨joined, _⟩ | joined
  · rw [joined, shape, List.getLast?_append_cons]
  · rw [joined, shape, List.getLast?_append_cons, List.getLast?_cons_cons]

theorem endsWithSlash_join {directory name : String} (nonempty : name ≠ "") :
    endsWithSlash (join directory name) = endsWithSlash name := by
  rw [endsWithSlash, getLast?_join nonempty, endsWithSlash]

theorem mem_join {directory name : String} {char : Char} (different : char ≠ '/') :
    char ∈ (join directory name).toList ↔ char ∈ directory.toList ∨ char ∈ name.toList := by
  rcases toList_join directory name with ⟨shape, _⟩ | shape
  · rw [shape, List.mem_append]
  · rw [shape, List.mem_append, List.mem_cons]
    simp [different]

theorem join_ne_empty {directory name : String} (nonempty : name ≠ "") :
    (join directory name).isEmpty = false := by
  have filled : (join directory name).toList ≠ [] := by
    rcases toList_join directory name with ⟨shape, _⟩ | shape
    · rw [shape]
      exact List.append_ne_nil_of_right_ne_nil _ (toList_ne_nil nonempty)
    · simp [shape]
  rw [Bool.eq_false_iff]
  intro empty
  rw [String.isEmpty_iff] at empty
  exact filled (empty ▸ String.toList_empty)

namespace Plain

variable {name : String}

/-- A plain name is one step down. -/
theorem steps_eq (plain : Plain name) : steps name = [.down name] := by
  have different : ∀ text : String, name ≠ text → name.toList ≠ text.toList := by
    intro text other same
    exact other (String.toList_injective same)
  have nonempty := toList_ne_nil plain.nonempty
  have here : name.toList ≠ ['.'] := different "." plain.not_here
  have up : name.toList ≠ ['.', '.'] := different ".." plain.not_up
  rw [steps, pieces, List.splitOn_eq_singleton plain.slashless, List.filterMap_cons,
    List.filterMap_nil, Step.ofPiece, if_neg nonempty, if_neg here, if_neg up,
    String.ofList_toList]

theorem endsWithSlash_eq (plain : Plain name) : endsWithSlash name = false := by
  rw [endsWithSlash, beq_eq_false_iff_ne]
  intro last
  exact plain.slashless (List.mem_of_getLast? last)

end Plain

/-- A character of a text is a separator or stands in one of the pieces between them. -/
theorem mem_splitOn {char : Char} {chars : List Char} (separator : Char) (member : char ∈ chars) :
    char = separator ∨ ∃ piece ∈ chars.splitOn separator, char ∈ piece := by
  induction chars with
  | nil => cases member
  | cons first rest ih =>
    obtain ⟨head, tail, shape⟩ := List.exists_cons_of_ne_nil (List.splitOn_ne_nil separator rest)
    rw [List.splitOn_cons_eq_if_modifyHead]
    rw [shape] at ih ⊢
    by_cases separated : first = separator
    · rw [if_pos (by simpa using separated)]
      rcases List.mem_cons.mp member with rfl | later
      · exact .inl separated
      · rcases ih later with same | ⟨piece, listed, inside⟩
        · exact .inl same
        · exact .inr ⟨piece, List.mem_cons_of_mem _ listed, inside⟩
    · rw [if_neg (by simpa using separated), List.modifyHead_cons]
      rcases List.mem_cons.mp member with rfl | later
      · exact .inr ⟨_, List.mem_cons_self .., List.mem_cons_self ..⟩
      · rcases ih later with same | ⟨piece, listed, inside⟩
        · exact .inl same
        · rcases List.mem_cons.mp listed with rfl | listed
          · exact .inr ⟨_, List.mem_cons_self .., List.mem_cons_of_mem _ inside⟩
          · exact .inr ⟨piece, List.mem_cons_of_mem _ listed, inside⟩

/-- A text without steps consists of slashes. -/
theorem slash_of_no_steps {chars : List Char}
    (vacant : (chars.splitOn '/').filterMap Step.ofPiece = []) : ∀ char ∈ chars, char = '/' := by
  intro char member
  rcases mem_splitOn '/' member with slash | ⟨piece, listed, inside⟩
  · exact slash
  · have absent := List.filterMap_eq_nil_iff.mp vacant piece listed
    have filled : piece ≠ [] := List.ne_nil_of_mem inside
    unfold Step.ofPiece at absent
    rw [if_neg filled] at absent
    split at absent
    · cases absent
    · split at absent <;> cases absent

end Path

namespace FileTree

variable {tree : FileTree} {directory name : String} {location : Location}

/-! ## Where a directory stands -/

theorem followAll_append (tree : FileTree) (front back : List Path.Step) (here : Location) :
    tree.followAll here (front ++ back) =
      match tree.followAll here front with
      | .error error => .error error
      | .ok next => tree.followAll next back := by
  induction front generalizing here with
  | nil => rfl
  | cons step rest ih =>
    rw [List.cons_append, followAll, followAll]
    cases tree.follow here step with
    | error error => rfl
    | ok next => exact ih next

/-- The steps to something that has to be there: a slash at the end is a step of its own. -/
def locatingSteps (path : String) : List Path.Step :=
  Path.steps path ++ if Path.endsWithSlash path then [.stay] else []

theorem locate_eq_ok_iff {path : String} {place : Location} {entry : Entry} :
    tree.locate path = .ok (place, entry) ↔
      pathFault? path = none ∧ tree.followAll [] (locatingSteps path) = .ok place ∧
        tree.entryAt place = some entry := by
  unfold locate locatingSteps
  cases pathFault? path with
  | some error => simp
  | none =>
    simp only
    generalize Path.steps path ++ (if Path.endsWithSlash path then [.stay] else []) = steps
    cases tree.followAll [] steps with
    | error error => simp
    | ok here =>
      simp only [Except.ok.injEq, true_and]
      cases found : tree.entryAt here with
      | none =>
        simp only [reduceCtorEq, false_iff, not_and]
        rintro rfl
        simp [found]
      | some other =>
        simp only [Except.ok.injEq, Prod.mk.injEq]
        constructor
        · rintro ⟨rfl, rfl⟩
          exact ⟨rfl, found⟩
        · rintro ⟨rfl, same⟩
          exact ⟨rfl, Option.some.inj (found.symm.trans same)⟩

/-- A path that leads to a directory. -/
def LeadsTo (tree : FileTree) (directory : String) (location : Location) : Prop :=
  tree.locate directory = .ok (location, .directory)

theorem LeadsTo.entryAt_eq (leads : tree.LeadsTo directory location) :
    tree.entryAt location = some .directory := (locate_eq_ok_iff.mp leads).2.2

theorem LeadsTo.nullless (leads : tree.LeadsTo directory location) :
    Char.ofNat 0 ∉ directory.toList := by
  intro member
  have faultless := (locate_eq_ok_iff.mp leads).1
  simp [pathFault?, member] at faultless

/-- The steps of the path alone lead there too. -/
theorem LeadsTo.followAll_eq (leads : tree.LeadsTo directory location) :
    tree.followAll [] (Path.steps directory) = .ok location := by
  have followed := (locate_eq_ok_iff.mp leads).2.1
  rw [locatingSteps, followAll_append] at followed
  split at followed
  · cases followed
  · rename_i place reached
    rw [reached]
    split at followed
    · -- The step that a slash at the end adds stays where it is.
      rw [followAll, follow] at followed
      split at followed
      · cases followed
      · rename_i next stays
        split at stays
        · cases stays
        · obtain rfl := Except.ok.inj stays
          exact followed
    · exact followed

/-- Trees in which the same places are directories. -/
def SameDirectories (before after : FileTree) : Prop :=
  ∀ location, after.entryAt location = some .directory ↔ before.entryAt location = some .directory

theorem dirFault?_eq_none_iff {here : Location} :
    tree.dirFault? here = none ↔ tree.entryAt here = some .directory := by
  unfold dirFault?
  split <;> simp_all

/-- What are directories in one tree are directories in another one. -/
def KeepsDirectories (before after : FileTree) : Prop :=
  ∀ location, before.entryAt location = some .directory → after.entryAt location = some .directory

theorem followAll_of_kept {before after : FileTree} (kept : KeepsDirectories before after)
    {here place : Location} {steps : List Path.Step}
    (followed : before.followAll here steps = .ok place) :
    after.followAll here steps = .ok place := by
  induction steps generalizing here with
  | nil => exact followed
  | cons step rest ih =>
    rw [followAll] at followed ⊢
    split at followed
    · cases followed
    · rename_i next one
      have again : after.follow here step = .ok next := by
        unfold follow at one ⊢
        split at one
        · cases one
        · rename_i faultless
          rw [dirFault?_eq_none_iff.mpr (kept here (dirFault?_eq_none_iff.mp faultless))]
          exact one
      rw [again]
      exact ih followed

/-- A path ends at the same place in a tree that has the same directories and more. -/
theorem target_of_kept {before after : FileTree} (kept : KeepsDirectories before after)
    {path : String} {goal : Target} (found : before.target path = .ok goal) :
    after.target path = .ok goal := by
  unfold target at found ⊢
  simp only at found ⊢
  split at found
  · cases found
  · split at found
    · cases found
    · rename_i location followed
      simp only [followAll_of_kept kept followed]
      exact found

theorem LeadsTo.of_kept {before after : FileTree} (kept : KeepsDirectories before after)
    (leads : before.LeadsTo directory location) : after.LeadsTo directory location := by
  obtain ⟨faultless, followed, found⟩ := locate_eq_ok_iff.mp leads
  exact locate_eq_ok_iff.mpr ⟨faultless, followAll_of_kept kept followed, kept location found⟩

/-- A directory keeps its place while the places of directories stay the same. -/
theorem LeadsTo.of_same {before after : FileTree} (same : SameDirectories before after)
    (leads : before.LeadsTo directory location) : after.LeadsTo directory location :=
  leads.of_kept fun place => (same place).mpr

/-- The steps of a path lead to a directory.  This is so of the empty path, too, which nothing can be
asked of by itself. -/
structure Reaches (tree : FileTree) (directory : String) (location : Location) : Prop where
  nullless : Char.ofNat 0 ∉ directory.toList
  followed : tree.followAll [] (Path.steps directory) = .ok location
  there : tree.entryAt location = some .directory

theorem LeadsTo.reaches (leads : tree.LeadsTo directory location) :
    tree.Reaches directory location :=
  ⟨leads.nullless, leads.followAll_eq, leads.entryAt_eq⟩

theorem Reaches.of_kept {before after : FileTree} (kept : KeepsDirectories before after)
    (reaches : before.Reaches directory location) : after.Reaches directory location :=
  ⟨reaches.nullless, followAll_of_kept kept reaches.followed, kept location reaches.there⟩

theorem sameDirectories_put {place : Location} {content : ByteArray} {held : Bool}
    (inner : place ≠ []) (noDirectory : tree.entryAt place ≠ some .directory) :
    SameDirectories tree (tree.put place (.file content held)) := by
  intro other
  by_cases here : other = place
  · subst here
    rw [entryAt_put_self _ inner]
    simp [noDirectory]
  · rw [entryAt_put_of_ne _ here]

theorem sameDirectories_erase {place : Location} (inner : place ≠ [])
    (noDirectory : tree.entryAt place ≠ some .directory) :
    SameDirectories tree (tree.erase place) := by
  intro other
  by_cases here : other = place
  · subst here
    rw [entryAt_erase_self _ inner]
    simp [noDirectory]
  · rw [entryAt_erase_of_ne _ here]

/-! ## Names in a directory -/

theorem lookup_isSome_iff {entries : List (Location × Entry)} {place : Location} :
    (entries.lookup place).isSome = true ↔ ∃ entry ∈ entries, entry.1 = place := by
  rw [← Option.ne_none_iff_isSome, ne_eq, List.lookup_eq_none_iff]
  simp only [bne_iff_ne, ne_eq, not_forall, Decidable.not_not, exists_prop]
  exact exists_congr fun _ => and_congr_right fun _ => eq_comm

/-- A name is listed when something stands at its place. -/
theorem mem_namesIn_iff :
    name ∈ tree.namesIn location ↔ (tree.entryAt (name :: location)).isSome = true := by
  have found : tree.entryAt (name :: location) = tree.entries.lookup (name :: location) := rfl
  rw [found, lookup_isSome_iff, namesIn, List.mem_filterMap]
  refine exists_congr fun entry => and_congr_right fun _ => ?_
  obtain ⟨place, content⟩ := entry
  cases place with
  | nil => simp
  | cons first parent =>
    simp only [Option.ite_none_right_eq_some, Option.some.injEq, List.cons.injEq]
    exact And.comm

theorem namesIn_erase (tree : FileTree) (name : String) (location : Location) :
    (tree.erase (name :: location)).namesIn location =
      (tree.namesIn location).filter fun other => decide (other ≠ name) := by
  obtain ⟨entries⟩ := tree
  simp only [erase, namesIn]
  induction entries with
  | nil => rfl
  | cons entry rest ih =>
    obtain ⟨place, content⟩ := entry
    cases place with
    | nil =>
      rw [List.filter_cons_of_pos (by simp), List.filterMap_cons, List.filterMap_cons]
      exact ih
    | cons first parent =>
      by_cases here : first :: parent = name :: location
      · obtain ⟨rfl, rfl⟩ := List.cons.inj here
        rw [List.filter_cons_of_neg (by simp), ih, List.filterMap_cons]
        simp
      · have kept : (first :: parent, content).1 ≠ name :: location := here
        rw [List.filter_cons_of_pos (by exact decide_eq_true kept), List.filterMap_cons,
          List.filterMap_cons, ih]
        by_cases inside : parent = location
        · have different : first ≠ name := by
            rintro rfl
            exact here (by rw [inside])
          simp only [inside, if_true]
          rw [List.filter_cons_of_pos (by simpa using different)]
        · simp only [inside, if_false]

theorem namesIn_put (tree : FileTree) (name : String) (location : Location) (entry : Entry) :
    (tree.put (name :: location) entry).namesIn location =
      name :: (tree.namesIn location).filter fun other => decide (other ≠ name) := by
  rw [← namesIn_erase]
  simp [put, namesIn]

theorem erase_put (tree : FileTree) (place : Location) (entry : Entry) :
    (tree.put place entry).erase place = tree.erase place := by
  simp [put, erase, List.filter_filter]

/-- Of two entries that are put in one place the second one stays. -/
theorem put_put (tree : FileTree) (place : Location) (first second : Entry) :
    (tree.put place first).put place second = tree.put place second := by
  rw [put, erase_put, put]

/-- No name is listed twice in a directory. -/
def Listed (tree : FileTree) (location : Location) : Prop := (tree.namesIn location).Nodup

theorem Listed.erase (listed : tree.Listed location) (name : String) :
    (tree.erase (name :: location)).Listed location := by
  rw [Listed, namesIn_erase]
  exact List.Pairwise.filter _ listed

theorem Listed.put (listed : tree.Listed location) (name : String) (entry : Entry) :
    (tree.put (name :: location) entry).Listed location := by
  rw [Listed, namesIn_put, List.nodup_cons]
  exact ⟨by simp, List.Pairwise.filter _ listed⟩

end FileTree

end AddressPool
