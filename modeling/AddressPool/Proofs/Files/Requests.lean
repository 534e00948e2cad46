import AddressPool.Proofs.Files.Directory

/-!
# Requests on the names of a directory

For a directory with a known place, each request on the path of a plain name is
described by the entry at the place of that name (`locate_named`, `openToWrite_named`,
`discard_named`, `move_named`), unless the limits on names and paths forbid the
name; then the request fails and says so.

Other names are `Unreachable`: whatever is asked of them fails.
-/

namespace AddressPool

set_option autoImplicit false

open AddressPool.Path (Plain)

/-- The limits on names and on paths allow a name in a directory. -/
def FitsIn (directory name : String) : Prop :=
  name.utf8ByteSize ≤ FileTree.nameLimit ∧
    (Path.join directory name).utf8ByteSize < FileTree.pathLimit

instance (directory name : String) : Decidable (FitsIn directory name) :=
  inferInstanceAs (Decidable (_ ∧ _))

namespace FileTree

variable {tree : FileTree} {directory name : String} {location : Location}

section Reached

/-- Nothing but its length can be wrong with the path of a plain name. -/
theorem pathFault?_join (nullless : Char.ofNat 0 ∉ directory.toList) (plain : Plain name) :
    pathFault? (Path.join directory name) =
      if pathLimit ≤ (Path.join directory name).utf8ByteSize then some .nameTooLong else none := by
  have without : (Path.join directory name).toList.contains (Char.ofNat 0) = false := by
    rw [List.contains_eq_mem, decide_eq_false_iff_not, Path.mem_join (by decide)]
    rintro (inside | inside)
    · exact nullless inside
    · exact plain.nullless inside
  rw [pathFault?, without, Path.join_ne_empty plain.nonempty]
  rfl

theorem endsWithSlash_join (plain : Plain name) :
    Path.endsWithSlash (Path.join directory name) = false := by
  rw [Path.endsWithSlash_join plain.nonempty, plain.endsWithSlash_eq]

variable (reaches : tree.Reaches directory location) (plain : Plain name)
include reaches plain

theorem Reaches.followAll_join :
    tree.followAll [] (Path.steps (Path.join directory name)) =
      if nameLimit < name.utf8ByteSize then .error .nameTooLong else .ok (name :: location) := by
  have here := dirFault?_eq_none_iff.mpr reaches.there
  rw [Path.steps_join, plain.steps_eq, followAll_append, reaches.followed]
  simp only [followAll, follow, here]
  by_cases long : nameLimit < name.utf8ByteSize
  · simp only [if_pos long]
  · simp only [if_neg long]

/-- A path whose name the limits allow ends at the place of the name. -/
theorem Reaches.target_named (fits : FitsIn directory name) :
    tree.target (Path.join directory name) = .ok (.named (name :: location)) := by
  have last : (Path.steps (Path.join directory name)).getLast? = some (.down name) := by
    rw [Path.steps_join, plain.steps_eq, List.getLast?_concat]
  unfold target
  simp only [pathFault?_join reaches.nullless plain, reaches.followAll_join plain, last]
  rw [if_neg (Nat.not_le.mpr fits.2), if_neg (Nat.not_lt.mpr fits.1)]

theorem Reaches.locate_named (fits : FitsIn directory name) :
    tree.locate (Path.join directory name) =
      match tree.entryAt (name :: location) with
      | none => .error .notFound
      | some entry => .ok (name :: location, entry) := by
  have path_fits := Nat.not_le.mpr fits.2
  have name_fits := Nat.not_lt.mpr fits.1
  unfold locate
  cases found : tree.entryAt (name :: location) <;>
    simp only [pathFault?_join reaches.nullless plain, endsWithSlash_join plain,
      Bool.false_eq_true, if_false, List.append_nil, reaches.followAll_join plain, path_fits,
      name_fits, found]

end Reached

section Named

variable (leads : tree.LeadsTo directory location) (plain : Plain name)
include leads plain

theorem target_named (fits : FitsIn directory name) :
    tree.target (Path.join directory name) = .ok (.named (name :: location)) :=
  leads.reaches.target_named plain fits

theorem target_unfit (unfit : ¬ FitsIn directory name) :
    tree.target (Path.join directory name) = .error .nameTooLong := by
  unfold target
  simp only [pathFault?_join leads.nullless plain, leads.reaches.followAll_join plain]
  by_cases long : pathLimit ≤ (Path.join directory name).utf8ByteSize
  · rw [if_pos long]
  · rw [if_neg long, if_pos (Nat.not_le.mp fun short => unfit ⟨short, Nat.not_le.mp long⟩)]

theorem locate_named (fits : FitsIn directory name) :
    tree.locate (Path.join directory name) =
      match tree.entryAt (name :: location) with
      | none => .error .notFound
      | some entry => .ok (name :: location, entry) :=
  leads.reaches.locate_named plain fits

theorem locate_unfit (unfit : ¬ FitsIn directory name) :
    tree.locate (Path.join directory name) = .error .nameTooLong := by
  unfold locate
  simp only [pathFault?_join leads.nullless plain, endsWithSlash_join plain, Bool.false_eq_true,
    if_false, List.append_nil, leads.reaches.followAll_join plain]
  by_cases long : pathLimit ≤ (Path.join directory name).utf8ByteSize
  · rw [if_pos long]
  · rw [if_neg long, if_pos (Nat.not_le.mp fun short => unfit ⟨short, Nat.not_le.mp long⟩)]

/-- A name that leads nowhere is within the limits, and nothing stands there. -/
theorem vacant_of_locate (absent : tree.locate (Path.join directory name) = .error .notFound) :
    FitsIn directory name ∧ tree.entryAt (name :: location) = none := by
  by_cases fits : FitsIn directory name
  · rw [locate_named leads plain fits] at absent
    split at absent
    · rename_i vacant
      exact ⟨fits, vacant⟩
    · cases absent
  · rw [locate_unfit leads plain fits] at absent
    cases absent

theorem openToWrite_named (fits : FitsIn directory name) (existing : ByteArray → ByteArray) :
    tree.openToWrite (Path.join directory name) existing =
      match tree.entryAt (name :: location) with
      | none => .ok (false, tree.put (name :: location) (.file .empty false))
      | some (.file content held) =>
        .ok (held, tree.put (name :: location) (.file (existing content) held))
      | some .directory => .error .isADirectory := by
  have target := target_named leads plain fits
  unfold openToWrite
  cases found : tree.entryAt (name :: location) with
  | none => simp only [target, endsWithSlash_join plain, Bool.false_eq_true, if_false, found]
  | some entry =>
    cases entry <;>
      simp only [target, endsWithSlash_join plain, Bool.false_eq_true, if_false, found]

theorem discard_named (fits : FitsIn directory name) :
    tree.discard (Path.join directory name) =
      match tree.entryAt (name :: location) with
      | none => .error .notFound
      | some .directory => .error .isADirectory
      | some (.file ..) => .ok (tree.erase (name :: location)) := by
  have target := target_named leads plain fits
  unfold discard
  cases found : tree.entryAt (name :: location) with
  | none => simp only [target, found]
  | some entry =>
    cases entry <;>
      simp only [target, endsWithSlash_join plain, Bool.false_eq_true, if_false, found]

end Named

/-- A file is moved to another name of the directory, in the place of whatever file is there; a
directory there stays. -/
theorem move_named {goal : String} (leads : tree.LeadsTo directory location)
    (plain : Plain name) (plain_goal : Plain goal) (fits : FitsIn directory name)
    (fits_goal : FitsIn directory goal) {content : ByteArray} {held : Bool}
    (found : tree.entryAt (name :: location) = some (.file content held)) :
    tree.move (Path.join directory name) (Path.join directory goal) =
      if tree.entryAt (goal :: location) = some .directory then .error .isADirectory
      else .ok ((tree.erase (name :: location)).put (goal :: location) (.file content held)) := by
  unfold move
  simp only [target_named leads plain fits, target_named leads plain_goal fits_goal, found,
    endsWithSlash_join plain, endsWithSlash_join plain_goal, Bool.or_self,
    Bool.false_eq_true, if_false]

theorem answer_names (leads : tree.LeadsTo directory location) :
    answer (.names directory) tree = (.ok (tree.namesIn location), tree) := by
  have located : tree.locate directory = .ok (location, .directory) := leads
  simp only [answer, located]

theorem run_ask (request : FileRequest) (tree : FileTree) :
    request.ask.run answer tree = answer request tree := rfl

/-! ## Names that lead nowhere -/

/-- A path on which every request fails. -/
structure Unreachable (tree : FileTree) (path : String) : Prop where
  locate : ∃ error, tree.locate path = .error error
  openToWrite : ∃ error, ∀ existing, tree.openToWrite path existing = .error error
  discard : ∃ error, tree.discard path = .error error

/-- Where nothing is found, and the end of the path is not found either or has to be a directory,
every request fails. -/
theorem unreachable_of_locate {path : String} (missing : ∃ error, tree.locate path = .error error)
    (aims : (∃ error, tree.target path = .error error) ∨ Path.endsWithSlash path = true) :
    tree.Unreachable path := by
  refine ⟨missing, ?_, ?_⟩
  · unfold FileTree.openToWrite
    rcases aims with ⟨error, failed⟩ | slash
    · exact ⟨error, fun existing => by simp only [failed]⟩
    · cases tree.target path with
      | error error => exact ⟨error, fun existing => rfl⟩
      | ok goal =>
        cases goal with
        | itself => exact ⟨_, fun existing => rfl⟩
        | named place => exact ⟨.isADirectory, fun existing => by simp only [slash, if_true]⟩
  · unfold FileTree.discard
    rcases aims with ⟨error, failed⟩ | slash
    · exact ⟨error, by simp only [failed]⟩
    · cases tree.target path with
      | error error => exact ⟨error, rfl⟩
      | ok goal =>
        cases goal with
        | itself => exact ⟨_, rfl⟩
        | named place =>
          simp only [slash, if_true]
          cases tree.entryAt place with
          | none => exact ⟨_, rfl⟩
          | some entry => cases entry <;> exact ⟨_, rfl⟩

/-- A name that the limits forbid makes every request fail. -/
theorem unreachable_of_unfit (leads : tree.LeadsTo directory location) (plain : Plain name)
    (unfit : ¬ FitsIn directory name) : tree.Unreachable (Path.join directory name) :=
  unreachable_of_locate ⟨_, locate_unfit leads plain unfit⟩
    (.inl ⟨_, target_unfit leads plain unfit⟩)

/-- A null character in a path makes every request fail. -/
theorem unreachable_of_null {path : String} (member : Char.ofNat 0 ∈ path.toList) :
    tree.Unreachable path := by
  have fault : pathFault? path = some .nullInName := by simp [pathFault?, member]
  refine unreachable_of_locate ⟨.nullInName, ?_⟩ (.inl ⟨.nullInName, ?_⟩)
  · simp only [FileTree.locate, fault]
  · simp only [FileTree.target, fault]

/-- There is no way on from a place that is no directory. -/
theorem followAll_behind {head : String} {step : Path.Step} {rest : List Path.Step}
    {fault : FileError} (leads : tree.LeadsTo directory location)
    (stuck : tree.dirFault? (head :: location) = some fault) :
    tree.followAll [] (Path.steps directory ++ .down head :: step :: rest) =
      .error (if nameLimit < head.utf8ByteSize then .nameTooLong else fault) := by
  have here := dirFault?_eq_none_iff.mpr leads.entryAt_eq
  rw [followAll_append, leads.followAll_eq]
  simp only [followAll, follow, here]
  by_cases long : nameLimit < head.utf8ByteSize
  · simp only [long, if_true]
  · simp only [long, if_false, stuck]

/-- The steps behind a slash in a name fail where no directory of that name stands. -/
theorem followAll_slash {head : String} {back : List Path.Step}
    (leads : tree.LeadsTo directory location) (further : back ≠ [])
    (stuck : tree.entryAt (head :: location) ≠ some .directory) :
    ∃ error, tree.followAll [] (Path.steps directory ++ .down head :: back) = .error error := by
  obtain ⟨step, rest, rfl⟩ := List.exists_cons_of_ne_nil further
  cases fault : tree.dirFault? (head :: location) with
  | none => exact absurd (dirFault?_eq_none_iff.mp fault) stuck
  | some error => exact ⟨_, followAll_behind leads fault⟩

/-- Behind a slash in a name there is one more step, or the path ends with a slash. -/
theorem step_or_slash {head : String} {tail : List Char} (directory : String)
    (shape : name.toList = head.toList ++ '/' :: tail) :
    (tail.splitOn '/').filterMap Path.Step.ofPiece ≠ [] ∨
      Path.endsWithSlash (Path.join directory name) = true := by
  have nonempty : name ≠ "" := by
    rintro rfl
    simp at shape
  by_cases vacant : (tail.splitOn '/').filterMap Path.Step.ofPiece = []
  · right
    have slashes := Path.slash_of_no_steps vacant
    rw [Path.endsWithSlash_join nonempty, Path.endsWithSlash, beq_iff_eq, shape,
      List.getLast?_append_cons]
    cases last : ('/' :: tail).getLast? with
    | none => simp at last
    | some char =>
      rcases List.mem_cons.mp (List.mem_of_getLast? last) with rfl | member
      · rfl
      · rw [slashes char member]
  · exact .inl vacant

/-- The steps of a name with a slash in it begin with what is in front of the slash. -/
theorem steps_slash {head : String} {tail : List Char} (directory : String) (plain : Plain head)
    (shape : name.toList = head.toList ++ '/' :: tail) :
    Path.steps (Path.join directory name) =
      Path.steps directory ++ .down head :: (tail.splitOn '/').filterMap Path.Step.ofPiece := by
  rw [Path.steps_join, Path.steps_of_toList _ shape, Path.filterMap_splitOn_slash,
    ← Path.steps_of_toList _ rfl, plain.steps_eq, List.singleton_append]

/-- What is looked for behind a slash in a name is looked for in what is in front of it. -/
theorem exists_steps_slash {head : String} {tail : List Char} (directory : String)
    (plain : Plain head) (shape : name.toList = head.toList ++ '/' :: tail) :
    ∃ back, back ≠ [] ∧ (Path.steps (Path.join directory name) ++
        if Path.endsWithSlash (Path.join directory name) then [.stay] else []) =
      Path.steps directory ++ .down head :: back := by
  refine ⟨_, ?_, by rw [steps_slash directory plain shape, List.append_assoc, List.cons_append]⟩
  rcases step_or_slash directory shape with further | slash
  · simp [further]
  · simp [slash]

/-- A slash in a name makes every request fail, if what is in front of it is no directory. -/
theorem unreachable_of_slash {head : String} {tail : List Char}
    (leads : tree.LeadsTo directory location) (plain : Plain head)
    (shape : name.toList = head.toList ++ '/' :: tail)
    (stuck : tree.entryAt (head :: location) ≠ some .directory) :
    tree.Unreachable (Path.join directory name) := by
  refine unreachable_of_locate ?_ ?_
  · obtain ⟨back, further, steps⟩ := exists_steps_slash directory plain shape
    obtain ⟨error, followed⟩ := followAll_slash leads further stuck
    rw [← steps] at followed
    unfold FileTree.locate
    cases pathFault? (Path.join directory name) with
    | some fault => exact ⟨fault, rfl⟩
    | none => exact ⟨error, by simp only [followed]⟩
  · refine (step_or_slash directory shape).imp_left fun further => ?_
    obtain ⟨error, followed⟩ := followAll_slash leads further stuck
    rw [← steps_slash directory plain shape] at followed
    unfold FileTree.target
    cases pathFault? (Path.join directory name) with
    | some fault => exact ⟨fault, rfl⟩
    | none => exact ⟨error, by simp only [followed]⟩

/-- What is found behind a slash in a name depends on what stands in front of it only, if that is
no directory. -/
theorem locate_slash_same {after : FileTree} {other : Location} {head : String} {tail : List Char}
    (leads : tree.LeadsTo directory location) (again : after.LeadsTo directory other)
    (plain : Plain head) (shape : name.toList = head.toList ++ '/' :: tail)
    (stuck : tree.entryAt (head :: location) ≠ some .directory)
    (same : after.entryAt (head :: other) = tree.entryAt (head :: location)) :
    after.locate (Path.join directory name) = tree.locate (Path.join directory name) := by
  obtain ⟨back, further, steps⟩ := exists_steps_slash directory plain shape
  obtain ⟨step, rest, rfl⟩ := List.exists_cons_of_ne_nil further
  cases fault : tree.dirFault? (head :: location) with
  | none => exact absurd (dirFault?_eq_none_iff.mp fault) stuck
  | some error =>
    have fault_after : after.dirFault? (head :: other) = some error := by
      rw [← fault, dirFault?, dirFault?, same]
    simp only [locate, steps, followAll_behind leads fault, followAll_behind again fault_after]

end FileTree

end AddressPool
