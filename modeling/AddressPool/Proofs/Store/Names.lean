import AddressPool.Proofs.Address.Text
import AddressPool.Proofs.Files.Requests
import AddressPool.Store.Disk

/-!
# Names in a store's directory

A store on disk keeps three kinds of files: the one that is locked, the records of
addresses and the cursors of rings.  Different files have different names
(`StoreFile.name_injective`), no name of a cursor or of the lock can be read as an
address, and the temporary files stay apart from all of them
(`StoreFile.name_ne_temporaryName`).  So the one name space of a directory serves
all kinds at once.

Every record has a name that can stand in a directory, and so has every text that is read
as an address (`plain_of_ofString?`), since it consists of digits, colons and points.  The
name of a cursor can stand there if the ring's identifier has neither a slash nor a null
character in it.
-/

namespace AddressPool

set_option autoImplicit false

open AddressPool.Path (Plain)

/-- A file that a store keeps. -/
inductive StoreFile where
  | lock
  | record (address : Address)
  | cursor (id : String)
  deriving DecidableEq

/-- The name of a file of a store. -/
def StoreFile.name : StoreFile → String
  | .lock => lockName
  | .record address => address.text
  | .cursor id => cursorName id

/-! ## Characters and sizes -/

theorem toList_lockName : lockName.toList = ['l', 'o', 'c', 'k'] := rfl

theorem toList_cursorName (id : String) :
    (cursorName id).toList = "last_reserved_ip.".toList ++ id.toList :=
  String.toList_append

theorem toList_temporaryName (name : String) :
    (temporaryName name).toList = '.' :: name.toList ++ ".tmp".toList := by
  have point : ".".toList = ['.'] := rfl
  rw [temporaryName, String.toList_append, String.toList_append, point, List.singleton_append]

/-- A character takes at most four bytes. -/
theorem utf8ByteSize_le (text : String) : text.utf8ByteSize ≤ 4 * text.toList.length := by
  suffices sized : ∀ chars : List Char, (String.ofList chars).utf8ByteSize ≤ 4 * chars.length by
    simpa only [String.ofList_toList] using sized text.toList
  intro chars
  induction chars with
  | nil => exact Nat.le_refl 0
  | cons first rest ih =>
    have head : (String.singleton first).utf8ByteSize ≤ 4 := by
      rw [String.utf8ByteSize_singleton]
      exact Char.utf8Size_le_four first
    have cut : String.ofList (first :: rest) = String.singleton first ++ String.ofList rest :=
      String.toList_injective (by simp)
    rw [cut, String.utf8ByteSize_append, List.length_cons]
    omega

theorem utf8ByteSize_temporaryName (name : String) :
    (temporaryName name).utf8ByteSize = name.utf8ByteSize + 5 := by
  have point : ".".utf8ByteSize = 1 := rfl
  have tail : ".tmp".utf8ByteSize = 4 := rfl
  rw [temporaryName, String.utf8ByteSize_append, String.utf8ByteSize_append, point, tail]
  omega

theorem utf8ByteSize_cursorName (id : String) :
    (cursorName id).utf8ByteSize = 17 + id.utf8ByteSize := by
  have front : "last_reserved_ip.".utf8ByteSize = 17 := rfl
  show ("last_reserved_ip." ++ id).utf8ByteSize = _
  rw [String.utf8ByteSize_append, front]

theorem Address.utf8ByteSize_text_le (address : Address) : address.text.utf8ByteSize ≤ 168 := by
  have length := length_chars_le address
  have size := utf8ByteSize_le address.text
  rw [toList_text] at size
  omega

theorem utf8ByteSize_join (directory name : String) :
    (Path.join directory name).utf8ByteSize =
      (Path.join directory "").utf8ByteSize + name.utf8ByteSize := by
  unfold Path.join
  split
  · rw [String.utf8ByteSize_append, String.append_empty]
  · rw [String.utf8ByteSize_append, String.append_empty]

/-- Where a temporary name is allowed, so is the name that it is made for. -/
theorem FitsIn.of_temporary {directory name : String}
    (fits : FitsIn directory (temporaryName name)) : FitsIn directory name := by
  obtain ⟨short, path⟩ := fits
  rw [utf8ByteSize_join] at path
  rw [utf8ByteSize_temporaryName] at short path
  refine ⟨by omega, ?_⟩
  rw [utf8ByteSize_join]
  omega

/-! ## Texts that are read as addresses -/

namespace AddressDialect

variable {dialect : AddressDialect}

theorem textual_of_group? {piece : List Char} {group : Nat} (found : group? piece = some group) :
    ∀ char ∈ piece, Address.IsTextual char := by
  intro char member
  exact .inl ((Numeral.digits_of_read? found).2 char member)

theorem textual_of_groups? {tail : Bool} {pieces : List (List Char)} {groups : List Nat}
    (found : dialect.groups? tail pieces = some groups) :
    ∀ piece ∈ pieces, ∀ char ∈ piece, Address.IsTextual char := by
  induction pieces generalizing groups with
  | nil =>
    intro piece member
    cases member
  | cons first rest ih =>
    cases rest with
    | nil =>
      rw [List.forall_mem_singleton]
      rw [groups?] at found
      split at found
      · rename_i group read
        exact textual_of_group? read
      · split at found
        · obtain ⟨number, read, _⟩ := Option.map_eq_some_iff.mp found
          intro char member
          rcases (chars_of_dotted? read).2 char member with digit | point
          · exact .inl digit
          · exact .inr (.inr point)
        · cases found
    | cons next others =>
      simp only [groups?, Option.bind_eq_bind, Option.bind_eq_some_iff] at found
      obtain ⟨group, read, later, further, _⟩ := found
      rw [List.forall_mem_cons]
      exact ⟨textual_of_group? read, ih further⟩

theorem textual_of_side? {tail : Bool} {text : List Char} {groups : List Nat}
    (found : dialect.side? tail text = some groups) : ∀ char ∈ text, Address.IsTextual char := by
  intro char member
  have filled : text.isEmpty = false := by
    rw [List.isEmpty_eq_false_iff]
    exact List.ne_nil_of_mem member
  rw [side?, filled, if_neg Bool.false_ne_true] at found
  rcases Path.mem_splitOn ':' member with colon | ⟨piece, listed, inside⟩
  · exact .inr (.inl colon)
  · exact textual_of_groups? found piece listed char inside

/-- A text that is cut around `::` has nothing else than the two sides. -/
theorem eq_of_splitElision? {text before after : List Char}
    (cut : splitElision? text = some (before, after)) : text = before ++ ':' :: ':' :: after := by
  induction text generalizing before with
  | nil => cases cut
  | cons char rest ih =>
    unfold splitElision? at cut
    split at cut
    · rename_i same
      obtain ⟨rfl, rfl⟩ := Prod.mk.inj (Option.some.inj cut)
      exact same
    · rename_i same
      cases same
    · rename_i same
      obtain ⟨rfl, rfl⟩ := List.cons.inj same
      obtain ⟨⟨front, back⟩, later, joined⟩ := Option.map_eq_some_iff.mp cut
      obtain ⟨rfl, rfl⟩ := Prod.mk.inj joined
      rw [List.cons_append, ← ih later]

theorem textual_of_address? {text : List Char} {address : Address}
    (found : dialect.address? text = some address) : ∀ char ∈ text, Address.IsTextual char := by
  intro char member
  unfold address? at found
  split at found
  · rename_i number read
    rcases (chars_of_dotted? read).2 char member with digit | point
    · exact .inl digit
    · exact .inr (.inr point)
  · obtain ⟨groups, read, _⟩ := Option.map_eq_some_iff.mp found
    unfold eightGroups? at read
    split at read
    · rename_i before after cut
      simp only [Option.bind_eq_bind, Option.bind_eq_some_iff] at read
      obtain ⟨front, front_side, back, back_side, _⟩ := read
      rw [eq_of_splitElision? cut, List.mem_append, List.mem_cons, List.mem_cons] at member
      rcases member with inside | colon | colon | inside
      · exact textual_of_side? front_side char inside
      · exact .inr (.inl colon)
      · exact .inr (.inl colon)
      · exact textual_of_side? back_side char inside
    · simp only [Option.bind_eq_bind, Option.bind_eq_some_iff] at read
      obtain ⟨whole, side, _⟩ := read
      exact textual_of_side? side char member

end AddressDialect

/-- **Nothing but digits, colons and points is read as an address.** -/
theorem Address.textual_of_ofString? {text : String} {address : Address}
    (read : ofString? text = some address) : ∀ char ∈ text.toList, IsTextual char :=
  AddressDialect.textual_of_address? read

/-! ## Names that can stand in a directory -/

/-- Neither a slash nor a null character is in an identifier. -/
def PlainId (id : String) : Prop := '/' ∉ id.toList ∧ Char.ofNat 0 ∉ id.toList

instance (id : String) : Decidable (PlainId id) := inferInstanceAs (Decidable (_ ∧ _))

/-- A name is plain if it has a character other than a point, but no slash and no null
character. -/
theorem plain_of_mem {name : String} (char : Char) (member : char ∈ name.toList)
    (different : char ≠ '.') (slashless : '/' ∉ name.toList)
    (nullless : Char.ofNat 0 ∉ name.toList) : Plain name := by
  refine ⟨?_, ?_, ?_, slashless, nullless⟩
  · rintro rfl
    exact absurd member List.not_mem_nil
  · rintro rfl
    exact different (List.mem_singleton.mp member)
  · rintro rfl
    rcases List.mem_cons.mp member with same | member
    · exact different same
    · exact different (List.mem_singleton.mp member)

/-- A name that is made around an identifier with a slash has a plain name in front of its first
slash. -/
theorem plain_front {name id : String} (front back : List Char)
    (shape : name.toList = front ++ id.toList ++ back) (letter : 'l' ∈ front)
    (slashless : '/' ∉ front) (nullless : Char.ofNat 0 ∉ front) (slash : '/' ∈ id.toList)
    (null : Char.ofNat 0 ∉ id.toList) :
    ∃ before behind, id.toList = before ++ '/' :: behind ∧ Plain (String.ofList (front ++ before)) ∧
      name.toList = (String.ofList (front ++ before)).toList ++ '/' :: (behind ++ back) := by
  obtain ⟨before, behind, cut, first⟩ := List.eq_append_cons_of_mem slash
  have head : (String.ofList (front ++ before)).toList = front ++ before := String.toList_ofList
  refine ⟨before, behind, cut, ?_, ?_⟩
  · refine plain_of_mem 'l' ?_ (by decide) ?_ ?_
    · rw [head]
      exact List.mem_append_left _ letter
    · rw [head, List.mem_append, not_or]
      exact ⟨slashless, first⟩
    · rw [head, List.mem_append, not_or]
      refine ⟨nullless, fun member => null ?_⟩
      rw [cut]
      exact List.mem_append_left _ member
  · rw [shape, cut, head]
    simp only [List.append_assoc, List.cons_append]

theorem plain_lockName : Plain lockName :=
  plain_of_mem 'l' (by decide) (by decide) (by decide) (by decide)

theorem plain_cursorName {id : String} (plain : PlainId id) : Plain (cursorName id) := by
  have letter : 'l' ∈ "last_reserved_ip.".toList := by decide
  refine plain_of_mem 'l' ?_ (by decide) ?_ ?_
  · rw [toList_cursorName]
    exact List.mem_append_left _ letter
  · rw [toList_cursorName, List.mem_append, not_or]
    exact ⟨by decide, plain.1⟩
  · rw [toList_cursorName, List.mem_append, not_or]
    exact ⟨by decide, plain.2⟩

/-- Whatever is read as an address is plain, whether or not it is the text of that address. -/
theorem plain_of_ofString? {name : String} {address : Address}
    (read : Address.ofString? name = some address) : Plain name := by
  have textual := Address.textual_of_ofString? read
  refine ⟨?_, ?_, ?_, ?_, ?_⟩
  · rintro rfl
    cases read
  · rintro rfl
    cases read
  · rintro rfl
    cases read
  · intro slash
    exact absurd (textual _ slash) (by decide)
  · intro null
    exact absurd (textual _ null) (by decide)

theorem plain_text (address : Address) : Plain address.text :=
  plain_of_ofString? address.ofString?_text

theorem plain_temporaryName {name : String} (plain : Plain name) : Plain (temporaryName name) := by
  have letter : 't' ∈ (temporaryName name).toList := by
    rw [toList_temporaryName]
    exact List.mem_append_right _ (by decide)
  refine plain_of_mem 't' letter (by decide) ?_ ?_
  · rw [toList_temporaryName, List.mem_append, List.mem_cons]
    rintro ((point | inside) | tail)
    · exact absurd point (by decide)
    · exact plain.slashless inside
    · exact absurd tail (by decide)
  · rw [toList_temporaryName, List.mem_append, List.mem_cons]
    rintro ((point | inside) | tail)
    · exact absurd point (by decide)
    · exact plain.nullless inside
    · exact absurd tail (by decide)

/-! ## Names that are told apart -/

theorem Address.ofString?_lockName : ofString? lockName = none :=
  ofString?_eq_none toList_lockName (by decide) (by decide)

theorem Address.ofString?_cursorName (id : String) : ofString? (cursorName id) = none :=
  ofString?_eq_none (toList_cursorName id) (by decide) (by decide)

theorem cursorName_injective {left right : String} (same : cursorName left = cursorName right) :
    left = right := by
  have chars := congrArg String.toList same
  rw [toList_cursorName, toList_cursorName] at chars
  exact String.toList_injective (List.append_cancel_left chars)

theorem lockName_ne_cursorName (id : String) : lockName ≠ cursorName id := by
  intro same
  have chars := congrArg String.toList same
  rw [toList_cursorName, toList_lockName] at chars
  exact absurd (List.cons.inj (List.cons.inj chars).2).1 (by decide)

namespace StoreFile

theorem ofString?_name_record (address : Address) :
    Address.ofString? (record address).name = some address := Address.ofString?_text address

/-- A name that is read as an address is that of a record. -/
theorem eq_record_of_ofString? {file : StoreFile} {address : Address}
    (read : Address.ofString? file.name = some address) : file = record address := by
  cases file with
  | lock =>
    rw [name, Address.ofString?_lockName] at read
    cases read
  | record other =>
    rw [name, Address.ofString?_text] at read
    rw [Option.some.inj read]
  | cursor id =>
    rw [name, Address.ofString?_cursorName] at read
    cases read

/-- **Different files of a store have different names.** -/
theorem name_injective {left right : StoreFile} (same : left.name = right.name) :
    left = right := by
  cases left with
  | record address =>
    exact (eq_record_of_ofString? (same ▸ ofString?_name_record address)).symm
  | lock =>
    cases right with
    | lock => rfl
    | record address => exact eq_record_of_ofString? (same ▸ ofString?_name_record address)
    | cursor id => exact absurd same (lockName_ne_cursorName id)
  | cursor id =>
    cases right with
    | lock => exact absurd same.symm (lockName_ne_cursorName id)
    | record address => exact eq_record_of_ofString? (same ▸ ofString?_name_record address)
    | cursor other => rw [cursorName_injective same]

/-- Different files of a store stand at different places. -/
theorem place_ne {left right : StoreFile} (different : left ≠ right) (location : Location) :
    left.name :: location ≠ right.name :: location := by
  intro same
  exact different (name_injective (List.cons.inj same).1)

/-- A name that starts with a point is no name of a file that is kept. -/
theorem name_ne_of_point {text : String} {rest : List Char} (shape : text.toList = '.' :: rest)
    (file : StoreFile) : file.name ≠ text := by
  intro same
  have chars := congrArg String.toList same
  rw [shape] at chars
  cases file with
  | lock => exact absurd (List.cons.inj chars).1 (by decide)
  | record address =>
    have unread := Address.ofString?_eq_none shape (by decide) (by decide)
    rw [← same, ofString?_name_record] at unread
    cases unread
  | cursor id =>
    rw [name, toList_cursorName] at chars
    exact absurd (List.cons.inj chars).1 (by decide)

/-- **A temporary file is none of the files that are kept.** -/
theorem name_ne_temporaryName (file : StoreFile) (name : String) :
    file.name ≠ temporaryName name := name_ne_of_point (toList_temporaryName name) file

end StoreFile

end AddressPool
