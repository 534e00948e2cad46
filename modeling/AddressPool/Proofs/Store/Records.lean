import AddressPool.Proofs.Address.Text
import AddressPool.Store.Disk

/-!
# Texts of records and cursors

A record is an owner and an interface with a line break between them.  As long as
neither has a line break in it they are read back verbatim, blanks and carriage
returns included.  A cursor is the text of an address, and is read back as that
address because there are no blanks in it that could be trimmed.
-/

namespace AddressPool

set_option autoImplicit false

theorem brokenField?_eq_none_iff {owner interface : String} :
    Disk.brokenField? owner interface = none ↔
      '\n' ∉ owner.toList ∧ '\n' ∉ interface.toList := by
  unfold Disk.brokenField?
  rw [List.contains_eq_mem, List.contains_eq_mem]
  by_cases first : '\n' ∈ owner.toList
  · simp [first]
  · by_cases second : '\n' ∈ interface.toList
    · simp [first, second]
    · simp [first, second]

theorem splitLine_append {owner : List Char} (unbroken : '\n' ∉ owner) (interface : List Char) :
    splitLine (owner ++ '\n' :: interface) = (owner, interface) := by
  induction owner with
  | nil => rfl
  | cons char rest ih =>
    rw [List.mem_cons, not_or] at unbroken
    obtain ⟨different, later⟩ := unbroken
    rw [List.cons_append, splitLine, ih later]
    intro same
    exact different same.symm

/-- **What is written as a record is read back.** -/
theorem readRecord_recordText {owner interface : String}
    (unbroken : Disk.brokenField? owner interface = none) :
    readRecord (recordText owner interface) = (owner, interface) := by
  obtain ⟨first, second⟩ := brokenField?_eq_none_iff.mp unbroken
  have shape : (recordText owner interface).toList = owner.toList ++ '\n' :: interface.toList := by
    have line : "\n".toList = ['\n'] := rfl
    rw [recordText, String.toList_append, String.toList_append, line, List.append_assoc,
      List.singleton_append]
  have whole : withoutFinalBreak interface.toList = interface.toList := by
    rw [withoutFinalBreak, if_neg]
    intro last
    exact second (List.mem_of_getLast? last)
  simp only [readRecord, shape, splitLine_append first, whole, String.ofList_toList]

namespace Text

theorem trimStart_eq_self {text : List Char} (solid : ∀ char ∈ text, isBlank char = false) :
    trimStart text = text := by
  cases text with
  | nil => rfl
  | cons char rest =>
    rw [trimStart, List.dropWhile_cons_of_neg]
    simp [solid char (List.mem_cons_self ..)]

/-- A text without blanks is left as it is. -/
theorem trim_eq_self {text : List Char} (solid : ∀ char ∈ text, isBlank char = false) :
    trim text = text := by
  have reversed : ∀ char ∈ text.reverse, isBlank char = false := by
    intro char member
    exact solid char (List.mem_reverse.mp member)
  rw [trim, trimStart_eq_self solid, trimEnd, trimStart_eq_self reversed, List.reverse_reverse]

end Text

/-- No blank is a digit, a colon or a point. -/
theorem Address.isBlank_of_isTextual {char : Char} (textual : IsTextual char) :
    Text.isBlank char = false := by
  have code : (48 ≤ char.toNat ∧ char.toNat ≤ 57) ∨ (97 ≤ char.toNat ∧ char.toNat ≤ 102) ∨
      (65 ≤ char.toNat ∧ char.toNat ≤ 70) ∨ char.toNat = 58 ∨ char.toNat = 46 := by
    rcases textual with digit | rfl | rfl
    · unfold Numeral.digitValue? at digit
      split at digit
      · rename_i within
        exact .inl within
      · split at digit
        · rename_i within
          exact .inr (.inl within)
        · split at digit
          · rename_i within
            exact .inr (.inr (.inl within))
          · cases digit
    · decide
    · decide
  unfold Text.isBlank
  simp only [Bool.or_eq_false_iff, decide_eq_false_iff_not, beq_eq_false_iff_ne]
  omega

/-- **What is written as a cursor is read back.** -/
theorem Address.ofChars?_trim_text (address : Address) :
    ofChars? (Text.trim address.text.toList) = some address := by
  have solid : ∀ char ∈ address.chars, Text.isBlank char = false := by
    intro char member
    exact isBlank_of_isTextual (mem_chars member)
  rw [toList_text, Text.trim_eq_self solid, ofChars?_chars]

end AddressPool
