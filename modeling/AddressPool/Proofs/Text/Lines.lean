import Mathlib.Data.List.TakeWhile
import AddressPool.Text.Blank

/-!
# Lines and what is around their text

A line of a text starts where the text starts or behind a line feed, and it ends where the text ends
or in front of a line break, which is a line feed or a carriage return followed by one
(`Text.IsLine`).  A carriage return is a blank.  So the lines of a text, trimmed, are the pieces
between its line feeds, trimmed (`Text.exists_line_iff`), whichever line breaks there are.

Trimming a text takes the blanks away around what neither starts nor ends with one, and this is the
only way to write the text like that (`Text.trim_eq_iff`).
-/

namespace AddressPool.Text

set_option autoImplicit false

variable {text line piece : List Char}

/-! ## Trimming -/

/-- A text that neither starts nor ends with a blank. -/
structure Solid (text : List Char) : Prop where
  head : ∀ char, text.head? = some char → isBlank char = false
  last : ∀ char, text.getLast? = some char → isBlank char = false

/-- A text that consists of blanks. -/
def Blank (text : List Char) : Prop := ∀ char ∈ text, isBlank char = true

/-- What is no blank is not among blanks. -/
theorem Blank.notMem (blank : Blank text) {char : Char} (visible : isBlank char = false) :
    char ∉ text := by
  intro member
  rw [blank char member] at visible
  cases visible

/-- A text in which no character is a blank neither starts nor ends with one. -/
theorem Solid.of_forall (visible : ∀ char ∈ text, isBlank char = false) : Solid text where
  head char first := visible char (List.mem_of_head? first)
  last char final := visible char (List.mem_of_getLast? final)

/-- What is left of a text without the blanks that it starts with. -/
theorem trimStart_append {front : List Char} (blank : Blank front)
    (head : ∀ char, text.head? = some char → isBlank char = false) :
    trimStart (front ++ text) = text := by
  rw [trimStart, List.dropWhile_append_of_pos blank]
  cases text with
  | nil => rfl
  | cons char rest =>
    rw [List.dropWhile_cons_of_neg]
    simp [head char rfl]

theorem exists_trimStart (text : List Char) :
    ∃ front, Blank front ∧ text = front ++ trimStart text ∧
      ∀ char, (trimStart text).head? = some char → isBlank char = false := by
  refine ⟨text.takeWhile isBlank, ?_, List.takeWhile_append_dropWhile.symm, ?_⟩
  · intro char member
    exact List.mem_takeWhile_imp member
  · intro char found
    have stopped := List.head?_dropWhile_not isBlank text
    rw [trimStart] at found
    rw [found] at stopped
    simpa using stopped

/-- What is left of a text without the blanks that it ends with. -/
theorem trimEnd_append {back : List Char} (blank : Blank back)
    (last : ∀ char, text.getLast? = some char → isBlank char = false) :
    trimEnd (text ++ back) = text := by
  have reversed : Blank back.reverse := fun char member => blank char (List.mem_reverse.mp member)
  rw [trimEnd, List.reverse_append, trimStart_append reversed, List.reverse_reverse]
  intro char found
  rw [List.head?_reverse] at found
  exact last char found

theorem exists_trimEnd (text : List Char) :
    ∃ back, Blank back ∧ text = trimEnd text ++ back ∧
      ∀ char, (trimEnd text).getLast? = some char → isBlank char = false := by
  obtain ⟨front, blank, shape, head⟩ := exists_trimStart text.reverse
  refine ⟨front.reverse, ?_, ?_, ?_⟩
  · exact fun char member => blank char (List.mem_reverse.mp member)
  · rw [trimEnd, ← List.reverse_append, ← shape, List.reverse_reverse]
  · intro char found
    rw [trimEnd, List.getLast?_reverse] at found
    exact head char found

/-- **A trimmed text is what is left between the blanks on both ends.** -/
theorem trim_eq_iff :
    trim line = text ↔
      Solid text ∧ ∃ front back, Blank front ∧ Blank back ∧ line = front ++ text ++ back := by
  constructor
  · rintro rfl
    obtain ⟨front, blank_front, shape, head⟩ := exists_trimStart line
    obtain ⟨back, blank_back, rest, last⟩ := exists_trimEnd (trimStart line)
    refine ⟨⟨?_, last⟩, front, back, blank_front, blank_back, ?_⟩
    · intro char found
      refine head char ?_
      rw [trim] at found
      rw [rest, List.head?_append, found]
      rfl
    · rw [List.append_assoc, trim, ← rest, ← shape]
  · rintro ⟨solid, front, back, blank_front, blank_back, rfl⟩
    by_cases vacant : text = []
    · subst vacant
      have blank : Blank (front ++ [] ++ back) := by
        rw [List.append_nil]
        intro char member
        rcases List.mem_append.mp member with here | there
        · exact blank_front char here
        · exact blank_back char there
      have nothing : trimStart (front ++ [] ++ back ++ []) = [] := trimStart_append blank nofun
      rw [List.append_nil] at nothing
      rw [trim, nothing]
      rfl
    · have head : ∀ char, (text ++ back).head? = some char → isBlank char = false := by
        obtain ⟨first, rest, rfl⟩ := List.exists_cons_of_ne_nil vacant
        exact solid.head
      rw [trim, List.append_assoc, trimStart_append blank_front head,
        trimEnd_append blank_back solid.last]

/-- Blanks behind a text are trimmed away. -/
theorem trim_append {back : List Char} (blank : Blank back) : trim (line ++ back) = trim line := by
  have trimmed : trim line = trim line := rfl
  obtain ⟨solid, front, behind, blank_front, blank_behind, shape⟩ := trim_eq_iff.mp trimmed
  refine trim_eq_iff.mpr ⟨solid, front, behind ++ back, blank_front, ?_, ?_⟩
  · intro char member
    rcases List.mem_append.mp member with here | there
    · exact blank_behind char here
    · exact blank char there
  · rw [← List.append_assoc, ← shape]

/-! ## Lines -/

/-- The places where a line can start: at the start of the text, and behind a line feed. -/
def StartsLine (before : List Char) : Prop := before = [] ∨ ∃ earlier, before = earlier ++ ['\n']

/-- The places where a line can end: at the end of the text, and in front of a line break.  A
carriage return in front of a line feed belongs to the line break. -/
inductive EndsLine (line : List Char) : List Char → Prop where
  | text : EndsLine line []
  | feed (rest : List Char) (plain : line.getLast? ≠ some '\r') : EndsLine line ('\n' :: rest)
  | returnFeed (rest : List Char) : EndsLine line ('\r' :: '\n' :: rest)

/-- A line of a text. -/
structure IsLine (text line : List Char) : Prop where
  unbroken : '\n' ∉ line
  stands : ∃ before after, text = before ++ line ++ after ∧ StartsLine before ∧ EndsLine line after

/-- The pieces of a text between its line feeds. -/
theorem mem_splitOn_iff :
    piece ∈ text.splitOn '\n' ↔ '\n' ∉ piece ∧ ∃ before after, text = before ++ piece ++ after ∧
      StartsLine before ∧ (after = [] ∨ ∃ rest, after = '\n' :: rest) := by
  constructor
  · intro member
    -- The induction is on the number of characters: behind the first line feed there are fewer.
    generalize size : text.length = count
    induction count using Nat.strongRecOn generalizing text with
    | ind count ih =>
      by_cases broken : '\n' ∈ text
      · obtain ⟨front, rest, shape, unbroken⟩ := List.eq_append_cons_of_mem broken
        rw [shape, List.splitOn_append_cons_self_of_not_mem unbroken] at member
        rcases List.mem_cons.mp member with rfl | later
        · exact ⟨unbroken, [], '\n' :: rest, shape, .inl rfl, .inr ⟨rest, rfl⟩⟩
        · have fewer : rest.length < count := by
            rw [← size, shape, List.length_append, List.length_cons]
            omega
          obtain ⟨without, before, after, parts, start, stop⟩ := ih _ fewer later rfl
          refine ⟨without, front ++ '\n' :: before, after, ?_, .inr ?_, stop⟩
          · rw [shape, parts]
            simp only [List.append_assoc, List.cons_append]
          · rcases start with rfl | ⟨earlier, rfl⟩
            · exact ⟨front, rfl⟩
            · exact ⟨front ++ '\n' :: earlier, by simp⟩
      · rw [List.splitOn_eq_singleton broken, List.mem_singleton] at member
        subst member
        exact ⟨broken, [], [], by simp, .inl rfl, .inl rfl⟩
  · rintro ⟨unbroken, before, after, shape, start, stop⟩
    have first : piece ∈ (piece ++ after).splitOn '\n' := by
      rcases stop with rfl | ⟨rest, rfl⟩
      · rw [List.append_nil, List.splitOn_eq_singleton unbroken]
        exact List.mem_singleton_self piece
      · rw [List.splitOn_append_cons_self_of_not_mem unbroken]
        exact List.mem_cons_self ..
    rcases start with rfl | ⟨earlier, rfl⟩
    · rw [shape]
      exact first
    · rw [shape, List.append_assoc, List.append_assoc, List.singleton_append,
        List.splitOn_append_cons_self]
      exact List.mem_append_right _ first

/-- A carriage return in front of a line feed makes no difference to a line that is trimmed. -/
theorem trim_return : trim (line ++ ['\r']) = trim line := by
  refine trim_append ?_
  intro char member
  rw [List.mem_singleton.mp member]
  decide

/-- **The lines of a text, trimmed, are the pieces between its line feeds, trimmed.** -/
theorem exists_line_iff {owner : List Char} :
    (∃ line, IsLine text line ∧ trim line = owner) ↔
      ∃ piece ∈ text.splitOn '\n', trim piece = owner := by
  constructor
  · rintro ⟨line, ⟨unbroken, before, after, shape, start, stop⟩, trimmed⟩
    cases stop with
    | text =>
      refine ⟨line, mem_splitOn_iff.mpr ?_, trimmed⟩
      exact ⟨unbroken, before, [], shape, start, .inl rfl⟩
    | feed rest plain =>
      refine ⟨line, mem_splitOn_iff.mpr ?_, trimmed⟩
      exact ⟨unbroken, before, '\n' :: rest, shape, start, .inr ⟨rest, rfl⟩⟩
    | returnFeed rest =>
      -- The piece is the line with the carriage return.
      refine ⟨line ++ ['\r'], mem_splitOn_iff.mpr ?_, trim_return.trans trimmed⟩
      refine ⟨?_, before, '\n' :: rest, ?_, start, .inr ⟨rest, rfl⟩⟩
      · rw [List.mem_append, not_or]
        exact ⟨unbroken, by decide⟩
      · rw [shape]
        simp
  · rintro ⟨piece, member, trimmed⟩
    obtain ⟨unbroken, before, after, shape, start, stop⟩ := mem_splitOn_iff.mp member
    rcases stop with rfl | ⟨rest, rfl⟩
    · exact ⟨piece, ⟨unbroken, before, [], shape, start, .text⟩, trimmed⟩
    · by_cases returned : piece.getLast? = some '\r'
      · obtain ⟨line, rfl⟩ := List.getLast?_eq_some_iff.mp returned
        rw [List.mem_append, not_or] at unbroken
        refine ⟨line, ⟨unbroken.1, before, '\r' :: '\n' :: rest, ?_, start, .returnFeed rest⟩,
          trim_return.symm.trans trimmed⟩
        rw [shape]
        simp
      · exact ⟨piece, ⟨unbroken, before, '\n' :: rest, shape, start, .feed rest returned⟩, trimmed⟩

end AddressPool.Text
