import AddressPool.Json.Value
import AddressPool.Json.Writer
import AddressPool.Proofs.Text.Numerals

/-!
# Strings and numbers that are read back

Every string is read back as it was written, whatever characters are in it
(`string_written`): each of them comes back from the way it is escaped, and none of them
ends the string.  A natural number below the limit of 64 bits is read back if no digit,
point or exponent follows it (`number_written`).

What may follow a value that has been written is the end of the text, a comma or a closing
bracket (`Follows`), and a value is read back if this is so whatever follows it (`Reads`).
-/

namespace AddressPool.Json

set_option autoImplicit false

/-! ## Readers in sequence -/

namespace Reader

variable {α β : Type} {reader : Reader α} {follow : α → Reader β} {value : α}
variable {text rest : List Char}

theorem bind_ok (read : reader text = .ok (value, rest)) :
    (reader >>= follow) text = follow value rest := by
  change (reader text).bind _ = _
  rw [read]
  rfl

theorem peek_cons {char : Char} (solid : isSpace char = false) (rest : List Char) :
    peek (char :: rest) = .ok (some char, char :: rest) := by
  rw [peek, List.dropWhile_cons_of_neg (by simp [solid])]
  rfl

end Reader

/-! ## What may follow a value -/

/-- The text ends, or it goes on with a comma or a closing bracket. -/
def Follows : List Char → Prop
  | [] => True
  | char :: _ => char = ',' ∨ char = ']' ∨ char = '\x7d'

/-- A reader reads a value back from what has been written for it, whatever follows.  A value that
has been written starts with neither a blank nor a closing bracket of a list. -/
structure Reads {α : Type} (reader : Reader α) (written : List Char) (value : α) : Prop where
  solid : ∃ char rest, written = char :: rest ∧ isSpace char = false ∧ char ≠ ']'
  back : ∀ rest, Follows rest → reader (written ++ rest) = .ok (value, rest)

/-- There is at least one character for each thing that is written. -/
theorem length_le_flatMap {α : Type} {write : α → List Char} (filled : ∀ value, write value ≠ [])
    (values : List α) : values.length ≤ (values.flatMap write).length := by
  induction values with
  | nil => exact Nat.le_refl 0
  | cons value rest ih =>
    have one := List.length_pos_iff.mpr (filled value)
    rw [List.flatMap_cons, List.length_append, List.length_cons]
    omega

/-! ## Strings -/

theorem escapeChar_ne_nil (char : Char) : escapeChar char ≠ [] := by
  unfold escapeChar
  iterate 8
    split
    · exact List.cons_ne_nil _ _
  exact List.cons_ne_nil _ _

/-- The digits of an escaped control character are read as its code. -/
theorem hexCode_control {code : Nat} (control : code < 0x20) (rest : List Char) :
    hexCode ((Numeral.split 16 4 code).flatMap Numeral.hexadecimal ++ rest) = .ok (code, rest) := by
  have digits : ∀ code < 0x20,
      ((Numeral.split 16 4 code).flatMap Numeral.hexadecimal).length = 4 ∧
        byteCount ((Numeral.split 16 4 code).flatMap Numeral.hexadecimal) = 4 ∧
        Numeral.read? 16 4 ((Numeral.split 16 4 code).flatMap Numeral.hexadecimal) =
          some code := by decide
  obtain ⟨length, bytes, read⟩ := digits code control
  rw [hexCode, List.take_left' length, List.drop_left' length, read, bytes, length]
  rfl

/-- A letter behind a backslash is read as the character that it stands for. -/
theorem escaped_letter {letter char : Char} (stands : plainEscape? letter = some char)
    (rest : List Char) : escaped (letter :: rest) = .ok (char, rest) := by
  have other : letter ≠ 'u' := by
    rintro rfl
    cases stands
  have here : peekHere (letter :: rest) = .ok (some letter, letter :: rest) := rfl
  rw [escaped, Reader.bind_ok here]
  simp only [stands]
  rfl

/-- The code behind a backslash is read as the control character. -/
theorem escaped_control {char : Char} (control : char.toNat < 0x20) (rest : List Char) :
    escaped ('u' :: ((Numeral.split 16 4 char.toNat).flatMap Numeral.hexadecimal ++ rest)) =
      .ok (char, rest) := by
  have read : escapedCode
      ((Numeral.split 16 4 char.toNat).flatMap Numeral.hexadecimal ++ rest) = .ok (char, rest) := by
    rw [escapedCode, Reader.bind_ok (hexCode_control control rest), if_neg (by omega),
      if_pos (by omega), Char.ofNat_toNat]
    rfl
  exact read

section Body

variable {fuel : Nat} {tail chars rest : List Char}
variable (read : stringBody fuel tail = .ok (chars, rest))
include read

/-- Behind a backslash stands one character, and then the string goes on. -/
theorem stringBody_backslash {char : Char} {text : List Char}
    (code : escaped text = .ok (char, tail)) :
    stringBody (fuel + 1) ('\\' :: text) = .ok (char :: chars, rest) := by
  change (escaped >>= fun char => stringBody fuel >>= fun later => pure (char :: later)) text = _
  rw [Reader.bind_ok code, Reader.bind_ok read]
  rfl

/-- A character that need not be escaped stands for itself. -/
theorem stringBody_plain {char : Char} (quote : char ≠ '"') (backslash : char ≠ '\\')
    (printable : ¬ char.toNat < 0x20) :
    stringBody (fuel + 1) (char :: tail) = .ok (char :: chars, rest) := by
  have here : peekHere (char :: tail) = .ok (some char, char :: tail) := rfl
  rw [stringBody, Reader.bind_ok here]
  simp only [printable]
  change (stringBody fuel >>= fun later => pure (char :: later)) tail = _
  rw [Reader.bind_ok read]
  rfl

/-- A character comes back from the way it is escaped, in front of what has been read back. -/
theorem stringBody_escapeChar (char : Char) :
    stringBody (fuel + 1) (escapeChar char ++ tail) = .ok (char :: chars, rest) := by
  unfold escapeChar
  split
  · rename_i quote
    exact stringBody_backslash read (escaped_letter (by rw [quote]; rfl) tail)
  rename_i quote
  split
  · rename_i backslash
    exact stringBody_backslash read (escaped_letter (by rw [backslash]; rfl) tail)
  rename_i backslash
  iterate 5
    split
    · rename_i same
      exact stringBody_backslash read (escaped_letter (by rw [same]; rfl) tail)
  split
  · rename_i control
    rw [List.append_assoc]
    exact stringBody_backslash read (escaped_control control tail)
  · rename_i printable
    exact stringBody_plain read quote backslash printable

end Body

/-- The characters of a string come back, and the string ends at its closing quote. -/
theorem stringBody_written (chars rest : List Char) {fuel : Nat} (enough : chars.length < fuel) :
    stringBody fuel (chars.flatMap escapeChar ++ '"' :: rest) = .ok (chars, rest) := by
  induction chars generalizing fuel with
  | nil =>
    obtain ⟨fuel, rfl⟩ := Nat.exists_eq_add_one.mpr enough
    rfl
  | cons char chars ih =>
    obtain ⟨fuel, rfl⟩ := Nat.exists_eq_add_one.mpr (Nat.zero_lt_of_lt enough)
    rw [List.flatMap_cons, List.append_assoc]
    exact stringBody_escapeChar (ih (Nat.lt_of_succ_lt_succ enough)) char

/-- **A string is read back as it was written.** -/
theorem string_written (text : String) (rest : List Char) :
    string (writeString text ++ rest) = .ok (text, rest) := by
  have shape : writeString text ++ rest =
      '"' :: (text.toList.flatMap escapeChar ++ '"' :: rest) := by
    rw [writeString, List.cons_append, List.cons_append, List.append_assoc, List.singleton_append]
  have length := length_le_flatMap escapeChar_ne_nil text.toList
  have enough : text.toList.length <
      (text.toList.flatMap escapeChar ++ '"' :: rest).length + 1 := by
    rw [List.length_append]
    omega
  have body := stringBody_written text.toList rest enough
  rw [shape]
  change (stringBody ((text.toList.flatMap escapeChar ++ '"' :: rest).length + 1) >>=
    fun chars => pure (String.ofList chars)) (text.toList.flatMap escapeChar ++ '"' :: rest) = _
  rw [Reader.bind_ok body, String.ofList_toList]
  rfl

theorem solid_writeString (text : String) :
    ∃ char rest, writeString text = char :: rest ∧ isSpace char = false ∧ char ≠ ']' :=
  ⟨'"', _, rfl, rfl, by decide⟩

/-- A string is read where one is expected. -/
theorem reads_expectString (expected text : String) :
    Reads (expectString expected) (writeString text) text := by
  refine ⟨solid_writeString text, fun rest _ => ?_⟩
  have first : peek (writeString text ++ rest) = .ok (some '"', writeString text ++ rest) := rfl
  rw [expectString, Reader.bind_ok first]
  exact string_written text rest

/-- A string is read where null might stand. -/
theorem reads_optionalString (expected text : String) :
    Reads (optionalString expected) (writeString text) (some text) := by
  refine ⟨solid_writeString text, fun rest follows => ?_⟩
  have first : peek (writeString text ++ rest) = .ok (some '"', writeString text ++ rest) := rfl
  rw [optionalString, Reader.bind_ok first]
  change (expectString expected >>= fun text => pure (some text)) _ = _
  rw [Reader.bind_ok ((reads_expectString expected text).back rest follows)]
  rfl

/-! ## Numbers -/

/-- A digit is not a blank. -/
theorem isSpace_of_isDigit {char : Char} (decimal : isDigit char = true) :
    isSpace char = false := by
  rw [Bool.eq_false_iff]
  intro space
  simp only [isSpace, Bool.or_eq_true, beq_iff_eq] at space
  rcases space with ((rfl | rfl) | rfl) | rfl <;> cases decimal

/-- A digit below ten is one of the ten decimal digits. -/
theorem isDigit_of_digit? {digit : Char} {value : Nat}
    (read : Numeral.digit? 10 digit = some value) :
    isDigit digit = true ∧ digit.toNat - '0'.toNat = value := by
  simp only [Numeral.digit?, Option.bind_eq_bind, Option.bind_eq_some_iff] at read
  obtain ⟨number, known, small⟩ := read
  split at small
  · obtain rfl := Option.some.inj small
    unfold Numeral.digitValue? at known
    split at known
    · rename_i within
      exact ⟨decide_eq_true within, Option.some.inj known⟩
    · -- The letters stand for ten and more.
      split at known
      · obtain rfl := Option.some.inj known
        omega
      · split at known
        · obtain rfl := Option.some.inj known
          omega
        · cases known
  · cases small

theorem readFrom_cons {digit : Char} {digits : List Char} {soFar number : Nat}
    (read : Numeral.readFrom 10 soFar (digit :: digits) = some number) :
    isDigit digit = true ∧
      Numeral.readFrom 10 (soFar * 10 + (digit.toNat - '0'.toNat)) digits = some number := by
  simp only [Numeral.readFrom, Option.bind_eq_bind, Option.bind_eq_some_iff] at read
  obtain ⟨value, known, later⟩ := read
  obtain ⟨decimal, rfl⟩ := isDigit_of_digit? known
  exact ⟨decimal, later⟩

theorem isDigit_of_readFrom {digits : List Char} {soFar number : Nat}
    (read : Numeral.readFrom 10 soFar digits = some number) :
    ∀ digit ∈ digits, isDigit digit = true := by
  induction digits generalizing soFar with
  | nil => nofun
  | cons digit rest ih =>
    obtain ⟨decimal, later⟩ := readFrom_cons read
    rw [List.forall_mem_cons]
    exact ⟨decimal, ih later⟩

/-- Further digits do not make a number smaller. -/
theorem le_of_readFrom {digits : List Char} {soFar number : Nat}
    (read : Numeral.readFrom 10 soFar digits = some number) : soFar ≤ number := by
  induction digits generalizing soFar with
  | nil => exact Nat.le_of_eq (Option.some.inj read)
  | cons digit rest ih =>
    have later := ih (readFrom_cons read).2
    omega

/-- All digits of a number that fits into the significand are gathered. -/
theorem gather_of_readFrom {digits : List Char} {soFar number : Nat}
    (read : Numeral.readFrom 10 soFar digits = some number) (fits : number ≤ significandLimit) :
    gather soFar digits = (number, digits.length) := by
  induction digits generalizing soFar with
  | nil =>
    obtain rfl := Option.some.inj read
    rfl
  | cons digit rest ih =>
    have later := (readFrom_cons read).2
    have small := Nat.not_lt.mpr (Nat.le_trans (le_of_readFrom later) fits)
    rw [gather]
    simp only [small, if_false, ih later, List.length_cons]

/-- The digits of a number end where something else follows. -/
theorem digits_written {whole rest : List Char} (decimal : ∀ digit ∈ whole, isDigit digit = true)
    (follows : Follows rest) : digits (whole ++ rest) = .ok (whole, rest) := by
  have ends : rest.takeWhile isDigit = [] ∧ rest.dropWhile isDigit = rest := by
    cases rest with
    | nil => exact ⟨rfl, rfl⟩
    | cons char others => rcases follows with rfl | rfl | rfl <;> exact ⟨rfl, rfl⟩
  rw [digits, List.takeWhile_append_of_pos decimal, List.dropWhile_append_of_pos decimal, ends.1,
    ends.2, List.append_nil]

/-- What follows an integer that has been read as a whole does not make it a double. -/
theorem afterInteger_written (number : Nat) {rest : List Char} (follows : Follows rest) :
    afterInteger false number 0 rest = .ok (.natural number, rest) := by
  cases rest with
  | nil => rfl
  | cons char others => rcases follows with rfl | rfl | rfl <;> rfl

/-- The digits of a number are decimal digits. -/
theorem isDigit_of_writeNat (number : Nat) : ∀ digit ∈ writeNat number, isDigit digit = true :=
  isDigit_of_readFrom (Numeral.readFrom_toDigits (by decide : 1 < 10) (by decide) number)

/-- A number begins with a digit. -/
theorem writeNat_cons (number : Nat) :
    ∃ digit others, writeNat number = digit :: others ∧ isDigit digit = true := by
  obtain ⟨digit, others, shape⟩ :=
    List.exists_cons_of_ne_nil (Nat.toDigits_ne_nil (n := number) (b := 10))
  refine ⟨digit, others, shape, isDigit_of_writeNat number digit ?_⟩
  rw [writeNat, Numeral.decimal, shape]
  exact List.mem_cons_self

/-- A number without a sign is read at once. -/
theorem number_of_head? {text : List Char} (signless : text.head? ≠ some '-') :
    Json.number text = unsigned false text := by
  have here : peekHere text = .ok (text.head?, text) := rfl
  rw [Json.number, Reader.bind_ok here]
  generalize text.head? = next at signless ⊢
  split
  · exact absurd rfl signless
  · rfl

/-- **A natural number that fits into 64 bits is read back as it was written.** -/
theorem number_written {number : Nat} (fits : number ≤ significandLimit) {rest : List Char}
    (follows : Follows rest) :
    Json.number (writeNat number ++ rest) = .ok (.natural number, rest) := by
  obtain ⟨first, others, shape, leading⟩ := writeNat_cons number
  have signless : (writeNat number ++ rest).head? ≠ some '-' := by
    rw [shape]
    rintro minus
    obtain rfl := Option.some.inj minus
    cases leading
  have here : peekHere (writeNat number ++ rest) = .ok (some first, writeNat number ++ rest) := by
    rw [shape]
    rfl
  have whole : digits (writeNat number ++ rest) = .ok (writeNat number, rest) :=
    digits_written (isDigit_of_writeNat number) follows
  have gathered : gather 0 (writeNat number) = (number, (writeNat number).length) :=
    gather_of_readFrom (Numeral.readFrom_toDigits (by decide) (by decide) number) fits
  have canonical : Numeral.hasLeadingZero (writeNat number) = false :=
    Numeral.hasLeadingZero_decimal number
  rw [number_of_head? signless, unsigned, Reader.bind_ok here]
  simp only [leading, Bool.not_true, Bool.false_eq_true, if_false]
  rw [Reader.bind_ok whole]
  simp only [canonical, Bool.false_eq_true, if_false, gathered, Nat.sub_self]
  exact afterInteger_written number follows

end AddressPool.Json
