import AddressPool.Text.Numeral

/-!
# Reading numerals back

A numeral that is written in a base up to sixteen is read back as its number, as
long as the reader takes that many digits (`read?_toDigits`).  A decimal numeral
has no leading zero, and whatever is read at all consists of digits
(`digits_of_read?`), so that no separator is ever part of a numeral.
-/

namespace AddressPool.Numeral

set_option autoImplicit false

variable {base : Nat}

/-- A digit of the writer has the value that it is written for. -/
theorem digit?_digitChar (small : base ≤ 16) {value : Nat} (proper : value < base) :
    digit? base value.digitChar = some value := by
  have values : ∀ value < 16, digitValue? (Nat.digitChar value) = some value := by decide
  simp only [digit?, values value (by omega), Option.bind_eq_bind, Option.bind_some,
    if_pos proper]

theorem readFrom_append (soFar : Nat) (front back : List Char) :
    readFrom base soFar (front ++ back) =
      (readFrom base soFar front).bind fun number => readFrom base number back := by
  induction front generalizing soFar with
  | nil => rfl
  | cons digit rest ih =>
    simp only [List.cons_append, readFrom, ih, Option.bind_eq_bind, Option.bind_assoc]

/-- A written numeral has the value of its number. -/
theorem readFrom_toDigits (proper : 1 < base) (small : base ≤ 16) (number : Nat) :
    readFrom base 0 (Nat.toDigits base number) = some number := by
  induction number using Nat.strongRecOn with
  | ind number ih =>
    rw [Nat.toDigits_eq_if proper]
    split
    · rename_i single
      simp [readFrom, digit?_digitChar small single]
    · rename_i several
      have fewer : number / base < number := Nat.div_lt_self (by omega) proper
      have last := digit?_digitChar small (Nat.mod_lt number (by omega : 0 < base))
      rw [readFrom_append, ih _ fewer]
      simp only [Option.bind_some, readFrom, last, Option.bind_eq_bind, Option.some.injEq]
      exact Nat.div_add_mod' number base

/-- A written numeral is read back, if the reader takes enough digits. -/
theorem read?_toDigits (proper : 1 < base) (small : base ≤ 16) {limit number : Nat}
    (positive : 0 < limit) (bound : number < base ^ limit) :
    read? base limit (Nat.toDigits base number) = some number := by
  have short := (Nat.length_toDigits_le_iff proper positive).mpr bound
  have nonempty : (Nat.toDigits base number).isEmpty = false :=
    List.isEmpty_eq_false_iff.mpr Nat.toDigits_ne_nil
  rw [read?, nonempty, decide_eq_false (by omega), readFrom_toDigits proper small]
  rfl

/-- Only digits are read. -/
theorem digits_of_readFrom {soFar number : Nat} {digits : List Char}
    (found : readFrom base soFar digits = some number) :
    ∀ char ∈ digits, (digitValue? char).isSome = true := by
  induction digits generalizing soFar with
  | nil => simp
  | cons digit rest ih =>
    simp only [readFrom, digit?, Option.bind_eq_bind, Option.bind_eq_some_iff] at found
    obtain ⟨value, ⟨value', known, _⟩, later⟩ := found
    rintro char (_ | ⟨_, member⟩)
    · rw [known]
      rfl
    · exact ih later char member

/-- A numeral that can be read is not empty and consists of digits. -/
theorem digits_of_read? {limit number : Nat} {digits : List Char}
    (found : read? base limit digits = some number) :
    digits ≠ [] ∧ ∀ char ∈ digits, (digitValue? char).isSome = true := by
  unfold read? at found
  split at found
  · cases found
  · rename_i accepted
    refine ⟨?_, digits_of_readFrom found⟩
    rintro rfl
    simp at accepted

/-- Written numerals consist of digits. -/
theorem digits_of_toDigits (proper : 1 < base) (small : base ≤ 16) (number : Nat) :
    ∀ char ∈ Nat.toDigits base number, (digitValue? char).isSome = true :=
  digits_of_readFrom (readFrom_toDigits proper small number)

theorem head?_decimal_ne_zero {number : Nat} (positive : 0 < number) :
    (decimal number).head? ≠ some '0' := by
  induction number using Nat.strongRecOn with
  | ind number ih =>
    rw [decimal, Nat.toDigits_eq_if (by decide)]
    split
    · rename_i single
      have digits : ∀ value < 10, 0 < value → Nat.digitChar value ≠ '0' := by decide
      simpa using digits number single positive
    · rename_i several
      have first := ih (number / 10) (by omega) (by omega)
      rw [decimal] at first
      obtain ⟨leading, rest, shape⟩ := List.exists_cons_of_ne_nil
        (Nat.toDigits_ne_nil (n := number / 10) (b := 10))
      rw [shape] at first ⊢
      exact first

/-- A decimal numeral has no leading zero. -/
theorem hasLeadingZero_decimal (number : Nat) : hasLeadingZero (decimal number) = false := by
  rcases Nat.eq_zero_or_pos number with rfl | positive
  · rfl
  · have first := head?_decimal_ne_zero positive
    unfold hasLeadingZero
    split
    · rename_i shape
      rw [shape] at first
      exact absurd rfl first
    · rfl

theorem read?_decimal {limit number : Nat} (positive : 0 < limit) (bound : number < 10 ^ limit) :
    read? 10 limit (decimal number) = some number :=
  read?_toDigits (by decide) (by decide) positive bound

theorem read?_hexadecimal {limit number : Nat} (positive : 0 < limit)
    (bound : number < 16 ^ limit) : read? 16 limit (hexadecimal number) = some number :=
  read?_toDigits (by decide) (by decide) positive bound

theorem digits_of_decimal (number : Nat) :
    ∀ char ∈ decimal number, (digitValue? char).isSome = true :=
  digits_of_toDigits (by decide) (by decide) number

theorem digits_of_hexadecimal (number : Nat) :
    ∀ char ∈ hexadecimal number, (digitValue? char).isSome = true :=
  digits_of_toDigits (by decide) (by decide) number

theorem hexadecimal_ne_nil (number : Nat) : hexadecimal number ≠ [] := Nat.toDigits_ne_nil

/-- The digits of a split are below the base. -/
theorem lt_of_mem_split (positive : 0 < base) {count number digit : Nat}
    (member : digit ∈ split base count number) : digit < base := by
  induction count with
  | zero => simp [split] at member
  | succ count ih =>
    rcases List.mem_cons.mp member with rfl | member
    · exact Nat.mod_lt _ positive
    · exact ih member

end AddressPool.Numeral
