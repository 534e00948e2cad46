import AddressPool.Instances

/-!
# Numerals

Numbers are written without a sign in some base up to sixteen, the most
significant digit first, and letters are written in lower case.  Reading takes a
bounded count of digits, letters of either case, and at least one digit; whether
leading zeros are allowed is up to the caller.

`split` and `join` are the arithmetic behind fixed-width texts: a number is cut
into a fixed count of digits of a large base, and `join_split` says that joining
them gives the number back up to the width.
-/

namespace AddressPool.Numeral

set_option autoImplicit false

/-- The value of a digit, for letters up to `f` in either case. -/
def digitValue? (digit : Char) : Option Nat :=
  if '0' ≤ digit ∧ digit ≤ '9' then some (digit.toNat - '0'.toNat)
  else if 'a' ≤ digit ∧ digit ≤ 'f' then some (digit.toNat - 'a'.toNat + 10)
  else if 'A' ≤ digit ∧ digit ≤ 'F' then some (digit.toNat - 'A'.toNat + 10)
  else none

/-- The value of a digit of the given base. -/
def digit? (base : Nat) (digit : Char) : Option Nat := do
  let value ← digitValue? digit
  if value < base then some value else none

/-- The number written by a list of digits, of which `soFar` are read already. -/
def readFrom (base : Nat) : Nat → List Char → Option Nat
  | soFar, [] => some soFar
  | soFar, digit :: rest => do
    let value ← digit? base digit
    readFrom base (soFar * base + value) rest

/-- Reads a numeral of one up to `limit` digits. -/
def read? (base limit : Nat) (digits : List Char) : Option Nat :=
  if digits.isEmpty || decide (limit < digits.length) then none else readFrom base 0 digits

/-- Whether a numeral has more than one digit and starts with zero. -/
def hasLeadingZero : List Char → Bool
  | '0' :: _ :: _ => true
  | _ => false

/-- The decimal numeral of a number, without leading zeros. -/
def decimal (number : Nat) : List Char := Nat.toDigits 10 number

/-- The hexadecimal numeral of a number, in lower case and without leading zeros. -/
def hexadecimal (number : Nat) : List Char := Nat.toDigits 16 number

/-! ## Fixed counts of digits -/

/-- The lowest `count` digits of a number in a base, the most significant one first. -/
def split (base : Nat) : Nat → Nat → List Nat
  | 0, _ => []
  | count + 1, number => number / base ^ count % base :: split base count number

/-- The number with the given digits in a base, the most significant one first. -/
def join (base : Nat) (digits : List Nat) : Nat :=
  digits.foldl (fun number digit => number * base + digit) 0

theorem length_split (base count number : Nat) : (split base count number).length = count := by
  induction count with
  | zero => rfl
  | succ count ih => simp [split, ih]

theorem foldl_split (base count number high : Nat) :
    (split base count number).foldl (fun number digit => number * base + digit) high =
      high * base ^ count + number % base ^ count := by
  induction count generalizing high with
  | zero => simp [split, Nat.mod_one]
  | succ count ih =>
    rw [split, List.foldl_cons, ih, Nat.pow_succ, Nat.mod_mul, Nat.add_mul]
    rw [Nat.mul_comm (number / base ^ count % base)]
    rw [Nat.mul_assoc, Nat.mul_comm base]
    omega

/-- Joining the lowest digits gives the number back up to the width. -/
theorem join_split (base count number : Nat) :
    join base (split base count number) = number % base ^ count := by
  rw [join, foldl_split, Nat.zero_mul, Nat.zero_add]

end AddressPool.Numeral
