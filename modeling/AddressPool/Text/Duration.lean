import AddressPool.Text.Numeral

/-!
# Durations in messages

A duration is a count of nanoseconds.  It is written in the largest of the units
nanosecond, microsecond, millisecond and second that it reaches, with the exact
fraction behind a point and without zeros at the end of that fraction.
-/

namespace AddressPool

set_option autoImplicit false

/-- A span of time, in nanoseconds. -/
structure Duration where
  nanoseconds : Nat
  deriving DecidableEq, Repr

namespace Duration

/-- The span of a number of microseconds. -/
def ofMicroseconds (count : Nat) : Duration := ⟨count * 1000⟩

/-- The span of a number of milliseconds. -/
def ofMilliseconds (count : Nat) : Duration := ⟨count * 1000000⟩

/-- The whole milliseconds in a span. -/
def milliseconds (duration : Duration) : Nat := duration.nanoseconds / 1000000

/-- The fraction of a unit of `10 ^ places` nanoseconds: its digits without zeros at the end. -/
def fraction (places nanoseconds : Nat) : List Char :=
  let digits := (Numeral.split 10 places nanoseconds).flatMap Numeral.decimal
  match (digits.reverse.dropWhile (· == '0')).reverse with
  | [] => []
  | shown => '.' :: shown

/-- The span in units of `10 ^ places` nanoseconds. -/
def inUnits (places nanoseconds : Nat) (unit : String) : String :=
  String.ofList (Numeral.decimal (nanoseconds / 10 ^ places) ++ fraction places nanoseconds) ++ unit

/-- The text of a duration. -/
def text (duration : Duration) : String :=
  let nanoseconds := duration.nanoseconds
  if 10 ^ 9 ≤ nanoseconds then inUnits 9 nanoseconds "s"
  else if 10 ^ 6 ≤ nanoseconds then inUnits 6 nanoseconds "ms"
  else if 10 ^ 3 ≤ nanoseconds then inUnits 3 nanoseconds "µs"
  else inUnits 0 nanoseconds "ns"

end Duration

end AddressPool
