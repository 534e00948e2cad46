import AddressPool.Json.Error

/-!
# Words, strings and numbers of JSON

A reader takes a text and gives a value and the rest of the text, or says why the
text is refused.  This module reads what has no brackets: the three words, strings
with their escapes, and numbers.  Strings come out as lists of characters, and a
pair of escaped surrogates is one character.

A number is an integer if it has neither point nor exponent and fits into 64 bits,
and minus zero and all else is a double.  The digits of a double are gathered in a
64-bit significand as long as they fit; further ones count only by their number in
front of the point and not at all behind it.
-/

namespace AddressPool.Json

set_option autoImplicit false

/-- A reader of the front of a text. -/
abbrev Reader (α : Type) := StateT (List Char) (Except Error) α

/-- Refuses a text for a fault. -/
def fail {α : Type} (fault : Fault) : Reader α := fun _ => .error (.fault fault)

/-- Refuses a text for what it says. -/
def refuse {α : Type} (mismatch : Mismatch) : Reader α := fun _ => .error (.mismatch mismatch)

/-- Whether a character may stand between the parts of a text. -/
def isSpace (char : Char) : Bool := char == ' ' || char == '\n' || char == '\t' || char == '\r'

/-- The next character of the text, if there is one. -/
def peekHere : Reader (Option Char) := fun text => .ok (text.head?, text)

/-- The next character behind blanks, which are left out for good. -/
def peek : Reader (Option Char) := fun text =>
  let rest := text.dropWhile isSpace
  .ok (rest.head?, rest)

/-- Leaves out the next character. -/
def advance : Reader Unit := fun text => .ok ((), text.drop 1)

/-- Reads the given characters, letter by letter. -/
def word : List Char → Reader Unit
  | [] => pure ()
  | letter :: letters => do
    match ← peekHere with
    | none => fail .endInValue
    | some char => if char = letter then advance *> word letters else fail .expectedWord

/-! ## Strings -/

/-- The characters that a single letter behind a backslash may stand for. -/
def plainEscape? : Char → Option Char
  | '"' => some '"'
  | '\\' => some '\\'
  | '/' => some '/'
  | 'b' => some '\x08'
  | 'f' => some '\x0c'
  | 'n' => some '\n'
  | 'r' => some '\r'
  | 't' => some '\t'
  | _ => none

/-- The number of bytes that characters take. -/
def byteCount (text : List Char) : Nat := (text.map Char.utf8Size).sum

/-- Reads the four digits of an escaped code; with fewer than four bytes left the text has ended
too early. -/
def hexCode : Reader Nat := fun text =>
  if byteCount (text.take 4) < 4 then .error (.fault .endInString)
  else match Numeral.read? 16 4 (text.take 4) with
    | some code =>
      if (text.take 4).length = 4 then .ok (code, text.drop 4) else .error (.fault .invalidEscape)
    | none => .error (.fault .invalidEscape)

/-- Takes the given character of a surrogate pair. -/
def pairLetter (letter : Char) : Reader Unit := do
  match ← peekHere with
  | none => fail .endInString
  | some char => if char = letter then advance else fail .unfinishedSurrogatePair

/-- Reads the rest of an escaped code, the second half of a surrogate pair included. -/
def escapedCode : Reader Char := do
  let code ← hexCode
  if 0xdc00 ≤ code ∧ code ≤ 0xdfff then fail .loneSurrogate
  else if code < 0xd800 ∨ 0xdbff < code then return Char.ofNat code
  else
    pairLetter '\\'
    pairLetter 'u'
    let second ← hexCode
    if second < 0xdc00 ∨ 0xdfff < second then fail .loneSurrogate
    else return Char.ofNat ((code - 0xd800) * 0x400 + (second - 0xdc00) + 0x10000)

/-- Reads what stands behind a backslash. -/
def escaped : Reader Char := do
  match ← peekHere with
  | none => fail .endInString
  | some 'u' => advance *> escapedCode
  | some letter => match plainEscape? letter with
    | some char => advance *> pure char
    | none => fail .invalidEscape

/-- Reads a string behind its opening quote, in at most the given number of characters. -/
def stringBody : Nat → Reader (List Char)
  | 0 => fail .endInString
  | fuel + 1 => do
    match ← peekHere with
    | none => fail .endInString
    | some '"' => advance *> pure []
    | some '\\' =>
      advance
      let char ← escaped
      return char :: (← stringBody fuel)
    | some char =>
      if char.toNat < 0x20 then fail .controlCharacter
      else
        advance
        return char :: (← stringBody fuel)

/-- Reads a string, the next character being its opening quote. -/
def string : Reader String := do
  advance
  let text ← get
  return String.ofList (← stringBody (text.length + 1))

/-! ## Numbers -/

/-- Whether a character is a decimal digit. -/
def isDigit (char : Char) : Bool := decide ('0' ≤ char ∧ char ≤ '9')

/-- Reads as many digits as there are. -/
def digits : Reader (List Char) := fun text => .ok (text.takeWhile isDigit, text.dropWhile isDigit)

/-- The greatest significand. -/
def significandLimit : Nat := 2 ^ 64 - 1

/-- Adds digits to a significand while it fits, and counts the digits that are added. -/
def gather : Nat → List Char → Nat × Nat
  | significand, [] => (significand, 0)
  | significand, digit :: rest =>
    let next := significand * 10 + (digit.toNat - '0'.toNat)
    if significandLimit < next then (significand, 0)
    else
      let (last, count) := gather next rest
      (last, count + 1)

/-- Scales a double by a power of ten that is not too great, in two or more steps if need be; none
if the result is infinite. -/
def scale : Nat → Float → Int → Option Float
  | fuel, value, exponent =>
    if exponent.natAbs ≤ 308 then
      if 0 ≤ exponent then
        let scaled := value * Float.ofScientific 1 false exponent.natAbs
        if scaled.isInf then none else some scaled
      else some (value / Float.ofScientific 1 false exponent.natAbs)
    else if value == 0 then some value
    else if 0 ≤ exponent then none
    else match fuel with
      | 0 => some value
      | fuel + 1 => scale fuel (value / Float.ofScientific 1 false 308) (exponent + 308)

/-- The double with a sign, a significand and a power of ten. -/
def double (negative : Bool) (significand : Nat) (exponent : Int) : Reader Number :=
  match scale 3 significand.toUInt64.toFloat exponent with
  | some value => return .float (if negative then -value else value)
  | none => fail .numberOutOfRange

/-- The greatest exponent that is taken as a number. -/
def exponentLimit : Nat := 2 ^ 31 - 1

/-- Reads an exponent behind its letter. -/
def exponentPart (negative : Bool) (significand : Nat) (start : Int) : Reader Number := do
  let up ← do
    match ← peekHere with
    | some '+' => advance *> pure true
    | some '-' => advance *> pure false
    | _ => pure true
  match ← peekHere with
  | none => fail .endInValue
  | some char =>
    if !isDigit char then fail .invalidNumber
    else
      let value := Nat.ofDigitChars 10 (← digits) 0
      if exponentLimit < value then
        if significand ≠ 0 && up then fail .numberOutOfRange
        else return .float (if negative then -0.0 else 0.0)
      else double negative significand (if up then start + value else start - value)

/-- Reads an exponent if there is one. -/
def exponentIfAny (negative : Bool) (significand : Nat) (start : Int) : Reader Number := do
  match ← peekHere with
  | some 'e' | some 'E' => advance *> exponentPart negative significand start
  | _ => double negative significand start

/-- Reads a fraction behind its point. -/
def fractionPart (negative : Bool) (significand : Nat) (start : Int) : Reader Number := do
  let fraction ← digits
  if fraction.isEmpty then
    match ← peekHere with
    | none => fail .endInValue
    | some _ => fail .invalidNumber
  else
    let (significand, count) := gather significand fraction
    exponentIfAny negative significand (start - count)

/-- An integer as it is understood. -/
def integer (negative : Bool) (value : Nat) : Number :=
  if negative then
    if 0 < value ∧ value ≤ 2 ^ 63 then .negative value else .float (-value.toUInt64.toFloat)
  else .natural value

/-- Reads what may stand behind the digits of an integer, of which the last ones may not have
fitted into the significand. -/
def afterInteger (negative : Bool) (significand surplus : Nat) : Reader Number := do
  match ← peekHere with
  | some '.' => advance *> fractionPart negative significand surplus
  | some 'e' | some 'E' => advance *> exponentPart negative significand surplus
  | _ =>
    if surplus = 0 then return integer negative significand
    else double negative significand surplus

/-- Reads a number behind its sign. -/
def unsigned (negative : Bool) : Reader Number := do
  match ← peekHere with
  | none => fail .endInValue
  | some char =>
    if !isDigit char then fail .invalidNumber
    else
      let whole ← digits
      if Numeral.hasLeadingZero whole then fail .invalidNumber
      else
        let (significand, count) := gather 0 whole
        afterInteger negative significand (whole.length - count)

/-- Reads a number, the next character being its sign or its first digit. -/
def number : Reader Number := do
  match ← peekHere with
  | some '-' => advance *> unsigned true
  | _ => unsigned false

/-! ## Values where other values are expected -/

/-- Reads as much of a value of an unexpected kind as tells what it is: a word, a string or a
number as a whole, and of a list or an object only the bracket. -/
def found (first : Char) : Reader Found := do
  match first with
  | 'n' => word "null".toList *> pure .null
  | 't' => word "true".toList *> pure (.boolean true)
  | 'f' => word "false".toList *> pure (.boolean false)
  | '"' => return .string (← string)
  | '[' => return .sequence
  | '\x7b' => return .map
  | _ =>
    if first = '-' ∨ isDigit first then return .number (← number) else fail .expectedValue

/-- Refuses the value at hand, which is not of the expected kind. -/
def unexpected {α : Type} (first : Char) (expected : String) : Reader α := do
  refuse (.invalidType (← found first) expected)

/-- Reads a string where one is expected. -/
def expectString (expected : String) : Reader String := do
  match ← peek with
  | none => fail .endInValue
  | some '"' => string
  | some first => unexpected first expected

/-- Reads a string, or null in its place. -/
def optionalString (expected : String) : Reader (Option String) := do
  match ← peek with
  | some 'n' => word "null".toList *> pure none
  | _ => return some (← expectString expected)

end AddressPool.Json
