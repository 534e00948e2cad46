import AddressPool.Json.Scalar

/-!
# Lists and objects of JSON

Lists and objects are read as a stream.  `elements` and `members` go through what
is between two brackets and hand each element, or each key, to a reader that
decides what to do with it; commas, colons and closing brackets are looked after
here.  Brackets that are read for their contents may be nested up to a depth that
is counted down on the way in.

A value that nobody asks for is skipped by `skip`.  It may be nested to any depth,
so its open brackets are kept on a list, and less is asked of it: a number may be
out of range and escaped surrogates need not be paired.
-/

namespace AddressPool.Json

set_option autoImplicit false

/-- The number of brackets that may be open at once, and one more. -/
def depthLimit : Nat := 128

/-- Opens a bracket: leaves it out, and gives the depth that remains inside. -/
def openBracket (depth : Nat) : Reader Nat := do
  if depth ≤ 1 then fail .tooDeep
  advance
  return depth - 1

/-! ## Lists -/

/-- Whether there is another element in a list, of which the first is treated differently. -/
def anotherElement (first : Bool) : Reader Bool := do
  match ← peek with
  | none => fail .endInList
  | some ']' => return false
  | some char =>
    if first then return true
    else if char = ',' then
      advance
      match ← peek with
      | none => fail .endInValue
      | some ']' => fail .trailingComma
      | some _ => return true
    else fail .expectedListCommaOrEnd

/-- Closes a list that has been read as far as it is wanted. -/
def closeList : Reader Unit := do
  match ← peek with
  | none => fail .endInList
  | some ']' => advance
  | some ',' =>
    advance
    match ← peek with
    | some ']' => fail .trailingComma
    | _ => fail .trailingCharacters
  | some _ => fail .trailingCharacters

/-- Reads the elements of a list behind its bracket, in at most the given number of steps. -/
def elementsFrom {α : Type} (element : Reader α) : Nat → Bool → Reader (List α)
  | 0, _ => fail .endInList
  | fuel + 1, first => do
    if ← anotherElement first then
      let value ← element
      return value :: (← elementsFrom element fuel false)
    else return []

/-- Reads the elements of a list behind its bracket. -/
def elements {α : Type} (element : Reader α) : Reader (List α) := do
  let text ← get
  elementsFrom element (text.length + 1) true

/-- Reads a list where one is expected. -/
def expectList {α : Type} (depth : Nat) (element : Nat → Reader α) : Reader (List α) := do
  match ← peek with
  | none => fail .endInValue
  | some '[' =>
    let inner ← openBracket depth
    let values ← elements (element inner)
    closeList
    return values
  | some first => unexpected first "a sequence"

/-! ## Objects -/

/-- Reads the next key of an object, if there is one. -/
def nextKey (first : Bool) : Reader (Option String) := do
  match ← peek with
  | none => fail .endInObject
  | some '\x7d' => return none
  | some char =>
    if first then
      if char = '"' then return some (← string) else fail .keyMustBeString
    else if char = ',' then
      advance
      match ← peek with
      | none => fail .endInValue
      | some '\x7d' => fail .trailingComma
      | some '"' => return some (← string)
      | some _ => fail .keyMustBeString
    else fail .expectedObjectCommaOrEnd

/-- Reads the colon behind a key. -/
def colon : Reader Unit := do
  match ← peek with
  | none => fail .endInObject
  | some ':' => advance
  | some _ => fail .expectedColon

/-- Closes an object that has been read as far as it is wanted. -/
def closeObject : Reader Unit := do
  match ← peek with
  | none => fail .endInObject
  | some '\x7d' => advance
  | some ',' => fail .trailingComma
  | some _ => fail .trailingCharacters

/-- Reads the members of an object behind its bracket, each of them by what is done for its key,
in at most the given number of steps. -/
def membersFrom {σ : Type} (member : σ → String → Reader σ) : Nat → Bool → σ → Reader σ
  | 0, _, _ => fail .endInObject
  | fuel + 1, first, state => do
    match ← nextKey first with
    | none => return state
    | some key => membersFrom member fuel false (← member state key)

/-- Reads the members of an object behind its bracket. -/
def members {σ : Type} (member : σ → String → Reader σ) (start : σ) : Reader σ := do
  let text ← get
  membersFrom member (text.length + 1) true start

/-- Reads a value that is a list or an object, by what is done for either. -/
def expectStructure {α : Type} (expected : String) (depth : Nat) (list object : Nat → Reader α) :
    Reader α := do
  match ← peek with
  | none => fail .endInValue
  | some '[' =>
    let inner ← openBracket depth
    let value ← list inner
    closeList
    return value
  | some '\x7b' =>
    let inner ← openBracket depth
    let value ← object inner
    closeObject
    return value
  | some first => unexpected first expected

/-- Reads the next field of a structure that is written as a list: null if the list has ended. -/
def nextField? {α : Type} (first : Bool) (field : Reader α) : Reader (Option α) := do
  if ← anotherElement first then return some (← field) else return none

/-- Reads a field of an object, which must not have been read before. -/
def onceField {α : Type} (name : String) (before : Option α) (field : Reader α) :
    Reader (Option α) := do
  if before.isSome then refuse (.duplicateField name)
  colon
  return some (← field)

/-- What has been read for a field that must not be missing. -/
def required {α : Type} (name : String) (value : Option α) : Reader α :=
  match value with
  | some value => pure value
  | none => refuse (.missingField name)

/-! ## Skipping -/

/-- The kinds of brackets that may be open. -/
inductive Bracket where
  | list
  | object

/-- Skips what stands behind a backslash. -/
def skipEscape : Reader Unit := do
  match ← peekHere with
  | none => fail .endInString
  | some 'u' =>
    advance
    let _ ← hexCode
    return ()
  | some letter => match plainEscape? letter with
    | some _ => advance
    | none => fail .invalidEscape

/-- Skips a string behind its opening quote, in at most the given number of characters. -/
def skipStringBody : Nat → Reader Unit
  | 0 => fail .endInString
  | fuel + 1 => do
    match ← peekHere with
    | none => fail .endInString
    | some '"' => advance
    | some '\\' =>
      advance
      skipEscape
      skipStringBody fuel
    | some char =>
      if char.toNat < 0x20 then fail .controlCharacter
      else
        advance
        skipStringBody fuel

/-- Skips a string, the next character being its opening quote. -/
def skipString : Reader Unit := do
  advance
  let text ← get
  skipStringBody (text.length + 1)

/-- Skips digits, of which there must be one. -/
def skipDigits : Reader Unit := do
  if (← digits).isEmpty then fail .invalidNumber

/-- Skips an exponent if there is one. -/
def skipExponent : Reader Unit := do
  match ← peekHere with
  | some 'e' | some 'E' =>
    advance
    match ← peekHere with
    | some '+' | some '-' => advance *> skipDigits
    | _ => skipDigits
  | _ => return ()

/-- Skips a number behind its sign. -/
def skipUnsigned : Reader Unit := do
  let whole ← digits
  if whole.isEmpty || Numeral.hasLeadingZero whole then fail .invalidNumber
  match ← peekHere with
  | some '.' =>
    advance
    skipDigits
    skipExponent
  | _ => skipExponent

/-- Skips a value without brackets, or opens the bracket of one with brackets. -/
def skipStart : Reader (Option Bracket) := do
  match ← peek with
  | none => fail .endInValue
  | some 'n' => word "null".toList *> pure none
  | some 't' => word "true".toList *> pure none
  | some 'f' => word "false".toList *> pure none
  | some '-' => advance *> skipUnsigned *> pure none
  | some '"' => skipString *> pure none
  | some '[' => advance *> pure (some .list)
  | some '\x7b' => advance *> pure (some .object)
  | some char => if isDigit char then skipUnsigned *> pure none else fail .expectedValue

/-- Skips a key and its colon. -/
def skipKey : Reader Unit := do
  match ← peek with
  | none => fail .endInObject
  | some '"' => skipString
  | some _ => fail .keyMustBeString
  colon

/-- Skips what stands between two values and closes brackets on the way, in at most the given
number of steps; `after` says whether a value stands in front.  The answer is the list of open
brackets around the next value, or nothing if all is done. -/
def skipBetween : Nat → Bool → List Bracket → Reader (List Bracket)
  | _, _, [] => return []
  | 0, _, _ => fail .endInValue
  | fuel + 1, after, bracket :: outer => do
    let (closing, ended, expected) := match bracket with
      | .list => (']', Fault.endInList, Fault.expectedListCommaOrEnd)
      | .object => ('\x7d', Fault.endInObject, Fault.expectedObjectCommaOrEnd)
    match ← peek with
    | none => fail ended
    | some char =>
      if char = closing then
        advance
        skipBetween fuel true outer
      else if !after then return bracket :: outer
      else if char = ',' then
        advance
        return bracket :: outer
      else fail expected

/-- Skips the rest of a value inside some open brackets, in at most the given number of values. -/
def skipInside : Nat → List Bracket → Reader Unit
  | 0, _ => fail .endInValue
  | fuel + 1, brackets => do
    let opened ← skipStart
    let text ← get
    let around ← match opened with
      | some bracket => skipBetween (text.length + 1) false (bracket :: brackets)
      | none => skipBetween (text.length + 1) true brackets
    match around with
    | [] => return ()
    | .list :: _ => skipInside fuel around
    | .object :: _ =>
      skipKey
      skipInside fuel around

/-- Skips a value. -/
def skip : Reader Unit := do
  let text ← get
  skipInside (text.length + 1) []

/-! ## Whole texts -/

/-- Reads a text that holds one value and nothing else. -/
def readAll {α : Type} (reader : Reader α) (text : String) : Except Error α :=
  match (do
    let value ← reader
    match ← peek with
    | none => return value
    | some _ => fail .trailingCharacters : Reader α) text.toList with
  | .ok (value, _) => .ok value
  | .error error => .error error

end AddressPool.Json
