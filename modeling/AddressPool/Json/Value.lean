import AddressPool.Json.Reader

/-!
# Values that are kept

Where it is only known later what a value is to be, it is read into a tree first.
Objects keep their members in order and may name one twice.  A kept value is held
to everything that a read value is held to: its nesting counts, its numbers have to
be in range and its strings have to be sound.
-/

namespace AddressPool.Json

set_option autoImplicit false

/-- A value of JSON. -/
inductive Value where
  | null
  | boolean (value : Bool)
  | number (value : Number)
  | string (value : String)
  | list (elements : List Value)
  | object (members : List (String × Value))

/-- What a value is when another kind of value is expected. -/
def Value.found : Value → Found
  | .null => .null
  | .boolean value => .boolean value
  | .number value => .number value
  | .string value => .string value
  | .list _ => .sequence
  | .object _ => .map

mutual

/-- Reads a value of any kind, in at most the given number of steps. -/
def valueFrom : Nat → Nat → Reader Value
  | 0, _ => fail .endInValue
  | fuel + 1, depth => do
    match ← peek with
    | none => fail .endInValue
    | some '[' =>
      let inner ← openBracket depth
      let elements ← valuesFrom fuel inner true
      closeList
      return .list elements
    | some '\x7b' =>
      let inner ← openBracket depth
      let members ← fieldsFrom fuel inner true
      closeObject
      return .object members
    | some first => match ← found first with
      | .boolean value => return .boolean value
      | .number value => return .number value
      | .string value => return .string value
      | _ => return .null

/-- Reads the elements of a list. -/
def valuesFrom : Nat → Nat → Bool → Reader (List Value)
  | 0, _, _ => fail .endInList
  | fuel + 1, depth, first => do
    if ← anotherElement first then
      let value ← valueFrom fuel depth
      return value :: (← valuesFrom fuel depth false)
    else return []

/-- Reads the members of an object. -/
def fieldsFrom : Nat → Nat → Bool → Reader (List (String × Value))
  | 0, _, _ => fail .endInObject
  | fuel + 1, depth, first => do
    match ← nextKey first with
    | none => return []
    | some key =>
      colon
      let value ← valueFrom fuel depth
      return (key, value) :: (← fieldsFrom fuel depth false)

end

/-- Reads a value of any kind. -/
def value (depth : Nat) : Reader Value := do
  let text ← get
  valueFrom (2 * text.length + 2) depth

end AddressPool.Json
