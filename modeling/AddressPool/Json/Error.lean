import AddressPool.Decimal.Shortest
import AddressPool.Text.Quoted

/-!
# Why a JSON text is refused

A text is read as a stream and refused at the first point that does not fit.  What
does not fit is either the text itself, which is a `Fault`, or what the text says,
which is a `Mismatch`: a value of another type, a field too many or too few.
-/

namespace AddressPool.Json

set_option autoImplicit false

/-- What is wrong with a text as JSON. -/
inductive Fault where
  | endInList
  | endInObject
  | endInString
  | endInValue
  | expectedColon
  | expectedListCommaOrEnd
  | expectedObjectCommaOrEnd
  | expectedWord
  | expectedValue
  | invalidEscape
  | invalidNumber
  | numberOutOfRange
  | controlCharacter
  | keyMustBeString
  | loneSurrogate
  | trailingComma
  | trailingCharacters
  | unfinishedSurrogatePair
  | tooDeep
  deriving DecidableEq, Repr

/-- The text of a fault. -/
def Fault.message : Fault → String
  | .endInList => "EOF while parsing a list"
  | .endInObject => "EOF while parsing an object"
  | .endInString => "EOF while parsing a string"
  | .endInValue => "EOF while parsing a value"
  | .expectedColon => "expected `:`"
  | .expectedListCommaOrEnd => "expected `,` or `]`"
  | .expectedObjectCommaOrEnd => "expected `,` or `\x7d`"
  | .expectedWord => "expected ident"
  | .expectedValue => "expected value"
  | .invalidEscape => "invalid escape"
  | .invalidNumber => "invalid number"
  | .numberOutOfRange => "number out of range"
  | .controlCharacter => "control character (\\u0000-\\u001F) found while parsing a string"
  | .keyMustBeString => "key must be a string"
  | .loneSurrogate => "lone leading surrogate in hex escape"
  | .trailingComma => "trailing comma"
  | .trailingCharacters => "trailing characters"
  | .unfinishedSurrogatePair => "unexpected end of hex escape"
  | .tooDeep => "recursion limit exceeded"

/-- A number as it is understood: an integer in reach of 64 bits, or else a double. -/
inductive Number where
  | natural (value : Nat)
  | negative (magnitude : Nat)
  | float (value : Float)

/-- A value that stands where another kind of value is expected. -/
inductive Found where
  | null
  | boolean (value : Bool)
  | number (value : Number)
  | string (value : String)
  | sequence
  | map

/-- How a number is named in a message. -/
def Number.describe : Number → String
  | .natural value => "integer `" ++ toString value ++ "`"
  | .negative magnitude => "integer `-" ++ toString magnitude ++ "`"
  | .float value => "floating point `" ++ Decimal.floatText value ++ "`"

/-- How a value is named in a message. -/
def Found.describe : Found → String
  | .null => "null"
  | .boolean value => "boolean `" ++ (if value then "true" else "false") ++ "`"
  | .number value => value.describe
  | .string value => "string " ++ Text.quoted value
  | .sequence => "sequence"
  | .map => "map"

/-- What is wrong with what a text says. -/
inductive Mismatch where
  | invalidType (found : Found) (expected : String)
  | invalidValue (found : Found) (expected : String)
  | invalidLength (length : Nat) (expected : String)
  | unknownVariant (name : String) (expected : String)
  | missingField (name : String)
  | duplicateField (name : String)

/-- The text of a mismatch. -/
def Mismatch.message : Mismatch → String
  | .invalidType found expected => "invalid type: " ++ found.describe ++ ", expected " ++ expected
  | .invalidValue found expected => "invalid value: " ++ found.describe ++ ", expected " ++ expected
  | .invalidLength length expected =>
    "invalid length " ++ toString length ++ ", expected " ++ expected
  | .unknownVariant name expected =>
    "unknown variant `" ++ name ++ "`, expected " ++ expected
  | .missingField name => "missing field `" ++ name ++ "`"
  | .duplicateField name => "duplicate field `" ++ name ++ "`"

/-- Why a text is refused. -/
inductive Error where
  | fault (fault : Fault)
  | mismatch (mismatch : Mismatch)

/-- The text of an error. -/
def Error.message : Error → String
  | .fault cause => cause.message
  | .mismatch cause => cause.message

end AddressPool.Json
