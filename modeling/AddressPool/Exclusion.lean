import AddressPool.Prefix
import AddressPool.Text.Blank

/-!
# Exclusions

An exclusion names a stretch of addresses, both ends included, that are not handed
out.  Nothing is asked of the two ends here: they may be out of order or of two
families, and it is the range around them that refuses such a stretch.

An exclusion is written as its address if it has one, and as its two ends with a
hyphen between them otherwise.  The reader takes both forms, with blanks around
the two ends, and a prefix besides, which stands for all addresses of its block.
-/

namespace AddressPool

set_option autoImplicit false

/-- The texts in a description of a range that have to be addresses or prefixes. -/
inductive AddressField where
  | subnet
  | rangeStart
  | rangeEnd
  | gateway
  | excludedPrefix
  | excludedStart
  | excludedEnd
  | excludedAddress
  deriving DecidableEq, Repr

/-- How a field is named when its text cannot be read. -/
def AddressField.label : AddressField → String
  | .subnet => "subnet"
  | .rangeStart => "rangeStart"
  | .rangeEnd => "rangeEnd"
  | .gateway => "gateway"
  | .excludedPrefix => "excluded prefix"
  | .excludedStart => "excluded range start"
  | .excludedEnd => "excluded range end"
  | .excludedAddress => "excluded address"

/-- A text that is no address, or no prefix, together with the field that it stands in. -/
structure UnreadableField where
  field : AddressField
  text : String
  deriving DecidableEq, Repr

/-- A stretch of addresses that are not handed out, both ends included. -/
structure Exclusion where
  first : Address
  last : Address
  deriving DecidableEq, Repr

namespace Exclusion

/-- The exclusion of one address. -/
def single (address : Address) : Exclusion := ⟨address, address⟩

/-- The exclusion of a whole block, its lowest and highest address included. -/
def ofPrefix (block : Prefix) : Exclusion := ⟨block.network, block.broadcast⟩

/-- The text of an exclusion as a list of characters. -/
def chars (exclusion : Exclusion) : List Char :=
  if exclusion.first = exclusion.last then exclusion.first.chars
  else exclusion.first.chars ++ '-' :: exclusion.last.chars

/-- The text of an exclusion. -/
def text (exclusion : Exclusion) : String := String.ofList exclusion.chars

instance : ToString Exclusion := ⟨text⟩

/-- Reads the address in a field. -/
def readAddress (field : AddressField) (text : List Char) : Except UnreadableField Address :=
  match Address.ofChars? text with
  | some address => .ok address
  | none => .error ⟨field, String.ofList text⟩

/-- Reads the prefix in a field. -/
def readPrefix (field : AddressField) (text : List Char) : Except UnreadableField Prefix :=
  match Prefix.ofChars? text with
  | some block => .ok block
  | none => .error ⟨field, String.ofList text⟩

/-- Cuts a text around its first hyphen. -/
def splitHyphen? : List Char → Option (List Char × List Char)
  | [] => none
  | '-' :: rest => some ([], rest)
  | char :: rest => (splitHyphen? rest).map fun (before, after) => (char :: before, after)

/-- Reads an exclusion: a slash makes it a prefix, else a hyphen makes it a stretch. -/
def ofChars (text : List Char) : Except UnreadableField Exclusion :=
  if text.contains '/' then do
    let block ← readPrefix .excludedPrefix text
    return ofPrefix block
  else
    match splitHyphen? text with
    | some (before, after) => do
      let first ← readAddress .excludedStart (Text.trim before)
      let last ← readAddress .excludedEnd (Text.trim after)
      return ⟨first, last⟩
    | none => do
      let address ← readAddress .excludedAddress text
      return single address

/-- Reads an exclusion from a string. -/
def ofString (text : String) : Except UnreadableField Exclusion := ofChars text.toList

end Exclusion

end AddressPool
