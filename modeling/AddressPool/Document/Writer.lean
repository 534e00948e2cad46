import AddressPool.Document.Basic
import AddressPool.Json.Writer

/-!
# Writing documents

A document is written as JSON without blanks, its fields in order.  Optional fields
that are missing are left out, and so is an empty list of exclusions; the settings
of a store always say of which type they are.
-/

namespace AddressPool

set_option autoImplicit false

open Json

/-- A field that is left out if there is nothing to write. -/
def optionalField {α : Type} (name : String) (write : α → List Char) :
    Option α → List (String × List Char)
  | none => []
  | some value => [(name, write value)]

/-- Writes a range. -/
def RangeEntry.write (entry : RangeEntry) : List Char :=
  writeObject (("subnet", writeString entry.subnet) ::
    optionalField "rangeStart" writeString entry.rangeStart ++
    optionalField "rangeEnd" writeString entry.rangeEnd ++
    optionalField "gateway" writeString entry.gateway ++
    if entry.exclude.isEmpty then []
    else [("exclude", writeList (entry.exclude.map writeString))])

/-- Writes the settings of a store. -/
def StoreEntry.write : StoreEntry → List Char
  | .memory => writeObject [("type", writeString "memory")]
  | .disk dataDirectory lockTimeout =>
    writeObject (("type", writeString "disk") ::
      optionalField "dataDir" writeString dataDirectory ++
      optionalField "lockTimeoutMs" (fun count => writeNat count.toNat) lockTimeout)

/-- Writes a document. -/
def Document.write (document : Document) : List Char :=
  writeObject [
    ("name", writeString document.name),
    ("ranges", writeList (document.ranges.map fun ring => writeList (ring.map (·.write)))),
    ("store", document.store.write)]

/-- The text of a range. -/
def RangeEntry.text (entry : RangeEntry) : String := String.ofList entry.write

/-- The text of the settings of a store. -/
def StoreEntry.text (entry : StoreEntry) : String := String.ofList entry.write

/-- The text of a document. -/
def Document.text (document : Document) : String := String.ofList document.write

end AddressPool
