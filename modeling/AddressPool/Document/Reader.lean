import AddressPool.Document.Basic
import AddressPool.Json.Value

/-!
# Reading documents

A document is read from JSON as a stream.  An object may be given as the list of
its fields in order, of which those at the end that may be missing may be left out,
and the fields of an object that nobody knows are skipped.

The settings of a store are told apart by their `type`, which may stand behind the
other fields.  So those are kept as values first, and looked at when the settings
have been read as a whole.
-/

namespace AddressPool

set_option autoImplicit false

open Json

/-! ## Reading ranges -/

namespace RangeEntry

/-- The fields of a range that have been read so far. -/
structure Partial where
  subnet : Option String := none
  rangeStart : Option (Option String) := none
  rangeEnd : Option (Option String) := none
  gateway : Option (Option String) := none
  exclude : Option (List String) := none

/-- Reads a list of texts. -/
def texts (depth : Nat) : Reader (List String) :=
  expectList depth fun _ => expectString "a string"

/-- Reads one field of a range that is written as an object. -/
def member (depth : Nat) (read : Partial) (key : String) : Reader Partial :=
  match key with
  | "subnet" => do
    return { read with subnet := ← onceField key read.subnet (expectString "a string") }
  | "rangeStart" => do
    return { read with rangeStart := ← onceField key read.rangeStart (optionalString "a string") }
  | "rangeEnd" => do
    return { read with rangeEnd := ← onceField key read.rangeEnd (optionalString "a string") }
  | "gateway" => do
    return { read with gateway := ← onceField key read.gateway (optionalString "a string") }
  | "exclude" => do
    return { read with exclude := ← onceField key read.exclude (texts depth) }
  | _ => colon *> skip *> pure read

/-- Reads a range that is written as an object. -/
def fromObject (depth : Nat) : Reader RangeEntry := do
  let read ← members (member depth) {}
  return {
    subnet := ← required "subnet" read.subnet
    rangeStart := read.rangeStart.join
    rangeEnd := read.rangeEnd.join
    gateway := read.gateway.join
    exclude := read.exclude.getD [] }

/-- Reads a range that is written as a list. -/
def fromList (depth : Nat) : Reader RangeEntry := do
  match ← nextField? true (expectString "a string") with
  | none => refuse (.invalidLength 0 "struct RangeDto with 5 elements")
  | some subnet =>
    let rangeStart ← nextField? false (optionalString "a string")
    let rangeEnd ← nextField? false (optionalString "a string")
    let gateway ← nextField? false (optionalString "a string")
    let exclude ← nextField? false (texts depth)
    return {
      subnet
      rangeStart := rangeStart.join
      rangeEnd := rangeEnd.join
      gateway := gateway.join
      exclude := exclude.getD [] }

/-- Reads a range. -/
def reader (depth : Nat) : Reader RangeEntry :=
  expectStructure "struct RangeDto" depth fromList fromObject

end RangeEntry

/-! ## Reading the settings of a store -/

namespace StoreEntry

/-- The kinds of stores, as they are named. -/
inductive Kind where
  | disk
  | memory

/-- Reads the name of a kind. -/
def kind : Reader Kind := do
  match ← expectString "variant identifier" with
  | "disk" => return .disk
  | "memory" => return .memory
  | name => refuse (.unknownVariant name "`disk` or `memory`")

/-- The directory in a value, which null leaves open. -/
def dataDirectory? : Value → Except Mismatch (Option String)
  | .null => .ok none
  | .string text => .ok (some text)
  | other => .error (.invalidType other.found "path string")

/-- The number of milliseconds in a value, which null leaves open. -/
def lockTimeout? : Value → Except Mismatch (Option UInt64)
  | .null => .ok none
  | .number (.natural count) => .ok (some (UInt64.ofNat count))
  | .number (.negative magnitude) =>
    .error (.invalidValue (.number (.negative magnitude)) "u64")
  | other => .error (.invalidType other.found "u64")

/-- The settings of a store on disk among the members of an object. -/
def diskFromMembers (dataDirectory : Option (Option String))
    (lockTimeout : Option (Option UInt64)) :
    List (String × Value) → Except Mismatch StoreEntry
  | [] => .ok (.disk dataDirectory.join lockTimeout.join)
  | (key, value) :: rest =>
    match key with
    | "dataDir" =>
      if dataDirectory.isSome then .error (.duplicateField key)
      else match dataDirectory? value with
        | .error mismatch => .error mismatch
        | .ok read => diskFromMembers (some read) lockTimeout rest
    | "lockTimeoutMs" =>
      if lockTimeout.isSome then .error (.duplicateField key)
      else match lockTimeout? value with
        | .error mismatch => .error mismatch
        | .ok read => diskFromMembers dataDirectory (some read) rest
    | _ => diskFromMembers dataDirectory lockTimeout rest

/-- The settings of a store on disk in the elements of a list. -/
def diskFromElements : List Value → Except Mismatch StoreEntry
  | [] => .ok (.disk none none)
  | [directory] => do return .disk (← dataDirectory? directory) none
  | directory :: timeout :: rest => do
    let dataDirectory ← dataDirectory? directory
    let lockTimeout ← lockTimeout? timeout
    if rest.isEmpty then return .disk dataDirectory lockTimeout
    else throw (.invalidLength (rest.length + 2) "2 elements in sequence")

/-- The settings of a kind of store in the members of an object. -/
def ofMembers (kind : Kind) (members : List (String × Value)) : Except Mismatch StoreEntry :=
  match kind with
  | .disk => diskFromMembers none none members
  | .memory => .ok .memory

/-- The settings of a kind of store in the elements of a list. -/
def ofElements (kind : Kind) (elements : List Value) : Except Mismatch StoreEntry :=
  match kind with
  | .disk => diskFromElements elements
  | .memory =>
    if elements.isEmpty then .ok .memory
    else .error (.invalidLength elements.length "0 elements in sequence")

/-- Goes on with settings, or refuses them. -/
def settle : Except Mismatch StoreEntry → Reader StoreEntry
  | .ok entry => pure entry
  | .error mismatch => refuse mismatch

/-- Reads one member of an object: the kind at once, all else as a value. -/
def member (depth : Nat) (read : Option Kind × List (String × Value)) (key : String) :
    Reader (Option Kind × List (String × Value)) := do
  if key = "type" then return (← onceField key read.1 kind, read.2)
  else
    colon
    return (read.1, read.2 ++ [(key, ← value depth)])

/-- Reads the kind and the members of an object. -/
def fromObject (depth : Nat) : Reader (Except Mismatch StoreEntry) := do
  let (kind, members) ← members (member depth) (none, [])
  return ofMembers (← required "type" kind) members

/-- Reads the kind, as the first element of a list, and the other elements. -/
def fromList (depth : Nat) : Reader (Except Mismatch StoreEntry) := do
  let kind ← required "type" (← nextField? true kind)
  let text ← get
  return ofElements kind (← elementsFrom (value depth) (text.length + 1) false)

/-- Reads the settings of a store; they are looked at when all of them have been read. -/
def reader (depth : Nat) : Reader StoreEntry := do
  settle (← expectStructure "internally tagged enum StoreConfigDto" depth fromList fromObject)

end StoreEntry

/-! ## Reading documents -/

namespace Document

/-- The fields of a document that have been read so far. -/
structure Partial where
  name : Option String := none
  ranges : Option (List (List RangeEntry)) := none
  store : Option StoreEntry := none

/-- Reads a list of lists of ranges. -/
def rings (depth : Nat) : Reader (List (List RangeEntry)) :=
  expectList depth fun outer => expectList outer RangeEntry.reader

/-- Reads one field of a document that is written as an object. -/
def member (depth : Nat) (read : Partial) (key : String) : Reader Partial :=
  match key with
  | "name" => do
    return { read with name := ← onceField key read.name (expectString "a string") }
  | "ranges" => do
    return { read with ranges := ← onceField key read.ranges (rings depth) }
  | "store" => do
    return { read with store := ← onceField key read.store (StoreEntry.reader depth) }
  | _ => colon *> skip *> pure read

/-- Reads a document that is written as an object. -/
def fromObject (depth : Nat) : Reader Document := do
  let read ← members (member depth) {}
  return {
    name := ← required "name" read.name
    ranges := ← required "ranges" read.ranges
    store := read.store.getD .unmentioned }

/-- Reads a document that is written as a list. -/
def fromList (depth : Nat) : Reader Document := do
  match ← nextField? true (expectString "a string") with
  | none => refuse (.invalidLength 0 "struct IpamConfigDto with 3 elements")
  | some name => match ← nextField? false (rings depth) with
    | none => refuse (.invalidLength 1 "struct IpamConfigDto with 3 elements")
    | some ranges =>
      let store ← nextField? false (StoreEntry.reader depth)
      return { name, ranges, store := store.getD .unmentioned }

/-- Reads a document. -/
def reader (depth : Nat) : Reader Document :=
  expectStructure "struct IpamConfigDto" depth fromList fromObject

end Document

/-- Reads a text that holds one range. -/
def RangeEntry.ofText (text : String) : Except Json.Error RangeEntry :=
  readAll (RangeEntry.reader depthLimit) text

/-- Reads a text that holds the settings of a store. -/
def StoreEntry.ofText (text : String) : Except Json.Error StoreEntry :=
  readAll (StoreEntry.reader depthLimit) text

/-- Reads a text that holds a document. -/
def Document.ofText (text : String) : Except Json.Error Document :=
  readAll (Document.reader depthLimit) text

end AddressPool
