import AddressPool.Config
import AddressPool.Document.Reader
import AddressPool.Document.Writer
import AddressPool.Proofs.Json.Collections

/-!
# Documents that are read back as they were written

A range, the settings of a store and a document are each written as an object, and each of
them is read back as it was written (`documents_round_trip`), whatever texts it holds and
whichever of its optional fields are there.

The fields are read in the order in which they are written.  An optional field that is left
out leaves the state as it is, and that is the state that a missing value leads to; so one rule
covers every choice of optional fields (`ReadsFields.optional`).  The fields of a store are kept
as values until the object has been read, and are looked at afterwards (`ofMembers_kept`).

Since every value is read back, a text that has been accepted settles when it is read and
written once: from then on nothing changes any more (`RoundTrips`).
-/

namespace AddressPool

set_option autoImplicit false

open Json

/-! ## Fields -/

namespace Json

section Fields

variable {σ α : Type} {member : σ → String → Reader σ} {write : α → List Char}

/-- A field that has to be there is read as its value is. -/
theorem ReadsFields.required {field : Reader α} {written : List Char} {value : α} (name : String)
    (store : Option α → σ) (reads : Reads field written value)
    (once : member (store none) name =
      onceField name none field >>= fun value => pure (store value)) :
    ReadsFields member (store none) [(name, written)] (store (some value)) := by
  refine .cons (fun rest follows => ?_) (.nil _)
  rw [once, Reader.bind_ok (onceField_written reads name follows)]
  rfl

/-- An optional field is read as its value is, or it is not there, and then the state that
belongs to it is the one at hand. -/
theorem ReadsFields.optional {field : Reader (Option α)} (name : String)
    (store : Option (Option α) → σ) (value : Option α)
    (reads : ∀ value, Reads field (write value) (some value))
    (once : member (store none) name =
      onceField name none field >>= fun value => pure (store value)) :
    ReadsFields member (store none) (optionalField name write value) (store (value.map some)) := by
  cases value with
  | none => exact .nil _
  | some value =>
    refine .cons (fun rest follows => ?_) (.nil _)
    rw [once, Reader.bind_ok (onceField_written (reads value) name follows)]
    rfl

end Fields

/-- A text that holds nothing but what has been written is read as a whole. -/
theorem readAll_written {α : Type} {reader : Reader α} {written : List Char} {value : α}
    (reads : Reads reader written value) : readAll reader (String.ofList written) = .ok value := by
  have read := reads.back [] trivial
  rw [List.append_nil] at read
  rw [readAll, String.toList_ofList, Reader.bind_ok read]
  rfl

end Json

/-! ## Ranges -/

namespace RangeEntry

/-- A list of texts is read back. -/
theorem reads_texts (depth : Nat) (values : List String) :
    Reads (texts (depth + 2)) (writeList (values.map writeString)) values :=
  reads_expectList (reads_expectString "a string") values

/-- The exclusions of a range are read, or there are none and they are left out. -/
theorem reads_exclude (depth : Nat) {read : Partial} (unread : read.exclude = none)
    (exclude : List String) :
    ReadsFields (member (depth + 2)) read
      (if exclude.isEmpty then [] else [("exclude", writeList (exclude.map writeString))])
      { read with exclude := if exclude.isEmpty then none else some exclude } := by
  obtain ⟨subnet, rangeStart, rangeEnd, gateway, _⟩ := read
  obtain rfl := unread
  cases exclude with
  | nil => exact .nil _
  | cons first others =>
    change ReadsFields (member (depth + 2)) _
      [("exclude", writeList ((first :: others).map writeString))] _
    exact .required "exclude"
      (fun exclude => ({ subnet, rangeStart, rangeEnd, gateway, exclude } : Partial))
      (reads_texts depth (first :: others)) rfl

/-- The fields of a range are read one after the other. -/
theorem reads_fields (depth : Nat) (entry : RangeEntry) :
    ReadsFields (member (depth + 2)) {}
      (("subnet", writeString entry.subnet) ::
        optionalField "rangeStart" writeString entry.rangeStart ++
        optionalField "rangeEnd" writeString entry.rangeEnd ++
        optionalField "gateway" writeString entry.gateway ++
        if entry.exclude.isEmpty then []
        else [("exclude", writeList (entry.exclude.map writeString))])
      { subnet := some entry.subnet
        rangeStart := entry.rangeStart.map some
        rangeEnd := entry.rangeEnd.map some
        gateway := entry.gateway.map some
        exclude := if entry.exclude.isEmpty then none else some entry.exclude } := by
  have subnet : ReadsFields (member (depth + 2)) {} [("subnet", writeString entry.subnet)]
      { subnet := some entry.subnet } :=
    .required "subnet" (fun subnet => ({ subnet } : Partial)) (reads_expectString _ _) rfl
  have rangeStart := subnet.append <| .optional "rangeStart"
    (fun rangeStart => ({ subnet := some entry.subnet, rangeStart } : Partial))
    entry.rangeStart (reads_optionalString "a string") rfl
  have rangeEnd := rangeStart.append <| .optional "rangeEnd"
    (fun rangeEnd => ({
      subnet := some entry.subnet
      rangeStart := entry.rangeStart.map some
      rangeEnd } : Partial))
    entry.rangeEnd (reads_optionalString "a string") rfl
  have gateway := rangeEnd.append <| .optional "gateway"
    (fun gateway => ({
      subnet := some entry.subnet
      rangeStart := entry.rangeStart.map some
      rangeEnd := entry.rangeEnd.map some
      gateway } : Partial))
    entry.gateway (reads_optionalString "a string") rfl
  exact gateway.append (reads_exclude depth rfl entry.exclude)

/-- **A range is read back as it was written.** -/
theorem reads_write (depth : Nat) (entry : RangeEntry) :
    Reads (reader (depth + 3)) entry.write entry := by
  refine reads_expectStructure "struct RangeDto" fromList fun rest => ?_
  rw [fromObject, Reader.bind_ok (members_written (reads_fields depth entry) rest)]
  have exclude : (if entry.exclude.isEmpty then none else some entry.exclude).getD [] =
      entry.exclude := by cases entry.exclude <;> rfl
  have optional : ∀ value : Option String, (value.map some).join = value := by
    intro value
    cases value <;> rfl
  change Except.ok (({
    subnet := entry.subnet
    rangeStart := (entry.rangeStart.map some).join
    rangeEnd := (entry.rangeEnd.map some).join
    gateway := (entry.gateway.map some).join
    exclude := (if entry.exclude.isEmpty then none else some entry.exclude).getD [] } : RangeEntry),
    _) = _
  rw [optional, optional, optional, exclude]

end RangeEntry

/-! ## Stores -/

namespace StoreEntry

/-- The name of a kind is read back. -/
theorem reads_kind_disk : Reads kind (writeString "disk") .disk := by
  refine ⟨solid_writeString "disk", fun rest follows => ?_⟩
  rw [kind, Reader.bind_ok ((reads_expectString _ "disk").back rest follows)]
  rfl

theorem reads_kind_memory : Reads kind (writeString "memory") .memory := by
  refine ⟨solid_writeString "memory", fun rest follows => ?_⟩
  rw [kind, Reader.bind_ok ((reads_expectString _ "memory").back rest follows)]
  rfl

/-- The kind of a store is known when its first field has been read. -/
theorem reads_type (depth : Nat) {kind : Kind} {name : String}
    (reads : Reads StoreEntry.kind (writeString name) kind) :
    ReadsFields (member depth) (none, []) [("type", writeString name)] (some kind, []) :=
  .required "type" (fun kind => (kind, [])) reads rfl

/-- Any other field is kept as a value if it is there. -/
theorem reads_kept {α : Type} {depth : Nat} {name : String} (other : name ≠ "type")
    {write : α → List Char} {keep : α → Value}
    (reads : ∀ field, Reads (value depth) (write field) (keep field)) (kind : Option Kind)
    (members : List (String × Value)) (field : Option α) :
    ReadsFields (member depth) (kind, members) (optionalField name write field)
      (kind, members ++ (field.map fun field => (name, keep field)).toList) := by
  cases field with
  | none =>
    rw [Option.map_none, Option.toList_none, List.append_nil]
    exact .nil _
  | some field =>
    refine .cons (fun rest follows => ?_) (.nil _)
    have passed : colon (':' :: (write field ++ rest)) = .ok ((), write field ++ rest) := rfl
    rw [member, if_neg other, Reader.bind_ok passed,
      Reader.bind_ok ((reads field).back rest follows)]
    rfl

/-- Every number of 64 bits is kept as it was written. -/
theorem reads_timeout (depth : Nat) (count : UInt64) :
    Reads (value depth) (writeNat count.toNat) (.number (.natural count.toNat)) :=
  reads_value_number depth (Nat.le_pred_of_lt count.toNat_lt)

/-- The members that are kept of a store on disk. -/
def kept (dataDirectory : Option String) (lockTimeout : Option UInt64) : List (String × Value) :=
  [] ++ (dataDirectory.map fun directory => ("dataDir", Value.string directory)).toList ++
    (lockTimeout.map fun count => ("lockTimeoutMs", Value.number (.natural count.toNat))).toList

/-- The settings of a store on disk are those that its members were kept for. -/
theorem ofMembers_kept (dataDirectory : Option String) (lockTimeout : Option UInt64) :
    ofMembers .disk (kept dataDirectory lockTimeout) = .ok (.disk dataDirectory lockTimeout) := by
  cases lockTimeout with
  | none => cases dataDirectory <;> rfl
  | some count =>
    have whole : UInt64.ofNat count.toNat = count := UInt64.ofNat_toNat
    cases dataDirectory with
    | none =>
      change Except.ok (StoreEntry.disk none (some (UInt64.ofNat count.toNat))) = _
      rw [whole]
    | some directory =>
      change Except.ok (StoreEntry.disk (some directory) (some (UInt64.ofNat count.toNat))) = _
      rw [whole]

/-- Settings are read back when their members have been read and stand for them. -/
theorem reads_members {depth : Nat} {fields : List (String × List Char)} {kind : Kind}
    {members : List (String × Value)} {entry : StoreEntry}
    (reads : ReadsFields (member (depth + 1)) (none, []) fields (some kind, members))
    (stand : ofMembers kind members = .ok entry) :
    Reads (reader (depth + 2)) (writeObject fields) entry := by
  have object : Reads
      (expectStructure "internally tagged enum StoreConfigDto" (depth + 2) fromList fromObject)
      (writeObject fields) (ofMembers kind members) := by
    refine reads_expectStructure _ fromList fun rest => ?_
    rw [fromObject, Reader.bind_ok (members_written reads rest)]
    rfl
  refine ⟨object.solid, fun rest follows => ?_⟩
  rw [reader, Reader.bind_ok (object.back rest follows), stand]
  rfl

/-- **The settings of a store are read back as they were written.** -/
theorem reads_write (depth : Nat) (entry : StoreEntry) :
    Reads (reader (depth + 2)) entry.write entry := by
  cases entry with
  | memory => exact reads_members (reads_type (depth + 1) reads_kind_memory) rfl
  | disk dataDirectory lockTimeout =>
    have kind := reads_type (depth + 1) reads_kind_disk
    have directory := kind.append <|
      reads_kept (by decide : "dataDir" ≠ "type") (reads_value_string (depth + 1)) _ _ dataDirectory
    have timeout := directory.append <|
      reads_kept (by decide : "lockTimeoutMs" ≠ "type") (reads_timeout (depth + 1)) _ _ lockTimeout
    exact reads_members timeout (ofMembers_kept dataDirectory lockTimeout)

end StoreEntry

/-! ## Documents -/

namespace Document

/-- The lists of ranges are read back. -/
theorem reads_rings (depth : Nat) (ranges : List (List RangeEntry)) :
    Reads (rings (depth + 5)) (writeList (ranges.map fun ring => writeList (ring.map (·.write))))
      ranges :=
  reads_expectList (reads_expectList (RangeEntry.reads_write depth)) ranges

/-- The fields of a document are read one after the other. -/
theorem reads_fields (depth : Nat) (document : Document) :
    ReadsFields (member (depth + 5)) {}
      [("name", writeString document.name),
        ("ranges", writeList (document.ranges.map fun ring => writeList (ring.map (·.write)))),
        ("store", document.store.write)]
      { name := some document.name
        ranges := some document.ranges
        store := some document.store } := by
  have name : ReadsFields (member (depth + 5)) {} [("name", writeString document.name)]
      { name := some document.name } :=
    .required "name" (fun name => ({ name } : Partial)) (reads_expectString _ _) rfl
  have ranges := name.append <| .required "ranges"
    (fun ranges => ({ name := some document.name, ranges } : Partial))
    (reads_rings depth document.ranges) rfl
  have store := ranges.append <| .required "store"
    (fun store => ({
      name := some document.name
      ranges := some document.ranges
      store } : Partial))
    (StoreEntry.reads_write (depth + 3) document.store) rfl
  exact store

/-- **A document is read back as it was written.** -/
theorem reads_write (depth : Nat) (document : Document) :
    Reads (reader (depth + 6)) document.write document := by
  refine reads_expectStructure "struct IpamConfigDto" fromList fun rest => ?_
  rw [fromObject, Reader.bind_ok (members_written (reads_fields depth document) rest)]
  rfl

end Document

/-! ## Texts -/

/-- Every value is read back from the text that is written for it.  So a text that is accepted
settles when it is read and written once: what has been written is accepted, it stands for the
same value, and reading and writing it once more changes nothing. -/
structure RoundTrips {α : Type} (read : String → Except Json.Error α) (write : α → String) :
    Prop where
  back : ∀ value, read (write value) = .ok value
  settled : ∀ text value, read text = .ok value →
    read (write value) = read text ∧ (read (write value)).map write = .ok (write value)

/-- Texts settle if every value is read back. -/
theorem RoundTrips.of_back {α : Type} {read : String → Except Json.Error α} {write : α → String}
    (back : ∀ value, read (write value) = .ok value) : RoundTrips read write := by
  refine ⟨back, fun text value accepted => ?_⟩
  rw [accepted, back value]
  exact ⟨rfl, rfl⟩

/-- **Documents, the ranges in them and the settings of a store are read back as they were
written**, and a text of any of them settles when it is read and written once.  The configuration
in the text of a document is the one in the text that the document has been read from. -/
theorem documents_round_trip :
    RoundTrips RangeEntry.ofText RangeEntry.text ∧
      RoundTrips StoreEntry.ofText StoreEntry.text ∧
      RoundTrips Document.ofText Document.text ∧
      ∀ text document, Document.ofText text = .ok document →
        Config.ofText document.text = Config.ofText text := by
  have range : RoundTrips RangeEntry.ofText RangeEntry.text :=
    .of_back fun entry => readAll_written (RangeEntry.reads_write 125 entry)
  have store : RoundTrips StoreEntry.ofText StoreEntry.text :=
    .of_back fun entry => readAll_written (StoreEntry.reads_write 126 entry)
  have document : RoundTrips Document.ofText Document.text :=
    .of_back fun document => readAll_written (Document.reads_write 122 document)
  refine ⟨range, store, document, fun text read accepted => ?_⟩
  rw [Config.ofText, Config.ofText, accepted, document.back read]

/-- A document is given as the list of its fields, with blanks between them and without a store.
It settles as an object whose store is of the type that is meant. -/
theorem documents_round_trip_slash29 :
    let text := " [\"net\", [[[\"10.0.0.0/29\"]]]] "
    let settled := "\x7b\"name\":\"net\",\"ranges\":[[\x7b\"subnet\":\"10.0.0.0/29\"\x7d]]," ++
      "\"store\":\x7b\"type\":\"disk\"\x7d\x7d"
    let document : Document := ⟨"net", [[⟨"10.0.0.0/29", none, none, none, []⟩]], .disk none none⟩
    Document.ofText text = .ok document ∧ document.text = settled ∧
      Document.ofText settled = Document.ofText text ∧
      Config.ofText settled = Config.ofText text := by
  intro text settled document
  have read : (Document.ofText text).toOption = some document := by decide +kernel
  have written : document.text = settled := by decide +kernel
  obtain ⟨_, _, documents, config⟩ := documents_round_trip
  cases accepted : Document.ofText text with
  | error cause =>
    rw [accepted] at read
    cases read
  | ok entry =>
    rw [accepted] at read
    obtain rfl := Option.some.inj read
    have settles := (documents.settled text document accepted).1
    have meant := config text document accepted
    rw [written] at settles meant
    exact ⟨rfl, written, settles.trans accepted, meant⟩

end AddressPool
