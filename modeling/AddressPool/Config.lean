import AddressPool.Document.Reader
import AddressPool.Ring

/-!
# The configuration of a network

A document becomes a configuration when all its texts can be read, all its ranges
and rings hold up on their own, and no two rings have an address in common.  The
first thing that does not hold is reported: rings are looked at one after the
other, the ranges of a ring before the ring as a whole, and the rings against one
another only when each of them is in order.
-/

namespace AddressPool

set_option autoImplicit false

/-- What is wrong with one ring of a document. -/
inductive RingFault where
  | unreadable (field : UnreadableField)
  | range (subnet : Prefix) (cause : RangeError)
  | ring (cause : RingError)

/-- Why a text is not taken as a configuration. -/
inductive ConfigError where
  | malformed (cause : Json.Error)
  | emptyName
  | noRings
  | invalidRing (index : Nat) (cause : RingFault)
  | overlappingRings (left right : Nat)

/-- The texts of a fault, the outermost first. -/
def RingFault.chain : RingFault → List String
  | .unreadable field =>
    ["invalid " ++ field.field.label ++ " " ++ Text.quoted field.text, Address.refusal]
  | .range subnet cause => ["invalid range in subnet " ++ subnet.text, cause.message]
  | .ring cause => [cause.message]

/-- The texts of an error and of what is behind it, the outermost first. -/
def ConfigError.chain : ConfigError → List String
  | .malformed cause => ["malformed IPAM configuration", cause.message]
  | .emptyName => ["network name must not be empty"]
  | .noRings => ["no range sets configured"]
  | .invalidRing index cause => ("invalid range set " ++ toString index) :: cause.chain
  | .overlappingRings left right =>
    ["range sets " ++ toString left ++ " and " ++ toString right ++ " overlap"]

/-- Whether some range of one ring overlaps some range of another. -/
def Ring.overlaps (left right : Ring) : Bool :=
  left.ranges.any fun range => right.ranges.any range.overlaps

/-- The configuration of a network: each ring has its place as its identifier, and no two rings
have an address in common. -/
structure Config where
  network : String
  rings : List Ring
  settings : StoreSettings
  named : network ≠ ""
  someRing : rings ≠ []
  numbered : ∀ (index : Nat) (ring : Ring), rings[index]? = some ring →
    ring.id = toString index ∧ ring.network = network
  apart : rings.Pairwise fun left right => left.overlaps right = false

/-! ## Ranges and rings of a document -/

namespace RangeEntry

/-- Reads an address that may be missing. -/
def readAddress? (field : AddressField) : Option String → Except UnreadableField (Option Address)
  | none => .ok none
  | some text => do return some (← Exclusion.readAddress field text.toList)

/-- Reads the texts of a range in the order of its fields. -/
def spec (entry : RangeEntry) : Except UnreadableField RangeSpec := do
  let subnet ← Exclusion.readPrefix .subnet entry.subnet.toList
  let first ← readAddress? .rangeStart entry.rangeStart
  let last ← readAddress? .rangeEnd entry.rangeEnd
  let gateway ← readAddress? .gateway entry.gateway
  let exclusions ← entry.exclude.mapM Exclusion.ofString
  return { subnet, first, last, gateway, exclusions }

/-- The range that is written in an entry. -/
def range (entry : RangeEntry) : Except RingFault Range :=
  match entry.spec with
  | .error field => .error (.unreadable field)
  | .ok spec => match Range.build spec with
    | .error cause => .error (.range spec.subnet cause)
    | .ok range => .ok range

end RangeEntry

namespace Config

/-- The ring that is written at a place of a document; the place is its identifier. -/
def ring (network : String) (index : Nat) (entries : List RangeEntry) :
    Except ConfigError Ring :=
  match entries.mapM RangeEntry.range with
  | .error cause => .error (.invalidRing index cause)
  | .ok ranges => match Ring.ofRanges network ranges with
    | .error cause => .error (.invalidRing index (.ring cause))
    | .ok ring => .ok (ring.withId (toString index))

/-- The rings that are written from a place of a document on. -/
def ringsFrom (network : String) : Nat → List (List RangeEntry) → Except ConfigError (List Ring)
  | _, [] => .ok []
  | index, entries :: rest =>
    match ring network index entries with
    | .error error => .error error
    | .ok first => match ringsFrom network (index + 1) rest with
      | .error error => .error error
      | .ok others => .ok (first :: others)

/-- The places of the first ring, from a place on, that overlaps a later one, and of the first
ring that it overlaps. -/
def overlapFrom? : Nat → List Ring → Option (Nat × Nat)
  | _, [] => none
  | index, ring :: rest =>
    match rest.findIdx? ring.overlaps with
    | some distance => some (index, index + 1 + distance)
    | none => overlapFrom? (index + 1) rest

theorem numbered_of_ring {network : String} {index : Nat} {entries : List RangeEntry}
    {made : Ring} (found : ring network index entries = .ok made) :
    made.id = toString index ∧ made.network = network := by
  unfold ring at found
  split at found
  · cases found
  · split at found
    · cases found
    · rename_i whole
      obtain rfl := Except.ok.inj found
      have same := Ring.network_of_ofRanges whole
      exact ⟨rfl, same⟩

/-- A document without rings has no rings, and each ring has its place as its identifier. -/
theorem numbered_of_ringsFrom {network : String} {start : Nat} {document : List (List RangeEntry)}
    {rings : List Ring} (found : ringsFrom network start document = .ok rings) :
    rings.length = document.length ∧ ∀ (index : Nat) (ring : Ring), rings[index]? = some ring →
      ring.id = toString (start + index) ∧ ring.network = network := by
  induction document generalizing start rings with
  | nil =>
    cases found
    exact ⟨rfl, by simp⟩
  | cons entries rest ih =>
    unfold ringsFrom at found
    split at found
    · cases found
    · rename_i first here
      split at found
      · cases found
      · rename_i others later
        cases found
        obtain ⟨length, numbered⟩ := ih later
        refine ⟨by simp [length], fun index ring there => ?_⟩
        cases index with
        | zero =>
          simp only [List.getElem?_cons_zero, Option.some.injEq] at there
          exact there ▸ numbered_of_ring here
        | succ index =>
          have := numbered index ring (by simpa using there)
          rwa [Nat.add_assoc, Nat.add_comm 1] at this

theorem apart_of_overlapFrom? {start : Nat} {rings : List Ring}
    (absent : overlapFrom? start rings = none) :
    rings.Pairwise fun left right => left.overlaps right = false := by
  induction rings generalizing start with
  | nil => exact .nil
  | cons ring rest ih =>
    unfold overlapFrom? at absent
    split at absent
    · cases absent
    · rename_i unmet
      refine List.pairwise_cons.2 ⟨fun other member => ?_, ih absent⟩
      simpa using List.findIdx?_eq_none_iff.1 unmet other member

/-- The configuration that is written in a document. -/
def ofDocument (document : Document) : Except ConfigError Config :=
  if unnamed : document.name = "" then .error .emptyName
  else if none_given : document.ranges = [] then .error .noRings
  else match found : ringsFrom document.name 0 document.ranges with
    | .error error => .error error
    | .ok rings => match absent : overlapFrom? 0 rings with
      | some (left, right) => .error (.overlappingRings left right)
      | none => .ok {
          network := document.name
          rings
          settings := document.store.settings
          named := unnamed
          someRing := fun empty => none_given <| List.eq_nil_of_length_eq_zero <| by
            rw [← (numbered_of_ringsFrom found).1, empty]; rfl
          numbered := fun index ring there => by
            simpa using (numbered_of_ringsFrom found).2 index ring there
          apart := apart_of_overlapFrom? absent }

/-- The configuration in a text. -/
def ofText (text : String) : Except ConfigError Config :=
  match Document.ofText text with
  | .error cause => .error (.malformed cause)
  | .ok document => ofDocument document

end Config

/-! ## Configuration files -/

/-- Why a file is not taken as a configuration. -/
inductive LoadError where
  | unreadable (path : String) (cause : FileError)
  | invalid (path : String) (cause : ConfigError)

/-- The texts of an error and of what is behind it, the outermost first. -/
def LoadError.chain : LoadError → List String
  | .unreadable path cause => ["failed to read " ++ path, cause.message]
  | .invalid path cause => ("invalid configuration " ++ path) :: cause.chain

/-- Reads the configuration in a file. -/
def Config.load (path : String) : FileProgram (Except LoadError Config) := do
  match ← readText path with
  | .error cause => return .error (.unreadable path cause)
  | .ok text => match Config.ofText text with
    | .error cause => return .error (.invalid path cause)
    | .ok config => return .ok config

end AddressPool
