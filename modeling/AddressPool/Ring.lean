import AddressPool.Range

/-!
# Rings of ranges

A network hands out addresses from an ordered set of ranges, which is walked as
one ring: behind the last usable address of a range comes the first one of the
next range, and behind the last range comes the first range again.  The ranges
have one family, no two of them have an address in common, and at least one
address is usable; a `Ring` carries these facts.

`successor` is the next usable address behind a given one, and is told the range
that it is in by the address alone, since no address is in two ranges.  A `Walk`
yields as many addresses as the ring has usable ones and then stops.
-/

namespace AddressPool

set_option autoImplicit false

/-- Why a list of ranges is not taken as a ring. -/
inductive RingError where
  | noRanges
  | mixedFamilies (subnet : Prefix)
  | overlapping (left right : Range)
  | noUsableAddresses (network : String)

/-- The text of an error. -/
def RingError.message : RingError → String
  | .noRanges => "range set contains no ranges"
  | .mixedFamilies subnet =>
    "subnet " ++ subnet.text ++ " does not match the address family of the range set"
  | .overlapping left right => "range " ++ left.text ++ " overlaps range " ++ right.text
  | .noUsableAddresses network => "range set " ++ network ++ " has no usable addresses"

/-- The first range that overlaps a later one, with the first one that it overlaps. -/
def firstOverlap? : List Range → Option (Range × Range)
  | [] => none
  | range :: rest =>
    match rest.find? range.overlaps with
    | some other => some (range, other)
    | none => firstOverlap? rest

theorem pairwise_of_firstOverlap?_eq_none {ranges : List Range}
    (absent : firstOverlap? ranges = none) :
    ranges.Pairwise fun left right => left.overlaps right = false := by
  induction ranges with
  | nil => exact .nil
  | cons range rest ih =>
    unfold firstOverlap? at absent
    split at absent
    · simp at absent
    · rename_i unmet
      rw [List.find?_eq_none] at unmet
      refine List.pairwise_cons.2 ⟨fun other member => ?_, ih absent⟩
      simpa using unmet other member

/-- An ordered set of ranges that is walked as one ring. -/
structure Ring where
  network : String
  id : String
  ranges : List Range
  nonempty : ranges ≠ []
  oneFamily : ∀ left ∈ ranges, ∀ right ∈ ranges, left.family = right.family
  disjoint : ranges.Pairwise fun left right => left.overlaps right = false
  someUsable : ∃ range ∈ ranges, range.usable.isEmpty = false

namespace Ring

/-- The identifier of a ring that was not given one. -/
def defaultId : String := "0"

/-- Takes a list of ranges as a ring.

An empty list is reported first, then a range of another family than the first
one, then two ranges that overlap, and last a ring without usable addresses. -/
def ofRanges (network : String) (ranges : List Range) : Except RingError Ring :=
  match ranges with
  | [] => .error .noRanges
  | first :: rest =>
    match same : (first :: rest).find? fun range => decide (range.family ≠ first.family) with
    | some mixed => .error (.mixedFamilies mixed.subnet)
    | none =>
      match apart : firstOverlap? (first :: rest) with
      | some (left, right) => .error (.overlapping left right)
      | none =>
        if empty : (first :: rest).all (·.usable.isEmpty) = true then
          .error (.noUsableAddresses network)
        else .ok {
          network
          id := defaultId
          ranges := first :: rest
          nonempty := by simp
          oneFamily := fun left left_member right right_member => by
            rw [List.find?_eq_none] at same
            have left_same := same left left_member
            have right_same := same right right_member
            simp only [decide_eq_true_eq, ne_eq, Decidable.not_not] at left_same right_same
            rw [left_same, right_same]
          disjoint := pairwise_of_firstOverlap?_eq_none apart
          someUsable := by
            simpa only [List.all_eq_true, Classical.not_forall, Bool.not_eq_true,
              exists_prop] using empty }

section Made

variable {network : String} {ranges : List Range} {ring : Ring}

/-- A ring has the network that it is made for, and the ranges that it is made of. -/
theorem eq_of_ofRanges (made : ofRanges network ranges = .ok ring) :
    ring.network = network ∧ ring.ranges = ranges := by
  unfold ofRanges at made
  split at made
  · cases made
  · split at made
    · cases made
    · split at made
      · cases made
      · split at made
        · cases made
        · obtain rfl := Except.ok.inj made
          exact ⟨rfl, rfl⟩

theorem network_of_ofRanges (made : ofRanges network ranges = .ok ring) :
    ring.network = network := (eq_of_ofRanges made).1

theorem ranges_of_ofRanges (made : ofRanges network ranges = .ok ring) : ring.ranges = ranges :=
  (eq_of_ofRanges made).2

end Made

/-- The ring under another identifier. -/
def withId (ring : Ring) (id : String) : Ring := { ring with id }

/-- The number of addresses that may be handed out. -/
def usableCount (ring : Ring) : Nat := (ring.ranges.map (·.usableCount)).sum

/-- The range that an address may be handed out from. -/
def rangeContaining (ring : Ring) (address : Address) : Option Range :=
  ring.ranges.find? (·.contains address)

/-- Whether an address may be handed out. -/
def contains (ring : Ring) (address : Address) : Bool := (ring.rangeContaining address).isSome

/-- Whether an address is the gateway of some range. -/
def isGateway (ring : Ring) (address : Address) : Bool :=
  ring.ranges.any fun range => decide (range.gateway = address)

/-- The first usable address of the first of some ranges that has one. -/
def firstUsable (ranges : List Range) : Option Address := ranges.findSome? (·.firstUsable)

/-- The next usable address behind one that lies in the bounds of some range. -/
def successor (ring : Ring) (address : Address) : Option Address :=
  match ring.ranges.dropWhile (!·.inBounds address) with
  | [] => none
  | range :: after =>
    range.nextUsable address <|>
      firstUsable (after ++ ring.ranges.takeWhile (!·.inBounds address) ++ [range])

/-- Where a walk starts: behind the cursor, or at the front if that leads nowhere. -/
def startAfter (ring : Ring) (cursor : Option Address) : Option Address :=
  cursor.bind ring.successor <|> firstUsable ring.ranges

/-- How many more addresses a walk yields, and the next one of them. -/
structure Walk where
  next : Option Address
  remaining : Nat

/-- The walk around the whole ring that starts behind the cursor. -/
def walk (ring : Ring) (cursor : Option Address) : Walk :=
  ⟨ring.startAfter cursor, ring.usableCount⟩

/-- One step of a walk: the address that it yields and the walk behind that. -/
def step (ring : Ring) : Walk → Option (Address × Walk)
  | ⟨some address, remaining + 1⟩ => some (address, ⟨ring.successor address, remaining⟩)
  | _ => none

/-- Up to `limit` steps of a walk: the addresses that it yields and the walk behind those. -/
def steps (ring : Ring) : Nat → Walk → List Address × Walk
  | 0, walk => ([], walk)
  | limit + 1, walk =>
    match ring.step walk with
    | none => ([], walk)
    | some (address, next) =>
      let (addresses, last) := ring.steps limit next
      (address :: addresses, last)

/-- Least and greatest number of addresses left, counted in 64 bits: beyond that the greatest
number is unknown. -/
def Walk.sizeHint (walk : Walk) : Nat × Option Nat :=
  if walk.remaining < 2 ^ 64 then (walk.remaining, some walk.remaining) else (2 ^ 64 - 1, none)

/-- Every usable address of the ring, in the order of the walk that starts behind the cursor. -/
def candidates (ring : Ring) (cursor : Option Address) : List Address :=
  (ring.steps ring.usableCount (ring.walk cursor)).1

/-- The text of a ring: its network, its identifier and its ranges. -/
def text (ring : Ring) : String :=
  ring.network ++ "/" ++ ring.id ++ ": " ++ ", ".intercalate (ring.ranges.map (·.text))

instance : ToString Ring := ⟨text⟩

end Ring

end AddressPool
