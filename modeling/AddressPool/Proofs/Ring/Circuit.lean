import AddressPool.Proofs.Range.Bounds
import AddressPool.Ring
import Mathlib.Data.List.TakeWhile

/-!
# The circuit of a ring

The usable addresses of a ring, range after range and in increasing order within
each, are a list without repetition.  A walk around the ring is a rotation of
that list: `circuit` says where it starts for every cursor, and
`candidates_eq_circuit` says that the walk yields exactly that, step by step.

The theorem that makes successive walks fit together is `circuit_some_of_split`:
when a walk has yielded an address, the walk that starts behind that address
yields what was still to come, then what had come before, and the address last.
-/

namespace AddressPool

set_option autoImplicit false

/-! ## Lists without repetition -/

/-- The place of an entry in a list without repetition is unique. -/
theorem split_unique {α : Type} {before before' after after' : List α} {entry : α}
    (nodup : (before ++ entry :: after).Nodup)
    (same : before ++ entry :: after = before' ++ entry :: after') :
    before = before' ∧ after = after' := by
  induction before generalizing before' with
  | nil =>
    cases before' with
    | nil => simpa using same
    | cons first rest =>
      obtain ⟨rfl, rfl⟩ := List.cons.inj same
      simp at nodup
  | cons first rest ih =>
    cases before' with
    | nil =>
      obtain ⟨rfl, rfl⟩ := List.cons.inj same
      simp at nodup
    | cons first' rest' =>
      obtain ⟨rfl, tail⟩ := List.cons.inj same
      obtain ⟨rfl, rfl⟩ := ih (List.nodup_cons.mp nodup).2 tail
      exact ⟨rfl, rfl⟩

/-- A list in increasing order of some measure is cut in two by every bound. -/
theorem filter_le_append_filter_lt {α : Type} {measure : α → Nat} {entries : List α}
    (increasing : entries.Pairwise fun left right => measure left < measure right) (bound : Nat) :
    (entries.filter fun entry => decide (measure entry ≤ bound)) ++
      (entries.filter fun entry => decide (bound < measure entry)) = entries := by
  induction entries with
  | nil => rfl
  | cons first rest ih =>
    obtain ⟨ahead, later⟩ := List.pairwise_cons.mp increasing
    by_cases within : measure first ≤ bound
    · rw [List.filter_cons_of_pos (by simpa using within),
        List.filter_cons_of_neg (by simpa using within), List.cons_append, ih later]
    · have beyond : ∀ entry ∈ rest, bound < measure entry := by
        intro entry member
        have := ahead entry member
        omega
      have none : rest.filter (fun entry => decide (measure entry ≤ bound)) = [] := by
        rw [List.filter_eq_nil_iff]
        intro entry member
        simpa using beyond entry member
      have all : rest.filter (fun entry => decide (bound < measure entry)) = rest := by
        rw [List.filter_eq_self]
        intro entry member
        simpa using beyond entry member
      rw [List.filter_cons_of_neg (by simpa using within), none,
        List.filter_cons_of_pos (by simpa using within), all, List.nil_append]

/-! ## The usable addresses of a range -/

namespace Range

variable {range : Range}

/-- The addresses that may be handed out from a range, in increasing order. -/
def addresses (range : Range) : List Address := range.usable.values.map range.addressAt

theorem position_addressAt_of_mem {place : Nat} (member : place ∈ range.usable.values) :
    (range.addressAt place).position = place := by
  obtain ⟨⟨above, below⟩, _⟩ := mem_usable_iff.mp member
  exact position_addressAt above below

theorem mem_addresses {address : Address} :
    address ∈ range.addresses ↔ range.contains address = true := by
  rw [addresses, List.mem_map, contains, Bool.and_eq_true, decide_eq_true_eq,
    IntervalSet.contains_iff]
  constructor
  · rintro ⟨place, member, rfl⟩
    rw [position_addressAt_of_mem member]
    exact ⟨family_addressAt place, member⟩
  · rintro ⟨family, member⟩
    exact ⟨address.position, member, addressAt_position family⟩

theorem addresses_increasing (range : Range) :
    range.addresses.Pairwise fun left right => left.position < right.position := by
  rw [addresses, List.pairwise_map]
  refine range.usable.values_increasing.imp_of_mem fun here there order => ?_
  rwa [position_addressAt_of_mem here, position_addressAt_of_mem there]

theorem nodup_addresses (range : Range) : range.addresses.Nodup :=
  range.addresses_increasing.imp fun order equal => by
    rw [equal] at order
    exact Nat.lt_irrefl _ order

theorem length_addresses (range : Range) : range.addresses.length = range.usableCount := by
  rw [addresses, List.length_map, IntervalSet.length_values, usableCount]

theorem firstUsable_eq_head? (range : Range) : range.firstUsable = range.addresses.head? := by
  rw [firstUsable, IntervalSet.first_eq_head?, addresses, List.head?_map]

theorem nextUsable_eq_head? (range : Range) (cursor : Address) :
    range.nextUsable cursor =
      (range.addresses.filter fun address =>
        decide (cursor.position < address.position)).head? := by
  rw [nextUsable, IntervalSet.nextAfter_eq_find?, List.head?_filter, addresses, List.find?_map]
  have same : ∀ values : List Nat, (∀ place ∈ values, place ∈ range.usable.values) →
      values.find? (fun place => decide (cursor.position < place)) =
        values.find? ((fun address : Address => decide (cursor.position < address.position)) ∘
          range.addressAt) := by
    intro values inside
    induction values with
    | nil => rfl
    | cons place rest ih =>
      have here := position_addressAt_of_mem (inside place (List.mem_cons_self ..))
      have further := ih fun other member => inside other (List.mem_cons_of_mem _ member)
      rw [List.find?_cons, List.find?_cons, Function.comp_apply, here, further]
  rw [same _ fun _ member => member]

/-- The usable addresses of a range behind a place come after those up to it. -/
theorem addresses_cut (range : Range) (cursor : Address) :
    (range.addresses.filter fun address => decide (address.position ≤ cursor.position)) ++
      (range.addresses.filter fun address => decide (cursor.position < address.position)) =
      range.addresses :=
  filter_le_append_filter_lt range.addresses_increasing cursor.position

end Range

/-- The usable addresses of some ranges, range after range. -/
def addressesOf (ranges : List Range) : List Address := ranges.flatMap Range.addresses

@[simp]
theorem addressesOf_nil : addressesOf [] = [] := rfl

@[simp]
theorem addressesOf_cons (range : Range) (rest : List Range) :
    addressesOf (range :: rest) = range.addresses ++ addressesOf rest := rfl

@[simp]
theorem addressesOf_append (left right : List Range) :
    addressesOf (left ++ right) = addressesOf left ++ addressesOf right :=
  List.flatMap_append

theorem mem_addressesOf {ranges : List Range} {address : Address} :
    address ∈ addressesOf ranges ↔ ∃ range ∈ ranges, range.contains address = true := by
  simp only [addressesOf, List.mem_flatMap, Range.mem_addresses]

theorem nodup_addressesOf {ranges : List Range}
    (disjoint : ranges.Pairwise fun left right => left.overlaps right = false) :
    (addressesOf ranges).Nodup := by
  induction ranges with
  | nil => exact List.nodup_nil
  | cons range rest ih =>
    obtain ⟨apart, later⟩ := List.pairwise_cons.mp disjoint
    rw [addressesOf_cons, List.nodup_append]
    refine ⟨range.nodup_addresses, ih later, ?_⟩
    rintro address here other there rfl
    obtain ⟨second, member, usable⟩ := mem_addressesOf.mp there
    have inside := Range.inBounds_of_contains (Range.mem_addresses.mp here)
    have outside := Range.not_inBounds_of_apart (apart second member) inside
    rw [Range.inBounds_of_contains usable] at outside
    cases outside

namespace Ring

variable {ring : Ring}

/-! ## The usable addresses of a ring -/

/-- The usable addresses of a ring, range after range. -/
def addresses (ring : Ring) : List Address := addressesOf ring.ranges

theorem nodup_addresses (ring : Ring) : ring.addresses.Nodup := nodup_addressesOf ring.disjoint

theorem mem_addresses {address : Address} :
    address ∈ ring.addresses ↔ ring.contains address = true := by
  rw [addresses, mem_addressesOf, contains, rangeContaining, List.find?_isSome]

theorem length_addresses (ring : Ring) : ring.addresses.length = ring.usableCount := by
  rw [addresses, addressesOf, List.length_flatMap, usableCount]
  simp only [Range.length_addresses]

theorem firstUsable_eq_head? (ranges : List Range) :
    firstUsable ranges = (addressesOf ranges).head? := by
  rw [addressesOf, List.head?_flatMap, firstUsable]
  simp only [Range.firstUsable_eq_head?]

/-! ## Rotations -/

/-- The ranges in front of the one that has an address in its bounds, and those behind it. -/
theorem split_at_bounds {before after : List Range} {range : Range} {address : Address}
    (split : ring.ranges = before ++ range :: after) (inside : range.inBounds address = true) :
    ring.ranges.takeWhile (!·.inBounds address) = before ∧
      ring.ranges.dropWhile (!·.inBounds address) = range :: after := by
  have disjoint := ring.disjoint
  rw [split, List.pairwise_append] at disjoint
  have outside : ∀ earlier ∈ before, (!earlier.inBounds address) = true := by
    intro earlier member
    have apart := disjoint.2.2 earlier member range (List.mem_cons_self ..)
    rw [Range.overlaps_comm] at apart
    simp [Range.not_inBounds_of_apart apart inside]
  rw [split, List.takeWhile_append_of_pos outside, List.dropWhile_append_of_pos outside]
  simp [inside]

/-- The usable addresses of a ring, rotated so that they start behind the cursor: with what is
left of the cursor's range, and with the whole list if no range has the cursor in its bounds. -/
def circuit (ring : Ring) : Option Address → List Address
  | none => ring.addresses
  | some cursor =>
    match ring.ranges.dropWhile (!·.inBounds cursor) with
    | [] => ring.addresses
    | range :: after =>
      (range.addresses.filter fun address => decide (cursor.position < address.position)) ++
        addressesOf after ++ addressesOf (ring.ranges.takeWhile (!·.inBounds cursor)) ++
        range.addresses.filter fun address => decide (address.position ≤ cursor.position)

/-- A circuit is a rotation of the usable addresses. -/
theorem circuit_rotates (ring : Ring) (cursor : Option Address) :
    ∃ front back, ring.addresses = front ++ back ∧ ring.circuit cursor = back ++ front := by
  cases cursor with
  | none => exact ⟨[], ring.addresses, rfl, (List.append_nil _).symm⟩
  | some cursor =>
    rw [circuit]
    have whole := List.takeWhile_append_dropWhile (p := (!·.inBounds cursor)) (l := ring.ranges)
    split
    · exact ⟨[], ring.addresses, rfl, (List.append_nil _).symm⟩
    · rename_i range after behind
      rw [behind] at whole
      refine ⟨addressesOf (ring.ranges.takeWhile (!·.inBounds cursor)) ++
        range.addresses.filter fun address => decide (address.position ≤ cursor.position),
        (range.addresses.filter fun address => decide (cursor.position < address.position)) ++
          addressesOf after, ?_, ?_⟩
      · have cut : addressesOf (range :: after) = _ :=
          congrArg (· ++ addressesOf after) (range.addresses_cut cursor).symm
        rw [addresses, ← whole, addressesOf_append, whole, cut]
        simp only [List.append_assoc]
      · simp only [List.append_assoc]

theorem mem_circuit {cursor : Option Address} {address : Address} :
    address ∈ ring.circuit cursor ↔ ring.contains address = true := by
  obtain ⟨front, back, whole, rotated⟩ := ring.circuit_rotates cursor
  rw [← mem_addresses, whole, rotated, List.mem_append, List.mem_append, or_comm]

theorem nodup_circuit (ring : Ring) (cursor : Option Address) : (ring.circuit cursor).Nodup := by
  obtain ⟨front, back, whole, rotated⟩ := ring.circuit_rotates cursor
  have nodup := ring.nodup_addresses
  rw [whole] at nodup
  rw [rotated]
  exact (List.perm_append_comm.nodup_iff).mp nodup

theorem length_circuit (ring : Ring) (cursor : Option Address) :
    (ring.circuit cursor).length = ring.usableCount := by
  obtain ⟨front, back, whole, rotated⟩ := ring.circuit_rotates cursor
  rw [← length_addresses, whole, rotated, List.length_append, List.length_append, Nat.add_comm]

/-- The circuit behind a usable address ends with that address. -/
theorem circuit_some_of_addresses {before after : List Address} {address : Address}
    (split : ring.addresses = before ++ address :: after) :
    ring.circuit (some address) = after ++ before ++ [address] := by
  have listed : address ∈ ring.addresses := by simp [split]
  obtain ⟨range, member, usable⟩ := mem_addressesOf.mp listed
  obtain ⟨earlier, later, ranges⟩ := List.append_of_mem member
  have inside := Range.inBounds_of_contains usable
  obtain ⟨front, behind⟩ := split_at_bounds ranges inside
  -- Within its range the address is the last one up to its own place.
  obtain ⟨low, high, within⟩ := List.append_of_mem (Range.mem_addresses.mpr usable)
  have increasing := range.addresses_increasing
  rw [within, List.pairwise_append, List.pairwise_cons] at increasing
  obtain ⟨_, ⟨above, _⟩, below⟩ := increasing
  have passed : (range.addresses.filter fun other =>
      decide (other.position ≤ address.position)) = low ++ [address] := by
    rw [within, List.filter_append, List.filter_cons_of_pos (by simp), List.filter_eq_self.mpr,
      List.filter_eq_nil_iff.mpr]
    · intro other higher
      have := above other higher
      simpa using this
    · intro other lower
      have := below other lower address (List.mem_cons_self ..)
      simpa using Nat.le_of_lt this
  have ahead : (range.addresses.filter fun other =>
      decide (address.position < other.position)) = high := by
    have whole := range.addresses_cut address
    rw [passed] at whole
    have shape : range.addresses = (low ++ [address]) ++ high := by
      rw [within, List.append_assoc, List.singleton_append]
    exact List.append_cancel_left (whole.trans shape)
  have whole : before ++ address :: after =
      (addressesOf earlier ++ low) ++ address :: (high ++ addressesOf later) := by
    rw [← split, addresses, ranges, addressesOf_append, addressesOf_cons, within]
    simp only [List.append_assoc, List.cons_append]
  obtain ⟨rfl, rfl⟩ := split_unique (split ▸ ring.nodup_addresses) whole
  simp only [circuit, front, behind, passed, ahead, List.append_assoc]

/-- Behind an address of a circuit comes the rest of the circuit, then what came before. -/
theorem circuit_some_of_split {cursor : Option Address} {before after : List Address}
    {address : Address} (split : ring.circuit cursor = before ++ address :: after) :
    ring.circuit (some address) = after ++ before ++ [address] := by
  obtain ⟨front, back, whole, rotated⟩ := ring.circuit_rotates cursor
  rw [rotated] at split
  rcases List.append_eq_append_iff.mp split with ⟨middle, rfl, tail⟩ | ⟨middle, rfl, tail⟩
  · -- The address lies in front of the place where the circuit starts.
    have shape : ring.addresses = middle ++ address :: (after ++ back) := by
      rw [whole, tail]
      simp only [List.append_assoc, List.cons_append]
    rw [circuit_some_of_addresses shape]
    simp only [List.append_assoc]
  · cases middle with
    | nil =>
      have shape : ring.addresses = [] ++ address :: (after ++ before) := by
        rw [whole, ← List.nil_append front, ← tail, List.append_nil]
        simp only [List.nil_append, List.cons_append]
      rw [circuit_some_of_addresses shape]
      simp only [List.append_assoc, List.append_nil]
    | cons first rest =>
      obtain ⟨rfl, rfl : after = rest ++ front⟩ := List.cons.inj tail
      have shape : ring.addresses = (front ++ before) ++ address :: rest := by
        rw [whole]
        simp only [List.append_assoc]
      rw [circuit_some_of_addresses shape]
      simp only [List.append_assoc]

/-! ## The walk follows the circuit -/

/-- Behind an address in the bounds of some range comes the first address of the circuit behind
it. -/
theorem successor_eq_head? {cursor : Address}
    (inside : ∃ range ∈ ring.ranges, range.inBounds cursor = true) :
    ring.successor cursor = (ring.circuit (some cursor)).head? := by
  rw [successor]
  split
  · rename_i absent
    rw [List.dropWhile_eq_nil_iff] at absent
    obtain ⟨range, member, within⟩ := inside
    simpa [within] using absent range member
  · rename_i range after behind
    have cut := range.addresses_cut cursor
    rw [Range.nextUsable_eq_head?, firstUsable_eq_head?]
    simp only [circuit, behind, addressesOf_append, addressesOf_cons, addressesOf_nil,
      List.append_nil, List.head?_append, Option.orElse_eq_orElse, Option.orElse_eq_or,
      Option.or_assoc]
    cases ahead : range.addresses.filter fun address =>
        decide (cursor.position < address.position) with
    | nil =>
      rw [ahead, List.append_nil] at cut
      rw [cut]
    | cons first rest => rfl

/-- A walk starts with the first address of its circuit. -/
theorem startAfter_eq_head? (ring : Ring) (cursor : Option Address) :
    ring.startAfter cursor = (ring.circuit cursor).head? := by
  cases cursor with
  | none => exact firstUsable_eq_head? _
  | some cursor =>
    rw [startAfter, Option.bind_some, firstUsable_eq_head?]
    by_cases inside : ∃ range ∈ ring.ranges, range.inBounds cursor = true
    · rw [successor_eq_head? inside]
      cases start : (ring.circuit (some cursor)).head? with
      | some first => rfl
      | none =>
        have vacant := List.length_eq_zero_iff.mpr (List.head?_eq_none_iff.mp start)
        rw [length_circuit, ← length_addresses, List.length_eq_zero_iff] at vacant
        rw [← addresses, vacant]
        rfl
    · have outside : ring.ranges.dropWhile (!·.inBounds cursor) = [] := by
        rw [List.dropWhile_eq_nil_iff]
        intro range member
        simp only [Bool.not_eq_true', ← Bool.not_eq_true]
        intro within
        exact inside ⟨range, member, within⟩
      simp only [successor, circuit, outside]
      rfl

/-- A walk that is long enough yields the first addresses of its circuit. -/
theorem steps_eq_take {cursor : Option Address} {limit remaining : Nat}
    (enough : limit ≤ remaining) (bounded : limit ≤ ring.usableCount) :
    (ring.steps limit ⟨(ring.circuit cursor).head?, remaining⟩).1 =
      (ring.circuit cursor).take limit := by
  induction limit generalizing cursor remaining with
  | zero => rfl
  | succ limit ih =>
    have length := ring.length_circuit cursor
    cases shape : ring.circuit cursor with
    | nil =>
      rw [shape] at length
      simp only [List.length_nil] at length
      omega
    | cons first rest =>
      have next : ring.circuit (some first) = rest ++ [] ++ [first] := circuit_some_of_split shape
      rw [List.append_nil] at next
      have listed : first ∈ ring.circuit cursor := by simp [shape]
      have addressed := mem_addresses.mpr (mem_circuit.mp listed)
      obtain ⟨range, member, usable⟩ := mem_addressesOf.mp addressed
      have follows := successor_eq_head? ⟨range, member, Range.inBounds_of_contains usable⟩
      rw [shape, List.length_cons] at length
      obtain ⟨remaining, rfl⟩ : ∃ fewer, remaining = fewer + 1 := ⟨remaining - 1, by omega⟩
      simp only [steps, step, List.head?_cons, List.take_succ_cons]
      rw [follows, ih (by omega) (by omega), next, List.take_append_of_le_length (by omega)]

/-- **The walk from a cursor yields the circuit behind it.** -/
theorem candidates_eq_circuit (ring : Ring) (cursor : Option Address) :
    ring.candidates cursor = ring.circuit cursor := by
  rw [candidates, walk, startAfter_eq_head?, steps_eq_take (Nat.le_refl _) (Nat.le_refl _),
    List.take_of_length_le (Nat.le_of_eq (ring.length_circuit cursor))]

end Ring

/-! ## A small ring -/

/-- The hosts of `10.0.0.0/29`, the first of which is the gateway. -/
def Range.slash29 : Range where
  subnet := ⟨.v4 0x0a000000, 29, by decide⟩
  first := .v4 0x0a000001
  last := .v4 0x0a000006
  gateway := .v4 0x0a000001
  explicitGateway := false
  exclusions := []
  usable := carve (.v4 0x0a000001) (.v4 0x0a000006) (.v4 0x0a000001) [] (by decide)
  hosts := (Address.mappedBase + 0x0a000001, Address.mappedBase + 0x0a000006)
  truncated := by decide
  hosts_eq := rfl
  first_host := by decide
  last_host := by decide
  ordered := by decide
  gateway_between := by decide
  exclusions_within := by simp
  usable_eq := rfl

/-- The ring of that one range. -/
def Ring.slash29 : Ring where
  network := "net"
  id := "0"
  ranges := [.slash29]
  nonempty := by simp
  oneFamily := by simp
  disjoint := by simp
  someUsable := ⟨.slash29, by simp, by decide⟩

example : Ring.slash29.candidates (some (.v4 0x0a000004)) =
    [.v4 0x0a000005, .v4 0x0a000006, .v4 0x0a000002, .v4 0x0a000003, .v4 0x0a000004] := rfl

end AddressPool
