import AddressPool.Proofs.Ring.Circuit
import Mathlib.Data.List.Rotate

/-!
# Walks around a ring

A walk is taken step by step: each step yields one address, and counts down how many are
left.  However many steps are taken, they yield as many addresses of the walk's list, and
what is left of the walk knows how many there are still to come
(`Ring.steps_walk`, `Ring.remaining_steps`).  Once all of them have been yielded no step is
possible any more.

The list of a walk is the list of all usable addresses, range after range and in
increasing order within each, turned so that it starts behind the cursor
(`walk_is_rotation`).
-/

namespace AddressPool

set_option autoImplicit false

/-- A list is turned to the place from which on all its entries have some property, if none has it
in front of that. -/
theorem rotate_findIdx {α : Type} {wanted : α → Bool} {front back : List α}
    (before : ∀ entry ∈ front, wanted entry = false)
    (behind : ∀ entry ∈ back, wanted entry = true) :
    (front ++ back).rotate ((front ++ back).findIdx wanted) = back ++ front := by
  have unwanted : ¬ front.findIdx wanted < front.length := by
    rw [List.findIdx_lt_length]
    rintro ⟨entry, member, found⟩
    rw [before entry member] at found
    cases found
  have start : back.findIdx wanted = 0 := by
    cases back with
    | nil => rfl
    | cons first rest => rw [List.findIdx_cons, behind first (List.mem_cons_self ..)]; rfl
  rw [List.findIdx_append, if_neg unwanted, start, Nat.zero_add, List.rotate_append_length_eq]

namespace Ring

variable {ring : Ring}

/-! ## Steps -/

/-- A walk that has come to its end stays there. -/
theorem steps_of_ended {walk : Walk} (ended : ring.step walk = none) (count : Nat) :
    ring.steps count walk = ([], walk) := by
  cases count with
  | zero => rfl
  | succ count => rw [steps, ended]

/-- A walk from which no address is left has come to its end. -/
theorem step_of_remaining {walk : Walk} (spent : walk.remaining = 0) : ring.step walk = none := by
  obtain ⟨next, remaining⟩ := walk
  obtain rfl : remaining = 0 := spent
  cases next <;> rfl

/-- Steps can be taken in two portions. -/
theorem steps_add (ring : Ring) (first second : Nat) (walk : Walk) :
    ring.steps (first + second) walk =
      ((ring.steps first walk).1 ++ (ring.steps second (ring.steps first walk).2).1,
        (ring.steps second (ring.steps first walk).2).2) := by
  induction first generalizing walk with
  | zero => rw [Nat.zero_add]; rfl
  | succ first ih =>
    rw [Nat.add_right_comm, steps, steps]
    cases taken : ring.step walk with
    | none => rw [steps_of_ended taken]; rfl
    | some found =>
      obtain ⟨address, next⟩ := found
      simp only [ih next, List.cons_append]

/-- Every address that is yielded is counted off. -/
theorem remaining_add_length (ring : Ring) (count : Nat) (walk : Walk) :
    (ring.steps count walk).2.remaining + (ring.steps count walk).1.length = walk.remaining := by
  induction count generalizing walk with
  | zero => rfl
  | succ count ih =>
    obtain ⟨next, remaining⟩ := walk
    cases next with
    | none => rfl
    | some address =>
      cases remaining with
      | zero => rfl
      | succ remaining =>
        have rest := ih ⟨ring.successor address, remaining⟩
        simp only [steps, step, List.length_cons]
        rw [← Nat.add_assoc, rest]

/-- **The steps of a walk yield the list of the walk, as far as they go.** -/
theorem steps_walk (ring : Ring) (cursor : Option Address) (count : Nat) :
    (ring.steps count (ring.walk cursor)).1 = (ring.candidates cursor).take count := by
  rw [candidates_eq_circuit]
  have within : ∀ limit ≤ ring.usableCount,
      (ring.steps limit (ring.walk cursor)).1 = (ring.circuit cursor).take limit := by
    intro limit bounded
    rw [walk, startAfter_eq_head?]
    exact steps_eq_take bounded bounded
  rcases Nat.le_total count ring.usableCount with few | many
  · exact within count few
  · -- All that the walk yields has been yielded by the first part of the steps.
    obtain ⟨more, rfl⟩ := Nat.exists_eq_add_of_le many
    have length := ring.length_circuit cursor
    have whole := within ring.usableCount (Nat.le_refl _)
    rw [← length, List.take_length, length] at whole
    have counted := ring.remaining_add_length ring.usableCount (ring.walk cursor)
    rw [whole, length] at counted
    have spent : (ring.steps ring.usableCount (ring.walk cursor)).2.remaining = 0 := by
      have start : (ring.walk cursor).remaining = ring.usableCount := rfl
      omega
    rw [steps_add, steps_of_ended (step_of_remaining spent), List.append_nil, whole,
      List.take_of_length_le (by omega)]

theorem length_candidates (ring : Ring) (cursor : Option Address) :
    (ring.candidates cursor).length = ring.usableCount := by
  rw [candidates_eq_circuit, length_circuit]

/-- What is left of a walk knows how many addresses are still to come. -/
theorem remaining_steps (ring : Ring) (cursor : Option Address) (count : Nat) :
    (ring.steps count (ring.walk cursor)).2.remaining =
      ((ring.candidates cursor).drop count).length := by
  have counted := ring.remaining_add_length count (ring.walk cursor)
  have start : (ring.walk cursor).remaining = ring.usableCount := rfl
  rw [steps_walk, List.length_take, length_candidates, start] at counted
  rw [List.length_drop, length_candidates]
  omega

/-! ## Where a walk starts -/

/-- An address of some range comes behind the cursor: it is greater and in the cursor's own range,
or it is in one of the ranges behind that. -/
def comesBehind (range : Range) (after : List Range) (cursor address : Address) : Bool :=
  range.contains address && decide (cursor.position < address.position) ||
    after.any (·.contains address)

section Split

variable {before after : List Range} {range : Range} {cursor address : Address}

/-- No address is in two ranges, so what comes up to the cursor does not come behind it. -/
theorem comesBehind_eq_false (nodup : (addressesOf (before ++ range :: after)).Nodup)
    (member : address ∈ addressesOf before ++
      range.addresses.filter fun other => decide (other.position ≤ cursor.position)) :
    comesBehind range after cursor address = false := by
  rw [addressesOf_append, addressesOf_cons, List.nodup_append, List.nodup_append] at nodup
  obtain ⟨_, ⟨_, _, apart⟩, others⟩ := nodup
  have elsewhere : address ∉ addressesOf after := by
    intro later
    rcases List.mem_append.mp member with earlier | here
    · exact others address earlier address (List.mem_append_right _ later) rfl
    · exact apart address (List.mem_of_mem_filter here) address later rfl
  have not_after : after.any (·.contains address) = false := by
    rw [Bool.eq_false_iff, ne_eq, List.any_eq_true]
    exact fun found => elsewhere (mem_addressesOf.mpr found)
  rw [comesBehind, not_after, Bool.or_false, Bool.and_eq_false_iff]
  rcases List.mem_append.mp member with earlier | here
  · left
    rw [Bool.eq_false_iff]
    intro usable
    exact others address earlier address
      (List.mem_append_left _ (Range.mem_addresses.mpr usable)) rfl
  · right
    simpa using (List.mem_filter.mp here).2

theorem comesBehind_eq_true
    (member : address ∈ (range.addresses.filter fun other =>
      decide (cursor.position < other.position)) ++ addressesOf after) :
    comesBehind range after cursor address = true := by
  rw [comesBehind, Bool.or_eq_true, Bool.and_eq_true, List.any_eq_true]
  rcases List.mem_append.mp member with here | later
  · obtain ⟨listed, greater⟩ := List.mem_filter.mp here
    exact .inl ⟨Range.mem_addresses.mp listed, greater⟩
  · exact .inr (mem_addressesOf.mp later)

/-- **A walk from within the bounds of a range starts with the first address behind the cursor.** -/
theorem candidates_rotate (split : ring.ranges = before ++ range :: after)
    (inside : range.inBounds cursor = true) :
    ring.candidates (some cursor) =
      ring.addresses.rotate (ring.addresses.findIdx (comesBehind range after cursor)) := by
  obtain ⟨front, behind⟩ := split_at_bounds split inside
  have nodup := ring.nodup_addresses
  rw [addresses, split] at nodup
  have whole : ring.addresses =
      (addressesOf before ++
        range.addresses.filter fun address => decide (address.position ≤ cursor.position)) ++
      ((range.addresses.filter fun address => decide (cursor.position < address.position)) ++
        addressesOf after) := by
    rw [addresses, split, addressesOf_append, addressesOf_cons, List.append_assoc,
      ← List.append_assoc (range.addresses.filter _), range.addresses_cut cursor]
  rw [whole, rotate_findIdx (fun _ => comesBehind_eq_false nodup) fun _ => comesBehind_eq_true,
    candidates_eq_circuit]
  simp only [circuit, front, behind, List.append_assoc]

end Split

/-- A walk from outside of all ranges starts at the front. -/
theorem candidates_of_outside {cursor : Address}
    (outside : ∀ range ∈ ring.ranges, range.inBounds cursor = false) :
    ring.candidates (some cursor) = ring.addresses := by
  have none_left : ring.ranges.dropWhile (!·.inBounds cursor) = [] := by
    rw [List.dropWhile_eq_nil_iff]
    intro range member
    rw [outside range member]
    rfl
  rw [candidates_eq_circuit, circuit, none_left]

/-! ## The main result -/

/-- A walk yields every usable address once and nothing else; however far it has come, it knows how
many addresses are left, as long as that fits into 64 bits; and it ends for good. -/
structure WalksOnce (ring : Ring) (cursor : Option Address) : Prop where
  nodup : (ring.candidates cursor).Nodup
  usable : ∀ address, address ∈ ring.candidates cursor ↔ ring.contains address = true
  counted : (ring.candidates cursor).length = ring.usableCount
  yields : ∀ count, (ring.steps count (ring.walk cursor)).1 = (ring.candidates cursor).take count
  hints : ∀ count left, left = ((ring.candidates cursor).drop count).length → left < 2 ^ 64 →
    (ring.steps count (ring.walk cursor)).2.sizeHint = (left, some left)
  ends : ∀ count, ring.usableCount ≤ count →
    ring.step (ring.steps count (ring.walk cursor)).2 = none

theorem walksOnce (ring : Ring) (cursor : Option Address) : ring.WalksOnce cursor where
  nodup := ring.candidates_eq_circuit cursor ▸ ring.nodup_circuit cursor
  usable address := by rw [candidates_eq_circuit, mem_circuit]
  counted := ring.length_candidates cursor
  yields := ring.steps_walk cursor
  hints count left still short := by
    rw [Walk.sizeHint, remaining_steps, ← still, if_pos short]
  ends count all := by
    refine step_of_remaining ?_
    rw [remaining_steps, List.length_drop, length_candidates, Nat.sub_eq_zero_of_le all]

end Ring

/-- **A walk is a rotation of the usable addresses.**

The usable addresses of a ring are listed range after range, those of each range in
increasing order.  Without a cursor a walk yields that list.  With a cursor in the bounds
of some range it yields the list from the first address on that is in this range and
greater than the cursor, or in a later range, and then from the front; if there is no such
address, or the cursor is in the bounds of no range, it yields the list as it is.  In each
case every usable address is yielded once, and the walk knows what is left of it. -/
theorem walk_is_rotation (ring : Ring) :
    (ring.addresses = ring.ranges.flatMap Range.addresses ∧ ∀ range ∈ ring.ranges,
        (range.addresses.Pairwise fun left right => left.position < right.position) ∧
          ∀ address, address ∈ range.addresses ↔ range.contains address = true) ∧
      ring.candidates none = ring.addresses ∧
      (∀ (cursor : Address) (before after : List Range) (range : Range),
        ring.ranges = before ++ range :: after → range.inBounds cursor = true →
          ring.candidates (some cursor) = ring.addresses.rotate
            (ring.addresses.findIdx fun address =>
              range.contains address && decide (cursor.position < address.position) ||
                after.any (·.contains address))) ∧
      (∀ cursor : Address, (∀ range ∈ ring.ranges, range.inBounds cursor = false) →
        ring.candidates (some cursor) = ring.addresses) ∧
      ∀ cursor : Option Address, ring.WalksOnce cursor := by
  refine ⟨⟨rfl, fun range _ => ⟨range.addresses_increasing, fun _ => Range.mem_addresses⟩⟩,
    ring.candidates_eq_circuit none, ?_, fun _ => Ring.candidates_of_outside, ring.walksOnce⟩
  intro cursor before after range split inside
  exact Ring.candidates_rotate split inside

/-- The last address of a ring of one range is the cursor: the walk starts at the front again, and
two steps leave three addresses. -/
theorem walk_is_rotation_slash29 :
    Range.slash29.inBounds (.v4 0x0a000006) = true ∧
      Ring.slash29.candidates (some (.v4 0x0a000006)) = Ring.slash29.addresses ∧
      (Ring.slash29.steps 2 (Ring.slash29.walk (some (.v4 0x0a000006)))).2.sizeHint =
        (3, some 3) := by
  have inside : Range.slash29.inBounds (.v4 0x0a000006) = true := by decide
  obtain ⟨_, _, turned, _, once⟩ := walk_is_rotation .slash29
  refine ⟨inside, (turned _ [] [] .slash29 rfl inside).trans ?_, (once _).hints 2 3 rfl (by decide)⟩
  rfl

end AddressPool
