import AddressPool.Proofs.Config.Entries
import AddressPool.Proofs.Range.Carving

/-!
# Exclusions in any order

Neither the order in which exclusions are written nor their repetition makes a difference
(`cuts_in_any_order`).  For interval sets this is so because the pieces that are left are the maximal
ones.  A range is built or refused alike, and what is built has the same usable pieces.  A ring asks
its ranges only for what alike ranges have in common, so a ring of alike ranges exists if the other
does, and every walk around it yields the same addresses (`Ring.WalkedAlike`).
-/

namespace AddressPool

set_option autoImplicit false

/-- Lists that correspond are cut alike by properties that correspond: in front of the first entry
without them, and behind. -/
theorem forall₂_takeWhile_dropWhile {α β : Type} {related : α → β → Prop} {left : α → Bool}
    {right : β → Bool} {entries : List α} {results : List β}
    (corresponding : List.Forall₂ related entries results)
    (same : ∀ entry result, related entry result → left entry = right result) :
    List.Forall₂ related (entries.takeWhile left) (results.takeWhile right) ∧
      List.Forall₂ related (entries.dropWhile left) (results.dropWhile right) := by
  induction corresponding with
  | nil => exact ⟨.nil, .nil⟩
  | @cons entry result _ _ here later ih =>
    rw [List.takeWhile_cons, List.takeWhile_cons, List.dropWhile_cons, List.dropWhile_cons,
      same entry result here]
    cases right result with
    | false => exact ⟨.nil, .cons here later⟩
    | true => exact ⟨.cons here ih.1, ih.2⟩

/-! ## Rings of alike ranges -/

namespace Ring

/-- Two rings hand out the same addresses, count them alike, and yield the same addresses in every
walk, however many steps it is followed. -/
structure WalkedAlike (left right : Ring) : Prop where
  contains : ∀ address, left.contains address = right.contains address
  usableCount : left.usableCount = right.usableCount
  candidates : ∀ cursor, left.candidates cursor = right.candidates cursor
  steps : ∀ count cursor,
    left.steps count (left.walk cursor) = right.steps count (right.walk cursor)

variable {left right : Ring} {ranges others : List Range}

theorem firstUsable_congr (alike : List.Forall₂ Range.Alike ranges others) :
    firstUsable ranges = firstUsable others := by
  induction alike with
  | nil => rfl
  | cons here _ ih =>
    rw [firstUsable, firstUsable] at ih ⊢
    rw [List.findSome?_cons, List.findSome?_cons, here.firstUsable, ih]

theorem usableCount_congr (alike : List.Forall₂ Range.Alike left.ranges right.ranges) :
    left.usableCount = right.usableCount := by
  have counts : left.ranges.map (·.usableCount) = right.ranges.map (·.usableCount) := by
    rw [← List.forall₂_eq_eq_eq, List.forall₂_map_left_iff, List.forall₂_map_right_iff]
    exact alike.imp fun _ _ here => here.usableCount
  rw [usableCount, usableCount, counts]

theorem contains_congr (alike : List.Forall₂ Range.Alike left.ranges right.ranges)
    (address : Address) : left.contains address = right.contains address := by
  rw [Bool.eq_iff_iff, contains, contains, rangeContaining, rangeContaining, List.find?_isSome,
    List.find?_isSome]
  exact exists_mem_iff_of_forall₂ alike fun _ _ here => by rw [here.contains]

theorem successor_congr (alike : List.Forall₂ Range.Alike left.ranges right.ranges)
    (address : Address) : left.successor address = right.successor address := by
  have same : ∀ one other : Range, one.Alike other →
      (!one.inBounds address) = !other.inBounds address := by
    intro one other here
    rw [here.inBounds]
  obtain ⟨before, behind⟩ := forall₂_takeWhile_dropWhile alike same
  rw [successor, successor]
  generalize left.ranges.dropWhile (!·.inBounds address) = rest at behind
  generalize right.ranges.dropWhile (!·.inBounds address) = others at behind
  cases behind with
  | nil => rfl
  | cons here after =>
    have around := List.rel_append (List.rel_append after before) (.cons here .nil)
    simp only [here.nextUsable, firstUsable_congr around]

theorem walk_congr (alike : List.Forall₂ Range.Alike left.ranges right.ranges)
    (cursor : Option Address) : left.walk cursor = right.walk cursor := by
  have next : left.successor = right.successor := funext (successor_congr alike)
  rw [walk, walk, startAfter, startAfter, next, firstUsable_congr alike, usableCount_congr alike]

theorem steps_congr (alike : List.Forall₂ Range.Alike left.ranges right.ranges) (count : Nat)
    (walk : Walk) : left.steps count walk = right.steps count walk := by
  induction count generalizing walk with
  | zero => rfl
  | succ count ih =>
    have step : left.step walk = right.step walk := by
      unfold step
      split
      · rw [successor_congr alike]
      · rfl
    simp only [steps, step, ih]

/-- **Rings of alike ranges are walked alike.** -/
theorem walkedAlike (alike : List.Forall₂ Range.Alike left.ranges right.ranges) :
    left.WalkedAlike right where
  contains := contains_congr alike
  usableCount := usableCount_congr alike
  candidates cursor := by
    rw [candidates, candidates, walk_congr alike, usableCount_congr alike, steps_congr alike]
  steps count cursor := by rw [walk_congr alike, steps_congr alike]

end Ring

/-- Alike ranges make a ring together or not at all. -/
theorem Range.formRing_congr {ranges others : List Range}
    (alike : List.Forall₂ Range.Alike ranges others) : FormRing ranges ↔ FormRing others := by
  have nonempty : ranges ≠ [] ↔ others ≠ [] := by
    rw [← List.length_pos_iff, ← List.length_pos_iff, alike.length_eq]
  have oneFamily : ∀ family, (∀ range ∈ ranges, range.family = family) ↔
      ∀ range ∈ others, range.family = family := fun family =>
    forall_mem_iff_of_forall₂ alike fun _ _ here => by rw [here.family]
  have disjoint : (ranges.Pairwise fun left right => left.overlaps right = false) ↔
      others.Pairwise fun left right => left.overlaps right = false :=
    pairwise_iff_of_forall₂ alike fun _ _ here _ _ there => by rw [here.overlaps there]
  have someUsable : (∃ range ∈ ranges, range.usable.isEmpty = false) ↔
      ∃ range ∈ others, range.usable.isEmpty = false :=
    exists_mem_iff_of_forall₂ alike fun _ _ here => by rw [here.usable]
  constructor
  · intro form
    exact {
      nonempty := nonempty.mp form.nonempty
      oneFamily := form.oneFamily.imp fun family => (oneFamily family).mp
      disjoint := disjoint.mp form.disjoint
      someUsable := someUsable.mp form.someUsable }
  · intro form
    exact {
      nonempty := nonempty.mpr form.nonempty
      oneFamily := form.oneFamily.imp fun family => (oneFamily family).mpr
      disjoint := disjoint.mpr form.disjoint
      someUsable := someUsable.mpr form.someUsable }

/-- All hosts of `10.0.0.0/29`, but for some exclusions. -/
def RangeSpec.slash29 (exclusions : List Exclusion) : RangeSpec where
  subnet := ⟨.v4 0x0a000000, 29, Nat.le_add_right 29 3⟩
  first := none
  last := none
  gateway := none
  exclusions := exclusions

/-! ## The main result -/

/-- **Exclusions can be written in any order and any number of times.**

When the same stretches are cut out of a set of intervals of a width, in whatever order and however
often each of them, the same list of intervals is left and the same number of values is removed.  Of
descriptions of ranges that differ in nothing else than the order and the repetition of their
exclusions either both are built or both refused; the ranges that are built have the same usable
pieces, and count and contain the same addresses.  And where ranges are replaced by such ranges,
there is still a ring of them if there was one before, and every walk around it is the same. -/
theorem cuts_in_any_order :
    (∀ (width : Nat) (set : IntervalSet), set.OfWidth width →
      ∀ left right : List (Nat × Nat), (∀ stretch, stretch ∈ left ↔ stretch ∈ right) →
        ∃ progress, FixedWidth.removeEach width set.intervals left = some progress ∧
          FixedWidth.removeEach width set.intervals right = some progress) ∧
    (∀ left right : RangeSpec, left.Rearranged right →
      ((∃ range, Range.build left = .ok range) ↔ ∃ range, Range.build right = .ok range) ∧
      ∀ one other, Range.build left = .ok one → Range.build right = .ok other →
        one.Alike other ∧ one.usableCount = other.usableCount ∧
          ∀ address, one.contains address = other.contains address) ∧
    ∀ (network : String) (ranges others : List Range), List.Forall₂ Range.Alike ranges others →
      ((∃ ring, Ring.ofRanges network ranges = .ok ring) ↔
        ∃ ring, Ring.ofRanges network others = .ok ring) ∧
      ∀ one other, Ring.ofRanges network ranges = .ok one →
        Ring.ofRanges network others = .ok other → one.WalkedAlike other := by
  refine ⟨fun width set typed left right same => ?_, fun left right rearranged => ⟨?_, ?_⟩,
    fun network ranges others alike => ⟨?_, ?_⟩⟩
  · refine ⟨_, FixedWidth.removeEach_eq typed left, ?_⟩
    rw [FixedWidth.removeEach_eq typed right, IntervalSet.removeAll_congr same]
  · exact rearranged.exists_build_iff
  · intro one other here there
    have alike := rearranged.alike here there
    exact ⟨alike, alike.usableCount, alike.contains⟩
  · rw [Ring.exists_ofRanges_iff, Ring.exists_ofRanges_iff, Range.formRing_congr alike]
  · intro one other here there
    refine Ring.walkedAlike ?_
    rwa [Ring.ranges_of_ofRanges here, Ring.ranges_of_ofRanges there]

/-- Two cuts that overlap, one of them made twice, take the same out of touching intervals in either
order; and a range of `10.0.0.0/29` with an exclusion within another is the same, and makes a ring
that is walked alike, when the two change places and one of them is repeated. -/
theorem cuts_in_any_order_slash29 :
    (∃ progress, progress = ⟨[⟨1, 2⟩, ⟨5, 7⟩], 3⟩ ∧
      FixedWidth.removeEach 3 [⟨1, 3⟩, ⟨3, 7⟩] [(2, 4), (3, 5)] = some progress ∧
      FixedWidth.removeEach 3 [⟨1, 3⟩, ⟨3, 7⟩] [(3, 5), (2, 4), (3, 5)] = some progress) ∧
    ∃ one other : Range,
      one.exclusions = [⟨.v4 0x0a000003, .v4 0x0a000005⟩, .single (.v4 0x0a000004)] ∧
      other.exclusions = [.single (.v4 0x0a000004), ⟨.v4 0x0a000003, .v4 0x0a000005⟩,
        .single (.v4 0x0a000004)] ∧
      one.Alike other ∧ ∃ first second, Ring.ofRanges "net" [one] = .ok first ∧
        Ring.ofRanges "net" [other] = .ok second ∧ first.WalkedAlike second := by
  obtain ⟨sets, builds, rings⟩ := cuts_in_any_order
  constructor
  · have ascending : Ascending [⟨1, 3⟩, ⟨3, 7⟩] := .of_neighbours (by decide) (by decide)
    have typed : IntervalSet.OfWidth 3 ⟨[⟨1, 3⟩, ⟨3, 7⟩], ascending⟩ := by
      change ∀ interval ∈ [Interval.mk 1 3, Interval.mk 3 7], interval.OfWidth 3
      decide
    obtain ⟨progress, here, there⟩ := sets 3 _ typed [(2, 4), (3, 5)] [(3, 5), (2, 4), (3, 5)]
      (by simp)
    have shape : FixedWidth.removeEach 3 [⟨1, 3⟩, ⟨3, 7⟩] [(2, 4), (3, 5)] =
        some ⟨[⟨1, 2⟩, ⟨5, 7⟩], 3⟩ := by decide
    rw [shape] at here
    exact ⟨progress, (Option.some.inj here).symm, by rw [shape, here], there⟩
  · have rearranged : (RangeSpec.slash29 [⟨.v4 0x0a000003, .v4 0x0a000005⟩,
          .single (.v4 0x0a000004)]).Rearranged
        (.slash29 [.single (.v4 0x0a000004), ⟨.v4 0x0a000003, .v4 0x0a000005⟩,
          .single (.v4 0x0a000004)]) := by
      refine ⟨rfl, rfl, rfl, rfl, fun exclusion => ?_⟩
      simp only [RangeSpec.slash29, List.mem_cons, List.not_mem_nil, or_false]
      tauto
    have sound : (RangeSpec.slash29 [⟨.v4 0x0a000003, .v4 0x0a000005⟩,
        .single (.v4 0x0a000004)]).Sound := {
      hasHosts := by show 29 ≤ 30; decide
      start_host := by decide
      stop_host := by decide
      ordered := by decide
      gate_between := by decide
      exclusions_within := by decide }
    obtain ⟨accepted, alike⟩ := builds _ _ rearranged
    obtain ⟨one, here⟩ := Range.exists_build_iff.mpr sound
    obtain ⟨other, there⟩ := accepted.mp ⟨one, here⟩
    have same := (alike one other here there).1
    obtain ⟨formed, walked⟩ := rings "net" [one] [other] (.cons same .nil)
    have usable : one.contains (.v4 0x0a000002) = true := by
      rw [(Range.builtOf_of_build here).contains_iff]
      decide
    have form : Range.FormRing [one] := {
      nonempty := by simp
      oneFamily := ⟨one.family, by simp⟩
      disjoint := by simp
      someUsable := ⟨one, by simp, Range.exists_contains_iff.mp ⟨_, usable⟩⟩ }
    obtain ⟨first, first_made⟩ := Ring.exists_ofRanges_iff.mpr form
    obtain ⟨second, second_made⟩ := formed.mp ⟨first, first_made⟩
    exact ⟨one, other, (Range.builtOf_of_build here).exclusions,
      (Range.builtOf_of_build there).exclusions, same, first, second, first_made, second_made,
      walked _ _ first_made second_made⟩

end AddressPool
