import Mathlib.Data.List.Sort
import AddressPool.Proofs.Interval.FixedWidth

/-!
# Removal is difference of sets

Which lists of intervals are taken as a set is said twice: the check compares neighbours only, while
what is meant is a property of all pairs, that the intervals are sorted by their starts and that no
two of them have a value in common (`Separate`).  The two agree, since an interval that holds a
value ends behind its start (`Ascending.iff_separate`).

Any number of stretches can be cut out of a set one after the other.  Each cut takes away what lies
in its stretch and nothing else, tells how many values that were, and leaves separate intervals,
whether or not it is made in numbers of a width (`FixedWidth.removal_is_difference`).  Values are
counted by going through all numbers of the width (`FixedWidth.tally`), which has nothing to do with
how the intervals add up.
-/

namespace AddressPool

set_option autoImplicit false

/-! ## Separate intervals -/

/-- Each interval holds a value, the intervals are sorted by their starts, and no two of them have a
value in common.  They may touch. -/
structure Separate (intervals : List Interval) : Prop where
  filled : ∀ interval ∈ intervals, interval.start < interval.stop
  sorted : intervals.Pairwise fun left right => left.start ≤ right.start
  disjoint : intervals.Pairwise fun left right => ∀ value, value ∈ left → value ∉ right

/-- Ascending intervals are exactly the separate ones. -/
theorem Ascending.iff_separate {intervals : List Interval} :
    Ascending intervals ↔ Separate intervals := by
  constructor
  · intro ascending
    refine ⟨ascending.nonempty, ?_, ?_⟩
    · refine List.Pairwise.imp_of_mem ?_ ascending.ordered
      intro left right here _ ordered
      exact Nat.le_trans (Nat.le_of_lt (ascending.nonempty left here)) ordered
    · refine ascending.ordered.imp ?_
      intro left right ordered value inside shared
      have below : value < left.stop := inside.2
      have above : right.start ≤ value := shared.1
      omega
  · intro separate
    refine ⟨separate.filled, ?_⟩
    refine List.Pairwise.imp_of_mem ?_ (separate.sorted.and separate.disjoint)
    rintro left right _ there ⟨sorted, disjoint⟩
    -- Otherwise the start of the right one would be a value of both.
    by_contra crossed
    have filled := separate.filled right there
    exact disjoint right.start ⟨sorted, Nat.lt_of_not_le crossed⟩ ⟨Nat.le_refl _, filled⟩

/-- In ascending intervals neighbours are ordered. -/
theorem Ascending.neighboursOrdered {intervals : List Interval} (ascending : Ascending intervals) :
    neighboursOrdered intervals = true := by
  induction intervals with
  | nil => rfl
  | cons first rest ih =>
    obtain ⟨_, apart, later⟩ := Ascending.cons_iff.mp ascending
    cases rest with
    | nil => rfl
    | cons second others =>
      have ordered := apart second (List.mem_cons_self ..)
      rw [AddressPool.neighboursOrdered, decide_eq_true ordered, ih later]
      rfl

namespace IntervalSet

/-- The intervals that are taken are those of the set. -/
theorem intervals_of_ofList? {intervals : List Interval} {set : IntervalSet}
    (taken : ofList? intervals = .ok set) : set.intervals = intervals := by
  unfold ofList? at taken
  split at taken
  · split at taken
    · cases taken
      rfl
    · cases taken
  · cases taken

/-- **A list of intervals is taken as a set if and only if the intervals are separate.** -/
theorem ofList?_ok_iff {intervals : List Interval} :
    (∃ set, ofList? intervals = .ok set) ↔ Separate intervals := by
  rw [← Ascending.iff_separate]
  constructor
  · rintro ⟨set, taken⟩
    rw [← intervals_of_ofList? taken]
    exact set.ascending
  · intro ascending
    refine ⟨⟨intervals, ascending⟩, ?_⟩
    rw [ofList?, dif_pos ascending.nonempty, dif_pos ascending.neighboursOrdered]

/-! ## One cut after the other -/

/-- The set without the values of any of the stretches, which are given by their ends. -/
def removeAll (set : IntervalSet) (stretches : List (Nat × Nat)) : IntervalSet :=
  stretches.foldl (fun set stretch => set.remove stretch.1 stretch.2) set

variable {width : Nat} {set : IntervalSet}

theorem contains_remove {start stop value : Nat} :
    (set.remove start stop).contains value = true ↔
      set.contains value = true ∧ ¬ (start ≤ value ∧ value < stop) := by
  rw [contains_iff, contains_iff, mem_values_remove]

/-- Many cuts leave exactly the values that lie in none of the stretches. -/
theorem contains_removeAll {stretches : List (Nat × Nat)} {value : Nat} :
    (set.removeAll stretches).contains value = true ↔
      set.contains value = true ∧
        ∀ stretch ∈ stretches, ¬ (stretch.1 ≤ value ∧ value < stretch.2) := by
  induction stretches generalizing set with
  | nil => simp [removeAll]
  | cons stretch rest ih =>
    have further : set.removeAll (stretch :: rest) =
        (set.remove stretch.1 stretch.2).removeAll rest := rfl
    rw [further, ih, contains_remove, List.forall_mem_cons, and_assoc]

theorem OfWidth.removeAll (typed : set.OfWidth width) (stretches : List (Nat × Nat)) :
    (set.removeAll stretches).OfWidth width := by
  induction stretches generalizing set with
  | nil => exact typed
  | cons stretch rest ih => exact ih (typed.remove stretch.1 stretch.2)

theorem OfWidth.lt_of_contains (typed : set.OfWidth width) {value : Nat}
    (held : set.contains value = true) : value < 2 ^ width :=
  typed.lt_of_mem (contains_iff.mp held)

end IntervalSet

namespace FixedWidth

variable {width : Nat} {set : IntervalSet}

/-- Cuts one stretch after the other out of some intervals. -/
def removeAll (width : Nat) (intervals : List Interval) (stretches : List (Nat × Nat)) :
    Option (List Interval) :=
  stretches.foldlM (fun left stretch => do
    let progress ← remove width left stretch.1 stretch.2
    return progress.kept) intervals

/-- No cut breaks off. -/
theorem removeAll_eq (typed : set.OfWidth width) (stretches : List (Nat × Nat)) :
    removeAll width set.intervals stretches = some (set.removeAll stretches).intervals := by
  induction stretches generalizing set with
  | nil => rfl
  | cons stretch rest ih =>
    have later := ih (typed.remove stretch.1 stretch.2)
    rw [removeAll] at later ⊢
    rw [List.foldlM_cons, remove_eq typed]
    exact later

/-! ## Counting -/

/-- How many numbers of a width have a property, when all of them are gone through. -/
def tally (width : Nat) (holds : Nat → Bool) : Nat := (List.range (2 ^ width)).countP holds

/-- The values of a set are what is found when all numbers of its width are gone through. -/
theorem filter_contains (typed : set.OfWidth width) :
    (List.range (2 ^ width)).filter set.contains = set.values := by
  refine List.Pairwise.eq_of_mem_iff (List.pairwise_lt_range.filter _) set.values_increasing ?_
  intro value
  rw [List.mem_filter, List.mem_range, IntervalSet.contains_iff]
  exact ⟨And.right, fun member => ⟨typed.lt_of_mem member, member⟩⟩

theorem tally_contains (typed : set.OfWidth width) : tally width set.contains = set.length := by
  rw [tally, List.countP_eq_length_filter, filter_contains typed, set.length_values]

/-- What a cut counts is the number of the values that are no longer there. -/
theorem countIn_eq_tally (typed : set.OfWidth width) (start stop : Nat) :
    set.countIn start stop =
      tally width fun value => set.contains value && !(set.remove start stop).contains value := by
  have parts := set.countIn_add_length_remove start stop
  rw [← tally_contains typed, ← tally_contains (typed.remove start stop)] at parts
  have split := List.countP_eq_countP_filter_add (List.range (2 ^ width)) set.contains
    (set.remove start stop).contains
  rw [List.countP_filter, List.countP_filter] at split
  have remaining : ((List.range (2 ^ width)).countP fun value =>
      set.contains value && (set.remove start stop).contains value) =
        tally width (set.remove start stop).contains := by
    refine List.countP_congr fun value _ => ?_
    rw [Bool.and_eq_true, and_iff_right_iff_imp]
    exact fun kept => (IntervalSet.contains_remove.mp kept).1
  rw [remaining] at split
  unfold tally at parts split ⊢
  omega

/-! ## Difference -/

/-- A stretch is taken out of a set: the intervals stay separate, the values outside of the stretch
stay, what is counted is the number of values that have left, and the length is that of what is
left, with and without a limit on the sum. -/
structure TakenOut (width : Nat) (before after : IntervalSet) (start stop removed : Nat) :
    Prop where
  separate : Separate after.intervals
  values : ∀ value, after.contains value = true ↔
    before.contains value = true ∧ ¬ (start ≤ value ∧ value < stop)
  removed_eq : removed = tally width fun value => before.contains value && !after.contains value
  length_eq : length width after.intervals = some (tally width after.contains)
  total_eq : after.length = tally width after.contains

/-- One cut takes a stretch out of a set. -/
theorem takenOut_remove (typed : set.OfWidth width) (start stop : Nat) :
    TakenOut width set (set.remove start stop) start stop (set.countIn start stop) := by
  have left := typed.remove start stop
  refine ⟨Ascending.iff_separate.mp (set.remove start stop).ascending, ?_, ?_, ?_, ?_⟩
  · exact fun value => IntervalSet.contains_remove
  · exact countIn_eq_tally typed start stop
  · rw [length_eq left, tally_contains left]
  · exact (tally_contains left).symm

/-- **Removal is difference of sets.**  A list of intervals of a width is taken if and only if they
are separate.  Of the set it becomes, any number of stretches can be cut out, and then one more:
what is left at first are the values in none of the stretches, and the last cut takes out its
stretch.  In numbers of the width the cuts leave the same intervals, and the count of what is
removed and the length come out the same. -/
theorem removal_is_difference (width : Nat) (intervals : List Interval)
    (typed : ∀ interval ∈ intervals, interval.OfWidth width) :
    ((∃ set, IntervalSet.ofList? intervals = .ok set) ↔ Separate intervals) ∧
    ∀ set, IntervalSet.ofList? intervals = .ok set → set.intervals = intervals ∧
      length width intervals = some (tally width set.contains) ∧
      set.length = tally width set.contains ∧
      ∀ (stretches : List (Nat × Nat)) (start stop : Nat),
        let before := set.removeAll stretches
        let after := before.remove start stop
        let removed := before.countIn start stop
        removeAll width intervals stretches = some before.intervals ∧
        (∀ value, before.contains value = true ↔ set.contains value = true ∧
          ∀ stretch ∈ stretches, ¬ (stretch.1 ≤ value ∧ value < stretch.2)) ∧
        (∀ value, before.contains value = true → value < 2 ^ width) ∧
        remove width before.intervals start stop = some ⟨after.intervals, removed⟩ ∧
        TakenOut width before after start stop removed := by
  refine ⟨IntervalSet.ofList?_ok_iff, fun set taken => ?_⟩
  obtain rfl := IntervalSet.intervals_of_ofList? taken
  have whole : set.OfWidth width := typed
  refine ⟨rfl, by rw [length_eq whole, tally_contains whole], (tally_contains whole).symm, ?_⟩
  intro stretches start stop before after removed
  have typed : before.OfWidth width := whole.removeAll stretches
  refine ⟨?_, ?_, ?_, ?_, ?_⟩
  · exact removeAll_eq whole stretches
  · exact fun value => IntervalSet.contains_removeAll
  · exact fun value => typed.lt_of_contains
  · exact remove_eq typed start stop
  · exact takenOut_remove typed start stop

/-- The touching intervals of three bits below 3 and from 3 on are taken, and the stretch from 2 to
7 is cut out of what is left of them behind a cut that is inverted. -/
theorem removal_across_touching :
    Separate [⟨1, 3⟩, ⟨3, 7⟩] ∧ ∃ before after : IntervalSet,
      before.intervals = [⟨1, 3⟩, ⟨3, 7⟩] ∧ after.intervals = [⟨1, 2⟩] ∧
      after = before.remove 2 7 ∧ before.countIn 2 7 = 5 ∧ TakenOut 3 before after 2 7 5 := by
  have exact := removal_is_difference 3 [⟨1, 3⟩, ⟨3, 7⟩] (by decide)
  have taken : IntervalSet.ofList? [⟨1, 3⟩, ⟨3, 7⟩] =
      .ok ⟨[⟨1, 3⟩, ⟨3, 7⟩], Ascending.of_neighbours (by decide) (by decide)⟩ := by decide
  refine ⟨exact.1.mp ⟨_, taken⟩, ?_⟩
  obtain ⟨_, _, _, cuts⟩ := exact.2 _ taken
  obtain ⟨left, _, _, answer, taken_out⟩ := cuts [(6, 2)] 2 7
  have inverted : removeAll 3 [⟨1, 3⟩, ⟨3, 7⟩] [(6, 2)] = some [⟨1, 3⟩, ⟨3, 7⟩] := by decide
  rw [inverted] at left
  have kept := (Option.some.inj left).symm
  rw [kept] at answer
  have last : remove 3 [⟨1, 3⟩, ⟨3, 7⟩] 2 7 = some ⟨[⟨1, 2⟩], 5⟩ := by decide
  rw [last, Option.some.injEq, Progress.mk.injEq] at answer
  obtain ⟨shape, count⟩ := answer
  rw [← count] at taken_out
  exact ⟨_, _, kept, shape.symm, rfl, count.symm, taken_out⟩

end FixedWidth

end AddressPool
