import Mathlib.Data.List.Pairwise
import AddressPool.Proofs.Interval.Removal

/-!
# Maximal pieces

When stretches are cut out of a set one after the other, each cut works on the pieces that the
earlier ones have left.  What is left in the end does not depend on their order, and not on how
often a cut is made: of every interval of the set it is the maximal pieces without a value that is
cut out (`mem_cutAll_iff`), in increasing order.

The pieces of one interval never touch (`Parted.cut`), so they are the maximal stretches of their
values (`Parted.mem_iff_isPiece`), and there is only one list of these (`Parted.eq_of_mem_iff`).
The intervals of a set may touch, and then they are kept apart; so this is said of each interval
alone, and a cut of many intervals is put together from the cuts of each (`cutAll_eq_flatMap`).
-/

namespace AddressPool

set_option autoImplicit false

/-! ## Intervals that do not touch -/

/-- Every interval holds a value, and between each and every later one there is a gap. -/
structure Parted (intervals : List Interval) : Prop where
  filled : ∀ interval ∈ intervals, interval.start < interval.stop
  gaps : intervals.Pairwise fun left right => left.stop < right.start

/-- A maximal piece of what is held: all numbers of the interval are held, and those directly in
front of it and directly behind it are not. -/
structure Interval.IsPiece (held : Nat → Prop) (piece : Interval) : Prop where
  filled : piece.start < piece.stop
  inside : ∀ value ∈ piece, held value
  front : ∀ value, value + 1 = piece.start → ¬ held value
  back : ¬ held piece.stop

theorem Interval.isPiece_congr {held other : Nat → Prop} {piece : Interval}
    (same : ∀ value, held value ↔ other value) : piece.IsPiece held ↔ piece.IsPiece other := by
  rw [funext fun value => propext (same value)]

namespace Parted

variable {intervals left right : List Interval}

theorem singleton {interval : Interval} (filled : interval.start < interval.stop) :
    Parted [interval] :=
  ⟨List.forall_mem_singleton.mpr filled, List.pairwise_singleton _ _⟩

theorem ascending (parted : Parted intervals) : Ascending intervals :=
  ⟨parted.filled, parted.gaps.imp Nat.le_of_lt⟩

/-- Of two different intervals one lies in front of the other. -/
theorem eq_or_gap (parted : Parted intervals) {one other : Interval} (here : one ∈ intervals)
    (there : other ∈ intervals) :
    one = other ∨ one.stop < other.start ∨ other.stop < one.start := by
  have symmetric : Std.Symm fun one other : Interval =>
      one = other ∨ one.stop < other.start ∨ other.stop < one.start := by
    refine ⟨?_⟩
    rintro one other (same | gap | gap)
    · exact .inl same.symm
    · exact .inr (.inr gap)
    · exact .inr (.inl gap)
  have ordered := parted.gaps.imp fun {one other : Interval} gap =>
    (.inr (.inl gap) : one = other ∨ one.stop < other.start ∨ other.stop < one.start)
  exact ordered.forall_of_forall (fun _ _ => .inl rfl) here there

theorem isPiece_of_mem (parted : Parted intervals) {piece : Interval} (member : piece ∈ intervals) :
    piece.IsPiece (· ∈ valuesOf intervals) := by
  have filled := parted.filled piece member
  refine ⟨filled, fun value inside => mem_valuesOf.mpr ⟨piece, member, inside⟩, ?_, ?_⟩
  · intro value ahead held
    obtain ⟨other, listed, above, below⟩ := mem_valuesOf.mp held
    rcases parted.eq_or_gap member listed with rfl | gap | gap <;> omega
  · intro held
    obtain ⟨other, listed, above, below⟩ := mem_valuesOf.mp held
    rcases parted.eq_or_gap member listed with rfl | gap | gap <;> omega

/-- **Intervals that do not touch are the maximal pieces of their values.** -/
theorem mem_iff_isPiece (parted : Parted intervals) {piece : Interval} :
    piece ∈ intervals ↔ piece.IsPiece (· ∈ valuesOf intervals) := by
  refine ⟨parted.isPiece_of_mem, fun maximal => ?_⟩
  have filled := maximal.filled
  have first : piece.start ∈ piece := ⟨Nat.le_refl _, filled⟩
  obtain ⟨other, listed, above, below⟩ := mem_valuesOf.mp (maximal.inside _ first)
  have whole := parted.isPiece_of_mem listed
  -- What holds the start of the piece neither starts earlier nor stops elsewhere.
  have start : other.start = piece.start := by
    by_contra different
    refine maximal.front (piece.start - 1) (by omega) (whole.inside _ ⟨?_, ?_⟩) <;> omega
  have stop : other.stop = piece.stop := by
    rcases Nat.lt_trichotomy other.stop piece.stop with short | same | long
    · exact absurd (maximal.inside _ ⟨by omega, short⟩) whole.back
    · exact same
    · exact absurd (whole.inside _ ⟨by omega, long⟩) maximal.back
  have same : other = piece := by
    cases other
    cases piece
    exact congrArg₂ Interval.mk start stop
  exact same ▸ listed

/-- Intervals that do not touch are in order, so there is only one list of them. -/
theorem eq_of_mem_iff (first : Parted left) (second : Parted right)
    (same : ∀ piece, piece ∈ left ↔ piece ∈ right) : left = right := by
  have irreflexive : Std.Irrefl fun one other : Interval => one.start < other.start :=
    ⟨fun _ => Nat.lt_irrefl _⟩
  have antisymmetric : Std.Antisymm fun one other : Interval => one.start < other.start :=
    ⟨fun _ _ ahead behind => absurd ahead (Nat.lt_asymm behind)⟩
  have increasing : ∀ {intervals}, Parted intervals →
      intervals.Pairwise fun one other => one.start < other.start := by
    intro intervals parted
    refine parted.gaps.imp_of_mem fun here _ gap => ?_
    exact Nat.lt_trans (parted.filled _ here) gap
  exact List.Pairwise.eq_of_mem_iff (increasing first) (increasing second) fun piece => same piece

end Parted

/-! ## Cuts of what does not touch -/

/-- A cut leaves a gap. -/
theorem Interval.parted_cut {interval : Interval} {start stop : Nat} (proper : start < stop)
    (filled : interval.start < interval.stop) : Parted (interval.cut start stop) := by
  refine ⟨fun piece member => (Interval.mem_cut_bounds filled member).2.1, ?_⟩
  unfold Interval.cut Interval.missedBy Interval.before Interval.after
  split
  · exact List.pairwise_singleton _ _
  · rename_i met
    simp only [Bool.or_eq_true, decide_eq_true_eq, not_or, Nat.not_le] at met
    split <;> split <;> simp
    omega

/-- A cut leaves what does not touch without touching. -/
theorem Parted.cut {intervals : List Interval} (parted : Parted intervals) (start stop : Nat) :
    Parted (AddressPool.cut intervals start stop) := by
  refine ⟨(parted.ascending.cut start stop).nonempty, ?_⟩
  rw [AddressPool.cut]
  split
  · exact parted.gaps
  · rename_i proper
    rw [List.pairwise_flatMap]
    refine ⟨fun interval member => ?_, parted.gaps.imp_of_mem ?_⟩
    · exact (Interval.parted_cut (Nat.lt_of_not_le proper) (parted.filled interval member)).gaps
    · intro left right here there gap one among other within
      have before := Interval.mem_cut_bounds (parted.filled left here) among
      have behind := Interval.mem_cut_bounds (parted.filled right there) within
      omega

/-- Cuts one stretch after the other out of some intervals. -/
def cutAll (intervals : List Interval) (stretches : List (Nat × Nat)) : List Interval :=
  stretches.foldl (fun left stretch => cut left stretch.1 stretch.2) intervals

theorem Parted.cutAll {intervals : List Interval} (parted : Parted intervals)
    (stretches : List (Nat × Nat)) : Parted (AddressPool.cutAll intervals stretches) := by
  induction stretches generalizing intervals with
  | nil => exact parted
  | cons stretch rest ih => exact ih (parted.cut stretch.1 stretch.2)

/-! ## Each interval on its own -/

theorem cut_eq_flatMap (intervals : List Interval) (start stop : Nat) :
    cut intervals start stop = intervals.flatMap fun interval => cut [interval] start stop := by
  unfold cut
  split
  · exact List.flatMap_singleton' intervals |>.symm
  · simp only [List.flatMap_singleton]

/-- Cuts are made in each interval on its own. -/
theorem cutAll_eq_flatMap (intervals : List Interval) (stretches : List (Nat × Nat)) :
    cutAll intervals stretches = intervals.flatMap fun interval => cutAll [interval] stretches := by
  induction stretches generalizing intervals with
  | nil => exact List.flatMap_singleton' intervals |>.symm
  | cons stretch rest ih =>
    have further : ∀ intervals, cutAll intervals (stretch :: rest) =
        cutAll (cut intervals stretch.1 stretch.2) rest := fun _ => rfl
    simp only [further]
    calc cutAll (cut intervals stretch.1 stretch.2) rest
        = (cut intervals stretch.1 stretch.2).flatMap fun piece => cutAll [piece] rest := ih _
      _ = intervals.flatMap fun interval =>
            (cut [interval] stretch.1 stretch.2).flatMap fun piece => cutAll [piece] rest := by
          rw [cut_eq_flatMap, List.flatMap_assoc]
      _ = intervals.flatMap fun interval =>
            cutAll (cut [interval] stretch.1 stretch.2) rest := by
          simp only [← ih]

namespace IntervalSet

variable {set : IntervalSet}

/-- A set is the list of its intervals. -/
theorem eq_of_intervals {left right : IntervalSet} (same : left.intervals = right.intervals) :
    left = right := by
  cases left
  cases right
  rwa [mk.injEq]

theorem intervals_removeAll (stretches : List (Nat × Nat)) :
    (set.removeAll stretches).intervals = cutAll set.intervals stretches := by
  induction stretches generalizing set with
  | nil => rfl
  | cons stretch rest ih => exact ih

end IntervalSet

/-- Cuts leave exactly the values that lie in none of the stretches. -/
theorem Ascending.mem_valuesOf_cutAll {intervals : List Interval} (ascending : Ascending intervals)
    {stretches : List (Nat × Nat)} {value : Nat} :
    value ∈ valuesOf (cutAll intervals stretches) ↔
      value ∈ valuesOf intervals ∧
        ∀ stretch ∈ stretches, ¬ (stretch.1 ≤ value ∧ value < stretch.2) := by
  have held : (IntervalSet.removeAll ⟨intervals, ascending⟩ stretches).contains value = true ↔ _ :=
    IntervalSet.contains_removeAll
  rwa [IntervalSet.contains_iff, IntervalSet.contains_iff, IntervalSet.values,
    IntervalSet.intervals_removeAll] at held

/-- **Of an interval its maximal pieces without a value that is cut out are left.** -/
theorem mem_cutAll_iff {interval piece : Interval} (filled : interval.start < interval.stop)
    {stretches : List (Nat × Nat)} :
    piece ∈ cutAll [interval] stretches ↔ piece.IsPiece fun value =>
      value ∈ interval ∧ ∀ stretch ∈ stretches, ¬ (stretch.1 ≤ value ∧ value < stretch.2) := by
  have single := Parted.singleton filled
  rw [(single.cutAll stretches).mem_iff_isPiece]
  simp only [single.ascending.mem_valuesOf_cutAll, mem_valuesOf, List.mem_singleton, exists_eq_left]

/-- **Stretches that cover the same values of some intervals leave the same pieces of them.** -/
theorem cutAll_congr {intervals : List Interval} {left right : List (Nat × Nat)}
    (filled : ∀ interval ∈ intervals, interval.start < interval.stop)
    (same : ∀ value ∈ valuesOf intervals,
      (∃ stretch ∈ left, stretch.1 ≤ value ∧ value < stretch.2) ↔
        ∃ stretch ∈ right, stretch.1 ≤ value ∧ value < stretch.2) :
    cutAll intervals left = cutAll intervals right := by
  rw [cutAll_eq_flatMap intervals left, cutAll_eq_flatMap intervals right]
  refine List.flatMap_congr fun interval member => ?_
  have filled := filled interval member
  have single := Parted.singleton filled
  refine (single.cutAll left).eq_of_mem_iff (single.cutAll right) fun piece => ?_
  rw [mem_cutAll_iff filled, mem_cutAll_iff filled]
  -- Both leave the same values of the interval, so these have the same maximal pieces.
  refine Interval.isPiece_congr fun value => and_congr_right fun inside => ?_
  have covered := same value (mem_valuesOf.mpr ⟨interval, member, inside⟩)
  simpa only [not_exists, not_and] using not_congr covered

namespace IntervalSet

variable {set : IntervalSet} {left right : List (Nat × Nat)}

/-- **Neither the order of cuts nor their repetition makes a difference.** -/
theorem removeAll_congr (same : ∀ stretch, stretch ∈ left ↔ stretch ∈ right) :
    set.removeAll left = set.removeAll right := by
  apply eq_of_intervals
  rw [intervals_removeAll, intervals_removeAll]
  refine cutAll_congr set.ascending.nonempty fun value _ => ?_
  simp only [same]

/-- What is left of a set is not more than the set. -/
theorem length_removeAll_le (set : IntervalSet) (stretches : List (Nat × Nat)) :
    (set.removeAll stretches).length ≤ set.length := by
  induction stretches generalizing set with
  | nil => exact Nat.le_refl _
  | cons stretch rest ih =>
    have parts := set.countIn_add_length_remove stretch.1 stretch.2
    have later := ih (set.remove stretch.1 stretch.2)
    exact Nat.le_trans later (by omega)

end IntervalSet

/-! ## Counting what is removed -/

namespace FixedWidth

variable {width : Nat} {set : IntervalSet}

/-- Makes one more cut, and adds what it removes to what was removed before. -/
def Progress.cutOn (width : Nat) (progress : Progress) (stretch : Nat × Nat) : Option Progress := do
  let next ← remove width progress.kept stretch.1 stretch.2
  let removed ← add? width progress.removed next.removed
  return { kept := next.kept, removed := removed }

/-- Cuts one stretch after the other out of some intervals, and adds up what they remove. -/
def removeEach (width : Nat) (intervals : List Interval) (stretches : List (Nat × Nat)) :
    Option Progress :=
  stretches.foldlM (Progress.cutOn width) ⟨intervals, 0⟩

/-- The cuts from any sum on that leaves room for the values of the set. -/
theorem foldlM_cutOn (typed : set.OfWidth width) {removed : Nat}
    (fits : removed + set.length < 2 ^ width) (stretches : List (Nat × Nat)) :
    stretches.foldlM (Progress.cutOn width) ⟨set.intervals, removed⟩ =
      some ⟨(set.removeAll stretches).intervals,
        removed + (set.length - (set.removeAll stretches).length)⟩ := by
  induction stretches generalizing set removed with
  | nil =>
    rw [IntervalSet.removeAll, List.foldl_nil, Nat.sub_self, Nat.add_zero]
    rfl
  | cons stretch rest ih =>
    have parts := set.countIn_add_length_remove stretch.1 stretch.2
    have left := (set.remove stretch.1 stretch.2).length_removeAll_le rest
    have sum : add? width removed (set.countIn stretch.1 stretch.2) =
        some (removed + set.countIn stretch.1 stretch.2) := add?_eq (by omega)
    have here : Progress.cutOn width ⟨set.intervals, removed⟩ stretch =
        some ⟨(set.remove stretch.1 stretch.2).intervals,
          removed + set.countIn stretch.1 stretch.2⟩ := by
      rw [Progress.cutOn, remove_eq typed, Option.bind_eq_bind, Option.bind_some]
      exact congrArg (Option.bind · _) sum
    have room : removed + set.countIn stretch.1 stretch.2 +
        (set.remove stretch.1 stretch.2).length < 2 ^ width := by omega
    have later := ih (typed.remove stretch.1 stretch.2) room
    have further : set.removeAll (stretch :: rest) =
        (set.remove stretch.1 stretch.2).removeAll rest := rfl
    rw [List.foldlM_cons, here, Option.bind_eq_bind, Option.bind_some, later, further]
    congr 2
    omega

/-- **Many cuts remove as many values as the set has less after them**, and the sum fits. -/
theorem removeEach_eq (typed : set.OfWidth width) (stretches : List (Nat × Nat)) :
    removeEach width set.intervals stretches =
      some ⟨(set.removeAll stretches).intervals,
        set.length - (set.removeAll stretches).length⟩ := by
  have fits : 0 + set.length < 2 ^ width := by
    rw [Nat.zero_add]
    exact typed.length_lt
  rw [removeEach, foldlM_cutOn typed fits, Nat.zero_add]

end FixedWidth

end AddressPool
