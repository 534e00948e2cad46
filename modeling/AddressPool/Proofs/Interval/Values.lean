import AddressPool.Proofs.Interval.Bisection

/-!
# The values of an interval set

An interval set stands for the list of its values in increasing order, one
interval after another.  Every query and every cut is described by that list: a
value is contained when it is listed, the first value is the head of the list,
the next value behind a given one is the first listed value that is greater, and
a cut keeps the listed values outside of it (`IntervalSet.mem_values_remove`).

The list may be far too long to be computed.  It is there for statements only.
-/

namespace AddressPool

set_option autoImplicit false

namespace Interval

/-- The values of an interval in increasing order. -/
def values (interval : Interval) : List Nat := List.range' interval.start interval.length

@[simp]
theorem mem_values {interval : Interval} {value : Nat} :
    value ∈ interval.values ↔ value ∈ interval := by
  rw [values, List.mem_range'_1, mem_def, length]
  omega

/-- The first value of a stretch of numbers that is greater than a given one. -/
theorem find?_range' (value start count : Nat) :
    (List.range' start count).find? (fun other => decide (value < other)) =
      if max start (value + 1) < start + count then some (max start (value + 1)) else none := by
  induction count generalizing start with
  | zero =>
    rw [List.range'_zero, List.find?_nil, if_neg (by omega)]
  | succ count ih =>
    rw [List.range'_succ]
    by_cases ahead : value < start
    · have greater : max start (value + 1) = start := by omega
      rw [List.find?_cons_of_pos (by simpa using ahead), greater, if_pos (by omega)]
    · have same : max (start + 1) (value + 1) = max start (value + 1) := by omega
      have stop : start + 1 + count = start + (count + 1) := by omega
      rw [List.find?_cons_of_neg (by simpa using ahead), ih, same, stop]

/-- The value behind a given one in an interval. -/
theorem find?_values {interval : Interval} (nonempty : interval.start < interval.stop)
    (value : Nat) :
    interval.values.find? (fun other => decide (value < other)) =
      if value + 1 < interval.stop then some (max interval.start (value + 1)) else none := by
  have stop : interval.start + interval.length = interval.stop := by
    rw [length]
    omega
  have room : max interval.start (value + 1) < interval.stop ↔ value + 1 < interval.stop := by
    omega
  rw [values, find?_range', stop]
  simp only [room]

theorem compare_eq_gt_iff {interval : Interval} {value : Nat} :
    interval.compare value = .gt ↔ value < interval.start := by
  unfold compare
  split
  · simpa
  · split <;> simpa using by omega

/-- A cut leaves of an interval just the values outside of it. -/
theorem mem_cut_iff {interval : Interval} {start stop value : Nat} :
    (∃ piece ∈ interval.cut start stop, value ∈ piece) ↔
      value ∈ interval ∧ ¬ (start ≤ value ∧ value < stop) := by
  unfold cut missedBy before after
  simp only [mem_def]
  split
  · rename_i missed
    simp only [Bool.or_eq_true, decide_eq_true_eq] at missed
    simp only [List.mem_singleton, exists_eq_left]
    omega
  · rename_i met
    simp only [Bool.or_eq_true, decide_eq_true_eq, not_or, Nat.not_le] at met
    split <;> split <;> simp <;> omega

/-- What a cut takes away from an interval is what is missing in the pieces. -/
theorem overlap_add_totalLength_cut {interval : Interval} {start stop : Nat}
    (nonempty : interval.start < interval.stop) (proper : start < stop) :
    interval.overlap start stop + totalLength (interval.cut start stop) = interval.length := by
  unfold cut missedBy before after overlap length totalLength
  split
  · rename_i missed
    simp only [Bool.or_eq_true, decide_eq_true_eq] at missed
    simp only [List.map_cons, List.map_nil, List.sum_cons, List.sum_nil, length]
    omega
  · rename_i met
    simp only [Bool.or_eq_true, decide_eq_true_eq, not_or, Nat.not_le] at met
    split <;> split <;> simp [length] <;> omega

end Interval

/-- The values of some intervals, one interval after another. -/
def valuesOf (intervals : List Interval) : List Nat := intervals.flatMap Interval.values

@[simp]
theorem valuesOf_nil : valuesOf [] = [] := rfl

@[simp]
theorem valuesOf_cons (interval : Interval) (rest : List Interval) :
    valuesOf (interval :: rest) = interval.values ++ valuesOf rest := rfl

theorem mem_valuesOf {intervals : List Interval} {value : Nat} :
    value ∈ valuesOf intervals ↔ ∃ interval ∈ intervals, value ∈ interval := by
  simp only [valuesOf, List.mem_flatMap, Interval.mem_values]

theorem length_valuesOf (intervals : List Interval) :
    (valuesOf intervals).length = totalLength intervals := by
  rw [valuesOf, List.length_flatMap, totalLength]
  simp only [Interval.values, List.length_range']

/-- What a cut takes away from some intervals is what is missing in the pieces. -/
theorem sum_overlap_add_totalLength_cut {intervals : List Interval}
    (nonempty : ∀ interval ∈ intervals, interval.start < interval.stop) (start stop : Nat) :
    (intervals.map (·.overlap start stop)).sum + totalLength (cut intervals start stop) =
      totalLength intervals := by
  by_cases improper : stop ≤ start
  · have nothing : ∀ interval ∈ intervals, interval.overlap start stop = 0 := by
      intro interval _
      unfold Interval.overlap
      omega
    rw [cut, if_pos improper, List.map_congr_left nothing, List.map_const', List.sum_replicate_nat,
      Nat.mul_zero, Nat.zero_add]
  · rw [cut, if_neg improper]
    induction intervals with
    | nil => rfl
    | cons first rest ih =>
      have here := Interval.overlap_add_totalLength_cut
        (nonempty first (List.mem_cons_self ..)) (Nat.lt_of_not_le improper)
      have later := ih fun interval member => nonempty interval (List.mem_cons_of_mem _ member)
      simp only [totalLength, List.flatMap_cons, List.map_append, List.sum_append, List.map_cons,
        List.sum_cons] at here later ⊢
      omega

/-- What holds of the starts of all intervals from below holds of all their values. -/
theorem le_of_mem_valuesOf {intervals : List Interval} {bound value : Nat}
    (ahead : ∀ later ∈ intervals, bound ≤ later.start) (member : value ∈ valuesOf intervals) :
    bound ≤ value := by
  obtain ⟨interval, listed, inside⟩ := mem_valuesOf.mp member
  exact Nat.le_trans (ahead interval listed) inside.1

/-- The values of ascending intervals are in increasing order. -/
theorem Ascending.values_increasing {intervals : List Interval} (ascending : Ascending intervals) :
    (valuesOf intervals).Pairwise (· < ·) := by
  induction intervals with
  | nil => exact .nil
  | cons first rest ih =>
    obtain ⟨_, ahead, later⟩ := Ascending.cons_iff.mp ascending
    rw [valuesOf_cons, List.pairwise_append]
    refine ⟨List.pairwise_lt_range', ih later, fun left here right there => ?_⟩
    have below := (Interval.mem_values.mp here).2
    have above := le_of_mem_valuesOf ahead there
    omega

/-- An interval that starts beyond a value is followed by such intervals only. -/
theorem Ascending.sided_compare {intervals : List Interval} (ascending : Ascending intervals)
    (value : Nat) : IntervalSet.Sided (·.compare value) intervals := by
  refine List.Pairwise.imp_of_mem ?_ ascending.ordered
  intro left right here _ ordered beyond
  have filled := ascending.nonempty left here
  rw [Interval.compare_eq_gt_iff] at beyond ⊢
  omega

/-- Where the search for a value ends at an interval that is not around it, no interval is. -/
theorem Ascending.notMem_of_ends {front back : List Interval} {here : Interval} {value : Nat}
    (ascending : Ascending (front ++ here :: back)) (different : here.compare value ≠ .eq)
    (behind : ∀ later ∈ back, later.compare value = .gt)
    (start : front = [] ∨ here.compare value ≠ .gt) :
    value ∉ valuesOf (front ++ here :: back) := by
  rw [mem_valuesOf]
  rintro ⟨interval, listed, inside⟩
  have around := Interval.compare_eq_iff.mpr inside
  rcases List.mem_append.mp listed with earlier | listed
  · -- What ends in front of an interval that is not beyond the value ends in front of the value.
    have reached := start.resolve_left (List.ne_nil_of_mem earlier)
    have ordered := (List.pairwise_append.mp ascending.ordered).2.2 interval earlier here
      (List.mem_cons_self ..)
    rw [ne_eq, Interval.compare_eq_gt_iff] at reached
    have below := inside.2
    omega
  · rcases List.mem_cons.mp listed with rfl | later
    · exact different around
    · rw [behind interval later] at around
      cases around

/-- **The search for the interval around a value finds exactly the listed values.** -/
theorem Ascending.search_compare_iff {intervals : List Interval} (ascending : Ascending intervals)
    {value : Nat} :
    (∃ place, IntervalSet.search (·.compare value) intervals = .ok place) ↔
      value ∈ valuesOf intervals := by
  by_cases vacant : intervals = []
  · subst vacant
    simp [IntervalSet.search]
  obtain ⟨front, here, back, shape, ended, behind, start⟩ :=
    IntervalSet.bisect_ends (ascending.sided_compare value) vacant
  have answer := IntervalSet.search_of_ends shape ended
  by_cases around : here.compare value = .eq
  · rw [answer, around, mem_valuesOf]
    refine ⟨fun _ => ⟨here, ?_, Interval.compare_eq_iff.mp around⟩, fun _ => ⟨_, rfl⟩⟩
    rw [shape]
    exact List.mem_append_right _ (List.mem_cons_self ..)
  · have outside := (shape ▸ ascending).notMem_of_ends around behind start
    rw [shape, iff_false_right outside, not_exists, ← shape, answer]
    intro place found
    cases reached : here.compare value <;> simp_all

/-- The first interval that reaches beyond a value holds the first greater value. -/
theorem Ascending.find?_valuesOf {intervals : List Interval} (ascending : Ascending intervals)
    (value : Nat) :
    (valuesOf intervals).find? (fun other => decide (value < other)) =
      (intervals.find? fun interval => decide (value + 1 < interval.stop)).map
        fun interval => max interval.start (value + 1) := by
  induction intervals with
  | nil => rfl
  | cons first rest ih =>
    obtain ⟨here, _, later⟩ := Ascending.cons_iff.mp ascending
    rw [valuesOf_cons, List.find?_append, Interval.find?_values here, ih later, List.find?_cons]
    by_cases reaches : value + 1 < first.stop
    · rw [if_pos reaches, decide_eq_true reaches]
      rfl
    · rw [if_neg reaches, decide_eq_false reaches]
      rfl

namespace IntervalSet

/-- The values of a set in increasing order. -/
def values (set : IntervalSet) : List Nat := valuesOf set.intervals

theorem values_increasing (set : IntervalSet) : set.values.Pairwise (· < ·) :=
  set.ascending.values_increasing

/-- A set contains the values that are listed, which the search finds by halving. -/
theorem contains_iff {set : IntervalSet} {value : Nat} :
    set.contains value = true ↔ value ∈ set.values := by
  rw [values, ← set.ascending.search_compare_iff, contains]
  cases search (·.compare value) set.intervals <;> simp

theorem length_values (set : IntervalSet) : set.values.length = set.length :=
  length_valuesOf set.intervals

/-- The first value of a set is the least one. -/
theorem first_eq_head? (set : IntervalSet) : set.first = set.values.head? := by
  obtain ⟨intervals, ascending⟩ := set
  cases intervals with
  | nil => rfl
  | cons first rest =>
    obtain ⟨here, _, _⟩ := Ascending.cons_iff.mp ascending
    have count : first.length = (first.length - 1) + 1 := by
      rw [Interval.length]
      omega
    simp only [IntervalSet.first, values, valuesOf_cons, Interval.values]
    rw [count, List.range'_succ]
    rfl

/-- The intervals that end by some value are at the front. -/
theorem parted_stop (set : IntervalSet) (bound : Nat) :
    set.intervals.Pairwise fun left right =>
      decide (right.stop ≤ bound) = true → decide (left.stop ≤ bound) = true := by
  refine List.Pairwise.imp_of_mem ?_ set.ascending.ordered
  intro left right _ there ordered ended
  have filled := set.ascending.nonempty right there
  rw [decide_eq_true_eq] at ended ⊢
  omega

/-- The next value behind a given one is the least of the greater values. -/
theorem nextAfter_eq_find? (set : IntervalSet) (value : Nat) :
    set.nextAfter value = set.values.find? fun other => decide (value < other) := by
  rw [nextAfter, getElem?_partitionPoint (set.parted_stop (value + 1)), values,
    set.ascending.find?_valuesOf]
  simp only [← decide_not, Nat.not_le]

/-- A cut keeps exactly the values outside of it. -/
theorem mem_values_remove {set : IntervalSet} {start stop value : Nat} :
    value ∈ (set.remove start stop).values ↔
      value ∈ set.values ∧ ¬ (start ≤ value ∧ value < stop) := by
  unfold remove values cut
  split
  · rename_i improper
    refine ⟨fun member => ⟨member, by omega⟩, And.left⟩
  · simp only [mem_valuesOf, List.mem_flatMap]
    constructor
    · rintro ⟨piece, ⟨interval, listed, left⟩, inside⟩
      have kept := Interval.mem_cut_iff.mp ⟨piece, left, inside⟩
      exact ⟨⟨interval, listed, kept.1⟩, kept.2⟩
    · rintro ⟨⟨interval, listed, inside⟩, outside⟩
      obtain ⟨piece, left, inside⟩ := Interval.mem_cut_iff.mpr ⟨inside, outside⟩
      exact ⟨piece, ⟨interval, listed, left⟩, inside⟩

/-- A cut takes away as many values as it counts. -/
theorem countIn_add_length_remove (set : IntervalSet) (start stop : Nat) :
    set.countIn start stop + (set.remove start stop).length = set.length :=
  sum_overlap_add_totalLength_cut set.ascending.nonempty start stop

theorem mem_values_ofBounds {first last value : Nat} (ordered : first ≤ last) :
    value ∈ (ofBounds first last ordered).values ↔ first ≤ value ∧ value ≤ last := by
  simp only [values, ofBounds, mem_valuesOf, List.mem_singleton, exists_eq_left, Interval.mem_def]
  omega

theorem isEmpty_iff {set : IntervalSet} : set.isEmpty = true ↔ set.values = [] := by
  obtain ⟨intervals, ascending⟩ := set
  cases intervals with
  | nil => simp [isEmpty, values]
  | cons first rest =>
    obtain ⟨here, _, _⟩ := Ascending.cons_iff.mp ascending
    have inside : first.start ∈ first.values :=
      Interval.mem_values.mpr ⟨Nat.le_refl _, here⟩
    simp only [isEmpty, List.isEmpty_cons, Bool.false_eq_true, values, valuesOf_cons,
      List.append_eq_nil_iff, false_iff, not_and]
    intro vacant
    simp [vacant] at inside

end IntervalSet

end AddressPool
