import AddressPool.Proofs.Interval.Values

/-!
# Intervals of numbers of a fixed width

A machine keeps the ends of intervals, and whatever it counts, in numbers of some width.  A sum may
be too large for them, and a difference may be below zero.  This module runs the computations on
interval sets in such numbers, step by step, and has them break off as soon as that happens: the sum
of the lengths, the loop that cuts a stretch out of a set and counts what is removed, and the search
for the next value, which is the only one that asks whether there is a next number.

Ascending intervals hold no more values than there are numbers up to the last end
(`Ascending.totalLength_le`).  So no sum gets too large, every difference is taken of ordered ends,
and the computations come to what they come to without any limit (`FixedWidth.length_eq`,
`FixedWidth.remove_eq`, `FixedWidth.nextAfter_eq`).
-/

namespace AddressPool

set_option autoImplicit false

/-! ## Intervals of a width -/

/-- Both ends of the interval are numbers of a width. -/
def Interval.OfWidth (width : Nat) (interval : Interval) : Prop :=
  interval.start < 2 ^ width ∧ interval.stop < 2 ^ width

instance (width : Nat) (interval : Interval) : Decidable (interval.OfWidth width) :=
  inferInstanceAs (Decidable (_ ∧ _))

/-- All intervals of the set are of a width. -/
def IntervalSet.OfWidth (width : Nat) (set : IntervalSet) : Prop :=
  ∀ interval ∈ set.intervals, interval.OfWidth width

/-- Ascending intervals hold no more values than there are numbers up to the last end. -/
theorem Ascending.totalLength_le {intervals : List Interval} (ascending : Ascending intervals)
    {low bound : Nat} (ordered : low ≤ bound) (ahead : ∀ interval ∈ intervals, low ≤ interval.start)
    (below : ∀ interval ∈ intervals, interval.stop ≤ bound) :
    low + totalLength intervals ≤ bound := by
  induction intervals generalizing low with
  | nil => exact ordered
  | cons first rest ih =>
    obtain ⟨filled, apart, later⟩ := Ascending.cons_iff.mp ascending
    have start := ahead first (List.mem_cons_self ..)
    have stop := below first (List.mem_cons_self ..)
    have others := ih later stop apart fun interval member =>
      below interval (List.mem_cons_of_mem _ member)
    have total : totalLength (first :: rest) = first.length + totalLength rest := by
      simp [totalLength]
    rw [total, Interval.length]
    omega

namespace IntervalSet

variable {width : Nat} {set : IntervalSet}

/-- The number of values of a set is a number of the same width. -/
theorem OfWidth.length_lt (typed : set.OfWidth width) : set.length < 2 ^ width := by
  have positive : 0 < 2 ^ width := Nat.two_pow_pos width
  have bounded := set.ascending.totalLength_le (Nat.zero_le (2 ^ width - 1))
    (fun _ _ => Nat.zero_le _) fun interval member => by
      have stop := (typed interval member).2
      omega
  rw [IntervalSet.length]
  omega

/-- What is cut out of a set is part of it. -/
theorem countIn_le_length (set : IntervalSet) (start stop : Nat) :
    set.countIn start stop ≤ set.length := by
  have parts := set.countIn_add_length_remove start stop
  omega

/-- A cut makes no end that was not there or is not an end of the cut. -/
theorem OfWidth.remove (typed : set.OfWidth width) (start stop : Nat) :
    (set.remove start stop).OfWidth width := by
  intro piece member
  change piece ∈ cut set.intervals start stop at member
  rw [cut] at member
  split at member
  · exact typed piece member
  · obtain ⟨interval, listed, left⟩ := List.mem_flatMap.mp member
    have bounds := Interval.mem_cut_bounds (set.ascending.nonempty interval listed) left
    have ends := typed interval listed
    exact ⟨by have := ends.2; omega, by have := ends.2; omega⟩

/-- The values of a set of a width are numbers of that width. -/
theorem OfWidth.lt_of_mem (typed : set.OfWidth width) {value : Nat}
    (member : value ∈ set.values) : value < 2 ^ width := by
  obtain ⟨interval, listed, inside⟩ := mem_valuesOf.mp member
  exact Nat.lt_trans inside.2 (typed interval listed).2

end IntervalSet

/-! ## Arithmetic of a width -/

namespace FixedWidth

variable (width : Nat)

/-- The sum of two numbers, if it fits. -/
def add? (left right : Nat) : Option Nat :=
  if left + right < 2 ^ width then some (left + right) else none

/-- The difference of two numbers, if it is not below zero. -/
def sub? (left right : Nat) : Option Nat := if right ≤ left then some (left - right) else none

/-- The number of values in some intervals, added up from the first one on. -/
def length (intervals : List Interval) : Option Nat :=
  intervals.foldlM (fun total interval => do
    let count ← sub? interval.stop interval.start
    add? width total count) 0

/-- How far a cut has got: the pieces that are kept, and the number of values removed. -/
structure Progress where
  kept : List Interval
  removed : Nat
  deriving DecidableEq

/-- One interval is cut: it is kept as a whole, or else what is left of it on either side. -/
def Progress.step (start stop : Nat) (progress : Progress) (interval : Interval) :
    Option Progress :=
  if interval.stop ≤ start ∨ stop ≤ interval.start then
    some { progress with kept := progress.kept ++ [interval] }
  else do
    let low := max interval.start start
    let high := min interval.stop stop
    let removed ← add? width progress.removed (← sub? high low)
    let front := if interval.start < low then [⟨interval.start, low⟩] else []
    let back := if high < interval.stop then [⟨high, interval.stop⟩] else []
    return { kept := progress.kept ++ front ++ back, removed := removed }

/-- Cuts a stretch out of some intervals, one after the other. -/
def remove (intervals : List Interval) (start stop : Nat) : Option Progress :=
  if stop ≤ start then some ⟨intervals, 0⟩
  else intervals.foldlM (Progress.step width start stop) ⟨[], 0⟩

/-- The smallest value that is greater than `value`; behind the greatest number there is none. -/
def nextAfter (intervals : List Interval) (value : Nat) : Option Nat := do
  let successor ← add? width value 1
  let place := IntervalSet.partitionPoint (fun interval => decide (interval.stop ≤ successor))
    intervals
  let interval ← intervals[place]?
  return max interval.start successor

/-! ## No computation breaks off -/

variable {width}

theorem add?_eq {left right : Nat} (fits : left + right < 2 ^ width) :
    add? width left right = some (left + right) := if_pos fits

theorem sub?_eq {left right : Nat} (ordered : right ≤ left) :
    sub? left right = some (left - right) := if_pos ordered

/-- The sum of the lengths, from any number on that leaves room for it. -/
theorem foldlM_length {intervals : List Interval} {total : Nat}
    (filled : ∀ interval ∈ intervals, interval.start < interval.stop)
    (fits : total + totalLength intervals < 2 ^ width) :
    intervals.foldlM (fun total interval => do
        let count ← sub? interval.stop interval.start
        add? width total count) total =
      some (total + totalLength intervals) := by
  induction intervals generalizing total with
  | nil => rfl
  | cons first rest ih =>
    have here := filled first (List.mem_cons_self ..)
    have parts : totalLength (first :: rest) = first.length + totalLength rest := by
      simp [totalLength]
    rw [parts] at fits ⊢
    have sum : add? width total first.length = some (total + first.length) := add?_eq (by omega)
    have room : total + first.length + totalLength rest < 2 ^ width := by omega
    have later := ih (fun interval member => filled interval (List.mem_cons_of_mem _ member)) room
    rw [List.foldlM_cons, sub?_eq (Nat.le_of_lt here), ← Nat.add_assoc, ← later]
    change (add? width total first.length).bind _ = _
    rw [sum]
    rfl

/-- **The lengths of the intervals of a set can be added up in numbers of its width.** -/
theorem length_eq {set : IntervalSet} (typed : set.OfWidth width) :
    length width set.intervals = some set.length := by
  have room : 0 + totalLength set.intervals < 2 ^ width := by
    rw [Nat.zero_add]
    exact typed.length_lt
  have sum := foldlM_length set.ascending.nonempty room
  rw [length, sum, Nat.zero_add, IntervalSet.length]

/-- One interval is cut as it is cut without any limit. -/
theorem step_eq {interval : Interval} {start stop : Nat} {progress : Progress}
    (filled : interval.start < interval.stop) (proper : start < stop)
    (fits : progress.removed + interval.overlap start stop < 2 ^ width) :
    progress.step width start stop interval =
      some ⟨progress.kept ++ interval.cut start stop,
        progress.removed + interval.overlap start stop⟩ := by
  unfold Progress.step Interval.cut Interval.missedBy
  by_cases missed : interval.stop ≤ start ∨ stop ≤ interval.start
  · have apart : interval.overlap start stop = 0 := by
      unfold Interval.overlap
      omega
    rw [if_pos missed, if_pos (by simpa using missed), apart]
    rfl
  · have ordered : max interval.start start ≤ min interval.stop stop := by omega
    have front : (if interval.start < max interval.start start then
          [⟨interval.start, max interval.start start⟩] else []) = interval.before start := by
      unfold Interval.before
      by_cases ahead : interval.start < start
      · rw [if_pos (by omega), if_pos ahead, Nat.max_eq_right (by omega),
          Nat.min_eq_right (by omega)]
      · rw [if_neg (by omega), if_neg ahead]
    have back : (if min interval.stop stop < interval.stop then
          [⟨min interval.stop stop, interval.stop⟩] else []) = interval.after stop := by
      unfold Interval.after
      by_cases behind : stop < interval.stop
      · rw [if_pos (by omega), if_pos behind, Nat.min_eq_right (by omega),
          Nat.max_eq_right (by omega)]
      · rw [if_neg (by omega), if_neg behind]
    have sum : add? width progress.removed (min interval.stop stop - max interval.start start) =
        some (progress.removed + interval.overlap start stop) := add?_eq fits
    rw [if_neg missed, if_neg (by simpa using missed)]
    dsimp only
    rw [front, back, sub?_eq ordered, Option.bind_eq_bind, Option.bind_some, sum, List.append_assoc]
    rfl

/-- The loop over the intervals, from any progress on that leaves room for what it counts. -/
theorem foldlM_step {intervals : List Interval} {start stop : Nat} {progress : Progress}
    (filled : ∀ interval ∈ intervals, interval.start < interval.stop) (proper : start < stop)
    (fits : progress.removed + (intervals.map (·.overlap start stop)).sum < 2 ^ width) :
    intervals.foldlM (Progress.step width start stop) progress =
      some ⟨progress.kept ++ intervals.flatMap (·.cut start stop),
        progress.removed + (intervals.map (·.overlap start stop)).sum⟩ := by
  induction intervals generalizing progress with
  | nil => simp
  | cons first rest ih =>
    rw [List.map_cons, List.sum_cons] at fits ⊢
    have room : progress.removed + first.overlap start stop < 2 ^ width := by omega
    have here := step_eq (filled first (List.mem_cons_self ..)) proper room
    rw [List.foldlM_cons, here, Option.bind_eq_bind, Option.bind_some, ih]
    · rw [List.flatMap_cons, List.append_assoc, Nat.add_assoc]
    · exact fun interval member => filled interval (List.mem_cons_of_mem _ member)
    · change progress.removed + _ + _ < _
      omega

/-- **The loop cuts a stretch out of a set of its width and counts what leaves the set.** -/
theorem remove_eq {set : IntervalSet} (typed : set.OfWidth width) (start stop : Nat) :
    remove width set.intervals start stop =
      some ⟨(set.remove start stop).intervals, set.countIn start stop⟩ := by
  change _ = some (Progress.mk (cut set.intervals start stop) _)
  by_cases improper : stop ≤ start
  · have nothing : set.countIn start stop = 0 := by
      have parts := set.countIn_add_length_remove start stop
      have same : (set.remove start stop).length = set.length := by
        change totalLength (cut set.intervals start stop) = totalLength set.intervals
        rw [cut, if_pos improper]
      omega
    rw [remove, if_pos improper, cut, if_pos improper, nothing]
  · have room : (Progress.mk [] 0).removed + (set.intervals.map (·.overlap start stop)).sum <
        2 ^ width := by
      have part := set.countIn_le_length start stop
      have whole := typed.length_lt
      rw [IntervalSet.countIn] at part
      change 0 + (set.intervals.map (·.overlap start stop)).sum < 2 ^ width
      omega
    have loop := foldlM_step set.ascending.nonempty (Nat.lt_of_not_le improper) room
    rw [remove, if_neg improper, cut, if_neg improper, loop, Nat.zero_add, List.nil_append]
    rfl

/-- **The next value is found in numbers of the width**, also behind the greatest number. -/
theorem nextAfter_eq {set : IntervalSet} (typed : set.OfWidth width) {value : Nat}
    (bounded : value < 2 ^ width) :
    nextAfter width set.intervals value = set.nextAfter value := by
  by_cases last : value + 1 < 2 ^ width
  · rw [nextAfter, add?_eq last, IntervalSet.nextAfter, Option.map_eq_bind]
    rfl
  · have nothing : set.nextAfter value = none := by
      rw [IntervalSet.nextAfter_eq_find?, List.find?_eq_none]
      intro other member
      have below := typed.lt_of_mem member
      rw [decide_eq_true_eq]
      omega
    rw [nextAfter, add?, if_neg last, nothing]
    rfl

end FixedWidth

end AddressPool
