import AddressPool.Instances

/-!
# Sets of naturals kept as ascending intervals

A pool of addresses starts as one interval of numbers and loses values as single
numbers and whole stretches are cut out of it.  This module holds the half-open
`Interval` and the `IntervalSet`, a list of non-empty intervals in which each one
ends before, or exactly where, every later one starts.  Intervals that touch are
kept apart, so a set remembers the pieces it was built from.

A value is looked for by halving the list (`IntervalSet.bisect`); the other
computations are plain recursions over it.  `ofList?` checks neighbours only;
`Ascending.of_neighbours` is the reason why that is enough.  `remove` rebuilds the
list with `cut`, and `Ascending.cut` says that a cut keeps the list ascending,
whatever the two numbers given are.
-/

namespace AddressPool

set_option autoImplicit false

/-- A half-open interval: `start` belongs to it and `stop` does not. -/
structure Interval where
  start : Nat
  stop : Nat
  deriving DecidableEq, Repr, Inhabited

namespace Interval

/-- Whether no value lies in the interval, which is so also when it is inverted. -/
def isEmpty (interval : Interval) : Bool := decide (interval.stop ≤ interval.start)

/-- The number of values in the interval. -/
def length (interval : Interval) : Nat := interval.stop - interval.start

/-- Where the interval lies as seen from a value: beyond it, around it, or before it. -/
def compare (interval : Interval) (value : Nat) : Ordering :=
  if value < interval.start then .gt
  else if value < interval.stop then .eq
  else .lt

instance : Membership Nat Interval where
  mem interval value := interval.start ≤ value ∧ value < interval.stop

theorem mem_def {interval : Interval} {value : Nat} :
    value ∈ interval ↔ interval.start ≤ value ∧ value < interval.stop := Iff.rfl

instance (value : Nat) (interval : Interval) : Decidable (value ∈ interval) :=
  decidable_of_iff _ mem_def.symm

/-- Comparison answers "around" exactly for the values of the interval. -/
theorem compare_eq_iff {interval : Interval} {value : Nat} :
    interval.compare value = .eq ↔ value ∈ interval := by
  unfold compare
  rw [mem_def]
  split
  · simp; omega
  · split
    · simp; omega
    · simp; omega

/-- The part of the interval that lies before the cut `[start, stop)`, if any. -/
def before (interval : Interval) (start : Nat) : List Interval :=
  if interval.start < start then [⟨interval.start, min interval.stop start⟩] else []

/-- The part of the interval that lies after the cut `[start, stop)`, if any. -/
def after (interval : Interval) (stop : Nat) : List Interval :=
  if stop < interval.stop then [⟨max interval.start stop, interval.stop⟩] else []

/-- Whether the interval and the cut `[start, stop)` have no value in common. -/
def missedBy (interval : Interval) (start stop : Nat) : Bool :=
  decide (interval.stop ≤ start) || decide (stop ≤ interval.start)

end Interval

/-! ## Ascending lists of intervals -/

/-- Every interval holds a value, and each ends before or where every later one starts. -/
structure Ascending (intervals : List Interval) : Prop where
  nonempty : ∀ interval ∈ intervals, interval.start < interval.stop
  ordered : intervals.Pairwise fun left right => left.stop ≤ right.start

namespace Ascending

theorem nil : Ascending [] := ⟨by simp, .nil⟩

theorem cons_iff {interval : Interval} {rest : List Interval} :
    Ascending (interval :: rest) ↔
      interval.start < interval.stop ∧ (∀ later ∈ rest, interval.stop ≤ later.start) ∧
        Ascending rest := by
  constructor
  · rintro ⟨nonempty, ordered⟩
    rw [List.pairwise_cons] at ordered
    exact ⟨nonempty _ (List.mem_cons_self ..), ordered.1,
      fun later member => nonempty _ (List.mem_cons_of_mem _ member), ordered.2⟩
  · rintro ⟨here, ahead, nonempty, ordered⟩
    refine ⟨fun one member => ?_, List.pairwise_cons.2 ⟨ahead, ordered⟩⟩
    rcases List.mem_cons.1 member with rfl | member
    · exact here
    · exact nonempty _ member

end Ascending

/-- Whether each interval ends before or where its direct successor starts. -/
def neighboursOrdered : List Interval → Bool
  | [] => true
  | [_] => true
  | left :: right :: rest => decide (left.stop ≤ right.start) && neighboursOrdered (right :: rest)

/-- Between non-empty intervals, order of neighbours is order of all pairs. -/
theorem Ascending.of_neighbours {intervals : List Interval}
    (nonempty : ∀ interval ∈ intervals, interval.start < interval.stop)
    (neighbours : neighboursOrdered intervals = true) : Ascending intervals := by
  induction intervals with
  | nil => exact .nil
  | cons first rest ih =>
    have here := nonempty first (List.mem_cons_self ..)
    have later : Ascending rest := by
      refine ih (fun one member => nonempty one (List.mem_cons_of_mem _ member)) ?_
      cases rest with
      | nil => rfl
      | cons second others =>
        simp only [neighboursOrdered, Bool.and_eq_true] at neighbours
        exact neighbours.2
    refine Ascending.cons_iff.2 ⟨here, fun one member => ?_, later⟩
    cases rest with
    | nil => simp at member
    | cons second others =>
      simp only [neighboursOrdered, Bool.and_eq_true, decide_eq_true_eq] at neighbours
      rcases List.mem_cons.1 member with rfl | member
      · exact neighbours.1
      · have tail := Ascending.cons_iff.1 later
        have := tail.2.1 one member
        omega

/-! ## Cutting a stretch out of a list of intervals -/

/-- What is left of one interval when `[start, stop)` is cut out of it. -/
def Interval.cut (interval : Interval) (start stop : Nat) : List Interval :=
  if interval.missedBy start stop then [interval]
  else interval.before start ++ interval.after stop

/-- Cuts `[start, stop)` out of every interval; with `stop ≤ start` nothing is cut. -/
def cut (intervals : List Interval) (start stop : Nat) : List Interval :=
  if stop ≤ start then intervals else intervals.flatMap (·.cut start stop)

/-- The number of values that the intervals of a list hold together. -/
def totalLength (intervals : List Interval) : Nat := (intervals.map Interval.length).sum

/-- The number of values that `[start, stop)` takes away from one interval. -/
def Interval.overlap (interval : Interval) (start stop : Nat) : Nat :=
  min interval.stop stop - max interval.start start

/-- Every piece left by a cut holds a value and stays within the interval it comes from. -/
theorem Interval.mem_cut_bounds {interval piece : Interval} {start stop : Nat}
    (nonempty : interval.start < interval.stop)
    (member : piece ∈ interval.cut start stop) :
    interval.start ≤ piece.start ∧ piece.start < piece.stop ∧ piece.stop ≤ interval.stop := by
  unfold Interval.cut Interval.missedBy Interval.before Interval.after at member
  split at member
  · simp_all
  · rename_i met
    simp only [Bool.or_eq_true, decide_eq_true_eq, not_or, Nat.not_le] at met
    rw [List.mem_append] at member
    rcases member with member | member <;> split at member <;>
      simp only [List.mem_singleton, List.not_mem_nil] at member <;> subst member <;>
      simp only <;> omega

/-- The pieces left of one interval are ascending. -/
theorem Interval.cut_ascending {interval : Interval} {start stop : Nat}
    (proper : start < stop) (nonempty : interval.start < interval.stop) :
    Ascending (interval.cut start stop) := by
  refine ⟨fun piece member => (Interval.mem_cut_bounds nonempty member).2.1, ?_⟩
  unfold Interval.cut Interval.missedBy Interval.before Interval.after
  split
  · simp
  · rename_i met
    simp only [Bool.or_eq_true, decide_eq_true_eq, not_or, Nat.not_le] at met
    split <;> split <;> simp
    omega

/-- A cut keeps a list of intervals ascending, for every two numbers. -/
theorem Ascending.cut {intervals : List Interval} (ascending : Ascending intervals)
    (start stop : Nat) : Ascending (cut intervals start stop) := by
  unfold AddressPool.cut
  split
  · exact ascending
  · rename_i proper
    have proper : start < stop := by omega
    induction intervals with
    | nil => exact .nil
    | cons first rest ih =>
      obtain ⟨here, ahead, later⟩ := Ascending.cons_iff.1 ascending
      have head := Interval.cut_ascending proper here
      have tail := ih later
      rw [List.flatMap_cons]
      refine ⟨fun piece member => ?_, List.pairwise_append.2 ⟨head.2, tail.2, ?_⟩⟩
      · rcases List.mem_append.1 member with member | member
        · exact head.1 _ member
        · exact tail.1 _ member
      · intro left left_member right right_member
        obtain ⟨source, source_member, right_member⟩ := List.mem_flatMap.1 right_member
        have left_bounds := Interval.mem_cut_bounds here left_member
        have right_bounds :=
          Interval.mem_cut_bounds (later.1 _ source_member) right_member
        have := ahead _ source_member
        omega

/-! ## Interval sets -/

/-- A set of naturals, kept as an ascending list of intervals. -/
structure IntervalSet where
  intervals : List Interval
  ascending : Ascending intervals

/-- Why a list of intervals is not taken as a set. -/
inductive IntervalSetError where
  | emptyInterval
  | disorder
  deriving DecidableEq, Repr

/-- The text of an error. -/
def IntervalSetError.message : IntervalSetError → String
  | .emptyInterval => "ranges must not be empty"
  | .disorder => "ranges must be non-overlapping and sorted by start"

namespace IntervalSet

instance : DecidableEq IntervalSet := fun left right =>
  decidable_of_iff (left.intervals = right.intervals) <| by
    cases left; cases right; simp

/-- Takes a list of intervals as it is; an empty interval is reported before disorder. -/
def ofList? (intervals : List Interval) : Except IntervalSetError IntervalSet :=
  if nonempty : ∀ interval ∈ intervals, interval.start < interval.stop then
    if neighbours : neighboursOrdered intervals = true then
      .ok ⟨intervals, .of_neighbours nonempty neighbours⟩
    else .error .disorder
  else .error .emptyInterval

/-- The set of the values from `first` to `last`, both included. -/
def ofBounds (first last : Nat) (ordered : first ≤ last) : IntervalSet where
  intervals := [⟨first, last + 1⟩]
  ascending := Ascending.cons_iff.2
    ⟨Nat.lt_succ_of_le ordered, fun _ member => absurd member List.not_mem_nil, .nil⟩

/-- Whether the set holds no value. -/
def isEmpty (set : IntervalSet) : Bool := set.intervals.isEmpty

/-- The number of values in the set. -/
def length (set : IntervalSet) : Nat := totalLength set.intervals

/-- Narrows a stretch of a list, `size` intervals from the place `base` on, down to one interval: it
goes on from the middle, unless the interval there lies beyond what is looked for. -/
@[semireducible]
def bisect (side : Interval → Ordering) (intervals : List Interval) (base size : Nat) : Nat :=
  if size ≤ 1 then base
  else
    let middle := base + size / 2
    let next := if intervals[middle]?.map side = some .gt then base else middle
    bisect side intervals next (size - size / 2)
termination_by size

/-- Looks for an interval by bisection; the answer is its place, or the place where it would be. -/
def search (side : Interval → Ordering) (intervals : List Interval) : Except Nat Nat :=
  let place := bisect side intervals 0 intervals.length
  match intervals[place]?.map side with
  | some .eq => .ok place
  | some .lt => .error (place + 1)
  | _ => .error place

/-- The place of the first interval that is not at the front, by bisection. -/
def partitionPoint (isFront : Interval → Bool) (intervals : List Interval) : Nat :=
  match search (fun interval => if isFront interval then .lt else .gt) intervals with
  | .ok place | .error place => place

/-- Whether a value is in the set. -/
def contains (set : IntervalSet) (value : Nat) : Bool :=
  match search (·.compare value) set.intervals with
  | .ok _ => true
  | .error _ => false

/-- The smallest value of the set. -/
def first (set : IntervalSet) : Option Nat := set.intervals.head?.map (·.start)

/-- The smallest value of the set that is greater than `value`: it is in the first interval that
does not end in front of the successor. -/
def nextAfter (set : IntervalSet) (value : Nat) : Option Nat :=
  let place := partitionPoint (fun interval => decide (interval.stop ≤ value + 1)) set.intervals
  set.intervals[place]?.map fun interval => max interval.start (value + 1)

/-- The set without the values of `[start, stop)`. -/
def remove (set : IntervalSet) (start stop : Nat) : IntervalSet :=
  ⟨cut set.intervals start stop, set.ascending.cut start stop⟩

/-- How many values of the set lie in `[start, stop)`. -/
def countIn (set : IntervalSet) (start stop : Nat) : Nat :=
  (set.intervals.map (·.overlap start stop)).sum

/-- The walk through the set in increasing order, from a value on and for at most `limit` steps. -/
def walkFrom (set : IntervalSet) : Nat → Option Nat → List Nat
  | 0, _ => []
  | _, none => []
  | limit + 1, some value => value :: walkFrom set limit (set.nextAfter value)

/-- The first `limit` values of the set in increasing order. -/
def walk (set : IntervalSet) (limit : Nat) : List Nat := set.walkFrom limit set.first

end IntervalSet

end AddressPool
