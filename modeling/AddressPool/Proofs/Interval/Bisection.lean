import AddressPool.Interval.Basic

/-!
# Bisection

A list of intervals is searched by halving.  All that the search relies on is that whatever comes
behind an interval that lies beyond the goal lies beyond it as well (`IntervalSet.Sided`).  Then the
search ends at the last interval that is not beyond the goal, or at the first one if there is none
(`IntervalSet.bisect_ends`).

From this follows that the partition point is the place of the first interval that is not at the
front (`IntervalSet.getElem?_partitionPoint`).  What the search for a single value comes to depends
on the values of the intervals, and is said with them.
-/

namespace AddressPool

set_option autoImplicit false

namespace IntervalSet

variable {side : Interval → Ordering} {intervals : List Interval}

/-- Behind an interval that lies beyond the goal there are only such intervals. -/
def Sided (side : Interval → Ordering) (intervals : List Interval) : Prop :=
  intervals.Pairwise fun left right => side left = .gt → side right = .gt

/-- A search from a place on may end here: all that is behind the place is beyond the goal, and the
interval at the place is not, unless the search has never left its start. -/
structure EndsAt (side : Interval → Ordering) (intervals : List Interval) (start place : Nat) :
    Prop where
  bound : place < intervals.length
  behind : ∀ (later : Nat) (bound : later < intervals.length), place < later →
    side intervals[later] = .gt
  here : place = start ∨ side intervals[place] ≠ .gt

/-- A search that goes on from a place that is not beyond the goal does not end there for the reason
that it has never moved. -/
theorem EndsAt.of_moved {start middle place : Nat} {bound : middle < intervals.length}
    (ends : EndsAt side intervals middle place) (reached : side intervals[middle] ≠ .gt) :
    EndsAt side intervals start place := by
  refine ⟨ends.bound, ends.behind, .inr ?_⟩
  rcases ends.here with rfl | different
  · exact reached
  · exact different

/-- A search of a stretch, behind which all is beyond the goal, ends as it should. -/
theorem bisect_endsAt (sided : Sided side intervals) (base size : Nat) (filled : 0 < size)
    (inside : base + size ≤ intervals.length)
    (beyond : ∀ (place : Nat) (bound : place < intervals.length), base + size ≤ place →
      side intervals[place] = .gt) :
    EndsAt side intervals base (bisect side intervals base size) := by
  induction base, size using bisect.induct side intervals with
  | case1 base size small =>
    rw [bisect, if_pos small]
    refine ⟨by omega, fun later bound ahead => ?_, .inl rfl⟩
    exact beyond later bound (by omega)
  | case2 base size large middle next ih =>
    have there : middle < intervals.length := by omega
    have here : intervals[middle]? = some intervals[middle] := List.getElem?_eq_getElem there
    have further : bisect side intervals base size =
        bisect side intervals next (size - size / 2) := by
      rw [bisect, if_neg large]
      rfl
    rw [further]
    by_cases after : side intervals[middle] = .gt
    · have stays : next = base := if_pos (by rw [here, Option.map_some, after])
      rw [stays] at ih ⊢
      refine ih (by omega) (by omega) fun place bound ahead => ?_
      by_cases behind : middle < place
      · exact List.pairwise_iff_getElem.mp sided middle place there bound behind after
      · obtain rfl : place = middle := by omega
        exact after
    · have moves : next = middle := if_neg (by rw [here, Option.map_some]; simpa using after)
      rw [moves] at ih ⊢
      refine (ih (by omega) (by omega) fun place bound ahead => ?_).of_moved after
      exact beyond place bound (by omega)

/-- **The search ends at the last interval that is not beyond the goal**, or at the first interval
if there is none. -/
theorem bisect_ends (sided : Sided side intervals) (filled : intervals ≠ []) :
    ∃ front here back, intervals = front ++ here :: back ∧
      bisect side intervals 0 intervals.length = front.length ∧
      (∀ later ∈ back, side later = .gt) ∧ (front = [] ∨ side here ≠ .gt) := by
  have ends := bisect_endsAt sided 0 intervals.length (List.length_pos_iff.mpr filled) (by omega)
    fun place bound ahead => by omega
  generalize bisect side intervals 0 intervals.length = place at ends
  obtain ⟨bound, behind, here⟩ := ends
  refine ⟨intervals.take place, intervals[place], intervals.drop (place + 1), ?_, ?_, ?_, ?_⟩
  · rw [List.getElem_cons_drop, List.take_append_drop]
  · rw [List.length_take]
    omega
  · intro later member
    obtain ⟨count, bounded, rfl⟩ := List.mem_iff_getElem.mp member
    rw [List.getElem_drop]
    exact behind _ _ (by omega)
  · refine here.imp_left fun start => ?_
    rw [start, List.take_zero]

/-- What a search answers where it ends. -/
theorem search_of_ends {front back : List Interval} {here : Interval}
    (shape : intervals = front ++ here :: back)
    (ended : bisect side intervals 0 intervals.length = front.length) :
    search side intervals = match side here with
      | .eq => .ok front.length
      | .lt => .error (front.length + 1)
      | .gt => .error front.length := by
  have there : intervals[front.length]? = some here := by rw [shape]; simp
  simp only [search, ended, there, Option.map_some]
  cases side here <;> rfl

/-- **The partition point is the place of the first interval that is not at the front.** -/
theorem getElem?_partitionPoint {isFront : Interval → Bool}
    (parted : intervals.Pairwise fun left right => isFront right = true → isFront left = true) :
    intervals[partitionPoint isFront intervals]? =
      intervals.find? fun interval => !isFront interval := by
  by_cases vacant : intervals = []
  · rw [vacant]
    rfl
  have sided : Sided (fun interval => if isFront interval then .lt else .gt) intervals := by
    refine parted.imp fun {left right} earlier => ?_
    cases front : isFront right with
    | false => simp [front]
    | true => simp [earlier front]
  obtain ⟨front, here, back, shape, ended, behind, start⟩ := bisect_ends sided vacant
  have answer := search_of_ends shape ended
  rw [shape, List.pairwise_append, List.pairwise_cons] at parted
  rw [partitionPoint, answer]
  cases reached : isFront here with
  | true =>
    have earlier : ∀ interval ∈ front, isFront interval = true := fun interval member =>
      parted.2.2 interval member here (List.mem_cons_self ..) reached
    have later : ∀ interval ∈ back, isFront interval = false := by
      intro interval member
      simpa using behind interval member
    have none_earlier : front.find? (fun interval => !isFront interval) = none := by
      rw [List.find?_eq_none]
      intro interval member
      simp [earlier interval member]
    have first_later : back.find? (fun interval => !isFront interval) = back.head? := by
      cases back with
      | nil => rfl
      | cons next rest =>
        rw [List.find?_cons_of_pos (by simp [later next (List.mem_cons_self ..)]), List.head?_cons]
    have beyond : (front ++ here :: back)[front.length + 1]? = back[0]? := by
      rw [List.getElem?_append_right (by omega)]
      simp
    rw [shape, List.find?_append, none_earlier, Option.none_or,
      List.find?_cons_of_neg (by simp [reached]), first_later, List.head?_eq_getElem?]
    exact beyond
  | false =>
    have first : front = [] := start.resolve_right (by simp [reached])
    rw [shape, first]
    simp [reached]

end IntervalSet

end AddressPool
