import Mathlib.Order.Bounds.Basic
import AddressPool.Proofs.Interval.FixedWidth

/-!
# Queries and the walk

The queries of an interval set speak about the values that its intervals cover.  The first value is
the least of them, the next value behind any number is the least of those that are greater, and the
answer is missing only if there is none.

Asking for the first value and then again and again for the next one leads through all values.  In
terms of the list of values this says that the query behind the value at one place answers the value
at the next place (`IntervalSet.nextAfter_getElem`), so the walk is that list, cut off where one
stops asking (`IntervalSet.walk_eq_take`).
-/

namespace AddressPool

set_option autoImplicit false

/-! ## Lists in increasing order -/

/-- In an increasing list the head is the least element. -/
theorem head?_eq_some_iff_isLeast {values : List Nat} (increasing : values.Pairwise (· < ·))
    {least : Nat} : values.head? = some least ↔ IsLeast { value | value ∈ values } least := by
  cases values with
  | nil =>
    simp [IsLeast]
  | cons head rest =>
    have ahead := (List.pairwise_cons.mp increasing).1
    have lower : head ∈ lowerBounds { value | value ∈ head :: rest } := by
      intro value member
      rcases List.mem_cons.mp member with rfl | later
      · exact Nat.le_refl _
      · exact Nat.le_of_lt (ahead value later)
    have isLeast : IsLeast { value | value ∈ head :: rest } head := ⟨List.mem_cons_self .., lower⟩
    rw [List.head?_cons, Option.some.injEq]
    exact ⟨fun same => same ▸ isLeast, fun other => isLeast.unique other⟩

/-- In an increasing list the first element behind a number is the least of the greater ones. -/
theorem find?_eq_some_iff_isLeast {values : List Nat} (increasing : values.Pairwise (· < ·))
    {value next : Nat} :
    (values.find? fun other => decide (value < other)) = some next ↔
      IsLeast { other | other ∈ values ∧ value < other } next := by
  rw [← List.head?_filter, head?_eq_some_iff_isLeast (increasing.filter _)]
  simp only [List.mem_filter, decide_eq_true_eq]

/-- In an increasing list the first element that is greater than the one at a place is the one at
the next place. -/
theorem find?_getElem {values : List Nat} (increasing : values.Pairwise (· < ·)) {place value : Nat}
    (there : values[place]? = some value) :
    (values.find? fun other => decide (value < other)) = values[place + 1]? := by
  induction values generalizing place with
  | nil => cases there
  | cons head rest ih =>
    obtain ⟨ahead, increasing⟩ := List.pairwise_cons.mp increasing
    cases place with
    | zero =>
      obtain rfl : head = value := Option.some.inj there
      rw [List.find?_cons_of_neg (by simp)]
      cases rest with
      | nil => rfl
      | cons second others =>
        have greater := ahead second (List.mem_cons_self ..)
        exact List.find?_cons_of_pos (by simpa using greater)
    | succ place =>
      rw [List.getElem?_cons_succ] at there
      have smaller := ahead value (List.mem_of_getElem? there)
      rw [List.find?_cons_of_neg (by rw [decide_eq_true_eq]; omega), List.getElem?_cons_succ]
      exact ih increasing there

namespace IntervalSet

variable {width : Nat} {set : IntervalSet}

/-- **A value is contained if and only if an interval covers it.** -/
theorem contains_iff_covered {value : Nat} :
    set.contains value = true ↔ ∃ interval ∈ set.intervals, value ∈ interval := by
  rw [contains_iff, values, mem_valuesOf]

/-- **The first value is the least one.** -/
theorem first_eq_some_iff {least : Nat} :
    set.first = some least ↔ IsLeast { value | set.contains value = true } least := by
  rw [first_eq_head?, head?_eq_some_iff_isLeast set.values_increasing]
  simp only [contains_iff]

theorem first_eq_none_iff : set.first = none ↔ ∀ value, set.contains value = false := by
  rw [first_eq_head?, List.head?_eq_none_iff, List.eq_nil_iff_forall_not_mem]
  simp only [← contains_iff, Bool.not_eq_true]

/-- **The next value is the least greater one.** -/
theorem nextAfter_eq_some_iff {value next : Nat} :
    set.nextAfter value = some next ↔
      IsLeast { other | set.contains other = true ∧ value < other } next := by
  rw [nextAfter_eq_find?, find?_eq_some_iff_isLeast set.values_increasing]
  simp only [contains_iff]

theorem nextAfter_eq_none_iff {value : Nat} :
    set.nextAfter value = none ↔ ∀ other, set.contains other = true → other ≤ value := by
  rw [nextAfter_eq_find?, List.find?_eq_none]
  simp only [contains_iff, decide_eq_true_eq, Nat.not_lt]

/-! ## The walk -/

/-- Behind the value at a place comes the value at the next place. -/
theorem nextAfter_getElem {place value : Nat} (there : set.values[place]? = some value) :
    set.nextAfter value = set.values[place + 1]? := by
  rw [nextAfter_eq_find?, find?_getElem set.values_increasing there]

/-- A walk from a place on lists what is there and behind. -/
theorem walkFrom_eq_take (limit place : Nat) :
    set.walkFrom limit set.values[place]? = (set.values.drop place).take limit := by
  induction limit generalizing place with
  | zero => rw [walkFrom, List.take_zero]
  | succ limit ih =>
    cases there : set.values[place]? with
    | none =>
      have short : set.values.length ≤ place := List.getElem?_eq_none_iff.mp there
      rw [walkFrom, List.drop_eq_nil_of_le short, List.take_nil]
      exact Nat.succ_ne_zero limit
    | some value =>
      obtain ⟨bound, rfl⟩ := List.getElem?_eq_some_iff.mp there
      rw [walkFrom, nextAfter_getElem there, ih, List.drop_eq_getElem_cons bound,
        List.take_succ_cons]

/-- **The walk lists the values of the set**, up to the limit. -/
theorem walk_eq_take (limit : Nat) : set.walk limit = set.values.take limit := by
  rw [walk, first_eq_head?, List.head?_eq_getElem?, walkFrom_eq_take, List.drop_zero]

/-- The first value and the queries for the next one lead through a list: the first value is its
head, behind each element comes the next one, and behind the last one there is nothing. -/
structure LeadsThrough (width : Nat) (set : IntervalSet) (listed : List Nat) : Prop where
  first : set.first = listed[0]?
  next : ∀ place value, listed[place]? = some value →
    FixedWidth.nextAfter width set.intervals value = listed[place + 1]?

theorem OfWidth.leadsThrough (typed : set.OfWidth width) : set.LeadsThrough width set.values := by
  refine ⟨by rw [first_eq_head?, List.head?_eq_getElem?], fun place value there => ?_⟩
  have bounded := typed.lt_of_mem (List.mem_of_getElem? there)
  rw [FixedWidth.nextAfter_eq typed bounded, nextAfter_getElem there]

/-- **Queries are exact.**  In a set of intervals of a width, a value is contained if and only if an
interval covers it; the next value behind any number of the width is the least contained value that
is greater, and the first value is the least contained one; and the queries lead through all
contained values in increasing order, as many as the length of the set tells.  In numbers of the
width the next value and the length come out the same. -/
theorem queries_are_exact (width : Nat) (set : IntervalSet) (typed : set.OfWidth width) :
    (∀ value, set.contains value = true ↔ ∃ interval ∈ set.intervals, value ∈ interval) ∧
    (∀ value < 2 ^ width,
      FixedWidth.nextAfter width set.intervals value = set.nextAfter value ∧
      (∀ next, FixedWidth.nextAfter width set.intervals value = some next ↔
        IsLeast { other | set.contains other = true ∧ value < other } next) ∧
      (FixedWidth.nextAfter width set.intervals value = none ↔
        ∀ other, set.contains other = true → other ≤ value)) ∧
    FixedWidth.nextAfter width set.intervals (2 ^ width - 1) = none ∧
    (∀ least, set.first = some least ↔ IsLeast { value | set.contains value = true } least) ∧
    (set.first = none ↔ ∀ value, set.contains value = false) ∧
    ∃ listed : List Nat, set.LeadsThrough width listed ∧ listed.Pairwise (· < ·) ∧
      (∀ value, value ∈ listed ↔ set.contains value = true) ∧
      FixedWidth.length width set.intervals = some listed.length ∧
      set.length = listed.length ∧
      ∀ limit, set.walk limit = listed.take limit := by
  have positive : 0 < 2 ^ width := Nat.two_pow_pos width
  refine ⟨fun value => contains_iff_covered, fun value bounded => ?_, ?_,
    fun least => first_eq_some_iff, first_eq_none_iff, set.values, typed.leadsThrough,
    set.values_increasing, fun value => contains_iff.symm, ?_, set.length_values.symm,
    walk_eq_take⟩
  · rw [FixedWidth.nextAfter_eq typed bounded]
    exact ⟨rfl, fun next => nextAfter_eq_some_iff, nextAfter_eq_none_iff⟩
  · rw [FixedWidth.nextAfter_eq typed (by omega), nextAfter_eq_none_iff]
    intro other held
    have below := typed.lt_of_mem (contains_iff.mp held)
    omega
  · rw [FixedWidth.length_eq typed, set.length_values]

/-- The intervals of three bits below 3 and from 3 on touch: the walk goes from one to the other,
and behind the last value before the greatest number there is nothing. -/
theorem queries_of_touching : ∃ (set : IntervalSet) (listed : List Nat),
    set.intervals = [⟨1, 3⟩, ⟨3, 7⟩] ∧ listed = [1, 2, 3, 4, 5, 6] ∧ set.LeadsThrough 3 listed ∧
      set.length = 6 ∧ FixedWidth.nextAfter 3 set.intervals 7 = none := by
  let set : IntervalSet := ⟨[⟨1, 3⟩, ⟨3, 7⟩], .of_neighbours (by decide) (by decide)⟩
  have typed : set.OfWidth 3 := by
    change ∀ interval ∈ [Interval.mk 1 3, Interval.mk 3 7], interval.OfWidth 3
    decide
  obtain ⟨_, _, last, _, _, listed, leads, _, _, _, count, walked⟩ :=
    queries_are_exact 3 set typed
  have sum : set.length = 6 := by decide
  refine ⟨set, listed, rfl, ?_, leads, sum, last⟩
  rw [← List.take_of_length_le (Nat.le_of_eq (count.symm.trans sum)), ← walked]
  decide

end IntervalSet

end AddressPool
