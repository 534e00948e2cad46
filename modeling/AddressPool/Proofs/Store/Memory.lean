import AddressPool.Store.Memory
import Mathlib.Data.List.Basic

/-!
# Looking things up in a store in memory

What a store in memory holds is known from two look-ups, that of an address among
its reservations and that of a ring among its cursors.  Each change of the store is
described by what it does to them.  A reservation that is made and given up again
leaves the store as it was (`Memory.keep_put`).
-/

namespace AddressPool

set_option autoImplicit false

namespace Memory

variable {memory : Memory} {address : Address} {reservation : Reservation}

/-! ## Reservations -/

/-- An address is free when the store holds no reservation of it. -/
def isFree (memory : Memory) (address : Address) : Bool := (memory.find? address).isNone

theorem isFree_iff : memory.isFree address = true ↔ memory.find? address = none := by
  rw [isFree, Option.isNone_iff_eq_none]

/-- The reservations of an owner. -/
def ownedBy (memory : Memory) (owner : String) : List Reservation :=
  memory.reservations.filter fun reservation => decide (reservation.owner = owner)

theorem mem_ownedBy {owner : String} :
    reservation ∈ memory.ownedBy owner ↔
      reservation ∈ memory.reservations ∧ reservation.owner = owner := by
  simp [ownedBy]

theorem ext_of {left right : Memory} (reservations : left.reservations = right.reservations)
    (cursors : left.cursors = right.cursors) : left = right := by
  cases left
  cases right
  cases reservations
  cases cursors
  rfl

/-- Reservations of one address are the same reservation. -/
theorem eq_of_address {left right : Reservation} (here : left ∈ memory.reservations)
    (there : right ∈ memory.reservations) (same : left.address = right.address) :
    left = right := by
  have ascending := memory.ascending
  obtain ⟨before, after, shape⟩ := List.append_of_mem here
  rw [AscendingAddresses, shape, List.pairwise_append, List.pairwise_cons] at ascending
  rw [shape, List.mem_append, List.mem_cons] at there
  rcases there with earlier | rfl | later
  · have order := ascending.2.2 right earlier left (List.mem_cons_self ..)
    rw [same] at order
    exact absurd order (Nat.lt_irrefl _)
  · rfl
  · have order := ascending.2.1.1 right later
    rw [same] at order
    exact absurd order (Nat.lt_irrefl _)

theorem find?_eq_some_iff :
    memory.find? address = some reservation ↔
      reservation ∈ memory.reservations ∧ reservation.address = address := by
  constructor
  · intro found
    exact ⟨List.mem_of_find?_eq_some found, by simpa using List.find?_some found⟩
  · rintro ⟨member, rfl⟩
    cases found : memory.find? reservation.address with
    | none =>
      have absent := List.find?_eq_none.mp found reservation member
      simp at absent
    | some other =>
      have listed := List.mem_of_find?_eq_some found
      have same : other.address = reservation.address := by simpa using List.find?_some found
      rw [eq_of_address listed member same]

/-- No address is reserved twice. -/
theorem distinct (memory : Memory) :
    memory.reservations.Pairwise fun left right => left.address ≠ right.address := by
  refine List.Pairwise.imp ?_ memory.ascending
  intro left right order same
  rw [same] at order
  exact Nat.lt_irrefl _ order

theorem nodup_reservations (memory : Memory) : memory.reservations.Nodup := by
  refine List.Pairwise.imp ?_ memory.distinct
  rintro left _ different rfl
  exact different rfl

/-- The reservation of an address is the only one of that address. -/
theorem filter_eq_singleton_iff :
    (memory.reservations.filter fun other => decide (other.address = reservation.address)) =
        [reservation] ↔ memory.find? reservation.address = some reservation := by
  constructor
  · intro alone
    have member : reservation ∈ [reservation] := List.mem_singleton_self _
    rw [← alone, List.mem_filter] at member
    exact find?_eq_some_iff.mpr ⟨member.1, rfl⟩
  · intro found
    obtain ⟨listed, _⟩ := find?_eq_some_iff.mp found
    refine List.perm_singleton.mp ?_
    refine (List.perm_ext_iff_of_nodup (memory.nodup_reservations.filter _)
      (List.pairwise_singleton _ _)).mpr ?_
    intro other
    rw [List.mem_filter, List.mem_singleton, decide_eq_true_eq]
    constructor
    · rintro ⟨there, same⟩
      exact eq_of_address there listed same
    · rintro rfl
      exact ⟨listed, rfl⟩

theorem find?_eq_none_iff :
    memory.find? address = none ↔ ∀ other ∈ memory.reservations, other.address ≠ address := by
  simp [find?, List.find?_eq_none]

/-- The reservation that is found for an address is of that address. -/
theorem address_of_find? (found : memory.find? address = some reservation) :
    reservation.address = address := (find?_eq_some_iff.mp found).2

theorem mem_put {other : Reservation} :
    other ∈ (memory.put reservation).reservations ↔
      other = reservation ∨
        other ∈ memory.reservations ∧ other.address ≠ reservation.address := by
  simp only [put, keep, Reservation.mem_insert, List.mem_filter, decide_eq_true_eq]

/-- A reservation of a free address is added to the others. -/
theorem mem_put_of_free (free : memory.find? reservation.address = none) {other : Reservation} :
    other ∈ (memory.put reservation).reservations ↔
      other = reservation ∨ other ∈ memory.reservations := by
  rw [mem_put]
  exact or_congr_right ⟨And.left, fun member => ⟨member, find?_eq_none_iff.mp free other member⟩⟩

theorem find?_put (memory : Memory) (reservation : Reservation) (address : Address) :
    (memory.put reservation).find? address =
      if address = reservation.address then some reservation else memory.find? address := by
  split
  · rename_i same
    exact find?_eq_some_iff.mpr ⟨mem_put.mpr (.inl rfl), same.symm⟩
  · rename_i different
    rw [Option.ext_iff]
    intro other
    rw [find?_eq_some_iff, find?_eq_some_iff, mem_put]
    constructor
    · rintro ⟨rfl | ⟨member, _⟩, rfl⟩
      · exact absurd rfl different
      · exact ⟨member, rfl⟩
    · rintro ⟨member, rfl⟩
      exact ⟨.inr ⟨member, different⟩, rfl⟩

theorem find?_put_self (memory : Memory) (reservation : Reservation) :
    (memory.put reservation).find? reservation.address = some reservation := by
  rw [find?_put, if_pos rfl]

theorem find?_keep (memory : Memory) (wanted : Reservation → Bool) (address : Address) :
    (memory.keep wanted).find? address = (memory.find? address).filter wanted := by
  rw [Option.ext_iff]
  intro other
  rw [Option.filter_eq_some_iff, find?_eq_some_iff, find?_eq_some_iff]
  simp only [keep, List.mem_filter]
  exact and_right_comm

theorem keep_congr {wanted other : Reservation → Bool}
    (same : ∀ reservation ∈ memory.reservations, wanted reservation = other reservation) :
    memory.keep wanted = memory.keep other :=
  ext_of (List.filter_congr same) rfl

theorem keep_eq_self {wanted : Reservation → Bool}
    (all : ∀ reservation ∈ memory.reservations, wanted reservation = true) :
    memory.keep wanted = memory :=
  ext_of (List.filter_eq_self.mpr all) rfl

theorem keep_keep (memory : Memory) (first second : Reservation → Bool) :
    (memory.keep first).keep second =
      memory.keep fun reservation => first reservation && second reservation :=
  ext_of (List.filter_filter.trans (List.filter_congr fun _ _ => Bool.and_comm _ _)) rfl

/-- What is left without the reservations of an owner tells how many they were. -/
theorem length_ownedBy (memory : Memory) (owner : String) :
    (memory.ownedBy owner).length = memory.reservations.length -
      (memory.keep fun other => decide (other.owner ≠ owner)).reservations.length := by
  have parts := List.length_eq_countP_add_countP (l := memory.reservations) fun reservation =>
    decide (reservation.owner = owner)
  simp only [List.countP_eq_length_filter, decide_eq_true_eq] at parts
  rw [ownedBy, keep, parts]
  exact (Nat.add_sub_cancel ..).symm

/-- Nothing but the reservation of one address is given up. -/
theorem find?_keep_ne (memory : Memory) (released address : Address) :
    (memory.keep fun other => decide (other.address ≠ released)).find? address =
      if address = released then none else memory.find? address := by
  rw [find?_keep]
  cases found : memory.find? address with
  | none => simp
  | some other =>
    rw [Option.filter_some, address_of_find? found]
    by_cases same : address = released <;> simp [same]

/-- A new reservation that is given up again leaves the store as it was. -/
theorem keep_put (absent : memory.find? reservation.address = none) :
    (memory.put reservation).keep (fun other => decide (other.address ≠ reservation.address)) =
      memory := by
  rw [find?_eq_none_iff] at absent
  have others : memory.reservations.filter
      (fun other => decide (other.address ≠ reservation.address)) = memory.reservations := by
    rw [List.filter_eq_self]
    intro other member
    simpa using absent other member
  have dropped : ∀ entries : List Reservation,
      (∀ other ∈ entries, other.address ≠ reservation.address) →
        (reservation.insert entries).filter
          (fun other => decide (other.address ≠ reservation.address)) = entries := by
    intro entries apart
    induction entries with
    | nil => simp [Reservation.insert]
    | cons first rest ih =>
      have here := apart first (List.mem_cons_self ..)
      have later := ih fun other member => apart other (List.mem_cons_of_mem _ member)
      have kept :
          rest.filter (fun other => decide (other.address ≠ reservation.address)) = rest := by
        rw [List.filter_eq_self]
        intro other member
        simpa using apart other (List.mem_cons_of_mem _ member)
      unfold Reservation.insert
      split
      · rw [List.filter_cons_of_pos (by simpa using here), later]
      · rw [List.filter_cons_of_neg (by simp), List.filter_cons_of_pos (by simpa using here), kept]
  refine ext_of ?_ rfl
  simp only [put, keep, others]
  exact dropped _ absent

/-! ## Listings -/

theorem perm_insert (reservation : Reservation) (reservations : List Reservation) :
    (reservation.insert reservations).Perm (reservation :: reservations) := by
  induction reservations with
  | nil => exact .refl _
  | cons first rest ih =>
    unfold Reservation.insert
    split
    · exact (ih.cons first).trans (.swap reservation first rest)
    · exact .refl _

theorem perm_sort (reservations : List Reservation) :
    (Reservation.sort reservations).Perm reservations := by
  induction reservations with
  | nil => exact .refl _
  | cons first rest ih => exact (perm_insert first _).trans (ih.cons first)

/-- Reservations of different addresses are listed in ascending order. -/
theorem ascending_sort {reservations : List Reservation}
    (distinct : reservations.Pairwise fun left right => left.address ≠ right.address) :
    AscendingAddresses (Reservation.sort reservations) := by
  induction reservations with
  | nil => exact .nil
  | cons first rest ih =>
    obtain ⟨here, later⟩ := List.pairwise_cons.mp distinct
    refine ascending_insert first (ih later) fun other member => ?_
    exact (here other ((perm_sort rest).mem_iff.mp member)).symm

/-- The reservations of a store, in whatever order they are found, are listed as the store lists
them. -/
theorem sort_eq {found : List Reservation} (nodup : found.Nodup)
    (same : ∀ reservation, reservation ∈ found ↔ reservation ∈ memory.reservations) :
    Reservation.sort found = memory.reservations := by
  have distinct : found.Pairwise fun left right => left.address ≠ right.address := by
    refine List.Pairwise.imp_of_mem ?_ nodup
    intro left right here there different equal
    exact different (eq_of_address ((same left).mp here) ((same right).mp there) equal)
  have perm : (Reservation.sort found).Perm memory.reservations :=
    (perm_sort found).trans
      ((List.perm_ext_iff_of_nodup nodup memory.nodup_reservations).mpr same)
  refine List.Perm.eq_of_pairwise (fun left right _ _ up down => ?_) (ascending_sort distinct)
    memory.ascending perm
  exact absurd up (Nat.lt_asymm down)

/-! ## Cursors -/

theorem find?_putCursor (memory : Memory) (id : String) (cursor address : Address) :
    (memory.putCursor id cursor).find? address = memory.find? address := rfl

theorem lookup_putCursor (memory : Memory) (id other : String) (cursor : Address) :
    (memory.putCursor id cursor).cursors.lookup other =
      if other = id then some cursor else memory.cursors.lookup other := by
  rw [putCursor, List.lookup_cons]
  by_cases same : other = id
  · simp [same]
  · have different : (other == id) = false := by simpa using same
    rw [different, if_neg same]
    exact lookup_filter_ne _ same

end Memory

end AddressPool
