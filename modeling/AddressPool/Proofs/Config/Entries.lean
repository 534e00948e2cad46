import AddressPool.Config
import AddressPool.Proofs.Range.Construction
import Mathlib.Data.List.Forall2

/-!
# Entries of a document and the rings they make

What a document says of a range are texts.  An entry is sound (`RangeEntry.Sound`) when its texts
can be read and what they describe is sound, and a list of entries is the ring of a document
(`Document.SoundRing`) when there is one, all of them are sound and of one family, no two of them
have an address in common, and some address may be handed out.  All this is said of the entries
as they are written, and nothing of the order in which it is looked at.

Entries and the ranges that are made of them correspond one by one, so that what holds of all of
them, of some of them or of every two of them can be carried over from one side to the other.
-/

namespace AddressPool

set_option autoImplicit false

/-! ## Lists that correspond entry by entry -/

section Correspondence

variable {α β : Type} {related : α → β → Prop} {entries : List α} {results : List β}

theorem forall_mem_iff_of_forall₂ {left : α → Prop} {right : β → Prop}
    (corresponding : List.Forall₂ related entries results)
    (same : ∀ entry result, related entry result → (left entry ↔ right result)) :
    (∀ entry ∈ entries, left entry) ↔ ∀ result ∈ results, right result := by
  induction corresponding with
  | nil => simp
  | cons here _ ih => simp only [List.forall_mem_cons, same _ _ here, ih]

theorem exists_mem_iff_of_forall₂ {left : α → Prop} {right : β → Prop}
    (corresponding : List.Forall₂ related entries results)
    (same : ∀ entry result, related entry result → (left entry ↔ right result)) :
    (∃ entry ∈ entries, left entry) ↔ ∃ result ∈ results, right result := by
  induction corresponding with
  | nil => simp
  | cons here _ ih => simp only [List.exists_mem_cons_iff, same _ _ here, ih]

theorem pairwise_iff_of_forall₂ {left : α → α → Prop} {right : β → β → Prop}
    (corresponding : List.Forall₂ related entries results)
    (same : ∀ entry result, related entry result → ∀ other outcome, related other outcome →
      (left entry other ↔ right result outcome)) :
    entries.Pairwise left ↔ results.Pairwise right := by
  induction corresponding with
  | nil => simp
  | cons here later ih =>
    rw [List.pairwise_cons, List.pairwise_cons, ih,
      forall_mem_iff_of_forall₂ later (same _ _ here)]

theorem exists_forall₂_iff :
    (∃ results, List.Forall₂ related entries results) ↔
      ∀ entry ∈ entries, ∃ result, related entry result := by
  induction entries with
  | nil => simp
  | cons entry rest ih =>
    rw [List.forall_mem_cons, ← ih]
    constructor
    · rintro ⟨_, corresponding⟩
      cases corresponding with
      | cons here later => exact ⟨⟨_, here⟩, ⟨_, later⟩⟩
    · rintro ⟨⟨result, here⟩, ⟨results, later⟩⟩
      exact ⟨result :: results, .cons here later⟩

theorem getElem?_of_forall₂ (corresponding : List.Forall₂ related entries results) {place : Nat}
    {entry : α} (there : entries[place]? = some entry) :
    ∃ result, results[place]? = some result ∧ related entry result := by
  induction corresponding generalizing place with
  | nil => simp at there
  | cons here _ ih =>
    cases place with
    | zero =>
      simp only [List.getElem?_cons_zero, Option.some.injEq] at there
      exact ⟨_, by simp, there ▸ here⟩
    | succ place =>
      simp only [List.getElem?_cons_succ] at there ⊢
      exact ih there

end Correspondence

/-! ## Traversals that stop at the first error -/

section Traversal

variable {α β ε : Type} {f : α → Except ε β} {entries : List α}

theorem bind_eq_ok_iff {γ : Type} {x : Except ε α} {f : α → Except ε γ} {result : γ} :
    (x >>= f) = .ok result ↔ ∃ value, x = .ok value ∧ f value = .ok result := by
  cases x with
  | error _ => simp [bind, Except.bind]
  | ok value => simp [bind, Except.bind]

theorem bind_eq_error_iff {γ : Type} {x : Except ε α} {f : α → Except ε γ} {error : ε} :
    (x >>= f) = .error error ↔
      x = .error error ∨ ∃ value, x = .ok value ∧ f value = .error error := by
  cases x with
  | error _ => simp [bind, Except.bind]
  | ok value => simp [bind, Except.bind]

/-- A traversal gives what its entries give. -/
theorem mapM_eq_ok_iff {results : List β} :
    entries.mapM f = .ok results ↔
      List.Forall₂ (fun entry result => f entry = .ok result) entries results := by
  induction entries generalizing results with
  | nil =>
    rw [List.mapM_nil, List.forall₂_nil_left_iff]
    exact ⟨fun same => (Except.ok.inj same).symm, fun same => same ▸ rfl⟩
  | cons entry rest ih =>
    simp only [List.mapM_cons, bind_eq_ok_iff, ih, List.forall₂_cons_left_iff]
    constructor
    · rintro ⟨result, here, results, later, same⟩
      exact ⟨result, results, here, later, (Except.ok.inj same).symm⟩
    · rintro ⟨result, results, here, later, rfl⟩
      exact ⟨result, here, results, later, rfl⟩

/-- A traversal fails with the error of the first entry that fails. -/
theorem mapM_eq_error_iff {error : ε} :
    entries.mapM f = .error error ↔
      ∃ before entry after, entries = before ++ entry :: after ∧
        (∀ earlier ∈ before, ∃ result, f earlier = .ok result) ∧ f entry = .error error := by
  induction entries with
  | nil =>
    rw [List.mapM_nil]
    constructor
    · rintro ⟨⟩
    · rintro ⟨before, entry, after, split, _⟩
      simp at split
  | cons first rest ih =>
    rw [List.mapM_cons, bind_eq_error_iff]
    constructor
    · rintro (here | ⟨result, passed, later⟩)
      · exact ⟨[], first, rest, rfl, by simp, here⟩
      · rw [bind_eq_error_iff, ih] at later
        obtain ⟨before, entry, after, rfl, earlier, failed⟩ | ⟨_, _, ⟨⟩⟩ := later
        refine ⟨first :: before, entry, after, rfl, ?_, failed⟩
        rw [List.forall_mem_cons]
        exact ⟨⟨result, passed⟩, earlier⟩
    · rintro ⟨before, entry, after, split, earlier, failed⟩
      cases before with
      | nil =>
        obtain ⟨rfl, rfl⟩ := List.cons.inj split
        exact .inl failed
      | cons _ before =>
        obtain ⟨rfl, rfl⟩ := List.cons.inj split
        obtain ⟨⟨result, passed⟩, earlier⟩ := List.forall_mem_cons.mp earlier
        refine .inr ⟨result, passed, ?_⟩
        rw [bind_eq_error_iff, ih]
        exact .inl ⟨before, entry, after, rfl, earlier, failed⟩

end Traversal

/-! ## Entries -/

namespace RangeEntry

variable {entry : RangeEntry} {spec : RangeSpec} {range : Range} {address : Address}

/-- What an entry describes, all its texts read. -/
structure Means (entry : RangeEntry) (spec : RangeSpec) : Prop where
  subnet : Prefix.ofString? entry.subnet = some spec.subnet
  first : Option.Rel (fun text address => Address.ofString? text = some address)
    entry.rangeStart spec.first
  last : Option.Rel (fun text address => Address.ofString? text = some address)
    entry.rangeEnd spec.last
  gateway : Option.Rel (fun text address => Address.ofString? text = some address)
    entry.gateway spec.gateway
  exclusions : List.Forall₂ (fun text exclusion => Exclusion.ofString text = .ok exclusion)
    entry.exclude spec.exclusions

/-- An entry of which a range can be built: its texts can be read, and what they describe is
sound. -/
def Sound (entry : RangeEntry) : Prop := ∃ spec, entry.Means spec ∧ spec.Sound

/-- An address lies between the two ends that an entry describes. -/
def InBounds (entry : RangeEntry) (address : Address) : Prop :=
  ∃ spec, entry.Means spec ∧ Address.Between spec.start spec.stop address

/-- An entry allows an address to be handed out. -/
def Allows (entry : RangeEntry) (address : Address) : Prop :=
  ∃ spec, entry.Means spec ∧ spec.Usable address

/-- The family of the subnet of an entry. -/
def HasFamily (entry : RangeEntry) (family : Family) : Prop :=
  ∃ spec, entry.Means spec ∧ spec.subnet.family = family

/-- A range has what is written in an entry. -/
def Describes (entry : RangeEntry) (range : Range) : Prop :=
  ∃ spec, entry.Means spec ∧ Range.BuiltOf spec range

theorem readAddress?_eq_ok_iff {field : AddressField} {text : Option String}
    {read : Option Address} :
    readAddress? field text = .ok read ↔
      Option.Rel (fun text address => Address.ofString? text = some address) text read := by
  cases text with
  | none =>
    rw [readAddress?]
    constructor
    · intro same
      obtain rfl := Except.ok.inj same
      exact .none
    · rintro ⟨⟩
      rfl
  | some text =>
    rw [readAddress?, Exclusion.readAddress, ← Address.ofString?]
    constructor
    · intro same
      split at same
      · rename_i address parsed
        obtain rfl := Except.ok.inj same
        exact .some parsed
      · cases same
    · rintro (⟨parsed⟩ | _)
      rw [parsed]
      rfl

theorem readPrefix_eq_ok_iff {field : AddressField} {text : String} {block : Prefix} :
    Exclusion.readPrefix field text.toList = .ok block ↔ Prefix.ofString? text = some block := by
  rw [Exclusion.readPrefix, ← Prefix.ofString?]
  split
  · rename_i parsed
    rw [parsed, Except.ok.injEq, Option.some.injEq]
  · rename_i unparsed
    simp [unparsed]

/-- The texts of an entry can be read exactly if they describe something. -/
theorem spec_eq_ok_iff : entry.spec = .ok spec ↔ entry.Means spec := by
  simp only [RangeEntry.spec, bind_eq_ok_iff, readPrefix_eq_ok_iff, readAddress?_eq_ok_iff,
    mapM_eq_ok_iff]
  constructor
  · rintro ⟨subnet, subnet_read, first, first_read, last, last_read, gateway, gateway_read,
      exclusions, exclusions_read, same⟩
    obtain rfl := Except.ok.inj same
    exact ⟨subnet_read, first_read, last_read, gateway_read, exclusions_read⟩
  · intro means
    exact ⟨_, means.subnet, _, means.first, _, means.last, _, means.gateway, _, means.exclusions,
      rfl⟩

/-- An entry describes one thing only. -/
theorem Means.unique {other : RangeSpec} (means : entry.Means spec) (again : entry.Means other) :
    spec = other :=
  Except.ok.inj ((spec_eq_ok_iff.mpr means).symm.trans (spec_eq_ok_iff.mpr again))

theorem range_eq_ok_iff :
    entry.range = .ok range ↔ ∃ spec, entry.Means spec ∧ Range.build spec = .ok range := by
  simp only [← spec_eq_ok_iff]
  unfold RangeEntry.range
  cases entry.spec with
  | error field => simp
  | ok spec =>
    simp only [Except.ok.injEq, exists_eq_left']
    cases Range.build spec with
    | error cause => simp
    | ok built => simp

/-- **A range is made of the sound entries and of no others.** -/
theorem exists_range_iff : (∃ range, entry.range = .ok range) ↔ entry.Sound := by
  simp only [range_eq_ok_iff, Sound, ← Range.exists_build_iff]
  constructor
  · rintro ⟨range, spec, means, built⟩
    exact ⟨spec, means, range, built⟩
  · rintro ⟨spec, means, range, built⟩
    exact ⟨range, spec, means, built⟩

theorem describes_of_range (made : entry.range = .ok range) : entry.Describes range := by
  obtain ⟨spec, means, built⟩ := range_eq_ok_iff.mp made
  exact ⟨spec, means, Range.builtOf_of_build built⟩

namespace Describes

variable (describes : entry.Describes range)

include describes

theorem inBounds_iff : entry.InBounds address ↔ range.inBounds address = true := by
  obtain ⟨spec, means, built⟩ := describes
  rw [Range.inBounds_iff, built.first, built.last]
  constructor
  · rintro ⟨other, again, between⟩
    rwa [means.unique again]
  · intro between
    exact ⟨spec, means, between⟩

theorem allows_iff : entry.Allows address ↔ range.contains address = true := by
  obtain ⟨spec, means, built⟩ := describes
  rw [built.contains_iff]
  constructor
  · rintro ⟨other, again, usable⟩
    rwa [means.unique again]
  · intro usable
    exact ⟨spec, means, usable⟩

theorem hasFamily_iff {family : Family} : entry.HasFamily family ↔ range.family = family := by
  obtain ⟨spec, means, built⟩ := describes
  rw [Range.family, built.subnet, Prefix.family_truncate]
  constructor
  · rintro ⟨other, again, same⟩
    rwa [means.unique again]
  · intro same
    exact ⟨spec, means, same⟩

end Describes

end RangeEntry

/-- A range has an address to hand out unless its set of usable places is empty. -/
theorem Range.exists_contains_iff {range : Range} :
    (∃ address, range.contains address = true) ↔ range.usable.isEmpty = false := by
  rw [← Bool.not_eq_true, IntervalSet.isEmpty_iff]
  simp only [← mem_addresses, addresses, List.mem_map]
  constructor
  · rintro ⟨address, place, member, _⟩ empty
    rw [empty] at member
    cases member
  · intro filled
    obtain ⟨place, member⟩ := List.exists_mem_of_ne_nil _ filled
    exact ⟨_, place, member, rfl⟩

/-! ## Rings -/

theorem firstOverlap?_eq_none_iff {ranges : List Range} :
    firstOverlap? ranges = none ↔
      ranges.Pairwise fun left right => left.overlaps right = false := by
  refine ⟨pairwise_of_firstOverlap?_eq_none, fun apart => ?_⟩
  induction apart with
  | nil => rfl
  | cons first _ ih =>
    have unmet := List.find?_eq_none.mpr fun other member =>
      (Bool.not_eq_true _).mpr (first other member)
    rw [firstOverlap?, unmet, ih]

/-- A list of ranges that can be walked as one ring. -/
structure Range.FormRing (ranges : List Range) : Prop where
  nonempty : ranges ≠ []
  oneFamily : ∃ family, ∀ range ∈ ranges, range.family = family
  disjoint : ranges.Pairwise fun left right => left.overlaps right = false
  someUsable : ∃ range ∈ ranges, range.usable.isEmpty = false

namespace Ring

variable {network : String} {ranges : List Range} {ring : Ring}

theorem formRing (ring : Ring) : Range.FormRing ring.ranges := by
  obtain ⟨range, member, _⟩ := ring.someUsable
  exact {
    nonempty := ring.nonempty
    oneFamily := ⟨range.family, fun other there => ring.oneFamily other there range member⟩
    disjoint := ring.disjoint
    someUsable := ring.someUsable }

theorem exists_ofRanges_iff :
    (∃ ring, ofRanges network ranges = .ok ring) ↔ Range.FormRing ranges := by
  constructor
  · rintro ⟨ring, made⟩
    exact ranges_of_ofRanges made ▸ ring.formRing
  · intro form
    obtain ⟨family, one⟩ := form.oneFamily
    obtain ⟨usable, member, filled⟩ := form.someUsable
    unfold ofRanges
    split
    · exact absurd rfl form.nonempty
    · rename_i first rest
      split
      · rename_i mixed found
        have other := List.find?_some found
        rw [decide_eq_true_eq, one mixed (List.mem_of_find?_eq_some found),
          one first (List.mem_cons_self ..)] at other
        exact absurd rfl other
      · split
        · rename_i overlapping
          rw [firstOverlap?_eq_none_iff.mpr form.disjoint] at overlapping
          cases overlapping
        · split
          · rename_i empty
            rw [List.all_eq_true.mp empty usable member] at filled
            cases filled
          · exact ⟨_, rfl⟩

end Ring

namespace Document

/-- The entries of a ring that holds up on its own. -/
structure SoundRing (entries : List RangeEntry) : Prop where
  nonempty : entries ≠ []
  sound : ∀ entry ∈ entries, entry.Sound
  oneFamily : ∃ family, ∀ entry ∈ entries, entry.HasFamily family
  disjoint : entries.Pairwise fun left right =>
    ¬ ∃ address, left.InBounds address ∧ right.InBounds address
  someAllowed : ∃ entry ∈ entries, ∃ address, entry.Allows address

/-- An address is in the bounds of ranges of two rings. -/
def Share (left right : List RangeEntry) : Prop :=
  ∃ address, (∃ entry ∈ left, entry.InBounds address) ∧ ∃ entry ∈ right, entry.InBounds address

/-- A ring is made of what is written in the entries, in their order. -/
def DescribesRing (entries : List RangeEntry) (ring : Ring) : Prop :=
  List.Forall₂ RangeEntry.Describes entries ring.ranges

variable {entries : List RangeEntry} {ranges : List Range}

/-- Sound entries make a ring exactly if their ranges do. -/
theorem formRing_iff
    (made : List.Forall₂ (fun entry range => RangeEntry.range entry = .ok range) entries ranges) :
    Range.FormRing ranges ↔ SoundRing entries := by
  have describes := made.imp fun _ _ => RangeEntry.describes_of_range
  have sound : ∀ entry ∈ entries, entry.Sound := by
    simp only [← RangeEntry.exists_range_iff]
    exact exists_forall₂_iff.mp ⟨ranges, made⟩
  have nonempty : entries ≠ [] ↔ ranges ≠ [] := by
    rw [← List.length_pos_iff, ← List.length_pos_iff, made.length_eq]
  have oneFamily : ∀ family, (∀ entry ∈ entries, entry.HasFamily family) ↔
      ∀ range ∈ ranges, range.family = family := fun family =>
    forall_mem_iff_of_forall₂ describes fun _ _ here => here.hasFamily_iff
  have disjoint : (entries.Pairwise fun left right =>
      ¬ ∃ address, left.InBounds address ∧ right.InBounds address) ↔
        ranges.Pairwise fun left right => left.overlaps right = false :=
    pairwise_iff_of_forall₂ describes fun _ _ here _ _ there => by
      simp only [here.inBounds_iff, there.inBounds_iff, ← Range.overlaps_iff, Bool.not_eq_true]
  have someAllowed : (∃ entry ∈ entries, ∃ address, entry.Allows address) ↔
      ∃ range ∈ ranges, range.usable.isEmpty = false :=
    exists_mem_iff_of_forall₂ describes fun _ _ here => by
      simp only [here.allows_iff, Range.exists_contains_iff]
  constructor
  · intro form
    exact {
      nonempty := nonempty.mpr form.nonempty
      sound := sound
      oneFamily := form.oneFamily.imp fun family => (oneFamily family).mpr
      disjoint := disjoint.mpr form.disjoint
      someAllowed := someAllowed.mpr form.someUsable }
  · intro whole
    exact {
      nonempty := nonempty.mp whole.nonempty
      oneFamily := whole.oneFamily.imp fun family => (oneFamily family).mp
      disjoint := disjoint.mp whole.disjoint
      someUsable := someAllowed.mp whole.someAllowed }

theorem overlaps_iff {left right : List RangeEntry} {first second : Ring}
    (here : DescribesRing left first) (there : DescribesRing right second) :
    first.overlaps second = true ↔ Share left right := by
  have bounds : ∀ {entries ring}, DescribesRing entries ring → ∀ address,
      (∃ entry ∈ entries, entry.InBounds address) ↔
        ∃ range ∈ ring.ranges, range.inBounds address = true := fun described address =>
    exists_mem_iff_of_forall₂ described fun _ _ one => one.inBounds_iff
  simp only [Ring.overlaps, List.any_eq_true, Range.overlaps_iff, Share, bounds here,
    bounds there]
  constructor
  · rintro ⟨range, member, other, among, address, inside, within⟩
    exact ⟨address, ⟨range, member, inside⟩, ⟨other, among, within⟩⟩
  · rintro ⟨address, ⟨range, member, inside⟩, ⟨other, among, within⟩⟩
    exact ⟨range, member, other, among, address, inside, within⟩

end Document

end AddressPool
