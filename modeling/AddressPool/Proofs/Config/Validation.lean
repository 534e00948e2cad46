import AddressPool.Proofs.Config.Entries

/-!
# Which documents are configurations

A document is sound (`Document.Sound`) when it has a name and a ring, every ring of it is sound,
and no address is in the bounds of ranges of two rings.

A document that is not sound has a first fault (`Document.FirstFault`): what is wrong with one
range comes before what is wrong with its ring, that before what is wrong with a later ring, and
only when every ring is in order are they held against one another, in lexicographic order of
their places.  `validation_is_exact` says that the sound documents are the ones that become
configurations, and that of every other document the first fault is reported.
-/

namespace AddressPool

set_option autoImplicit false

/-! ## Pairs of places -/

section Places

variable {α β : Type} {relation : α → α → Prop} {entries : List α} {left right : Nat}

/-- The entries at two places of a list, the first one in front of the second, are related. -/
def RelatedAt (relation : α → α → Prop) (entries : List α) (left right : Nat) : Prop :=
  left < right ∧ ∃ first second,
    entries[left]? = some first ∧ entries[right]? = some second ∧ relation first second

/-- The lexicographically first two places of a list at which the entries are related. -/
def FirstRelatedAt (relation : α → α → Prop) (entries : List α) (left right : Nat) : Prop :=
  RelatedAt relation entries left right ∧ ∀ left' right', RelatedAt relation entries left' right' →
    left < left' ∨ left = left' ∧ right ≤ right'

theorem FirstRelatedAt.unique {left' right' : Nat}
    (first : FirstRelatedAt relation entries left right)
    (again : FirstRelatedAt relation entries left' right') : left = left' ∧ right = right' := by
  have forth := first.2 _ _ again.1
  have back := again.2 _ _ first.1
  omega

theorem not_pairwise_of_relatedAt (met : RelatedAt relation entries left right) :
    ¬ entries.Pairwise fun first second => ¬ relation first second := by
  obtain ⟨order, first, second, here, there, related⟩ := met
  obtain ⟨left_lt, rfl⟩ := List.getElem?_eq_some_iff.mp here
  obtain ⟨right_lt, rfl⟩ := List.getElem?_eq_some_iff.mp there
  intro apart
  exact List.pairwise_iff_getElem.mp apart left right left_lt right_lt order related

/-- The first entry is related to another where that is in the rest. -/
theorem relatedAt_cons_zero {entry : α} {rest : List α} :
    RelatedAt relation (entry :: rest) 0 right ↔
      ∃ place second, right = place + 1 ∧ rest[place]? = some second ∧ relation entry second := by
  constructor
  · rintro ⟨order, first, second, here, there, met⟩
    obtain ⟨place, rfl⟩ : ∃ place, right = place + 1 := ⟨right - 1, by omega⟩
    rw [List.getElem?_cons_zero, Option.some.injEq] at here
    exact ⟨place, second, rfl, there, here ▸ met⟩
  · rintro ⟨place, second, rfl, there, met⟩
    exact ⟨by omega, entry, second, rfl, there, met⟩

/-- Two entries behind the first one are related where they are in the rest. -/
theorem relatedAt_cons_succ {entry : α} {rest : List α} :
    RelatedAt relation (entry :: rest) (left + 1) (right + 1) ↔
      RelatedAt relation rest left right := by
  simp only [RelatedAt, List.getElem?_cons_succ, Nat.add_lt_add_iff_right]

theorem relatedAt_iff_of_forall₂ {related : α → β → Prop} {results : List β}
    {other : β → β → Prop} (corresponding : List.Forall₂ related entries results)
    (same : ∀ first result, related first result → ∀ second outcome, related second outcome →
      (relation first second ↔ other result outcome)) :
    RelatedAt relation entries left right ↔ RelatedAt other results left right := by
  refine and_congr_right fun _ => ?_
  constructor
  · rintro ⟨first, second, here, there, met⟩
    obtain ⟨result, at_left, one⟩ := getElem?_of_forall₂ corresponding here
    obtain ⟨outcome, at_right, two⟩ := getElem?_of_forall₂ corresponding there
    exact ⟨result, outcome, at_left, at_right, (same _ _ one _ _ two).mp met⟩
  · rintro ⟨result, outcome, here, there, met⟩
    obtain ⟨first, at_left, one⟩ := getElem?_of_forall₂ corresponding.flip here
    obtain ⟨second, at_right, two⟩ := getElem?_of_forall₂ corresponding.flip there
    exact ⟨first, second, at_left, at_right, (same _ _ one _ _ two).mpr met⟩

end Places

/-! ## Documents -/

namespace Document

/-- A document of which a configuration can be made. -/
structure Sound (document : Document) : Prop where
  named : document.name ≠ ""
  someRing : document.ranges ≠ []
  sound : ∀ entries ∈ document.ranges, SoundRing entries
  apart : document.ranges.Pairwise fun left right => ¬ Share left right

/-- A configuration has what is written in a document: its rings are the ones of the document in
their order, each with its place in decimal as its identifier. -/
structure Configures (document : Document) (config : Config) : Prop where
  network : config.network = document.name
  settings : config.settings = document.store.settings
  rings : List.Forall₂ DescribesRing document.ranges config.rings
  numbered : ∀ (index : Nat) (ring : Ring), config.rings[index]? = some ring →
    ring.id = toString index ∧ ring.network = document.name

/-- The first thing that is wrong with a document. -/
inductive FirstFault (document : Document) : ConfigError → Prop
  | unnamed (empty : document.name = "") : FirstFault document .emptyName
  | ringless (named : document.name ≠ "") (empty : document.ranges = []) :
    FirstFault document .noRings
  /-- The first entry that is not sound, in the first ring that is not. -/
  | entry {before after : List (List RangeEntry)} {earlier later : List RangeEntry}
    {entry : RangeEntry} {cause : RingFault} (named : document.name ≠ "")
    (split : document.ranges = before ++ (earlier ++ entry :: later) :: after)
    (passed : ∀ entries ∈ before, SoundRing entries) (read : ∀ other ∈ earlier, other.Sound)
    (unsound : ¬ entry.Sound) (failed : entry.range = .error cause) :
    FirstFault document (.invalidRing before.length cause)
  /-- The first ring that is not sound, with nothing wrong with any of its entries. -/
  | ring {before after : List (List RangeEntry)} {entries : List RangeEntry}
    {ranges : List Range} {cause : RingError} (named : document.name ≠ "")
    (split : document.ranges = before ++ entries :: after)
    (passed : ∀ entries ∈ before, SoundRing entries) (read : ∀ entry ∈ entries, entry.Sound)
    (unsound : ¬ SoundRing entries)
    (made : List.Forall₂ (fun entry range => RangeEntry.range entry = .ok range) entries ranges)
    (failed : Ring.ofRanges document.name ranges = .error cause) :
    FirstFault document (.invalidRing before.length (.ring cause))
  /-- The first two rings that have an address in common, with nothing wrong with any ring. -/
  | overlap {left right : Nat} (named : document.name ≠ "")
    (sound : ∀ entries ∈ document.ranges, SoundRing entries)
    (first : FirstRelatedAt Share document.ranges left right) :
    FirstFault document (.overlappingRings left right)

end Document

namespace Config

open Document (SoundRing DescribesRing Share)

variable {network : String} {start index : Nat} {entries : List RangeEntry}
  {document : List (List RangeEntry)} {rings : List Ring}

/-! ### One ring after the other -/

theorem ring_eq_ok_iff {made : Ring} :
    ring network index entries = .ok made ↔ ∃ ranges whole,
      List.Forall₂ (fun entry range => RangeEntry.range entry = .ok range) entries ranges ∧
        Ring.ofRanges network ranges = .ok whole ∧ made = whole.withId (toString index) := by
  simp only [← mapM_eq_ok_iff]
  unfold ring
  cases entries.mapM RangeEntry.range with
  | error cause => simp
  | ok ranges =>
    simp only [Except.ok.injEq, exists_and_left, exists_eq_left']
    cases Ring.ofRanges network ranges with
    | error cause => simp
    | ok whole => simp [eq_comm]

theorem describesRing_of_ring {made : Ring} (found : ring network index entries = .ok made) :
    DescribesRing entries made := by
  obtain ⟨ranges, whole, read, formed, rfl⟩ := ring_eq_ok_iff.mp found
  have same : whole.ranges = ranges := Ring.ranges_of_ofRanges formed
  show List.Forall₂ RangeEntry.Describes entries whole.ranges
  rw [same]
  exact read.imp fun _ _ => RangeEntry.describes_of_range

/-- **A ring is made of the sound lists of entries and of no others.** -/
theorem exists_ring_iff : (∃ made, ring network index entries = .ok made) ↔ SoundRing entries := by
  constructor
  · rintro ⟨made, found⟩
    obtain ⟨ranges, whole, read, formed, _⟩ := ring_eq_ok_iff.mp found
    exact (Document.formRing_iff read).mp (Ring.exists_ofRanges_iff.mp ⟨whole, formed⟩)
  · intro sound
    have each := sound.sound
    simp only [← RangeEntry.exists_range_iff] at each
    obtain ⟨ranges, read⟩ := exists_forall₂_iff.mpr each
    obtain ⟨whole, formed⟩ :=
      Ring.exists_ofRanges_iff.mpr ((Document.formRing_iff read).mpr sound)
    exact ⟨_, ring_eq_ok_iff.mpr ⟨ranges, whole, read, formed, rfl⟩⟩

/-- A ring fails with the first of its entries that fails, and as a whole only if none does. -/
theorem ring_eq_error_iff {error : ConfigError} :
    ring network index entries = .error error ↔
      (∃ earlier entry later cause, entries = earlier ++ entry :: later ∧
        (∀ other ∈ earlier, other.Sound) ∧ entry.range = .error cause ∧
          error = .invalidRing index cause) ∨
      ∃ ranges cause,
        List.Forall₂ (fun entry range => RangeEntry.range entry = .ok range) entries ranges ∧
          Ring.ofRanges network ranges = .error cause ∧
            error = .invalidRing index (.ring cause) := by
  have faulty : ∀ cause, entries.mapM RangeEntry.range = .error cause ↔
      ∃ earlier entry later, entries = earlier ++ entry :: later ∧
        (∀ other ∈ earlier, other.Sound) ∧ entry.range = .error cause := by
    intro cause
    rw [mapM_eq_error_iff]
    simp only [RangeEntry.exists_range_iff]
  constructor
  · intro failed
    unfold ring at failed
    split at failed
    · rename_i cause unread
      obtain ⟨earlier, entry, later, split, sound, refused⟩ := (faulty cause).mp unread
      exact .inl ⟨earlier, entry, later, cause, split, sound, refused,
        (Except.error.inj failed).symm⟩
    · rename_i ranges read
      split at failed
      · rename_i cause unformed
        exact .inr ⟨ranges, cause, mapM_eq_ok_iff.mp read, unformed,
          (Except.error.inj failed).symm⟩
      · cases failed
  · rintro (⟨earlier, entry, later, cause, split, sound, refused, rfl⟩ |
      ⟨ranges, cause, read, unformed, rfl⟩)
    · have unread := (faulty cause).mpr ⟨earlier, entry, later, split, sound, refused⟩
      simp only [ring, unread]
    · simp only [ring, mapM_eq_ok_iff.mpr read, unformed]

/-- The rings of a document are made one by one, each with its place. -/
theorem ringsFrom_eq_mapM :
    ringsFrom network start document =
      (document.zipIdx start).mapM fun written => ring network written.2 written.1 := by
  induction document generalizing start with
  | nil => rfl
  | cons entries rest ih =>
    rw [ringsFrom, List.zipIdx_cons, List.mapM_cons, ih]
    cases ring network start entries with
    | error error => rfl
    | ok first =>
      cases (rest.zipIdx (start + 1)).mapM fun written => ring network written.2 written.1 <;> rfl

theorem describesRing_of_ringsFrom (found : ringsFrom network start document = .ok rings) :
    List.Forall₂ DescribesRing document rings := by
  rw [ringsFrom_eq_mapM, mapM_eq_ok_iff] at found
  have described := found.imp fun _ _ => describesRing_of_ring
  have unnumbered := List.forall₂_map_left_iff.mpr described
  rwa [List.zipIdx_map_fst] at unnumbered

theorem exists_ringsFrom_iff :
    (∃ rings, ringsFrom network start document = .ok rings) ↔
      ∀ entries ∈ document, SoundRing entries := by
  simp only [ringsFrom_eq_mapM, mapM_eq_ok_iff]
  rw [exists_forall₂_iff]
  simp only [exists_ring_iff]
  constructor
  · intro each entries member
    rw [← List.zipIdx_map_fst start document, List.mem_map] at member
    obtain ⟨written, listed, rfl⟩ := member
    exact each written listed
  · intro each written listed
    exact each written.1 (List.fst_mem_of_mem_zipIdx listed)

/-- The first ring that cannot be made is reported, at its place. -/
theorem ringsFrom_eq_error_iff {error : ConfigError} :
    ringsFrom network start document = .error error ↔
      ∃ before entries after, document = before ++ entries :: after ∧
        (∀ earlier ∈ before, SoundRing earlier) ∧
          ring network (start + before.length) entries = .error error := by
  rw [ringsFrom_eq_mapM, mapM_eq_error_iff]
  simp only [exists_ring_iff]
  constructor
  · rintro ⟨before, written, after, split, passed, failed⟩
    obtain ⟨front, back, rfl, rfl, behind⟩ := List.zipIdx_eq_append_iff.mp split
    obtain ⟨entries, rest, rfl, rfl, rfl⟩ := List.zipIdx_eq_cons_iff.mp behind.symm
    refine ⟨front, entries, rest, rfl, ?_, failed⟩
    intro earlier member
    rw [← List.zipIdx_map_fst start front, List.mem_map] at member
    obtain ⟨written, listed, rfl⟩ := member
    exact passed written listed
  · rintro ⟨before, entries, after, rfl, passed, failed⟩
    refine ⟨before.zipIdx start, (entries, start + before.length),
      after.zipIdx (start + before.length + 1), ?_, ?_, failed⟩
    · rw [List.zipIdx_append, List.zipIdx_cons]
    · intro written listed
      exact passed written.1 (List.fst_mem_of_mem_zipIdx listed)

/-! ### Rings against one another -/

/-- What is reported are the first two rings that overlap. -/
theorem firstRelatedAt_of_overlapFrom? {left right : Nat}
    (met : overlapFrom? start rings = some (left, right)) :
    ∃ left' right', left = start + left' ∧ right = start + right' ∧
      FirstRelatedAt (fun first second => first.overlaps second = true) rings left' right' := by
  induction rings generalizing start with
  | nil => cases met
  | cons ring rest ih =>
    rw [overlapFrom?] at met
    split at met
    · -- The first ring overlaps one of the others.
      rename_i distance found
      cases met
      obtain ⟨within, overlaps, unmet⟩ := List.findIdx?_eq_some_iff_getElem.mp found
      have there := List.getElem?_eq_getElem within
      refine ⟨0, distance + 1, rfl, by omega,
        relatedAt_cons_zero.mpr ⟨distance, _, rfl, there, overlaps⟩, ?_⟩
      intro left right pair
      cases left with
      | succ left => exact .inl left.succ_pos
      | zero =>
        obtain ⟨place, second, rfl, at_place, overlap⟩ := relatedAt_cons_zero.mp pair
        obtain ⟨place_lt, rfl⟩ := List.getElem?_eq_some_iff.mp at_place
        refine .inr ⟨rfl, Nat.succ_le_succ (Nat.le_of_not_lt fun sooner => ?_)⟩
        exact unmet place sooner overlap
    · -- It overlaps none of them, so that every pair is one of the rest.
      rename_i unmet
      obtain ⟨left', right', rfl, rfl, related, first⟩ := ih met
      refine ⟨left' + 1, right' + 1, by omega, by omega, relatedAt_cons_succ.mpr related, ?_⟩
      intro left right pair
      cases left with
      | zero =>
        obtain ⟨place, second, rfl, at_place, overlap⟩ := relatedAt_cons_zero.mp pair
        have apart := List.findIdx?_eq_none_iff.mp unmet second (List.mem_of_getElem? at_place)
        rw [apart] at overlap
        cases overlap
      | succ left =>
        cases right with
        | zero => exact absurd pair.1 (by omega)
        | succ right =>
          have := first left right (relatedAt_cons_succ.mp pair)
          omega

theorem overlapFrom?_eq_some_iff {left right : Nat} :
    overlapFrom? 0 rings = some (left, right) ↔
      FirstRelatedAt (fun first second => first.overlaps second = true) rings left right := by
  have found : ∀ {left right}, overlapFrom? 0 rings = some (left, right) →
      FirstRelatedAt (fun first second => first.overlaps second = true) rings left right := by
    intro left right met
    obtain ⟨left', right', rfl, rfl, first⟩ := firstRelatedAt_of_overlapFrom? met
    simpa using first
  refine ⟨found, fun first => ?_⟩
  cases met : overlapFrom? 0 rings with
  | none =>
    refine absurd (apart_of_overlapFrom? met) ?_
    simpa only [Bool.not_eq_true] using not_pairwise_of_relatedAt first.1
  | some pair =>
    obtain ⟨rfl, rfl⟩ := first.unique (found met)
    rfl

end Config

namespace Document

variable {document : Document} {error : ConfigError}

/-! ### The document as a whole -/

/-- The errors of the rings of a document are reported as they are. -/
theorem ofDocument_of_ringsFrom (named : document.name ≠ "")
    (failed : Config.ringsFrom document.name 0 document.ranges = .error error) :
    Config.ofDocument document = .error error := by
  have someRing : document.ranges ≠ [] := by
    intro empty
    rw [empty] at failed
    cases failed
  rw [Config.ofDocument, dif_neg named, dif_neg someRing]
  split
  · rename_i cause again
    rw [again] at failed
    obtain rfl := Except.error.inj failed
    rfl
  · rename_i rings made
    rw [made] at failed
    cases failed

theorem ofDocument_of_overlapFrom? {rings : List Ring} {left right : Nat}
    (named : document.name ≠ "")
    (made : Config.ringsFrom document.name 0 document.ranges = .ok rings)
    (met : Config.overlapFrom? 0 rings = some (left, right)) :
    Config.ofDocument document = .error (.overlappingRings left right) := by
  have someRing : document.ranges ≠ [] := by
    intro empty
    rw [empty] at made
    cases made
    cases met
  rw [Config.ofDocument, dif_neg named, dif_neg someRing]
  split
  · rename_i cause failed
    rw [made] at failed
    cases failed
  · rename_i others again
    obtain rfl := Except.ok.inj (made.symm.trans again)
    split
    · rename_i found
      obtain ⟨rfl, rfl⟩ := Prod.mk.inj (Option.some.inj (met.symm.trans found))
      rfl
    · rename_i unmet
      rw [met] at unmet
      cases unmet

theorem exists_ofDocument {rings : List Ring} (named : document.name ≠ "")
    (someRing : document.ranges ≠ [])
    (made : Config.ringsFrom document.name 0 document.ranges = .ok rings)
    (unmet : Config.overlapFrom? 0 rings = none) :
    ∃ config, Config.ofDocument document = .ok config ∧ config.network = document.name ∧
      config.settings = document.store.settings ∧ config.rings = rings := by
  rw [Config.ofDocument, dif_neg named, dif_neg someRing]
  split
  · rename_i cause failed
    rw [made] at failed
    cases failed
  · rename_i others again
    obtain rfl := Except.ok.inj (made.symm.trans again)
    split
    · rename_i met
      rw [unmet] at met
      cases met
    · exact ⟨_, rfl, rfl, rfl, rfl⟩

/-- The rings of a document overlap where it says that they share an address. -/
theorem firstRelatedAt_iff {rings : List Ring} {left right : Nat}
    (described : List.Forall₂ DescribesRing document.ranges rings) :
    FirstRelatedAt Share document.ranges left right ↔
      FirstRelatedAt (fun first second => first.overlaps second = true) rings left right := by
  have same : ∀ left right, RelatedAt Share document.ranges left right ↔
      RelatedAt (fun first second => first.overlaps second = true) rings left right :=
    fun _ _ => relatedAt_iff_of_forall₂ described fun _ _ here _ _ there =>
      (overlaps_iff here there).symm
  simp only [FirstRelatedAt, same]

theorem apart_iff {rings : List Ring}
    (described : List.Forall₂ DescribesRing document.ranges rings) :
    (document.ranges.Pairwise fun left right => ¬ Share left right) ↔
      rings.Pairwise fun left right => left.overlaps right = false :=
  pairwise_iff_of_forall₂ described fun _ _ here _ _ there => by
    rw [← overlaps_iff here there, Bool.not_eq_true]

/-- A document with a fault is not sound. -/
theorem FirstFault.not_sound (fault : document.FirstFault error) : ¬ document.Sound := by
  intro sound
  cases fault with
  | unnamed empty => exact sound.named empty
  | ringless _ empty => exact sound.someRing empty
  | entry _ split _ _ unsound _ =>
    have whole := sound.sound _ (split ▸ List.mem_append_right _ (List.mem_cons_self ..))
    exact unsound (whole.sound _ (List.mem_append_right _ (List.mem_cons_self ..)))
  | ring _ split _ _ unsound _ _ =>
    exact unsound (sound.sound _ (split ▸ List.mem_append_right _ (List.mem_cons_self ..)))
  | overlap _ _ first => exact not_pairwise_of_relatedAt first.1 sound.apart

/-- The first fault of a document is the one that is reported. -/
theorem FirstFault.reported (fault : document.FirstFault error) :
    Config.ofDocument document = .error error := by
  cases fault with
  | unnamed empty => rw [Config.ofDocument, dif_pos empty]
  | ringless named empty => rw [Config.ofDocument, dif_neg named, dif_pos empty]
  | entry named split passed read _ failed =>
    refine ofDocument_of_ringsFrom named (Config.ringsFrom_eq_error_iff.mpr ?_)
    refine ⟨_, _, _, split, passed, Config.ring_eq_error_iff.mpr (.inl ?_)⟩
    exact ⟨_, _, _, _, rfl, read, failed, by rw [Nat.zero_add]⟩
  | ring named split passed _ _ made failed =>
    refine ofDocument_of_ringsFrom named (Config.ringsFrom_eq_error_iff.mpr ?_)
    refine ⟨_, _, _, split, passed, Config.ring_eq_error_iff.mpr (.inr ?_)⟩
    exact ⟨_, _, made, failed, by rw [Nat.zero_add]⟩
  | overlap named sound first =>
    obtain ⟨rings, made⟩ := Config.exists_ringsFrom_iff.mpr sound
    have described := Config.describesRing_of_ringsFrom made
    exact ofDocument_of_overlapFrom? named made
      (Config.overlapFrom?_eq_some_iff.mpr ((firstRelatedAt_iff described).mp first))

/-- A ring that cannot be made has a first fault. -/
theorem firstFault_of_ringsFrom (named : document.name ≠ "")
    (failed : Config.ringsFrom document.name 0 document.ranges = .error error) :
    document.FirstFault error := by
  obtain ⟨before, entries, after, split, passed, here⟩ := Config.ringsFrom_eq_error_iff.mp failed
  have unsound : ¬ SoundRing entries := by
    rw [← Config.exists_ring_iff]
    rintro ⟨made, found⟩
    rw [here] at found
    cases found
  rw [Nat.zero_add] at here
  obtain ⟨earlier, entry, later, cause, rfl, read, refused, rfl⟩ |
    ⟨ranges, cause, made, unformed, rfl⟩ := Config.ring_eq_error_iff.mp here
  · refine .entry named split passed read ?_ refused
    rw [← RangeEntry.exists_range_iff]
    rintro ⟨range, found⟩
    rw [refused] at found
    cases found
  · refine .ring named split passed ?_ unsound made unformed
    simp only [← RangeEntry.exists_range_iff]
    exact exists_forall₂_iff.mp ⟨ranges, made⟩

/-- A document has a first fault, which is reported, or it is sound and becomes a configuration. -/
theorem outcome (document : Document) :
    (∃ error, Config.ofDocument document = .error error ∧ document.FirstFault error) ∨
      ∃ config, Config.ofDocument document = .ok config ∧ document.Sound ∧
        document.Configures config := by
  have faulty : ∀ error, document.FirstFault error →
      ∃ error, Config.ofDocument document = .error error ∧ document.FirstFault error :=
    fun error fault => ⟨error, fault.reported, fault⟩
  by_cases empty : document.name = ""
  · exact .inl (faulty _ (.unnamed empty))
  by_cases ringless : document.ranges = []
  · exact .inl (faulty _ (.ringless empty ringless))
  cases made : Config.ringsFrom document.name 0 document.ranges with
  | error error => exact .inl (faulty _ (firstFault_of_ringsFrom empty made))
  | ok rings =>
    have sound := Config.exists_ringsFrom_iff.mp ⟨rings, made⟩
    have described := Config.describesRing_of_ringsFrom made
    cases met : Config.overlapFrom? 0 rings with
    | some pair =>
      have first := Config.overlapFrom?_eq_some_iff.mp met
      exact .inl (faulty _ (.overlap empty sound ((firstRelatedAt_iff described).mpr first)))
    | none =>
      obtain ⟨config, taken, network, settings, rfl⟩ := exists_ofDocument empty ringless made met
      have apart := (apart_iff described).mpr config.apart
      refine .inr ⟨config, taken, ⟨empty, ringless, sound, apart⟩, ?_⟩
      exact ⟨network, settings, described, fun index ring there =>
        network ▸ config.numbered index ring there⟩

end Document

/-- **The sound documents become configurations, and of any other the first fault is reported.**

A configuration is made of a document exactly if it has a name and a ring, all texts of its
ranges can be read and all its ranges be built, every ring has a range, one family, no two
ranges with an address in common and an address to hand out, and no address is in the bounds of
ranges of two rings.  The configuration has the name, the settings and the ranges of the
document in their order, and every ring has its place in decimal as its identifier.  The error
of any other document is its first fault: of the first ring that is not sound, what is wrong
with its first entry that is not sound, or with the ring as a whole if all its entries are; and
if all rings are sound, the lexicographically first pair of them that share an address. -/
theorem validation_is_exact (document : Document) :
    ((∃ config, Config.ofDocument document = .ok config) ↔ document.Sound) ∧
      (∀ config, Config.ofDocument document = .ok config → document.Configures config) ∧
        ∀ error, Config.ofDocument document = .error error ↔ document.FirstFault error := by
  obtain ⟨error, failed, fault⟩ | ⟨config, taken, sound, configures⟩ := document.outcome
  · simp only [failed, reduceCtorEq, exists_false, false_iff, false_implies, implies_true,
      true_and, Except.error.injEq]
    refine ⟨fault.not_sound, fun other => ⟨fun same => same ▸ fault, fun again => ?_⟩⟩
    exact Except.error.inj (failed.symm.trans again.reported)
  · simp only [taken, Except.ok.injEq, exists_eq', true_iff, reduceCtorEq, false_iff]
    refine ⟨sound, fun other same => same ▸ configures, fun error fault => ?_⟩
    exact fault.not_sound sound

/-- The second of three rings has an entry that overlaps the first ring, one without hosts and one
that cannot be read, and the third ring is empty; the entry without hosts is reported. -/
theorem validation_is_exact_two_rings :
    let entry : String → RangeEntry := fun subnet => ⟨subnet, none, none, none, []⟩
    let sound : Document :=
      ⟨"net", [[entry "10.0.0.0/29"], [entry "10.0.1.0/29", entry "10.0.2.0/29"]], .memory⟩
    let faulty : Document :=
      ⟨"net", [[entry "10.0.0.0/29"],
        [entry "10.0.0.0/28", entry "10.0.1.0/31", entry "10.0.2.0"], []], .memory⟩
    (∃ config, Config.ofDocument sound = .ok config ∧ sound.Sound ∧ sound.Configures config) ∧
      ∃ error, Config.ofDocument faulty = .error error ∧ faulty.FirstFault error ∧
        error.chain = ["invalid range set 1", "invalid range in subnet 10.0.1.0/31",
          "subnet 10.0.1.0/31 is too small to allocate from"] := by
  intro entry sound faulty
  have taken : (Config.ofDocument sound).toOption.isSome = true := by decide +kernel
  have reported : (match Config.ofDocument faulty with
      | .ok _ => []
      | .error error => error.chain) =
        ["invalid range set 1", "invalid range in subnet 10.0.1.0/31",
          "subnet 10.0.1.0/31 is too small to allocate from"] := by
    decide +kernel
  constructor
  · cases made : Config.ofDocument sound with
    | error error =>
      rw [made] at taken
      cases taken
    | ok config =>
      exact ⟨config, rfl, (validation_is_exact sound).1.mp ⟨config, made⟩,
        (validation_is_exact sound).2.1 config made⟩
  · cases failed : Config.ofDocument faulty with
    | ok config =>
      rw [failed] at reported
      cases reported
    | error error =>
      rw [failed] at reported
      exact ⟨error, rfl, ((validation_is_exact faulty).2.2 error).mp failed, reported⟩

end AddressPool
