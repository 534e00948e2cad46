import AddressPool.Proofs.Admin.Collection

/-!
# Who is listed is spared

A collection never releases what an owner holds who stands alone in a line of the live file,
whatever the other lines, the arguments and the records are (`live_file_protects`).  The directory
of the store may be any one: records that have been written by hand are there, names that are
written in other ways than the store writes them, and files that mean nothing to it.

A record is listed by the name of its file, one name after the other (`Disk.reservations_ok_iff`).
A sweep only removes the files of addresses that it has found with an owner who is not live.  So of
an address whose owners are all live it leaves the records as they are, name by name
(`Disk.SameRecords.sweep`), and so it does with every address if the directory cannot be listed.

Two things are needed for that.  The store keeps the names of owners as they are, while blanks
around a line of the live file are taken away: an owner who starts or ends with a blank cannot be
listed, and a line that is exactly the owner protects somebody else.  And a sweep goes by addresses:
with a second record of the address, of an owner who is not live, the one of the live owner goes
(`blanks_and_aliases_are_not_protected`).
-/

namespace AddressPool

set_option autoImplicit false

variable {disk : Disk} {tree : FileTree} {location : Location}

/-! ## What a directory lists, name by name -/

namespace Disk

/-- The reservation that a name in the directory stands for. -/
def recordNamed? (disk : Disk) (tree : FileTree) (name : String) : Option Reservation :=
  match Address.ofString? name, disk.textOf tree name with
  | some address, .ok (some text) => some ⟨address, (readRecord text).1, (readRecord text).2⟩
  | _, _ => none

/-- A name is in the way of a listing if it is read as an address and its file cannot be read. -/
def Legible (disk : Disk) (tree : FileTree) (name : String) : Prop :=
  ∀ address, Address.ofString? name = some address → ∃ text, disk.textOf tree name = .ok text

theorem recordNamed?_of_text {name : String} {address : Address} {text : Option String}
    (read : Address.ofString? name = some address) (told : disk.textOf tree name = .ok text) :
    disk.recordNamed? tree name =
      text.map fun text => ⟨address, (readRecord text).1, (readRecord text).2⟩ := by
  rw [recordNamed?, read, told]
  cases text <;> rfl

theorem address_of_recordNamed? {name : String} {reservation : Reservation}
    (found : disk.recordNamed? tree name = some reservation) :
    Address.ofString? name = some reservation.address := by
  unfold recordNamed? at found
  split at found
  · rename_i read _
    obtain rfl := Option.some.inj found
    exact read
  · cases found

/-- The first of some names is read, and then the others are. -/
theorem reservationsNamed_cons_ok_iff {name : String} {rest : List String} {address : Address}
    (read : Address.ofString? name = some address) {found : List Reservation} :
    ((disk.reservationsNamed (name :: rest)).run FileTree.answer tree).1 = .ok found ↔
      ∃ text others, disk.textOf tree name = .ok text ∧
        ((disk.reservationsNamed rest).run FileTree.answer tree).1 = .ok others ∧
          found = (disk.recordNamed? tree name).toList ++ others := by
  have seen : textAt (tree.locate (disk.path name)) = disk.textOf tree name := rfl
  rw [reservationsNamed, read]
  show ((disk.record? name >>= _ : FileProgram _).run FileTree.answer tree).1 = _ ↔ _
  rw [Program.run_bind, record?_run (readTextIfAny_run _ tree), seen]
  cases told : disk.textOf tree name with
  | error cause =>
    constructor
    · intro answered
      cases answered
    · rintro ⟨_, _, other, _⟩
      cases other
  | ok text =>
    rw [recordNamed?_of_text read told]
    show ((disk.reservationsNamed rest >>= _ : FileProgram _).run FileTree.answer tree).1 = _ ↔ _
    rw [Program.run_bind]
    generalize (disk.reservationsNamed rest).run FileTree.answer tree = reply
    obtain ⟨others, left⟩ := reply
    cases others with
    | error cause =>
      constructor
      · intro answered
        cases answered
      · rintro ⟨_, _, _, other, _⟩
        cases other
    | ok others =>
      constructor
      · intro answered
        refine ⟨text, others, rfl, rfl, ?_⟩
        cases text <;> exact (Except.ok.inj answered).symm
      · rintro ⟨_, _, _, same, rfl⟩
        obtain rfl := Except.ok.inj same
        cases text <;> rfl

/-- Names are read one after the other, if each of them can be. -/
theorem reservationsNamed_ok_iff {names : List String} {found : List Reservation} :
    ((disk.reservationsNamed names).run FileTree.answer tree).1 = .ok found ↔
      (∀ name ∈ names, disk.Legible tree name) ∧
        found = names.filterMap (disk.recordNamed? tree) := by
  induction names generalizing found with
  | nil =>
    show (Except.ok [] : Except StoreError (List Reservation)) = .ok found ↔ _
    simp [eq_comm]
  | cons name rest ih =>
    rw [List.forall_mem_cons]
    cases read : Address.ofString? name with
    | none =>
      have legible : disk.Legible tree name := by
        intro address other
        rw [read] at other
        cases other
      have nothing : disk.recordNamed? tree name = none := by
        rw [recordNamed?, read]
      rw [reservationsNamed, read, List.filterMap_cons_none nothing, and_iff_right legible]
      exact ih
    | some address =>
      have split : (name :: rest).filterMap (disk.recordNamed? tree) =
          (disk.recordNamed? tree name).toList ++ rest.filterMap (disk.recordNamed? tree) := by
        rw [List.filterMap_cons]
        cases disk.recordNamed? tree name <;> rfl
      rw [reservationsNamed_cons_ok_iff read, split]
      constructor
      · rintro ⟨text, others, told, later, rfl⟩
        obtain ⟨all, rfl⟩ := ih.mp later
        exact ⟨⟨fun _ _ => ⟨text, told⟩, all⟩, rfl⟩
      · rintro ⟨⟨legible, all⟩, rfl⟩
        obtain ⟨text, told⟩ := legible address read
        exact ⟨text, _, told, ih.mpr ⟨all, rfl⟩, rfl⟩

/-- **A directory is listed name by name**, if every name that is read as an address can be. -/
theorem reservations_ok_iff (leads : tree.LeadsTo disk.directory location)
    {listed : List Reservation} :
    (disk.reservations.run FileTree.answer tree).1 = .ok listed ↔
      (∀ name ∈ tree.namesIn location, disk.Legible tree name) ∧
        listed = Reservation.sort ((tree.namesIn location).filterMap (disk.recordNamed? tree)) := by
  have named : ∀ found, ((disk.reservationsNamed (tree.namesIn location)).run FileTree.answer
      tree).1 = .ok found ↔ (∀ name ∈ tree.namesIn location, disk.Legible tree name) ∧
        found = (tree.namesIn location).filterMap (disk.recordNamed? tree) :=
    fun _ => reservationsNamed_ok_iff
  rw [reservations, Program.run_bind, FileTree.run_ask, FileTree.answer_names leads]
  show ((disk.reservationsNamed _ >>= _ : FileProgram _).run FileTree.answer tree).1 = _ ↔ _
  rw [Program.run_bind]
  generalize (disk.reservationsNamed (tree.namesIn location)).run FileTree.answer tree = reply
    at named
  obtain ⟨found, left⟩ := reply
  cases found with
  | error cause =>
    constructor
    · intro answered
      cases answered
    · rintro ⟨legible, _⟩
      cases (named _).mpr ⟨legible, rfl⟩
  | ok found =>
    obtain ⟨legible, rfl⟩ := (named found).mp rfl
    rw [and_iff_right legible]
    exact ⟨fun same => (Except.ok.inj same).symm, fun same => congrArg Except.ok same.symm⟩

/-! ## The records of one address -/

/-- The record that a name in the directory stands for, with this name, if it is one of an
address. -/
def recordFor? (disk : Disk) (tree : FileTree) (address : Address) (name : String) :
    Option (String × Reservation) :=
  ((disk.recordNamed? tree name).filter fun reservation =>
    decide (reservation.address = address)).map fun reservation => (name, reservation)

/-- All records of an address in a directory, each with its name. -/
def recordsOf (disk : Disk) (tree : FileTree) (location : Location) (address : Address) :
    List (String × Reservation) :=
  (tree.namesIn location).filterMap (disk.recordFor? tree address)

variable {address : Address}

theorem recordFor?_eq_some_iff {name : String} {record : String × Reservation} :
    disk.recordFor? tree address name = some record ↔
      disk.recordNamed? tree name = some record.2 ∧ record.2.address = address ∧
        record.1 = name := by
  obtain ⟨other, reservation⟩ := record
  rw [recordFor?, Option.map_eq_some_iff]
  simp only [Option.filter_eq_some_iff, decide_eq_true_eq, Prod.mk.injEq]
  constructor
  · rintro ⟨_, ⟨found, meant⟩, rfl, rfl⟩
    exact ⟨found, meant, rfl⟩
  · rintro ⟨found, meant, rfl⟩
    exact ⟨reservation, ⟨found, meant⟩, rfl, rfl⟩

theorem mem_recordsOf_iff {name : String} {reservation : Reservation} :
    (name, reservation) ∈ disk.recordsOf tree location reservation.address ↔
      name ∈ tree.namesIn location ∧ disk.recordNamed? tree name = some reservation := by
  rw [recordsOf, List.mem_filterMap]
  simp only [recordFor?_eq_some_iff, true_and]
  constructor
  · rintro ⟨_, member, found, rfl⟩
    exact ⟨member, found⟩
  · rintro ⟨member, found⟩
    exact ⟨name, member, found, rfl⟩

/-- Of an address its records are listed, and nothing else. -/
theorem filter_listed_perm (leads : tree.LeadsTo disk.directory location)
    {listed : List Reservation}
    (told : (disk.reservations.run FileTree.answer tree).1 = .ok listed) (address : Address) :
    (listed.filter fun other => decide (other.address = address)).Perm
      ((disk.recordsOf tree location address).map Prod.snd) := by
  obtain ⟨_, rfl⟩ := (reservations_ok_iff leads).mp told
  refine ((Memory.perm_sort _).filter _).trans (.of_eq ?_)
  rw [recordsOf, List.map_filterMap, List.filter_filterMap]
  refine List.filterMap_congr fun name _ => ?_
  rw [recordFor?, Option.map_map]
  exact Option.map_id'.symm

/-- What is recorded under a name is listed. -/
theorem mem_of_recorded (leads : tree.LeadsTo disk.directory location) {listed : List Reservation}
    (told : (disk.reservations.run FileTree.answer tree).1 = .ok listed) {name : String}
    {reservation : Reservation}
    (recorded : (name, reservation) ∈ disk.recordsOf tree location reservation.address) :
    reservation ∈ listed := by
  have own := (filter_listed_perm leads told reservation.address).mem_iff.mpr
    (List.mem_map_of_mem recorded)
  exact (List.mem_filter.mp own).1

/-- Names that stand for other addresses can be left out. -/
theorem recordsOf_eq_filter {spare : String → Bool}
    (elsewhere : ∀ name other, spare name = true → Address.ofString? name = some other →
      other ≠ address) :
    disk.recordsOf tree location address =
      ((tree.namesIn location).filter fun name => !spare name).filterMap
        (disk.recordFor? tree address) := by
  rw [recordsOf, List.filterMap_filter]
  refine List.filterMap_congr fun name _ => ?_
  cases spared : spare name with
  | true =>
    rw [Bool.not_true, if_neg Bool.false_ne_true, Option.eq_none_iff_forall_ne_some]
    intro record found
    obtain ⟨found, meant, _⟩ := recordFor?_eq_some_iff.mp found
    exact elsewhere name _ spared (address_of_recordNamed? found) meant
  | false => rfl

/-! ## What leaves the records of an address alone -/

/-- What is read under a name that is no spare one is the same in two trees that are alike. -/
theorem textOf_of_alike {spare : String → Bool} {before after : FileTree}
    (leads : before.LeadsTo disk.directory location)
    (alike : FileTree.Alike spare location before after) {name : String} {other : Address}
    (spared : spare name = false) (read : Address.ofString? name = some other) :
    disk.textOf after name = disk.textOf before name := by
  rw [textOf, path, alike.locate_eq leads (plain_of_ofString? read) spared]
  rfl

/-- After some change a directory holds the same records of an address, and it can be listed if it
could be before. -/
structure SameRecords (disk : Disk) (location : Location) (address : Address)
    (before after : FileTree) : Prop where
  leads : after.LeadsTo disk.directory location
  legible : (∀ name ∈ before.namesIn location, disk.Legible before name) →
    ∀ name ∈ after.namesIn location, disk.Legible after name
  records : disk.recordsOf after location address = disk.recordsOf before location address

namespace SameRecords

variable {before middle after : FileTree}

theorem refl (leads : tree.LeadsTo disk.directory location) :
    disk.SameRecords location address tree tree :=
  ⟨leads, id, rfl⟩

theorem trans (first : disk.SameRecords location address before middle)
    (second : disk.SameRecords location address middle after) :
    disk.SameRecords location address before after where
  leads := second.leads
  legible := fun legible => second.legible (first.legible legible)
  records := second.records.trans first.records

/-- **Names that do not stand for the address make no difference to its records**, and none to a
listing once they are gone. -/
theorem of_alike {spare : String → Bool} (leads : before.LeadsTo disk.directory location)
    (alike : FileTree.Alike spare location before after)
    (apart : ∀ name other, spare name = true → Address.ofString? name = some other →
      other ≠ address ∧ name ∉ after.namesIn location) :
    disk.SameRecords location address before after where
  leads := alike.leadsTo leads
  legible := by
    intro legible name member other read
    cases spared : spare name with
    | true => exact absurd member (apart name other spared read).2
    | false =>
      have kept : name ∈ (after.namesIn location).filter fun name => !spare name := by
        rw [List.mem_filter, spared]
        exact ⟨member, rfl⟩
      rw [alike.names, List.mem_filter] at kept
      rw [textOf_of_alike leads alike spared read]
      exact legible name kept.1 other read
  records := by
    have elsewhere : ∀ name other, spare name = true → Address.ofString? name = some other →
        other ≠ address := fun name other spared read => (apart name other spared read).1
    rw [recordsOf_eq_filter elsewhere, recordsOf_eq_filter elsewhere, alike.names]
    refine List.filterMap_congr fun name member => ?_
    have spared : spare name = false := by simpa using (List.mem_filter.mp member).2
    cases read : Address.ofString? name with
    | none => rw [recordFor?, recordFor?, recordNamed?, recordNamed?, read]
    | some other =>
      rw [recordFor?, recordFor?, recordNamed?, recordNamed?,
        textOf_of_alike leads alike spared read]

/-- The lock is no record. -/
theorem lock (leads : tree.LeadsTo disk.directory location) :
    disk.SameRecords location address tree (disk.lock.run FileTree.answer tree).2 := by
  refine .of_alike leads (lock_alike leads) fun name other spared read => ?_
  rw [ofString?_of_isSpare spared] at read
  cases read

/-- The records of an address stay when the file of another one is taken away. -/
theorem discard (leads : before.LeadsTo disk.directory location) {other : Address}
    (different : other ≠ address) (done : before.discard (disk.path other.text) = .ok after) :
    disk.SameRecords location address before after := by
  by_cases fits : FitsIn disk.directory other.text
  · rw [path, FileTree.discard_named leads (plain_text other) fits] at done
    cases there : before.entryAt (other.text :: location) with
    | none =>
      rw [there] at done
      cases done
    | some entry =>
      rw [there] at done
      cases entry with
      | directory => cases done
      | file content held =>
        obtain rfl := Except.ok.inj done
        have alike : FileTree.Alike (fun name => decide (name = other.text)) location before
            (before.erase (other.text :: location)) :=
          .erase (FileTree.beneath_name_iff.mpr (decide_eq_true rfl))
            (FileTree.noDirectory_of_file there)
        refine .of_alike leads alike fun name meant gone read => ?_
        obtain rfl := of_decide_eq_true gone
        rw [Address.ofString?_text, Option.some.injEq] at read
        rw [FileTree.namesIn_erase, List.mem_filter]
        exact ⟨read ▸ different, by simp⟩
  · have unfit := FileTree.target_unfit leads (plain_text other) fits
    rw [FileTree.discard, path, unfit] at done
    cases done

/-- The records of an address stay when another one is released. -/
theorem remove (leads : tree.LeadsTo disk.directory location) {other : Address}
    (different : other ≠ address) :
    disk.SameRecords location address tree
      ((disk.remove other.text).run FileTree.answer tree).2 := by
  have left : ((disk.remove other.text).run FileTree.answer tree).2 =
      (FileTree.answer (.remove (disk.path other.text)) tree).2 := by
    rw [Disk.remove, Program.run_bind, FileTree.run_ask]
    generalize FileTree.answer (.remove (disk.path other.text)) tree = reply
    obtain ⟨result, after⟩ := reply
    cases result with
    | ok => rfl
    | error cause => cases cause <;> rfl
  rw [left, FileTree.answer]
  cases done : tree.discard (disk.path other.text) with
  | error cause => exact .refl leads
  | ok after => exact discard leads different done

/-- **A sweep leaves the records of an address alone** if it has found no owner of it who is
dead. -/
theorem sweepThrough (leads : tree.LeadsTo disk.directory location) {live : List String}
    {found : List Reservation}
    (spared : ∀ other ∈ found, other.address = address → other.owner ∈ live) :
    disk.SameRecords location address tree
      ((AddressPool.sweepThrough live found).run disk.serve tree).2 := by
  induction found generalizing tree with
  | nil => exact .refl leads
  | cons first rest ih =>
    obtain ⟨here, later⟩ := List.forall_mem_cons.mp spared
    rw [AddressPool.sweepThrough]
    by_cases alive : first.owner ∈ live
    · rw [if_pos (List.contains_iff_mem.mpr alive), Program.run_bind]
      have swept := ih leads later
      generalize (AddressPool.sweepThrough live rest).run disk.serve tree = reply at swept
      obtain ⟨result, after⟩ := reply
      cases result <;> exact swept
    · have asked : (StoreRequest.release first.address).ask.run disk.serve tree =
          (disk.remove first.address.text).run FileTree.answer tree := rfl
      have removed : disk.SameRecords location address tree
          ((disk.remove first.address.text).run FileTree.answer tree).2 :=
        remove leads fun same => alive (here same)
      rw [if_neg fun member => alive (List.contains_iff_mem.mp member), Program.run_bind, asked]
      generalize (disk.remove first.address.text).run FileTree.answer tree = reply at removed
      obtain ⟨result, middle⟩ := reply
      cases result with
      | error => exact removed
      | ok released =>
        have swept := removed.trans (ih removed.leads later)
        show disk.SameRecords location address tree (Program.run disk.serve
          (AddressPool.sweepThrough live rest >>= _ : StoreProgram _) middle).2
        rw [Program.run_bind]
        generalize (AddressPool.sweepThrough live rest).run disk.serve middle = answered at swept
        obtain ⟨result, after⟩ := answered
        cases result <;> exact swept

/-- A sweep leaves the records of an address alone if all of them that it lists are of live owners.
Without a listing it leaves everything alone. -/
theorem sweep (leads : tree.LeadsTo disk.directory location) {live : List String}
    (spared : ∀ listed, (disk.reservations.run FileTree.answer tree).1 = .ok listed →
      ∀ other ∈ listed, other.address = address → other.owner ∈ live) :
    disk.SameRecords location address tree
      ((AddressPool.sweep live).run disk.serve tree).2 := by
  have asked : StoreRequest.lock.ask.run disk.serve tree = disk.lock.run FileTree.answer tree := rfl
  have locked : disk.SameRecords location address tree (disk.lock.run FileTree.answer tree).2 :=
    lock leads
  obtain ⟨answered, before, after⟩ := reservations_same (lock_alike leads) leads
  rw [before] at spared
  rw [AddressPool.sweep, Program.run_bind, asked]
  generalize disk.lock.run FileTree.answer tree = reply at locked after
  obtain ⟨result, middle⟩ := reply
  cases result with
  | error => exact locked
  | ok =>
    have told : StoreRequest.reservations.ask.run disk.serve middle = (answered, middle) := after
    show disk.SameRecords location address tree (Program.run disk.serve
      (StoreRequest.reservations.ask >>= _ : StoreProgram _) middle).2
    rw [Program.run_bind, told]
    cases answered with
    | error => exact locked
    | ok listed => exact locked.trans (sweepThrough locked.leads (spared listed rfl))

/-- Where the records of an address are the same, a listing tells as many of each of them. -/
theorem listed (same : disk.SameRecords location address before after)
    (leads : before.LeadsTo disk.directory location) {listed : List Reservation}
    (told : (disk.reservations.run FileTree.answer before).1 = .ok listed) :
    ∃ left, (disk.reservations.run FileTree.answer after).1 = .ok left ∧
      (left.filter fun other => decide (other.address = address)).Perm
        (listed.filter fun other => decide (other.address = address)) := by
  obtain ⟨legible, _⟩ := (reservations_ok_iff leads).mp told
  have answered := (reservations_ok_iff same.leads).mpr ⟨same.legible legible, rfl⟩
  have there := filter_listed_perm same.leads answered address
  rw [same.records] at there
  exact ⟨_, answered, there.trans (filter_listed_perm leads told address).symm⟩

end SameRecords

end Disk

/-! ## The main result -/

open Admin

/-- Behind a collection the files are as a sweep of the store has left them. -/
theorem Admin.gc_files {arguments live : List String} {path text : String}
    {liveFile log : Option String} {allowEmpty : Bool} {tree ready : FileTree} {config : Config}
    {site : Site} (asked : wish arguments = .run ⟨.gc path live liveFile allowEmpty, log⟩)
    (logged : LogOpened log tree ready) (told : LiveText ready liveFile text)
    (meant : allowEmpty = true ∨ ∃ owner, IsLive live text owner)
    (opens : Opens path ready config site) :
    ∃ owners, (∀ owner, owner ∈ owners ↔ IsLive live text owner) ∧
      ∃ disk, site.backend = .disk disk ∧
        ((run arguments).run FileTree.answer tree).2 =
          ((sweep owners).run disk.serve site.tree).2 := by
  obtain ⟨owners, members, collected⟩ := gc_run told meant opens
  obtain ⟨lockTimeout, backend⟩ := opens.backend
  refine ⟨owners, members, _, backend, ?_⟩
  rw [run_command asked logged, collected]
  obtain ⟨dataDirectory, network, kind, now⟩ := site
  obtain rfl : kind = .disk ⟨Path.join dataDirectory network, lockTimeout⟩ := backend
  rw [Site.run_mk_disk, sweepStore, Program.run_bind, Site.directory]
  generalize (sweep owners).run _ now = reply
  obtain ⟨result, after⟩ := reply
  cases result <;> rfl

/-- What a store on disk lists. -/
theorem Site.listing_mk_disk (dataDirectory network : String) (disk : Disk) (tree : FileTree) :
    Site.listing ⟨dataDirectory, network, .disk disk, tree⟩ =
      (disk.reservations.run FileTree.answer tree).1 :=
  Site.run_ask_disk dataDirectory network disk tree .reservations

/-- Under a name in the directory of a site's store there is the record of a reservation. -/
def Site.Records (site : Site) (name : String) (reservation : Reservation) : Prop :=
  ∃ disk location, site.backend = .disk disk ∧ site.tree.LeadsTo disk.directory location ∧
    name ∈ site.tree.namesIn location ∧ disk.recordNamed? site.tree name = some reservation

/-- **A live file protects every owner it lists** who neither starts nor ends with a blank.

The owner stands alone in a line of the live file, and does not start with a number sign.  Under
some name in the directory of the store there is a record of a reservation of the owner; if the store
can be listed at all, all the owners that it lists for the address are live.  Then there is the same
record under the name behind a collection, and the store lists it and the other ones of the address
as before, whatever the other lines of the file, the arguments, the records and the other files in
the directory are, and whether the collection succeeds or fails on its way. -/
theorem live_file_protects {arguments live : List String} {path file text owner name : String}
    {log : Option String} {allowEmpty : Bool} {tree ready : FileTree} {config : Config}
    {site : Site} {reservation : Reservation}
    (asked : wish arguments = .run ⟨.gc path live (some file) allowEmpty, log⟩)
    (logged : LogOpened log tree ready) (told : LiveText ready (some file) text)
    (line : Text.IsLine text.toList owner.toList) (named : owner ≠ "")
    (unmarked : owner.toList.head? ≠ some '#') (solid : Text.Solid owner.toList)
    (opens : Opens path ready config site) (recorded : site.Records name reservation)
    (owned : reservation.owner = owner)
    (spared : ∀ listed, site.listing = .ok listed → ∀ other ∈ listed,
      other.address = reservation.address →
        other.owner = reservation.owner ∨ IsLive live text other.owner) :
    let later : Site := { site with tree := ((run arguments).run FileTree.answer tree).2 }
    later.Records name reservation ∧
      ∀ listed, site.listing = .ok listed → ∃ left, later.listing = .ok left ∧ reservation ∈ left ∧
        (left.filter fun other => decide (other.address = reservation.address)).Perm
          (listed.filter fun other => decide (other.address = reservation.address)) := by
  have alive : IsLive live text reservation.owner := by
    rw [owned]
    exact .inr (.of_line named unmarked solid line)
  obtain ⟨owners, members, disk, backend, files⟩ :=
    gc_files asked logged told (.inr ⟨_, alive⟩) opens
  obtain ⟨dataDirectory, network, kind, now⟩ := site
  obtain rfl : kind = .disk disk := backend
  obtain ⟨_, location, stands, leads, member, found⟩ := recorded
  obtain rfl := Backend.disk.inj stands
  have same : disk.SameRecords location reservation.address now
      ((run arguments).run FileTree.answer tree).2 := by
    rw [files]
    refine .sweep leads fun listed answered other member meant => (members other.owner).mpr ?_
    rw [← Site.listing_mk_disk dataDirectory network] at answered
    rcases spared listed answered other member meant with own | live
    · rw [own]
      exact alive
    · exact live
  have still := Disk.mem_recordsOf_iff.mpr ⟨member, found⟩
  rw [← same.records] at still
  refine ⟨⟨_, location, rfl, same.leads, Disk.mem_recordsOf_iff.mp still⟩, ?_⟩
  intro listed answered
  rw [Site.listing_mk_disk] at answered ⊢
  obtain ⟨left, again, alike⟩ := same.listed leads answered
  exact ⟨left, again, Disk.mem_of_recorded same.leads again still, alike⟩

/-- A store for the network `net` in whose directory three records have been written by hand, two of
them for one address. -/
def Site.netShared : Site :=
  { Site.vacantNet with
    tree := ⟨[(["10.0.0.2", "net", "d"], .ofText "c\neth0"),
        (["0:0:0:0:0:0:0:2", "net", "d"], .ofText "a\neth0"),
        (["::2", "net", "d"], .ofText "x\neth0")] ++
      (Site.netWithLive "a\nx\n").tree.entries⟩ }

/-- The owner who stands alone in the last line of the live file keeps the address, which has a
second record, of somebody who is live too.  Next to them is one who is not named. -/
theorem live_file_protects_net :
    Text.IsLine "a\nx\n".toList "x".toList ∧
      Site.netShared.listing = .ok [⟨.v4 0x0a000002, "c", "eth0"⟩, ⟨.v6 2, "a", "eth0"⟩,
        ⟨.v6 2, "x", "eth0"⟩] ∧
      let later : Site := { Site.netShared with
        tree := (collectNet.run FileTree.answer Site.netShared.tree).2 }
      later.Records "::2" ⟨.v6 2, "x", "eth0"⟩ ∧
        ∃ left, later.listing = .ok left ∧ ⟨.v6 2, "x", "eth0"⟩ ∈ left ∧
          (left.filter fun other => decide (other.address = .v6 2)).Perm
            [⟨.v6 2, "a", "eth0"⟩, ⟨.v6 2, "x", "eth0"⟩] := by
  have line : Text.IsLine "a\nx\n".toList "x".toList :=
    ⟨by decide, "a\n".toList, ['\n'], by decide, .inr ⟨['a'], by decide⟩, .feed [] (by decide)⟩
  have solid : Text.Solid "x".toList := by
    constructor <;> rintro _ ⟨⟩ <;> decide
  have told : Site.netShared.listing = .ok [⟨.v4 0x0a000002, "c", "eth0"⟩,
      ⟨.v6 2, "a", "eth0"⟩, ⟨.v6 2, "x", "eth0"⟩] := by
    decide +kernel
  have live : LiveText Site.netShared.tree (some "/live") "a\nx\n" :=
    ⟨["live"], false, by decide +kernel⟩
  have leads : Site.netShared.tree.locate (Path.join "/d" "net") =
      .ok (["net", "d"], .directory) := by
    decide +kernel
  have recorded : Site.netShared.Records "::2" ⟨.v6 2, "x", "eth0"⟩ :=
    ⟨_, ["net", "d"], rfl, leads, by decide, by decide +kernel⟩
  have spared : ∀ listed, Site.netShared.listing = .ok listed → ∀ other ∈ listed,
      other.address = .v6 2 → other.owner = "x" ∨ IsLive [] "a\nx\n" other.owner := by
    intro listed again
    obtain rfl := Except.ok.inj (told.symm.trans again)
    decide +kernel
  obtain ⟨config, opens⟩ : ∃ config, Opens "/c" Site.netShared.tree config Site.netShared :=
    Site.exists_opens_net (by decide +kernel) leads
  obtain ⟨still, left⟩ := live_file_protects Site.asked_collectNet rfl live line (by decide)
    (by decide) solid opens recorded rfl spared
  refine ⟨line, told, ?_⟩
  rw [collectNet]
  exact ⟨still, left _ told⟩

/-- A store for the network `net` in which a record stands under a name that no program on the store
writes, next to one of another owner for the same address. -/
def Site.netWithAlias (text : String) : Site :=
  ({ Site.netWithLive text with
    tree := ⟨(["0:0:0:0:0:0:0:2", "net", "d"], .ofText "a\neth0") ::
      (Site.netWithLive text).tree.entries⟩ }.run (StoreRequest.reserve (.v6 2) "x" "eth0").ask).2

/-- **An owner who starts with a blank is not protected**, though there is a line that is exactly
the owner.  Nor is one whose address has a second record, under another name, of somebody who is not
live. -/
theorem blanks_and_aliases_are_not_protected :
    (Text.IsLine " x\n".toList " x".toList ∧
      let site := ((Site.netWithLive " x\n").run (Ring.slash29.get " x" "eth0" none)).2
      let outcome := collectNet.run FileTree.answer site.tree
      site.listing = .ok [⟨.v4 0x0a000002, " x", "eth0"⟩] ∧
        outcome.1.lines = ["released 10.0.0.2\t x\teth0", "1 released, 0 kept"] ∧
          Site.listing { site with tree := outcome.2 } = .ok []) ∧
    (Text.IsLine "x\n".toList "x".toList ∧
      let site := Site.netWithAlias "x\n"
      let outcome := collectNet.run FileTree.answer site.tree
      site.listing = .ok [⟨.v6 2, "a", "eth0"⟩, ⟨.v6 2, "x", "eth0"⟩] ∧
        outcome.1.lines = ["released ::2\ta\teth0", "1 released, 1 kept"] ∧
          Site.listing { site with tree := outcome.2 } = .ok [⟨.v6 2, "a", "eth0"⟩]) := by
  refine ⟨⟨⟨by decide, [], ['\n'], rfl, .inl rfl, .feed [] (by decide)⟩, ?_⟩,
    ⟨⟨by decide, [], ['\n'], rfl, .inl rfl, .feed [] (by decide)⟩, ?_⟩⟩
  · decide +kernel
  · decide +kernel

end AddressPool
