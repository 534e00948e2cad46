import AddressPool.Proofs.Store.Picture
import AddressPool.Proofs.Store.Records

/-!
# A store on disk mirrors one in memory

A directory mirrors a store in memory if its files are those that stand for the
content of the store: the locked file, a record for each reservation, and a cursor
for each ring that has one (`Mirrors`).

Every request on such a directory is answered as the store in memory answers it, and
the directory mirrors the store behind the request; or the request is refused and
nothing changes (`Mirrors.serves`).  So a run of any program on the disk is a run of
that program on the content (`Mirrors.run`).
-/

namespace AddressPool

set_option autoImplicit false

/-! ## The files that stand for a store -/

/-- The text of each file that stands for the content of a store, which may have been locked. -/
def imageOf (locked : Bool) (memory : Memory) : Image
  | .lock => if locked then some "" else none
  | .record address =>
    (memory.find? address).map fun reservation =>
      recordText reservation.owner reservation.interface
  | .cursor id => (memory.cursors.lookup id).map (·.text)

/-- A directory whose files stand for the content of a store. -/
structure Mirrors (disk : Disk) (tree : FileTree) (location : Location) (locked : Bool)
    (memory : Memory) : Prop where
  pictures : Pictures disk tree location (imageOf locked memory)
  unbroken : ∀ reservation ∈ memory.reservations,
    Disk.brokenField? reservation.owner reservation.interface = none

section Images

variable (locked : Bool) (memory : Memory)

theorem imageOf_lock : (imageOf locked memory).set .lock (some "") = imageOf true memory := by
  funext file
  cases file <;> rfl

theorem imageOf_put (reservation : Reservation) :
    (imageOf locked memory).set (.record reservation.address)
        (some (recordText reservation.owner reservation.interface)) =
      imageOf locked (memory.put reservation) := by
  funext file
  cases file with
  | lock => rfl
  | cursor id => rfl
  | record address =>
    rw [imageOf, Memory.find?_put, Image.set]
    by_cases same : address = reservation.address
    · rw [if_pos (by rw [same]), if_pos same]
      rfl
    · rw [if_neg (by simpa using same), if_neg same]
      rfl

theorem imageOf_keep_ne (address : Address) :
    (imageOf locked memory).set (.record address) none =
      imageOf locked (memory.keep fun other => decide (other.address ≠ address)) := by
  funext file
  cases file with
  | lock => rfl
  | cursor id => rfl
  | record other =>
    rw [imageOf, Memory.find?_keep_ne, Image.set]
    by_cases same : other = address
    · rw [if_pos (by rw [same]), if_pos same]
      rfl
    · rw [if_neg (by simpa using same), if_neg same]
      rfl

theorem imageOf_putCursor (id : String) (address : Address) :
    (imageOf locked memory).set (.cursor id) (some address.text) =
      imageOf locked (memory.putCursor id address) := by
  funext file
  cases file with
  | lock => rfl
  | record other => rfl
  | cursor other =>
    rw [imageOf, Memory.lookup_putCursor, Image.set]
    by_cases same : other = id
    · rw [if_pos (by rw [same]), if_pos same]
      rfl
    · rw [if_neg (by simpa using same), if_neg same]
      rfl

end Images

/-! ## What a store on disk refuses -/

/-- The requests that the limits on names and paths, or a line break, forbid. -/
def Disk.Refuses (disk : Disk) : StoreRequest → Prop
  | .lock => ¬ disk.Reachable .lock
  | .reserve address owner interface =>
    Disk.brokenField? owner interface ≠ none ∨ ¬ disk.Writable (.record address)
  | .release address => ¬ disk.Reachable (.record address)
  | .releaseByOwner _ => False
  | .reservations => False
  | .cursor id => ¬ disk.Reachable (.cursor id)
  | .setCursor id _ => ¬ disk.Writable (.cursor id)

/-- Every name that is short enough has a path that is short enough. -/
def Roomy (directory : String) : Prop :=
  ∀ name : String, name.utf8ByteSize ≤ FileTree.nameLimit →
    (Path.join directory name).utf8ByteSize < FileTree.pathLimit

theorem roomy_of_size {directory : String}
    (short : (Path.join directory "").utf8ByteSize + FileTree.nameLimit < FileTree.pathLimit) :
    Roomy directory := by
  intro name bound
  rw [utf8ByteSize_join]
  omega

/-- The identifiers of which every file of a cursor can have its name. -/
def ShortId (id : String) : Prop := PlainId id ∧ id.utf8ByteSize ≤ 233

instance (id : String) : Decidable (ShortId id) := inferInstanceAs (Decidable (_ ∧ _))

/-- The requests that a store is made for. -/
def StoreRequest.Admissible : StoreRequest → Prop
  | .reserve _ owner interface => Disk.brokenField? owner interface = none
  | .cursor id => ShortId id
  | .setCursor id _ => ShortId id
  | _ => True

namespace Disk

variable {disk : Disk} (roomy : Roomy disk.directory)
include roomy

theorem writable_record (address : Address) : disk.Writable (.record address) := by
  have short : (temporaryName address.text).utf8ByteSize ≤ FileTree.nameLimit := by
    have size := address.utf8ByteSize_text_le
    rw [utf8ByteSize_temporaryName, FileTree.nameLimit]
    omega
  exact ⟨plain_text address, short, roomy _ short⟩

theorem writable_cursor {id : String} (short : ShortId id) : disk.Writable (.cursor id) := by
  have size : (temporaryName (cursorName id)).utf8ByteSize ≤ FileTree.nameLimit := by
    have bound := short.2
    rw [utf8ByteSize_temporaryName, utf8ByteSize_cursorName, FileTree.nameLimit]
    omega
  exact ⟨plain_cursorName short.1, size, roomy _ size⟩

theorem reachable_lock : disk.Reachable .lock :=
  ⟨plain_lockName, by decide, roomy _ (by decide)⟩

/-- **No request that a store is made for is refused.** -/
theorem not_refuses {request : StoreRequest} (admissible : request.Admissible) :
    ¬ disk.Refuses request := by
  cases request with
  | lock =>
    intro refuse
    exact refuse (reachable_lock roomy)
  | reserve address owner interface =>
    rintro (broken | unwritable)
    · exact broken admissible
    · exact unwritable (writable_record roomy address)
  | release address =>
    intro refuse
    exact refuse (writable_record roomy address).reachable
  | releaseByOwner owner => exact id
  | reservations => exact id
  | cursor ring =>
    intro refuse
    exact refuse (writable_cursor roomy admissible).reachable
  | setCursor ring address =>
    intro refuse
    exact refuse (writable_cursor roomy admissible)

end Disk

theorem StoreError.Outward.file (path : String) (cause : FileError) :
    (StoreError.file path cause).Outward := fun _ _ same => nomatch same

variable {disk : Disk} {tree : FileTree} {location : Location} {locked : Bool} {memory : Memory}

/-! ## What follows the first file -/

namespace Disk

/-- A record is what is read from its file. -/
theorem record?_run {name : String} {answer : Except FileError (Option String)}
    (read : (readTextIfAny (disk.path name)).run FileTree.answer tree = (answer, tree)) :
    (disk.record? name).run FileTree.answer tree =
      ((answer.mapError (.file (disk.path name))).map (·.map readRecord), tree) := by
  rw [record?, Program.run_bind, read]
  cases answer <;> rfl

/-- A cursor is what is read from its file. -/
theorem cursor_run {id : String} {answer : Except FileError (Option String)}
    (read : (readTextIfAny (disk.path (cursorName id))).run FileTree.answer tree =
      (answer, tree)) :
    (disk.cursor id).run FileTree.answer tree =
      ((answer.mapError (.file (disk.path (cursorName id)))).map fun text =>
        text.bind fun text => Address.ofChars? (Text.trim text.toList), tree) := by
  rw [cursor, Program.run_bind, read]
  cases answer <;> rfl

variable {address : Address} {owner interface : String}

/-- Where there is no record, one is written. -/
theorem reserve_run {after : FileTree} {answer : Except StoreError Unit}
    (unbroken : brokenField? owner interface = none)
    (unread : (disk.record? address.text).run FileTree.answer tree = (.ok none, tree))
    (written : (disk.replace address.text (recordText owner interface)).run FileTree.answer tree =
      (answer, after)) :
    (disk.reserve address owner interface).run FileTree.answer tree =
      (answer.map fun _ => true, after) := by
  rw [reserve, unbroken]
  show (disk.record? address.text >>= _ : FileProgram _).run FileTree.answer tree = _
  rw [Program.run_bind, unread]
  show (disk.replace _ _ >>= _ : FileProgram _).run FileTree.answer tree = _
  rw [Program.run_bind, written]
  cases answer <;> rfl

/-- A record that is there says who holds the address. -/
theorem reserve_run_held {holder other : String}
    (unbroken : brokenField? owner interface = none)
    (read : (disk.record? address.text).run FileTree.answer tree =
      (.ok (some (holder, other)), tree)) :
    (disk.reserve address owner interface).run FileTree.answer tree =
      (if holder = owner then .ok false else .error (.alreadyReserved address holder), tree) := by
  rw [reserve, unbroken]
  show (disk.record? address.text >>= _ : FileProgram _).run FileTree.answer tree = _
  rw [Program.run_bind, read]
  show Program.run FileTree.answer (if holder = owner then _ else _) tree = _
  split <;> rfl

/-- A record that cannot be read keeps the address from being reserved. -/
theorem reserve_run_unread {error : StoreError} (unbroken : brokenField? owner interface = none)
    (failed : (disk.record? address.text).run FileTree.answer tree = (.error error, tree)) :
    (disk.reserve address owner interface).run FileTree.answer tree = (.error error, tree) := by
  rw [reserve, unbroken]
  show (disk.record? address.text >>= _ : FileProgram _).run FileTree.answer tree = _
  rw [Program.run_bind, failed]
  rfl

end Disk

/-! ## Listings and releases -/

namespace Memory

/-- The addresses of an owner are different ones. -/
theorem nodup_addresses (memory : Memory) (owner : String) :
    ((memory.ownedBy owner).map (·.address)).Nodup :=
  List.pairwise_map.mpr (memory.distinct.filter _)

/-- The addresses of an owner are held. -/
theorem held_of_owned (memory : Memory) (owner : String) :
    ∀ address ∈ (memory.ownedBy owner).map (·.address), (memory.find? address).isSome = true := by
  intro address member
  obtain ⟨reservation, owned, rfl⟩ := List.mem_map.mp member
  rw [find?_eq_some_iff.mpr ⟨(mem_ownedBy.mp owned).1, rfl⟩]
  rfl

/-- Other addresses stay held when one is given up. -/
theorem held_keep_ne {addresses : List Address} {address : Address} (absent : address ∉ addresses)
    (held : ∀ other ∈ addresses, (memory.find? other).isSome = true) :
    ∀ other ∈ addresses, ((memory.keep fun reservation =>
      decide (reservation.address ≠ address)).find? other).isSome = true := by
  intro other member
  rw [find?_keep_ne, if_neg]
  · exact held other member
  · rintro rfl
    exact absent member

/-- Without the addresses of an owner, what is left are the reservations of the others. -/
theorem keep_unowned (memory : Memory) (owner : String) :
    (memory.keep fun other => decide (other.address ∉ (memory.ownedBy owner).map (·.address))) =
      memory.keep fun other => decide (other.owner ≠ owner) := by
  refine keep_congr fun reservation listed => ?_
  rw [decide_eq_decide, not_iff_not, List.mem_map]
  constructor
  · rintro ⟨other, owned, same⟩
    obtain ⟨there, own⟩ := mem_ownedBy.mp owned
    rw [← eq_of_address there listed same, own]
  · intro own
    exact ⟨reservation, mem_ownedBy.mpr ⟨listed, own⟩, rfl⟩

/-- If the names that are read as addresses are the texts of those which the store holds, each of
them once, then the reservations found by name are listed as the store lists them. -/
theorem sort_named {names : List String} (nodup : names.Nodup)
    (canonical : ∀ name ∈ names, ∀ address, Address.ofString? name = some address →
      name = address.text)
    (listed : ∀ reservation ∈ memory.reservations, reservation.address.text ∈ names) :
    Reservation.sort (names.filterMap fun name => (Address.ofString? name).bind memory.find?) =
      memory.reservations := by
  refine sort_eq ?_ fun reservation => ?_
  · refine List.pairwise_filterMap.mpr (List.Pairwise.imp_of_mem ?_ nodup)
    intro left right here there different first one second two same
    obtain ⟨address, read, found⟩ := Option.bind_eq_some_iff.mp one
    obtain ⟨other, reread, refound⟩ := Option.bind_eq_some_iff.mp two
    refine different ?_
    rw [canonical left here address read, canonical right there other reread,
      ← address_of_find? found, ← address_of_find? refound, same]
  · rw [List.mem_filterMap]
    constructor
    · rintro ⟨name, _, found⟩
      obtain ⟨address, _, found⟩ := Option.bind_eq_some_iff.mp found
      exact (find?_eq_some_iff.mp found).1
    · intro member
      refine ⟨reservation.address.text, listed reservation member, ?_⟩
      rw [Address.ofString?_text, Option.bind_some, find?_eq_some_iff.mpr ⟨member, rfl⟩]

end Memory

namespace Disk

/-- The names of a directory are read as the reservations that they stand for. -/
theorem reservationsNamed_run {names : List String}
    (reads : ∀ name ∈ names, ∀ address, Address.ofString? name = some address →
      ∃ reservation, memory.find? address = some reservation ∧
        (disk.record? name).run FileTree.answer tree =
          (.ok (some (reservation.owner, reservation.interface)), tree)) :
    (disk.reservationsNamed names).run FileTree.answer tree =
      (.ok (names.filterMap fun name => (Address.ofString? name).bind memory.find?), tree) := by
  induction names with
  | nil => rfl
  | cons name rest ih =>
    have later := ih fun other member => reads other (List.mem_cons_of_mem _ member)
    rw [reservationsNamed, List.filterMap_cons]
    cases read : Address.ofString? name with
    | none => exact later
    | some address =>
      obtain ⟨reservation, found, record⟩ := reads name (List.mem_cons_self ..) address read
      have here := Memory.address_of_find? found
      show (disk.record? name >>= _ : FileProgram _).run FileTree.answer tree = _
      rw [Program.run_bind, record]
      show (disk.reservationsNamed rest >>= _ : FileProgram _).run FileTree.answer tree = _
      rw [Program.run_bind, later]
      simp only [Option.bind_some, found]
      rw [← here]
      rfl

section Releases

variable {shown : FileTree → Memory → Prop}
variable (removed : ∀ {tree : FileTree} {memory : Memory} {address : Address}, shown tree memory →
  (memory.find? address).isSome = true →
    ∃ after, (disk.remove address.text).run FileTree.answer tree = (.ok true, after) ∧
      shown after (memory.keep fun other => decide (other.address ≠ address)))
include removed

/-- If the directory goes on showing a store while single records are taken away, it does so while
many of them are. -/
theorem releaseAll_run {tree : FileTree} {memory : Memory} (here : shown tree memory)
    {addresses : List Address} (nodup : addresses.Nodup)
    (held : ∀ address ∈ addresses, (memory.find? address).isSome = true) :
    ∃ after, (disk.releaseAll addresses).run FileTree.answer tree =
        (.ok addresses.length, after) ∧
      shown after (memory.keep fun other => decide (other.address ∉ addresses)) := by
  induction addresses generalizing tree memory with
  | nil =>
    refine ⟨tree, rfl, ?_⟩
    rw [Memory.keep_eq_self fun _ _ => by simp]
    exact here
  | cons address rest ih =>
    obtain ⟨absent, distinct⟩ := List.nodup_cons.mp nodup
    obtain ⟨middle, gone, behind⟩ := removed here (held address (List.mem_cons_self ..))
    have later := Memory.held_keep_ne absent fun other member =>
      held other (List.mem_cons_of_mem _ member)
    obtain ⟨after, run, final⟩ := ih behind distinct later
    refine ⟨after, ?_, ?_⟩
    · rw [releaseAll, Program.run_bind, gone]
      show (disk.releaseAll rest >>= _ : FileProgram _).run FileTree.answer middle = _
      rw [Program.run_bind, run]
      rfl
    · rw [Memory.keep_keep] at final
      rw [Memory.keep_congr] at final
      · exact final
      · intro other _
        simp [not_or]

/-- The reservations of an owner are released, as long as the directory is listed as the store
lists them. -/
theorem releaseByOwner_run {tree : FileTree} {memory : Memory} (here : shown tree memory)
    (told : disk.reservations.run FileTree.answer tree = (.ok memory.reservations, tree))
    (owner : String) :
    ∃ after, (disk.releaseByOwner owner).run FileTree.answer tree =
        ((Memory.answer (.releaseByOwner owner) memory).1, after) ∧
      shown after (Memory.answer (.releaseByOwner owner) memory).2 := by
  obtain ⟨after, run, behind⟩ := releaseAll_run removed here (memory.nodup_addresses owner)
    (memory.held_of_owned owner)
  rw [Memory.keep_unowned] at behind
  refine ⟨after, ?_, behind⟩
  rw [releaseByOwner, Program.run_bind, told]
  rw [List.length_map, Memory.length_ownedBy] at run
  exact run

end Releases

end Disk

/-! ## Requests one by one -/

/-- A request is served from a directory that mirrors a store: the answer is one that the store
may give, and the directory mirrors what the store holds behind it. -/
def Serves (disk : Disk) (tree : FileTree) (location : Location) (locked : Bool) (memory : Memory)
    (request : StoreRequest) : Prop :=
  ∃ answer after, (disk.answer request).run FileTree.answer tree = (answer, after) ∧
    ∃ content, Answers disk.Refuses memory request answer content ∧
      ∃ still, (locked = true → still = true) ∧ Mirrors disk after location still content

namespace Mirrors

section Requests

variable (mirrors : Mirrors disk tree location locked memory)
include mirrors

/-- A refused request is served, if it gets along without the reservations. -/
theorem serves_refusal {request : StoreRequest} {fault : StoreError}
    (run : (disk.answer request).run FileTree.answer tree = (request.refusal fault, tree))
    (refuse : disk.Refuses request) (outward : fault.Outward)
    (spared : request.Refusable memory) : Serves disk tree location locked memory request :=
  ⟨_, _, run, memory, .inr ⟨refuse, spared, rfl, fault, outward, rfl⟩, locked, id, mirrors⟩

/-- The first request leaves the locked file behind. -/
theorem lock_run (reachable : disk.Reachable .lock) :
    ∃ after, disk.lock.run FileTree.answer tree = (.ok (), after) ∧
      Mirrors disk after location true memory := by
  have vacant : ∀ text, imageOf locked memory .lock = some text → text = "" := by
    intro text found
    cases locked with
    | false => cases found
    | true => exact (Option.some.inj found).symm
  obtain ⟨after, run, pictures⟩ := mirrors.pictures.lock_run reachable vacant
  rw [imageOf_lock] at pictures
  exact ⟨after, run, pictures, mirrors.unbroken⟩

theorem serves_lock : Serves disk tree location locked memory .lock := by
  by_cases reachable : disk.Reachable .lock
  · obtain ⟨after, run, mirrored⟩ := mirrors.lock_run reachable
    exact ⟨_, after, run, memory, .given .lock, true, fun _ => rfl, mirrored⟩
  · obtain ⟨path, cause, run⟩ := mirrors.pictures.lock_missed reachable
    exact mirrors.serves_refusal run reachable (.file path cause) trivial

/-- The record of an address is read as the reservation of the address. -/
theorem record?_run {address : Address} (reachable : disk.Reachable (.record address)) :
    (disk.record? address.text).run FileTree.answer tree =
      (.ok ((memory.find? address).map fun reservation =>
        (reservation.owner, reservation.interface)), tree) := by
  have read := mirrors.pictures.readTextIfAny_run reachable
  rw [StoreFile.name] at read
  rw [Disk.record?_run read, imageOf]
  cases found : memory.find? address with
  | none => rfl
  | some reservation =>
    have whole := readRecord_recordText
      (mirrors.unbroken reservation (Memory.find?_eq_some_iff.mp found).1)
    show (Except.ok (some (readRecord _)), tree) = _
    rw [whole]
    rfl

theorem find?_of_not_reachable {address : Address}
    (absent : ¬ disk.Reachable (.record address)) : memory.find? address = none :=
  Option.map_eq_none_iff.mp (mirrors.pictures.image_eq_none absent)

/-- An address without a record gets one, or the store refuses. -/
theorem serves_reserve_absent {address : Address} {owner interface : String}
    (unbroken : Disk.brokenField? owner interface = none) (absent : memory.find? address = none)
    (unread : (disk.record? address.text).run FileTree.answer tree = (.ok none, tree)) :
    Serves disk tree location locked memory (.reserve address owner interface) := by
  by_cases writable : disk.Writable (.record address)
  · obtain ⟨after, written, pictures⟩ :=
      mirrors.pictures.replace_run writable (recordText owner interface)
    rw [imageOf_put locked memory ⟨address, owner, interface⟩] at pictures
    refine ⟨_, after, Disk.reserve_run unbroken unread written,
      memory.put ⟨address, owner, interface⟩, .inl ?_, locked, fun held => held, pictures, ?_⟩
    · simp only [Memory.answer, absent, and_true]
      rfl
    · intro reservation member
      rcases Memory.mem_put.mp member with rfl | ⟨listed, _⟩
      · exact unbroken
      · exact mirrors.unbroken reservation listed
  · obtain ⟨path, cause, written⟩ :=
      mirrors.pictures.replace_missed writable (recordText owner interface)
    exact mirrors.serves_refusal (Disk.reserve_run unbroken unread written) (.inr writable)
      (.file path cause) trivial

theorem serves_reserve (address : Address) (owner interface : String) :
    Serves disk tree location locked memory (.reserve address owner interface) := by
  cases broken : Disk.brokenField? owner interface with
  | some field =>
    obtain ⟨field, value⟩ := field
    have run : (disk.reserve address owner interface).run FileTree.answer tree =
        (.error (.invalidRecordField field value), tree) := by
      rw [Disk.reserve, broken]
      rfl
    refine mirrors.serves_refusal run (.inl ?_) (fun _ _ same => nomatch same) trivial
    rw [broken]
    exact Option.some_ne_none _
  | none =>
    by_cases reachable : disk.Reachable (.record address)
    · have read := mirrors.record?_run reachable
      cases found : memory.find? address with
      | none =>
        rw [found] at read
        exact mirrors.serves_reserve_absent broken found read
      | some holder =>
        rw [found] at read
        have run := Disk.reserve_run_held broken read
        refine ⟨_, tree, run, memory, .inl ?_, locked, fun held => held, mirrors⟩
        simp only [Memory.answer, found]
        split
        · exact ⟨rfl, rfl⟩
        · exact ⟨rfl, rfl⟩
    · have absent := mirrors.find?_of_not_reachable reachable
      obtain ⟨answer, read, reply⟩ := mirrors.pictures.readTextIfAny_missed reachable
      have record := Disk.record?_run read
      rcases reply with rfl | ⟨cause, rfl⟩
      · rw [mirrors.pictures.image_eq_none reachable] at record
        exact mirrors.serves_reserve_absent broken absent record
      · exact mirrors.serves_refusal (Disk.reserve_run_unread broken record)
          (.inr fun writable => reachable writable.reachable) (.file _ cause) trivial

/-- The directory mirrors the store without a reservation, once its record is gone. -/
theorem of_removed {after : FileTree} {address : Address}
    (pictures : Pictures disk after location
      ((imageOf locked memory).set (.record address) none)) :
    Mirrors disk after location locked
      (memory.keep fun other => decide (other.address ≠ address)) where
  pictures := imageOf_keep_ne locked memory address ▸ pictures
  unbroken reservation member := mirrors.unbroken reservation (List.mem_of_mem_filter member)

theorem serves_release (address : Address) :
    Serves disk tree location locked memory (.release address) := by
  have there : (imageOf locked memory (.record address)).isSome =
      (memory.find? address).isSome := Option.isSome_map
  by_cases reachable : disk.Reachable (.record address)
  · obtain ⟨after, run, pictures⟩ := mirrors.pictures.remove_run reachable
    rw [there] at run
    exact ⟨_, after, run, _, .given (.release address), locked, fun held => held,
      mirrors.of_removed pictures⟩
  · obtain ⟨answer, run, reply⟩ := mirrors.pictures.remove_missed reachable
    rcases reply with rfl | ⟨path, cause, rfl⟩
    · rw [there] at run
      have same := Image.set_self (imageOf locked memory) (.record address)
      rw [mirrors.pictures.image_eq_none reachable] at same
      refine ⟨_, tree, run, _, .given (.release address), locked, fun held => held,
        mirrors.of_removed ?_⟩
      rw [same]
      exact mirrors.pictures
    · exact mirrors.serves_refusal run reachable (.file path cause)
        (mirrors.find?_of_not_reachable reachable)

theorem serves_cursor (id : String) : Serves disk tree location locked memory (.cursor id) := by
  have parsed : ((imageOf locked memory (.cursor id)).bind fun text =>
      Address.ofChars? (Text.trim text.toList)) = memory.cursors.lookup id := by
    rw [imageOf]
    cases memory.cursors.lookup id with
    | none => rfl
    | some address => exact address.ofChars?_trim_text
  have told : (readTextIfAny (disk.path (cursorName id))).run FileTree.answer tree =
        (.ok (imageOf locked memory (.cursor id)), tree) →
      Serves disk tree location locked memory (.cursor id) := by
    intro read
    have run : (disk.cursor id).run FileTree.answer tree =
        (.ok (memory.cursors.lookup id), tree) := by
      rw [Disk.cursor_run read, ← parsed]
      rfl
    exact ⟨_, tree, run, memory, .given (.cursor id), locked, fun held => held, mirrors⟩
  by_cases reachable : disk.Reachable (.cursor id)
  · have read := mirrors.pictures.readTextIfAny_run reachable
    rw [StoreFile.name] at read
    exact told read
  · obtain ⟨answer, read, reply⟩ := mirrors.pictures.readTextIfAny_missed reachable
    rw [StoreFile.name] at read
    rcases reply with rfl | ⟨cause, rfl⟩
    · exact told read
    · exact mirrors.serves_refusal (Disk.cursor_run read) reachable
        (.file (disk.path (cursorName id)) cause) trivial

theorem serves_setCursor (id : String) (address : Address) :
    Serves disk tree location locked memory (.setCursor id address) := by
  by_cases writable : disk.Writable (.cursor id)
  · obtain ⟨after, run, pictures⟩ := mirrors.pictures.replace_run writable address.text
    rw [imageOf_putCursor] at pictures
    exact ⟨_, after, run, _, .given (.setCursor id address), locked, fun held => held, pictures,
      mirrors.unbroken⟩
  · obtain ⟨path, cause, run⟩ := mirrors.pictures.replace_missed writable address.text
    exact mirrors.serves_refusal run writable (.file path cause) trivial

/-! ## Listings -/

/-- A name in the directory that is read as an address is that of the address's record. -/
theorem find?_of_listed {name : String} {address : Address}
    (listed : (tree.entryAt (name :: location)).isSome = true)
    (read : Address.ofString? name = some address) :
    name = address.text ∧ ∃ reservation, memory.find? address = some reservation := by
  by_cases kept : ∃ file : StoreFile, file.name = name
  · obtain ⟨file, rfl⟩ := kept
    obtain rfl := StoreFile.eq_record_of_ofString? read
    rw [mirrors.pictures.entry, Option.isSome_map, imageOf, Option.isSome_map] at listed
    exact ⟨rfl, Option.isSome_iff_exists.mp listed⟩
  · rw [mirrors.pictures.others name fun file same => kept ⟨file, same⟩] at listed
    cases listed

/-- **The directory is listed as the store lists its reservations.** -/
theorem reservations_run :
    disk.reservations.run FileTree.answer tree = (.ok memory.reservations, tree) := by
  have named : (disk.reservationsNamed (tree.namesIn location)).run FileTree.answer tree =
      (.ok ((tree.namesIn location).filterMap fun name =>
        (Address.ofString? name).bind memory.find?), tree) := by
    refine Disk.reservationsNamed_run fun name member address read => ?_
    obtain ⟨rfl, reservation, found⟩ :=
      mirrors.find?_of_listed (FileTree.mem_namesIn_iff.mp member) read
    have record := mirrors.record?_run
      (mirrors.pictures.reachable (.record address) (by simp [imageOf, found]))
    rw [found] at record
    exact ⟨reservation, found, record⟩
  have listed : ∀ reservation ∈ memory.reservations,
      reservation.address.text ∈ tree.namesIn location := by
    intro reservation member
    have entry := mirrors.pictures.entry (.record reservation.address)
    rw [imageOf, Memory.find?_eq_some_iff.mpr ⟨member, rfl⟩] at entry
    rw [FileTree.mem_namesIn_iff]
    exact Option.isSome_iff_exists.mpr ⟨_, entry⟩
  rw [Disk.reservations, Program.run_bind, FileTree.run_ask,
    FileTree.answer_names mirrors.pictures.leads]
  show (disk.reservationsNamed _ >>= _ : FileProgram _).run FileTree.answer tree = _
  rw [Program.run_bind, named]
  show (Except.ok (Reservation.sort _), tree) = _
  rw [Memory.sort_named mirrors.pictures.listed (fun name member address read =>
    (mirrors.find?_of_listed (FileTree.mem_namesIn_iff.mp member) read).1) listed]

theorem serves_reservations : Serves disk tree location locked memory .reservations :=
  ⟨_, tree, mirrors.reservations_run, memory, .given .reservations, locked, fun held => held,
    mirrors⟩

end Requests

/-- A record that is there is taken away. -/
theorem remove_run {tree : FileTree} {memory : Memory} {address : Address}
    (mirrors : Mirrors disk tree location locked memory)
    (held : (memory.find? address).isSome = true) :
    ∃ after, (disk.remove address.text).run FileTree.answer tree = (.ok true, after) ∧
      Mirrors disk after location locked
        (memory.keep fun other => decide (other.address ≠ address)) := by
  have there : (imageOf locked memory (.record address)).isSome = true := by
    rw [imageOf, Option.isSome_map, held]
  obtain ⟨after, removed, pictures⟩ :=
    mirrors.pictures.remove_run (mirrors.pictures.reachable (.record address) there)
  rw [there] at removed
  exact ⟨after, removed, mirrors.of_removed pictures⟩

theorem serves_releaseByOwner (mirrors : Mirrors disk tree location locked memory)
    (owner : String) : Serves disk tree location locked memory (.releaseByOwner owner) := by
  obtain ⟨after, run, mirrored⟩ :
      ∃ after, (disk.releaseByOwner owner).run FileTree.answer tree =
          ((Memory.answer (.releaseByOwner owner) memory).1, after) ∧
        Mirrors disk after location locked (Memory.answer (.releaseByOwner owner) memory).2 :=
    Disk.releaseByOwner_run remove_run mirrors mirrors.reservations_run owner
  exact ⟨_, after, run, _, .given (.releaseByOwner owner), locked, fun held => held, mirrored⟩

/-- **Every request on the directory is served as by the store that it mirrors.** -/
theorem serves (mirrors : Mirrors disk tree location locked memory) (request : StoreRequest) :
    Serves disk tree location locked memory request := by
  cases request with
  | lock => exact mirrors.serves_lock
  | reserve address owner interface => exact mirrors.serves_reserve address owner interface
  | release address => exact mirrors.serves_release address
  | releaseByOwner owner => exact mirrors.serves_releaseByOwner owner
  | reservations => exact mirrors.serves_reservations
  | cursor id => exact mirrors.serves_cursor id
  | setCursor id address => exact mirrors.serves_setCursor id address

/-- A request that is not refused is answered as by the store; the lock stays once it is taken. -/
theorem serves_admissible (mirrors : Mirrors disk tree location locked memory)
    (roomy : Roomy disk.directory) {request : StoreRequest} (admissible : request.Admissible) :
    ∃ after still, (disk.answer request).run FileTree.answer tree =
        ((Memory.answer request memory).1, after) ∧
      (locked = true ∨ request = .lock → still = true) ∧
        Mirrors disk after location still (Memory.answer request memory).2 := by
  by_cases locks : request = .lock
  · subst locks
    obtain ⟨after, run, mirrored⟩ := mirrors.lock_run (Disk.reachable_lock roomy)
    exact ⟨after, true, run, fun _ => rfl, mirrored⟩
  · obtain ⟨answer, after, run, content, answers, still, kept, mirrored⟩ := mirrors.serves request
    obtain ⟨rfl, rfl⟩ := answers.eq_of_not_refused (Disk.not_refuses roomy admissible)
    exact ⟨after, still, run, fun held => kept (held.resolve_right locks), mirrored⟩

/-- **A run on the directory is a run on the store that it mirrors.** -/
theorem run {α : Type} {tree : FileTree} {locked : Bool} {memory : Memory}
    (mirrors : Mirrors disk tree location locked memory) (program : StoreProgram α) :
    ∃ result after, (program.expand disk.answer).run FileTree.answer tree = (result, after) ∧
      ∃ content, StoreRun disk.Refuses program memory result content ∧
        ∃ still, (locked = true → still = true) ∧ Mirrors disk after location still content := by
  rw [Program.run_expand]
  induction program generalizing tree locked memory with
  | done value =>
    exact ⟨value, tree, rfl, memory, .done value memory, locked, fun held => held, mirrors⟩
  | ask request next ih =>
    obtain ⟨answer, middle, run, content, answers, still, kept, mirrored⟩ :=
      mirrors.serves request
    obtain ⟨result, after, rest, last, follows, finally_locked, later, final⟩ := ih answer mirrored
    refine ⟨result, after, ?_, last, .ask answers follows, finally_locked,
      fun held => later (kept held), final⟩
    rw [Program.run, run]
    exact rest

end Mirrors

end AddressPool
