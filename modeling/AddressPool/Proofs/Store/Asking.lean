import AddressPool.Proofs.Files.Locality
import AddressPool.Proofs.Store.Names
import AddressPool.Store.Disk

/-!
# What a store on disk asks of the files

To answer a request a store on disk lists its directory, reads files under names in it, and
writes, moves and takes away such files.  All these names are plain: the text of an
address, the name of a cursor whose identifier has no slash and no null character in it, the
temporary names that go with them, and the name of the locked file.  So the store asks for
nothing but what is in its own directory (`Disk.answer_asksOnly`).
-/

namespace AddressPool

set_option autoImplicit false

open AddressPool.Path (Plain)

/-- Requests for cursors under identifiers that can be part of a name, and all other requests. -/
def StoreRequest.PlainCursor : StoreRequest → Prop
  | .cursor id => PlainId id
  | .setCursor id _ => PlainId id
  | _ => True

/-- A ring whose identifier can be part of a name asks for no other cursor. -/
theorem Ring.permitted_plainCursor {ring : Ring} (plain : PlainId ring.id)
    (owner interface : String) : ring.Permitted owner interface StoreRequest.PlainCursor where
  lock := trivial
  listing := trivial
  cursor := plain
  reserve _ := trivial
  setCursor _ := plain
  release _ := trivial

/-! ## Reading -/

variable {allowed : FileRequest → Prop}

theorem readTextIfAny_asksOnly {path : String} (read : allowed (.read path)) :
    (readTextIfAny path).AsksOnly allowed := by
  refine Program.AsksOnly.bind ⟨read, fun answer => ?_⟩ fun text => ?_
  · cases answer <;> trivial
  · cases text with
    | ok => trivial
    | error error => cases error <;> trivial

namespace Disk

variable {disk : Disk} {name : String}

theorem record?_asksOnly (read : allowed (.read (disk.path name))) :
    (disk.record? name).AsksOnly allowed := by
  refine (readTextIfAny_asksOnly read).bind fun text => ?_
  cases text <;> trivial

theorem cursor_asksOnly {id : String} (read : allowed (.read (disk.path (cursorName id)))) :
    (disk.cursor id).AsksOnly allowed := by
  refine (readTextIfAny_asksOnly read).bind fun text => ?_
  cases text <;> trivial

section Listings

variable (read : ∀ name address, Address.ofString? name = some address →
  allowed (.read (disk.path name)))
include read

theorem reservationsNamed_asksOnly (names : List String) :
    (disk.reservationsNamed names).AsksOnly allowed := by
  induction names with
  | nil => trivial
  | cons name rest ih =>
    rw [reservationsNamed]
    cases parsed : Address.ofString? name with
    | none => exact ih
    | some address =>
      refine (record?_asksOnly (read name address parsed)).bind fun record => ?_
      cases record with
      | error => trivial
      | ok record =>
        refine ih.bind fun others => ?_
        cases others with
        | error => trivial
        | ok others => cases record <;> trivial

theorem reservations_asksOnly (listing : allowed (.names disk.directory)) :
    disk.reservations.AsksOnly allowed := by
  refine Program.AsksOnly.bind ⟨listing, fun _ => trivial⟩ fun names => ?_
  cases names with
  | error => trivial
  | ok names =>
    refine (reservationsNamed_asksOnly read names).bind fun found => ?_
    cases found <;> trivial

end Listings

/-! ## Requests on the store's own directory -/

theorem names_path (plain : Plain name) : Path.Names disk.directory (disk.path name) :=
  ⟨name, plain, rfl⟩

theorem lock_asksOnly : disk.lock.AsksOnly (FileRequest.Local disk.directory) := by
  refine Program.AsksOnly.bind ⟨names_path plain_lockName, fun _ => trivial⟩ fun locked => ?_
  cases locked with
  | error => trivial
  | ok free => cases free <;> trivial

theorem replace_asksOnly (plain : Plain name) (content : String) :
    (disk.replace name content).AsksOnly (FileRequest.Local disk.directory) := by
  have temporary : Path.Names disk.directory (disk.path (temporaryName name)) :=
    names_path (plain_temporaryName plain)
  refine Program.AsksOnly.bind ⟨temporary, fun created => ?_⟩ fun written => ?_
  · cases created with
    | error => trivial
    | ok => exact ⟨temporary, fun _ => trivial⟩
  · cases written with
    | error => exact ⟨temporary, fun _ => trivial⟩
    | ok =>
      refine Program.AsksOnly.bind ⟨⟨temporary, names_path plain⟩, fun _ => trivial⟩
        fun moved => ?_
      cases moved <;> trivial

theorem remove_asksOnly (plain : Plain name) :
    (disk.remove name).AsksOnly (FileRequest.Local disk.directory) := by
  refine Program.AsksOnly.bind ⟨names_path plain, fun _ => trivial⟩ fun removed => ?_
  cases removed with
  | ok => trivial
  | error cause => cases cause <;> trivial

theorem reserve_asksOnly (address : Address) (owner interface : String) :
    (disk.reserve address owner interface).AsksOnly (FileRequest.Local disk.directory) := by
  rw [reserve]
  cases brokenField? owner interface with
  | some => trivial
  | none =>
    have read : FileRequest.Local disk.directory (.read (disk.path address.text)) :=
      names_path (plain_text address)
    refine (record?_asksOnly read).bind fun record => ?_
    cases record with
    | error => trivial
    | ok record =>
      cases record with
      | none =>
        refine (replace_asksOnly (plain_text address) _).bind fun replaced => ?_
        cases replaced <;> trivial
      | some found =>
        show Program.AsksOnly _ (if found.1 = owner then _ else _)
        split <;> trivial

theorem releaseAll_asksOnly (addresses : List Address) :
    (disk.releaseAll addresses).AsksOnly (FileRequest.Local disk.directory) := by
  induction addresses with
  | nil => trivial
  | cons address rest ih =>
    refine (remove_asksOnly (plain_text address)).bind fun removed => ?_
    cases removed with
    | error => trivial
    | ok =>
      refine ih.bind fun count => ?_
      cases count <;> trivial

/-- A name that is listed as an address is plain. -/
theorem read_listed (name : String) (address : Address)
    (parsed : Address.ofString? name = some address) :
    FileRequest.Local disk.directory (.read (disk.path name)) :=
  names_path (plain_of_ofString? parsed)

/-- **To answer a request the store asks for nothing but what is in its directory.** -/
theorem answer_asksOnly {request : StoreRequest} (plain : request.PlainCursor) :
    (disk.answer request).AsksOnly (FileRequest.Local disk.directory) := by
  have listed : disk.reservations.AsksOnly (FileRequest.Local disk.directory) :=
    reservations_asksOnly read_listed rfl
  cases request with
  | lock => exact lock_asksOnly
  | reserve address owner interface => exact reserve_asksOnly address owner interface
  | release address => exact remove_asksOnly (plain_text address)
  | releaseByOwner owner =>
    refine listed.bind fun found => ?_
    cases found with
    | error => trivial
    | ok reservations => exact releaseAll_asksOnly _
  | reservations => exact listed
  | cursor id => exact cursor_asksOnly (names_path (plain_cursorName plain))
  | setCursor id address => exact replace_asksOnly (plain_cursorName plain) address.text

end Disk

end AddressPool
