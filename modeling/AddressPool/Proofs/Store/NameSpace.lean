import AddressPool.Proofs.Store.Names
import Mathlib.Data.List.Nodup

/-!
# The name space of a directory

A network's directory holds the files that a store keeps and, while one of them is being replaced,
the temporary file that is to take its place.  The directory has one name space for all of them
(`DirectoryEntry`).

No two of them have the same name (`DirectoryEntry.name_injective`), and the only names that are
read as an address are those of the records, each as the address of its record
(`DirectoryEntry.ofString?_name_iff`).  So whatever addresses are recorded and whatever identifiers
the rings have, nothing that lies beside the records is taken for one of them (`names_told_apart`).
-/

namespace AddressPool

set_option autoImplicit false

/-! ## Temporary files -/

theorem temporaryName_injective {left right : String}
    (same : temporaryName left = temporaryName right) : left = right := by
  have chars := congrArg String.toList same
  rw [toList_temporaryName, toList_temporaryName] at chars
  have front := List.append_cancel_right chars
  exact String.toList_injective (List.cons.inj front).2

theorem Address.ofString?_temporaryName (name : String) : ofString? (temporaryName name) = none :=
  ofString?_eq_none (toList_temporaryName name) (by decide) (by decide)

/-! ## All files of a directory -/

/-- A file in a store's directory: one that the store keeps, or the one that is written before it
takes the place of that. -/
inductive DirectoryEntry where
  | kept (file : StoreFile)
  | temporary (file : StoreFile)
  deriving DecidableEq

namespace DirectoryEntry

/-- The name of a file in a store's directory. -/
def name : DirectoryEntry → String
  | kept file => file.name
  | temporary file => temporaryName file.name

/-- **Different files in a directory have different names.** -/
theorem name_injective {left right : DirectoryEntry} (same : left.name = right.name) :
    left = right := by
  cases left with
  | kept file =>
    cases right with
    | kept other => rw [StoreFile.name_injective same]
    | temporary other => exact absurd same (file.name_ne_temporaryName other.name)
  | temporary file =>
    cases right with
    | kept other => exact absurd same.symm (other.name_ne_temporaryName file.name)
    | temporary other => rw [StoreFile.name_injective (temporaryName_injective same)]

/-- **Only the name of a record is read as an address**, and it is read as that of the record. -/
theorem ofString?_name_iff {entry : DirectoryEntry} {address : Address} :
    Address.ofString? entry.name = some address ↔ entry = kept (.record address) := by
  constructor
  · intro read
    cases entry with
    | kept file => rw [StoreFile.eq_record_of_ofString? read]
    | temporary file =>
      rw [name, Address.ofString?_temporaryName] at read
      cases read
  · rintro rfl
    exact StoreFile.ofString?_name_record address

end DirectoryEntry

/-! ## The directory of some addresses and rings -/

section Names

variable (addresses : List Address) (ids : List String)

/-- The names of the records of some addresses. -/
def recordNames : List String := addresses.map Address.text

/-- All names beside those of the records: the locked file, the cursors of some rings, and the
temporary files for the records of some addresses and for these cursors. -/
def otherNames : List String :=
  lockName :: (ids.map cursorName ++ addresses.map (fun address => temporaryName address.text) ++
    ids.map fun id => temporaryName (cursorName id))

/-- The files of all these names. -/
def directoryEntries : List DirectoryEntry :=
  addresses.map (fun address => .kept (.record address)) ++
    .kept .lock :: (ids.map (fun id => .kept (.cursor id)) ++
      addresses.map (fun address => .temporary (.record address)) ++
      ids.map fun id => .temporary (.cursor id))

theorem map_name_directoryEntries :
    (directoryEntries addresses ids).map DirectoryEntry.name =
      recordNames addresses ++ otherNames addresses ids := by
  simp only [directoryEntries, recordNames, otherNames, List.map_append, List.map_cons,
    List.map_map]
  rfl

variable {addresses ids}

/-- Two kinds of files have none in common. -/
theorem disjoint_map_of_ne {α β : Type} {one : α → DirectoryEntry} {other : β → DirectoryEntry}
    (apart : ∀ left right, one left ≠ other right) {lefts : List α} {rights : List β} :
    List.Disjoint (lefts.map one) (rights.map other) := by
  intro entry here there
  obtain ⟨left, _, rfl⟩ := List.mem_map.mp here
  obtain ⟨right, _, same⟩ := List.mem_map.mp there
  exact apart left right same.symm

theorem nodup_directoryEntries (distinct : addresses.Nodup) (distinct_ids : ids.Nodup) :
    (directoryEntries addresses ids).Nodup := by
  have records : (addresses.map fun address => DirectoryEntry.kept (.record address)).Nodup :=
    distinct.map fun _ _ same => StoreFile.record.inj (DirectoryEntry.kept.inj same)
  have cursors : (ids.map fun id => DirectoryEntry.kept (.cursor id)).Nodup :=
    distinct_ids.map fun _ _ same => StoreFile.cursor.inj (DirectoryEntry.kept.inj same)
  have spare_records :
      (addresses.map fun address => DirectoryEntry.temporary (.record address)).Nodup :=
    distinct.map fun _ _ same => StoreFile.record.inj (DirectoryEntry.temporary.inj same)
  have spare_cursors : (ids.map fun id => DirectoryEntry.temporary (.cursor id)).Nodup :=
    distinct_ids.map fun _ _ same => StoreFile.cursor.inj (DirectoryEntry.temporary.inj same)
  have others : (ids.map (fun id => DirectoryEntry.kept (.cursor id)) ++
      addresses.map (fun address => DirectoryEntry.temporary (.record address)) ++
      ids.map fun id => DirectoryEntry.temporary (.cursor id)).Nodup := by
    refine (cursors.append spare_records (disjoint_map_of_ne nofun)).append spare_cursors ?_
    exact List.disjoint_append_left.mpr ⟨disjoint_map_of_ne nofun, disjoint_map_of_ne nofun⟩
  rw [directoryEntries]
  refine records.append (List.nodup_cons.mpr ⟨by simp, others⟩) ?_
  rw [List.disjoint_cons_right, List.disjoint_append_right, List.disjoint_append_right]
  exact ⟨by simp, ⟨disjoint_map_of_ne nofun, disjoint_map_of_ne nofun⟩, disjoint_map_of_ne nofun⟩

/-- The name of a file beside the records stands for an entry that is no record. -/
theorem exists_entry_of_mem_otherNames {name : String}
    (member : name ∈ otherNames addresses ids) :
    ∃ entry : DirectoryEntry, entry.name = name ∧
      ∀ address, entry ≠ .kept (.record address) := by
  simp only [otherNames, List.mem_cons, List.mem_append, List.mem_map] at member
  rcases member with rfl | (⟨id, _, rfl⟩ | ⟨address, _, rfl⟩) | ⟨id, _, rfl⟩
  · exact ⟨.kept .lock, rfl, nofun⟩
  · exact ⟨.kept (.cursor id), rfl, nofun⟩
  · exact ⟨.temporary (.record address), rfl, nofun⟩
  · exact ⟨.temporary (.cursor id), rfl, nofun⟩

/-- No name beside those of the records is read as an address. -/
theorem ofString?_of_mem_otherNames {name : String} (member : name ∈ otherNames addresses ids) :
    Address.ofString? name = none := by
  obtain ⟨entry, rfl, other⟩ := exists_entry_of_mem_otherNames member
  rw [Option.eq_none_iff_forall_ne_some]
  intro address read
  exact other address (DirectoryEntry.ofString?_name_iff.mp read)

end Names

/-- **The name space of a network's directory is unambiguous.**  The text of every address is read
back as that address, so different addresses have different records, an IPv4 address and its
IPv4-mapped form among them.  Whatever addresses and identifiers there are, no name of another file
is read as an address, and no two names are the same. -/
theorem names_told_apart :
    (∀ address : Address, Address.ofString? address.text = some address) ∧
      (∀ left right : Address, left ≠ right → left.text ≠ right.text) ∧
      (∀ bits : BitVec 32, (Address.v4 bits).text ≠
        (Address.ofPosition .v6 (Address.v4 bits).position).text) ∧
      ∀ (addresses : List Address) (ids : List String),
        (∀ name ∈ otherNames addresses ids, Address.ofString? name = none) ∧
          (addresses.Nodup → ids.Nodup →
            (recordNames addresses ++ otherNames addresses ids).Nodup) := by
  refine ⟨Address.ofString?_text, ?_, ?_, fun addresses ids => ⟨?_, ?_⟩⟩
  · exact fun left right different same => different (Address.text_injective same)
  · intro bits same
    cases Address.text_injective same
  · exact fun name => ofString?_of_mem_otherNames
  · intro distinct distinct_ids
    rw [← map_name_directoryEntries]
    exact (nodup_directoryEntries distinct distinct_ids).map fun _ _ =>
      DirectoryEntry.name_injective

/-- An IPv4 address and its mapped form, and the rings of two identifiers, have different names
throughout. -/
theorem names_told_apart_mapped :
    ["10.0.0.2", "::ffff:10.0.0.2", "lock", "last_reserved_ip.0", "last_reserved_ip.1",
      ".10.0.0.2.tmp", ".::ffff:10.0.0.2.tmp", ".last_reserved_ip.0.tmp",
      ".last_reserved_ip.1.tmp"].Nodup := by
  have names : recordNames [.v4 0x0a000002, .v6 0xffff0a000002] ++
      otherNames [.v4 0x0a000002, .v6 0xffff0a000002] ["0", "1"] =
      ["10.0.0.2", "::ffff:10.0.0.2", "lock", "last_reserved_ip.0", "last_reserved_ip.1",
        ".10.0.0.2.tmp", ".::ffff:10.0.0.2.tmp", ".last_reserved_ip.0.tmp",
        ".last_reserved_ip.1.tmp"] := by decide
  rw [← names]
  exact (names_told_apart.2.2.2 _ _).2 (by decide) (by decide)

end AddressPool
