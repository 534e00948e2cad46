import AddressPool.Config
import AddressPool.Proofs.Allocation.Turns
import AddressPool.Proofs.Store.Traces

/-!
# Where a cursor comes from

The rings of a configuration share one store, which keeps a cursor for each of them.  The
cursor of a ring is moved by a scan of this ring that reserves an address, and it is moved
to this address.  Nothing else that can be done with the rings of the configuration moves
it or takes it away, be it a request for a certain address, a scan that finds what the
owner holds already, a call that fails, a release, a sweep, or whatever is done for
another ring (`Site.Does.lookup_eq`, `Site.Holds.cursorOf_call`).

So behind any calls the cursor of a ring is the address that the last such scan has handed
out, and what it was at first if there has been none (`cursor_is_last_scanned`).
-/

namespace AddressPool

set_option autoImplicit false

/-! ## Rings and their identifiers -/

namespace Config

variable {config : Config} {ring left right : Ring}

/-- The identifier of a ring is the numeral of its place. -/
theorem exists_numeral (member : ring ∈ config.rings) :
    ∃ index : Nat, config.rings[index]? = some ring ∧ ring.id.toList = Nat.toDigits 10 index := by
  obtain ⟨index, placed⟩ := List.getElem?_of_mem member
  refine ⟨index, placed, ?_⟩
  rw [(config.numbered index ring placed).1]
  exact Nat.toList_repr

/-- The identifier of a ring can be part of a name. -/
theorem plainId_id (member : ring ∈ config.rings) : PlainId ring.id := by
  obtain ⟨index, _, numeral⟩ := exists_numeral member
  have digits : ∀ char ∈ ring.id.toList, char.isDigit = true := by
    intro char within
    rw [numeral] at within
    exact Nat.isDigit_of_mem_toDigits (by decide) (by decide) within
  refine ⟨fun slash => ?_, fun null => ?_⟩
  · exact absurd (digits _ slash) (by decide)
  · exact absurd (digits _ null) (by decide)

/-- No two rings have one identifier. -/
theorem ring_of_id (here : left ∈ config.rings) (there : right ∈ config.rings)
    (same : left.id = right.id) : left = right := by
  obtain ⟨index, placed, numeral⟩ := exists_numeral here
  obtain ⟨other, behind, also⟩ := exists_numeral there
  rw [same, also] at numeral
  -- A numeral is read back as the place that it is written for.
  have read := Numeral.readFrom_toDigits (show 1 < 10 by decide) (by decide) other
  rw [numeral, Numeral.readFrom_toDigits (by decide) (by decide)] at read
  obtain rfl := Option.some.inj read
  exact Option.some.inj (placed.symm.trans behind)

/-- Calls on the rings of a configuration. -/
def Uses (config : Config) : Call → Prop
  | .get ring _ _ _ => ring ∈ config.rings
  | .release ring _ => ring ∈ config.rings
  | .lookup ring _ _ => ring ∈ config.rings
  | .sweep _ => True
  | .reopen _ => True

end Config

/-! ## One call -/

namespace Site

variable {config : Config} {site : Site} {ring : Ring} {memory after : Memory} {call : Call}
variable {calls : List Call} {address : Address}

/-- What the store tells of the cursor of a ring. -/
def cursorOf (site : Site) (ring : Ring) : Except StoreError (Option Address) :=
  (site.run (StoreRequest.cursor ring.id).ask).1

/-- **The cursor of a ring stays where it is, unless the ring is scanned for a new address.** -/
theorem Does.lookup_eq (does : site.Does memory call after) (holds : site.Holds memory)
    (uses : config.Uses call) (member : ring ∈ config.rings)
    (idle : ∀ address, ¬ site.ScansAnew ring call address) :
    after.cursors.lookup ring.id = memory.cursors.lookup ring.id := by
  cases does with
  | other thinned => rw [thinned.cursors]
  | @get asked owner interface _ _ _ told outcome =>
    cases outcome with
    | failed | again | owned | reserved => rfl
    | @scanned allocation _ _ next =>
      rw [Ring.handOut, Memory.lookup_putCursor, if_neg]
      · rfl
      · intro same
        obtain rfl := Config.ring_of_id member uses same
        have free := holds.not_reserved_iff.mpr (Ring.free_of_next next)
        exact idle allocation.address ⟨owner, interface, allocation, rfl, told, rfl, free⟩

/-- What is told of a cursor depends on the cursor only, whatever has been called. -/
theorem Holds.cursorOf_same (holds : site.Holds memory) (held : (site.call call).Holds after)
    (slashless : '/' ∉ ring.id.toList)
    (same : after.cursors.lookup ring.id = memory.cursors.lookup ring.id) :
    (site.call call).cursorOf ring = site.cursorOf ring := by
  cases call with
  | get | release | lookup | sweep => exact holds.cursor_same held slashless same
  | reopen lockTimeout =>
    cases holds with
    | memory => rfl
    | disk valid location locked mirrors =>
      rw [Site.call, Site.reopen, cursorOf, cursorOf]
      simp only [openFor_run valid mirrors.pictures.leads]
      rw [run_ask_disk, run_ask_disk]
      rfl

/-- **A scan for a new address makes the address the cursor; any other call leaves the cursor of
the ring as it is.** -/
theorem Holds.cursorOf_call (holds : site.Holds memory) (uses : config.Uses call)
    (member : ring ∈ config.rings) :
    (∀ address, site.ScansAnew ring call address →
        (site.call call).cursorOf ring = .ok (some address)) ∧
      ((∀ address, ¬ site.ScansAnew ring call address) →
        (site.call call).cursorOf ring = site.cursorOf ring) := by
  constructor
  · intro address scans
    obtain ⟨_, after, held, moved⟩ := holds.scansAnew scans
    exact held.cursor_of_lookup moved
  · intro idle
    obtain ⟨after, held, does⟩ := holds.call call
    exact holds.cursorOf_same held (Config.plainId_id member).1
      (does.lookup_eq holds uses member idle)

/-! ## Runs of calls -/

/-- No call of a run is a scan of the ring that reserves an address anew. -/
def NeverScans (site : Site) (ring : Ring) (calls : List Call) : Prop :=
  ∀ front call back, calls = front ++ call :: back →
    ∀ address, ¬ (site.callAll front).ScansAnew ring call address

/-- The last call of a run that is a scan of the ring and reserves an address anew reserves this
one. -/
def LastScanned (site : Site) (ring : Ring) (calls : List Call) (address : Address) : Prop :=
  ∃ before scan behind, calls = before ++ scan :: behind ∧
    (site.callAll before).ScansAnew ring scan address ∧
      ((site.callAll before).call scan).NeverScans ring behind

theorem neverScans_cons :
    site.NeverScans ring (call :: calls) ↔
      (∀ address, ¬ site.ScansAnew ring call address) ∧
        (site.call call).NeverScans ring calls := by
  constructor
  · intro never
    refine ⟨never [] call calls rfl, ?_⟩
    intro front other back shape
    exact never (call :: front) other back (congrArg (call :: ·) shape)
  · rintro ⟨here, later⟩ front other back shape
    cases front with
    | nil =>
      obtain ⟨rfl, rfl⟩ := List.cons.inj shape
      exact here
    | cons first front =>
      obtain ⟨rfl, rfl⟩ := List.cons.inj shape
      exact later front other back rfl

/-- A run has a last scan that reserves an address anew, or none at all. -/
theorem neverScans_or_lastScanned (site : Site) (ring : Ring) (calls : List Call) :
    site.NeverScans ring calls ∨ ∃ address, site.LastScanned ring calls address := by
  induction calls generalizing site with
  | nil =>
    refine .inl fun front call back shape => ?_
    exact absurd shape.symm (List.append_ne_nil_of_right_ne_nil _ (List.cons_ne_nil _ _))
  | cons call rest ih =>
    rcases ih (site.call call) with never | ⟨address, before, scan, behind, rfl, scans, never⟩
    · by_cases here : ∃ address, site.ScansAnew ring call address
      · obtain ⟨address, scans⟩ := here
        exact .inr ⟨address, [], call, rest, rfl, scans, never⟩
      · exact .inl (neverScans_cons.mpr ⟨not_exists.mp here, never⟩)
    · exact .inr ⟨address, call :: before, scan, behind, rfl, scans, never⟩

/-- While the ring is not scanned for a new address, its cursor stays where it is. -/
theorem Holds.cursorOf_callAll (holds : site.Holds memory)
    (uses : ∀ call ∈ calls, config.Uses call) (member : ring ∈ config.rings)
    (never : site.NeverScans ring calls) :
    (site.callAll calls).cursorOf ring = site.cursorOf ring := by
  induction calls generalizing site memory with
  | nil => rfl
  | cons call rest ih =>
    obtain ⟨used, later⟩ := List.forall_mem_cons.mp uses
    obtain ⟨idle, further⟩ := neverScans_cons.mp never
    obtain ⟨middle, held, _⟩ := holds.call call
    exact (ih held later further).trans ((holds.cursorOf_call used member).2 idle)

end Site

/-! ## The main result -/

/-- **The cursor of a ring is the address that has been scanned last.**

On a store in memory with any content, or on disk with an empty directory, calls are made
on the rings of a configuration, in any order and whether they succeed or not.  Behind
them the cursor of each ring is the address that the last scan of this very ring to
reserve an address has handed out, and it is what it was at first if there has been no
such scan.  Any call but such a scan leaves it as it is. -/
theorem cursor_is_last_scanned (config : Config) {site : Site} (begun : site.Begun)
    {calls : List Call} (uses : ∀ call ∈ calls, config.Uses call) {ring : Ring}
    (member : ring ∈ config.rings) :
    (site.NeverScans ring calls ∧ (site.callAll calls).cursorOf ring = site.cursorOf ring ∨
        ∃ address, site.LastScanned ring calls address ∧
          (site.callAll calls).cursorOf ring = .ok (some address)) ∧
      ∀ call, config.Uses call →
        (∀ address, ¬ (site.callAll calls).ScansAnew ring call address) →
          ((site.callAll calls).call call).cursorOf ring = (site.callAll calls).cursorOf ring := by
  have written := Site.Written.begun begun
  obtain ⟨start, holds⟩ := begun.holds
  constructor
  · rcases site.neverScans_or_lastScanned ring calls with never | ⟨address, last⟩
    · exact .inl ⟨never, holds.cursorOf_callAll uses member never⟩
    · refine .inr ⟨address, last, ?_⟩
      obtain ⟨before, scan, behind, rfl, scans, never⟩ := last
      obtain ⟨_, used⟩ := List.forall_mem_append.mp uses
      obtain ⟨scanning, later⟩ := List.forall_mem_cons.mp used
      obtain ⟨memory, here⟩ := (written.callAll before).holds
      obtain ⟨middle, held, _⟩ := here.call scan
      have shape : site.callAll (before ++ scan :: behind) =
          ((site.callAll before).call scan).callAll behind := List.foldl_append
      rw [shape, held.cursorOf_callAll later member never]
      exact (here.cursorOf_call scanning member).1 address scans
  · intro call used idle
    obtain ⟨memory, here⟩ := (written.callAll calls).holds
    exact (here.cursorOf_call used member).2 idle

/-- Both rings of a configuration are scanned, the first one again in vain, one of its addresses is
requested, and everybody is swept away.  The cursor of the first ring is what it was scanned for. -/
theorem cursor_is_last_scanned_two_rings :
    let text := "[\"net\",[[[\"10.0.0.0/29\"]],[[\"10.0.1.0/29\"]]]]"
    ∃ config first second, Config.ofText text = .ok config ∧ first ∈ config.rings ∧
      second ∈ config.rings ∧
        let calls : List Call := [.get first "a" "eth0" none, .get second "b" "eth0" none,
          .get first "a" "eth0" none, .get first "c" "eth0" (some (.v4 0x0a000005)), .sweep []]
        Site.vacantNet.Begun ∧ (∀ call ∈ calls, config.Uses call) ∧
          Site.vacantNet.LastScanned first calls (.v4 0x0a000002) ∧
          (Site.vacantNet.callAll calls).cursorOf first = .ok (some (.v4 0x0a000002)) ∧
          ((Site.vacantNet.callAll calls).call (.get second "d" "eth0" none)).cursorOf first =
            (Site.vacantNet.callAll calls).cursorOf first := by
  intro text
  have run : ((Config.ofText text).toOption.bind fun config =>
      config.rings[0]?.bind fun first => config.rings[1]?.map fun second =>
        let calls : List Call := [.get first "a" "eth0" none, .get second "b" "eth0" none,
          .get first "a" "eth0" none, .get first "c" "eth0" (some (.v4 0x0a000005)), .sweep []]
        (decide (first.id = second.id), Site.vacantNet.cursorOf first,
          (Site.vacantNet.callAll calls).cursorOf first)) =
      some (false, .ok none, .ok (some (.v4 0x0a000002))) := by
    decide +kernel
  cases accepted : Config.ofText text with
  | error error =>
    rw [accepted] at run
    cases run
  | ok config =>
    rw [accepted] at run
    change (config.rings[0]?.bind _) = _ at run
    obtain ⟨first, placed, further⟩ := Option.bind_eq_some_iff.mp run
    obtain ⟨second, behind, found⟩ := Option.map_eq_some_iff.mp further
    obtain ⟨different, rest⟩ := Prod.mk.inj found
    obtain ⟨initial, final⟩ := Prod.mk.inj rest
    have one := List.mem_of_getElem? placed
    have two := List.mem_of_getElem? behind
    refine ⟨config, first, second, rfl, one, two, ?_⟩
    intro calls
    have uses : ∀ call ∈ calls, config.Uses call := by
      simp only [calls, List.forall_mem_cons]
      exact ⟨one, two, one, one, trivial, List.forall_mem_nil _⟩
    obtain ⟨history, stays⟩ := cursor_is_last_scanned config Site.begun_vacantNet uses one
    refine ⟨Site.begun_vacantNet, uses, ?_, final, stays (.get second "d" "eth0" none) two ?_⟩
    · rcases history with ⟨_, same⟩ | ⟨address, last, told⟩
      · rw [final, initial] at same
        cases same
      · rw [final] at told
        cases told
        exact last
    · rintro address ⟨_, _, _, same, _⟩
      cases same
      exact of_decide_eq_false different rfl

end AddressPool
