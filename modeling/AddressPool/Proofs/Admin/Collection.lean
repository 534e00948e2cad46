import AddressPool.Proofs.Admin.LiveOwners
import AddressPool.Proofs.Allocation.Releases
import AddressPool.Proofs.Files.Locality
import AddressPool.Proofs.Store.Listing

/-!
# Collecting what dead owners hold

A collection from the command line releases exactly the reservations of owners that are not live,
and says so line by line.  If nobody is live it refuses to do anything, before it has read a
configuration or opened a store, unless it is told that this is meant.  Both are one statement
(`gc_is_exact`), from the arguments and the text of the live file up to the lines that are printed
and the listing of the store afterwards.

Nothing but programs on the store has written into its directory, whatever has become of the files
elsewhere (`Site.Untampered`): the configuration and the live file are written by others, at any
time.
-/

namespace AddressPool

set_option autoImplicit false

open FileTree (SameUnder)

variable {memory : Memory}

/-! ## Directories that only programs have written into -/

/-- What a directory holds does not depend on what is elsewhere. -/
theorem Mirrors.of_sameUnder {disk : Disk} {left right : FileTree} {location : Location}
    {locked : Bool} (mirrors : Mirrors disk left location locked memory)
    (leads : right.LeadsTo disk.directory location) (same : SameUnder location left right) :
    Mirrors disk right location locked memory where
  pictures :=
    { leads
      listed := by
        rw [FileTree.Listed, same.names]
        exact mirrors.pictures.listed
      entry := fun file => (same.entryAt_name _).trans (mirrors.pictures.entry file)
      others := fun name other => (same.entryAt_name _).trans (mirrors.pictures.others name other)
      reachable := mirrors.pictures.reachable }
  unbroken := mirrors.unbroken

namespace Site

variable {site : Site}

/-- The directory of the network is as nothing but programs on the store have left it: somewhere
else the files may be others. -/
def Untampered (site : Site) : Prop :=
  ∃ tree : FileTree, Written { site with tree } ∧ ∀ location,
    tree.LeadsTo site.directory location →
      site.tree.LeadsTo site.directory location ∧ SameUnder location tree site.tree

theorem Written.untampered (written : site.Written) : site.Untampered :=
  ⟨site.tree, written, fun location leads => ⟨leads, .refl location site.tree⟩⟩

theorem Untampered.holds (untampered : site.Untampered) : ∃ memory, site.Holds memory := by
  obtain ⟨tree, written, agree⟩ := untampered
  obtain ⟨memory, holds⟩ := written.holds
  obtain ⟨dataDirectory, network, backend, now⟩ := site
  change Site.Holds ⟨dataDirectory, network, backend, tree⟩ memory at holds
  cases holds with
  | memory => exact ⟨_, .memory ..⟩
  | disk valid location locked mirrors =>
    obtain ⟨leads, same⟩ := agree location mirrors.pictures.leads
    exact ⟨memory, .disk valid location locked (mirrors.of_sameUnder leads same)⟩

end Site

namespace Admin

variable {path : String} {ready tree : FileTree} {config : Config} {site : Site}

/-! ## What is printed -/

/-- The line for a reservation that has been released. -/
def releasedLine (reservation : Reservation) : String := "released " ++ reservationLine reservation

/-- The lines of a collection: one for each reservation that is gone, and the counts. -/
def collectionLines (gone kept : List Reservation) : List String :=
  gone.map releasedLine ++
    [toString gone.length ++ " released, " ++ toString kept.length ++ " kept"]

/-- The site with the files that a program on its store has left. -/
theorem Opens.with_tree (opens : Opens path ready config site) {α : Type}
    (program : StoreProgram α) :
    { site with tree := (site.run program).2.tree } = (site.run program).2 := by
  obtain ⟨lockTimeout, backend⟩ := opens.backend
  obtain ⟨dataDirectory, network, kind, now⟩ := site
  obtain rfl : kind = .disk ⟨Path.join dataDirectory network, lockTimeout⟩ := backend
  rw [Site.run_mk_disk]

/-- A sweep of a store is printed in full, and leaves the reservations of the owners it is given. -/
theorem sweepStore_run (holds : site.Holds memory) (willing : ¬ site.Refuses .lock)
    (config : Config) (owners : List String) :
    (site.run (sweepStore config owners)).1 =
        .all (collectionLines
          (memory.reservations.filter fun other => decide (other.owner ∉ owners))
          (memory.reservations.filter fun other => decide (other.owner ∈ owners))) ∧
      (site.run (sweepStore config owners)).2.Holds
        (memory.keep fun other => decide (other.owner ∈ owners)) := by
  obtain ⟨told, held⟩ := holds.sweep willing owners
  rw [sweepStore, Site.run_bind, told]
  show (Site.run (site.run (sweep owners)).2 (pure _)).1 = _ ∧
    (Site.run (site.run (sweep owners)).2 (pure _)).2.Holds _
  rw [Site.run_pure]
  exact ⟨rfl, held⟩

/-- A sweep of a store that cannot be locked fails, and the store holds what it has held. -/
theorem sweepStore_refused (holds : site.Holds memory) (refuse : site.Refuses .lock)
    (config : Config) (owners : List String) :
    (∃ cause, (site.run (sweepStore config owners)).1 = .failed (.sweep config.network cause)) ∧
      (site.run (sweepStore config owners)).2.Holds memory := by
  obtain ⟨fault, locked⟩ := holds.lock_refused refuse
  have failed : (site.run (sweep owners)).1 = .error fault := by
    rw [sweep, Site.run_bind, locked]
    exact congrArg Prod.fst (Site.run_pure _ _)
  obtain ⟨after, run, held⟩ := holds.run (sweep owners)
  rw [failed] at run
  rcases sweep_outcome run with ⟨_, _, rfl⟩ | ⟨told, _⟩
  · rw [sweepStore, Site.run_bind, failed]
    show (∃ cause, (Site.run (site.run (sweep owners)).2 (pure _)).1 = _) ∧
      (Site.run (site.run (sweep owners)).2 (pure _)).2.Holds _
    rw [Site.run_pure]
    exact ⟨⟨fault, rfl⟩, held⟩
  · cases told

end Admin

/-! ## The main result -/

open Admin

/-- **A collection is exact, and guarded.**

An owner is live who is given by an argument or listed in the live file.  If nobody is live, and it
is not said that this is meant, then the run fails and every file is as it was.  Otherwise, with a
store whose directory only programs on it have written into, there is one line for each reservation
of an owner who is not live, in the order of addresses, and the counts of those that are gone and of
those that are kept; afterwards the store lists the reservations of the live owners, and tells the
same of every cursor.  Only a lock that cannot be had is in the way of that; then the run fails, and
nothing is released. -/
theorem gc_is_exact {arguments live : List String} {path text : String}
    {liveFile log : Option String} {allowEmpty : Bool} {tree ready : FileTree}
    (asked : wish arguments = .run ⟨.gc path live liveFile allowEmpty, log⟩)
    (logged : LogOpened log tree ready) (told : LiveText ready liveFile text) :
    let outcome := (run arguments).run FileTree.answer tree
    ((∀ owner, ¬ IsLive live text owner) → allowEmpty = false →
      outcome = (⟨[], .failure .noLiveOwners⟩, ready)) ∧
    (allowEmpty = true ∨ (∃ owner, IsLive live text owner) →
      ∀ config site, Opens path ready config site → site.Untampered →
        let later : Site := { site with tree := outcome.2 }
        ∃ listed, site.listing = .ok listed ∧ AscendingAddresses listed ∧
          let gone := listed.filter fun other => decide ¬ IsLive live text other.owner
          let kept := listed.filter fun other => decide (IsLive live text other.owner)
          (¬ site.Refuses .lock →
            outcome.1 = ⟨collectionLines gone kept, .success⟩ ∧ later.listing = .ok kept) ∧
          (site.Refuses .lock →
            (∃ cause, outcome.1 = ⟨[], .failure (.sweep config.network cause)⟩) ∧
              later.listing = .ok listed) ∧
          ∀ id, (later.run (StoreRequest.cursor id).ask).1 =
            (site.run (StoreRequest.cursor id).ask).1) := by
  intro outcome
  have ran := run_command asked logged
  constructor
  · intro nobody unmeant
    subst unmeant
    rw [gc_refused told nobody] at ran
    exact ran
  · intro meant config site opens untampered later
    obtain ⟨owners, members, collected⟩ := gc_run told meant opens
    obtain ⟨memory, holds⟩ := untampered.holds
    have dead : (fun other : Reservation => decide (other.owner ∉ owners)) =
        fun other => decide ¬ IsLive live text other.owner := by
      funext other
      simp only [members]
    have alive : (fun other : Reservation => decide (other.owner ∈ owners)) =
        fun other => decide (IsLive live text other.owner) := by
      funext other
      simp only [members]
    rw [collected] at ran
    have printed : outcome.1 = (site.run (sweepStore config owners)).1.outcome :=
      congrArg Prod.fst ran
    have files : outcome.2 = (site.run (sweepStore config owners)).2.tree := congrArg Prod.snd ran
    have left : later = (site.run (sweepStore config owners)).2 := by
      simp only [later, files]
      exact opens.with_tree _
    rw [left, printed]
    refine ⟨memory.reservations, holds.reservations, memory.ascending, ?_, ?_, ?_⟩
    · intro willing
      obtain ⟨lines, held⟩ := sweepStore_run holds willing config owners
      rw [dead, alive] at lines
      rw [alive] at held
      rw [lines]
      exact ⟨rfl, held.reservations⟩
    · intro refuse
      obtain ⟨⟨cause, failed⟩, held⟩ := sweepStore_refused holds refuse config owners
      rw [failed]
      exact ⟨⟨cause, rfl⟩, held.reservations⟩
    · by_cases refuse : site.Refuses .lock
      · exact holds.cursors_same (sweepStore_refused holds refuse config owners).2 fun _ => rfl
      · exact holds.cursors_same (sweepStore_run holds refuse config owners).2 fun _ => rfl

/-- A configuration of the network `net`. -/
def Site.netConfig : String :=
  "\x7b\"name\":\"net\",\"ranges\":[[\x7b\"subnet\":\"10.0.0.0/29\"\x7d]],\"store\":" ++
    "\x7b\"type\":\"disk\",\"dataDir\":\"/d\"\x7d\x7d"

/-- A store on disk for the network `net`, with a configuration for it and a live file. -/
def Site.netWithLive (text : String) : Site :=
  { Site.vacantNet with
    tree := ⟨[(["c"], .ofText Site.netConfig), (["live"], .ofText text)] ++
      Site.vacantNet.tree.entries⟩ }

/-- A live file with line breaks of both kinds. -/
def Site.netLive : String := "# running\r\n\n  c \r\nb\n"

/-- Two owners hold an address each, and the live file names one of them. -/
def Site.netInUse : Site :=
  (((Site.netWithLive Site.netLive).run (Ring.slash29.get "a" "eth0" none)).2.run
    (Ring.slash29.get "b" "eth0" none)).2

/-- A collection with that configuration and the live file. -/
def Admin.collectNet : FileProgram Outcome :=
  run ["gc", "--config", "/c", "--live-file", "/live"]

/-- A tree is the one of its entries. -/
theorem FileTree.eq_mk {tree : FileTree} {entries : List (Location × Entry)}
    (same : tree.entries = entries) : tree = ⟨entries⟩ := by
  rw [← same]

namespace Site

theorem begun_netWithLive (text : String) : (netWithLive text).Begun :=
  .disk _ (by decide) rfl rfl

theorem written_netInUse : netInUse.Written := .run (.run (.begun (begun_netWithLive _)) _) _

theorem files_netInUse : netInUse.tree =
    ⟨[(["last_reserved_ip.0", "net", "d"], .ofText "10.0.0.3"),
      (["10.0.0.3", "net", "d"], .ofText "b\neth0"), (["lock", "net", "d"], .ofText ""),
      (["10.0.0.2", "net", "d"], .ofText "a\neth0")] ++ (netWithLive netLive).tree.entries⟩ := by
  refine FileTree.eq_mk ?_
  decide +kernel

theorem netInUse_eq : netInUse = { vacantNet with tree := netInUse.tree } := by
  simp only [netInUse, netWithLive, vacantNet, run_mk_disk]

theorem willing_netInUse : ¬ netInUse.Refuses .lock := by
  rw [netInUse_eq]
  show ¬ Disk.Refuses ⟨Path.join "/d" "net", _⟩ .lock
  exact Disk.not_refuses roomy_vacantNet trivial

theorem listing_netInUse : netInUse.listing =
    .ok [⟨.v4 0x0a000002, "a", "eth0"⟩, ⟨.v4 0x0a000003, "b", "eth0"⟩] := by
  rw [netInUse_eq, files_netInUse]
  decide +kernel

theorem live_netInUse : LiveText netInUse.tree (some "/live") netLive := by
  refine ⟨["live"], false, ?_⟩
  rw [files_netInUse]
  decide +kernel

/-- Where that configuration and the directory of the network stand, the store is opened. -/
theorem exists_opens_net {tree : FileTree}
    (configured : tree.locate "/c" = .ok (["c"], .file netConfig.toUTF8 false))
    (leads : tree.LeadsTo (Path.join "/d" "net") ["net", "d"]) :
    ∃ config, Opens "/c" tree config { vacantNet with tree } := by
  have facts : (Config.ofText netConfig).toOption.map
      (fun config => (config.network, config.settings)) =
        some ("net", .disk "/d" (.ofMilliseconds 10000)) := by
    decide +kernel
  obtain ⟨config, found, same⟩ := Option.map_eq_some_iff.mp facts
  obtain ⟨network, settings⟩ := Prod.mk.inj same
  have read : Config.ofText netConfig = .ok config := by
    cases loaded : Config.ofText netConfig with
    | error =>
      rw [loaded] at found
      cases found
    | ok other =>
      rw [loaded] at found
      rw [Option.some.inj found]
  have opens := Opens.of_files configured read settings (by rw [network]; decide)
    (by rw [network]; exact leads)
  rw [network] at opens
  exact ⟨config, opens⟩

theorem exists_opens_netInUse : ∃ config, Opens "/c" netInUse.tree config netInUse := by
  have configured : netInUse.tree.locate "/c" = .ok (["c"], .file netConfig.toUTF8 false) := by
    rw [files_netInUse]
    decide +kernel
  have leads : netInUse.tree.locate (Path.join "/d" "net") = .ok (["net", "d"], .directory) := by
    rw [files_netInUse]
    decide +kernel
  have opens := exists_opens_net configured leads
  rwa [← netInUse_eq] at opens

theorem asked_collectNet : wish ["gc", "--config", "/c", "--live-file", "/live"] =
    .run ⟨.gc "/c" [] (some "/live") false, none⟩ := by
  decide +kernel

end Site

/-- The owner who is not named in the live file is released. -/
theorem gc_is_exact_net :
    (collectNet.run FileTree.answer Site.netInUse.tree).1 =
        ⟨["released 10.0.0.2\ta\teth0", "1 released, 1 kept"], .success⟩ ∧
      Site.listing { Site.netInUse with
          tree := (collectNet.run FileTree.answer Site.netInUse.tree).2 } =
        .ok [⟨.v4 0x0a000003, "b", "eth0"⟩] := by
  have meant : IsLive [] Site.netLive "b" := by decide +kernel
  obtain ⟨config, opens⟩ := Site.exists_opens_netInUse
  obtain ⟨_, collected⟩ := gc_is_exact Site.asked_collectNet rfl Site.live_netInUse
  obtain ⟨listed, told, _, done, _⟩ :=
    collected (.inr ⟨_, meant⟩) config Site.netInUse opens Site.written_netInUse.untampered
  obtain rfl := Except.ok.inj (told.symm.trans Site.listing_netInUse)
  obtain ⟨printed, left⟩ := done Site.willing_netInUse
  have gone : [Reservation.mk (.v4 0x0a000002) "a" "eth0", ⟨.v4 0x0a000003, "b", "eth0"⟩].filter
      (fun other => decide ¬ IsLive [] Site.netLive other.owner) =
        [⟨.v4 0x0a000002, "a", "eth0"⟩] := by
    decide +kernel
  have kept : [Reservation.mk (.v4 0x0a000002) "a" "eth0", ⟨.v4 0x0a000003, "b", "eth0"⟩].filter
      (fun other => decide (IsLive [] Site.netLive other.owner)) =
        [⟨.v4 0x0a000003, "b", "eth0"⟩] := by
    decide +kernel
  have lines : collectionLines [⟨.v4 0x0a000002, "a", "eth0"⟩] [⟨.v4 0x0a000003, "b", "eth0"⟩] =
      ["released 10.0.0.2\ta\teth0", "1 released, 1 kept"] := by
    decide +kernel
  rw [gone, kept, lines] at printed
  rw [kept] at left
  rw [collectNet]
  exact ⟨printed, left⟩

end AddressPool
