import AddressPool.Admin.Outcome
import AddressPool.Proofs.Store.Site
import AddressPool.Proofs.Text.Lines

/-!
# Who is live, and what a collection runs

A collection is told the live owners by arguments and by a file.  The file lists an owner if in one
of its lines there are only blanks around the owner (`Admin.Lists`); so an owner who starts or ends
with a blank is not listed, and neither is one who starts with a number sign.
`Admin.mem_liveOwners_iff` says that the program reads just these owners from the text.

Run from the command line, a collection opens its log, reads the file, and then is either refused or
runs a sweep on the store that the configuration names (`Admin.gc_run`).
-/

namespace AddressPool.Admin

set_option autoImplicit false

/-! ## The owners that a text lists -/

/-- A text lists an owner. -/
structure Lists (text owner : String) : Prop where
  named : owner ≠ ""
  unmarked : owner.toList.head? ≠ some '#'
  solid : Text.Solid owner.toList
  line : ∃ line front back, Text.IsLine text.toList line ∧ Text.Blank front ∧ Text.Blank back ∧
    line = front ++ owner.toList ++ back

/-- **The owners that are read from a text are those that it lists.** -/
theorem mem_liveOwners_iff {text owner : String} :
    owner ∈ liveOwners text ↔ Lists text owner := by
  have read : owner ∈ liveOwners text ↔
      (∃ piece ∈ text.toList.splitOn '\n', Text.trim piece = owner.toList) ∧
        ¬ (owner.toList = [] ∨ owner.toList.head? = some '#') := by
    unfold liveOwners
    rw [List.mem_filterMap]
    constructor
    · rintro ⟨line, member, kept⟩
      obtain ⟨piece, there, rfl⟩ := List.mem_map.mp member
      split at kept
      · cases kept
      · rename_i meant
        obtain rfl := Option.some.inj kept
        rw [String.toList_ofList]
        exact ⟨⟨piece, there, rfl⟩, meant⟩
    · rintro ⟨⟨piece, there, trimmed⟩, meant⟩
      refine ⟨owner.toList, List.mem_map.mpr ⟨piece, there, trimmed⟩, ?_⟩
      rw [if_neg meant, String.ofList_toList]
  rw [read, ← Text.exists_line_iff, not_or, String.toList_eq_nil_iff]
  constructor
  · rintro ⟨⟨line, stands, trimmed⟩, named, unmarked⟩
    obtain ⟨solid, front, back, blank_front, blank_back, shape⟩ := Text.trim_eq_iff.mp trimmed
    exact ⟨named, unmarked, solid, line, front, back, stands, blank_front, blank_back, shape⟩
  · rintro ⟨named, unmarked, solid, line, front, back, stands, blank_front, blank_back, shape⟩
    have trimmed := Text.trim_eq_iff.mpr ⟨solid, front, back, blank_front, blank_back, shape⟩
    exact ⟨⟨line, stands, trimmed⟩, named, unmarked⟩

instance (text owner : String) : Decidable (Lists text owner) :=
  decidable_of_iff _ mem_liveOwners_iff

/-- An owner who stands alone in a line is listed. -/
theorem Lists.of_line {text owner : String} (named : owner ≠ "")
    (unmarked : owner.toList.head? ≠ some '#') (solid : Text.Solid owner.toList)
    (stands : Text.IsLine text.toList owner.toList) : Lists text owner := by
  refine ⟨named, unmarked, solid, owner.toList, [], [], stands, nofun, nofun, ?_⟩
  rw [List.nil_append, List.append_nil]

/-- The owners that are live by argument or by file. -/
def IsLive (live : List String) (text owner : String) : Prop := owner ∈ live ∨ Lists text owner

instance (live : List String) (text owner : String) : Decidable (IsLive live text owner) :=
  inferInstanceAs (Decidable (_ ∨ _))

/-! ## Reading the file -/

section Running

variable {tree ready : FileTree} {live : List String} {liveFile : Option String} {text : String}

/-- The text of the live file; without such a file there is none. -/
def LiveText (tree : FileTree) : Option String → String → Prop
  | none, text => text = ""
  | some path, text => ∃ place held, tree.locate path = .ok (place, .file text.toUTF8 held)

theorem readText_run {path : String} {place : Location} {held : Bool}
    (there : tree.locate path = .ok (place, .file text.toUTF8 held)) :
    (readText path).run FileTree.answer tree = (.ok text, tree) := by
  rw [readText, Program.run_bind, FileTree.run_ask, FileTree.answer, there]
  show (decodeText text.toUTF8, tree) = _
  rw [Pictures.decodeText_toUTF8]

/-- The live owners are gathered, and nothing is changed. -/
theorem gatherLive_run (live : List String) (told : LiveText tree liveFile text) :
    ∃ owners, (gatherLive live liveFile).run FileTree.answer tree = (.ok owners, tree) ∧
      ∀ owner, owner ∈ owners ↔ IsLive live text owner := by
  cases liveFile with
  | none =>
    obtain rfl : text = "" := told
    refine ⟨live, rfl, fun owner => ?_⟩
    have nobody : ¬ Lists "" owner := by
      rw [← mem_liveOwners_iff]
      exact List.not_mem_nil
    rw [IsLive, or_iff_left nobody]
  | some path =>
    obtain ⟨place, held, there⟩ := told
    refine ⟨live ++ liveOwners text, ?_, fun owner => ?_⟩
    · rw [gatherLive, Program.run_bind, readText_run there]
      rfl
    · rw [List.mem_append, mem_liveOwners_iff, IsLive]

/-! ## Opening the store -/

/-- The log file of an invocation is opened, if there is one. -/
def LogOpened : Option String → FileTree → FileTree → Prop
  | none, tree, ready => ready = tree
  | some directory, tree, ready => (openLog directory).run FileTree.answer tree = (.ok (), ready)

/-- A configuration is read from a file, and its store on disk is opened. -/
structure Opens (path : String) (ready : FileTree) (config : Config) (site : Site) : Prop where
  loaded : (Config.load path).run FileTree.answer ready = (.ok config, ready)
  opened : (Backend.openFor config.settings config.network).run FileTree.answer ready =
    (.ok site.backend, site.tree)
  network : site.network = config.network
  settings : ∃ lockTimeout, config.settings = .disk site.dataDirectory lockTimeout

variable {path : String} {config : Config} {site : Site}

/-- The store that is opened is on disk, in the directory of the network. -/
theorem Opens.backend (opens : Opens path ready config site) :
    ∃ lockTimeout, site.backend = .disk ⟨site.directory, lockTimeout⟩ := by
  obtain ⟨lockTimeout, settings⟩ := opens.settings
  have opened := opens.opened
  rw [settings, ← opens.network, Backend.openFor, Program.run_bind] at opened
  generalize ran : (Disk.openIn site.dataDirectory site.network lockTimeout).run FileTree.answer
    ready = reply at opened
  rw [Disk.openIn] at ran
  cases valid : Disk.isNetworkName site.network with
  | false =>
    rw [valid] at ran
    subst ran
    cases opened
  | true =>
    rw [valid] at ran
    change (makeDirectories site.directory _ >>= _ : FileProgram _).run FileTree.answer ready =
      _ at ran
    rw [Program.run_bind] at ran
    generalize (makeDirectories site.directory _).run FileTree.answer ready = made at ran
    obtain ⟨made, after⟩ := made
    cases made with
    | error =>
      subst ran
      cases opened
    | ok =>
      subst ran
      exact ⟨lockTimeout, (Except.ok.inj (congrArg Prod.fst opened)).symm⟩

/-- A configuration that stands in a file, and a directory that is there, are opened as they are. -/
theorem Opens.of_files {place location : Location} {held : Bool} {dataDirectory : String}
    {lockTimeout : Duration} (there : ready.locate path = .ok (place, .file text.toUTF8 held))
    (read : Config.ofText text = .ok config)
    (settings : config.settings = .disk dataDirectory lockTimeout)
    (valid : Disk.isNetworkName config.network = true)
    (leads : ready.LeadsTo (Path.join dataDirectory config.network) location) :
    Opens path ready config ⟨dataDirectory, config.network,
      .disk ⟨Path.join dataDirectory config.network, lockTimeout⟩, ready⟩ where
  loaded := by
    rw [Config.load, Program.run_bind, readText_run there]
    simp only [read]
    rfl
  opened := by
    rw [settings]
    exact openFor_run valid leads lockTimeout
  network := rfl
  settings := ⟨lockTimeout, settings⟩

/-- A program on the store of a configuration runs as on the site. -/
theorem Opens.onStore_run (opens : Opens path ready config site)
    (program : Config → StoreProgram Printed) :
    (onStore path program).run FileTree.answer ready =
      ((site.run (program config)).1, (site.run (program config)).2.tree) := by
  rw [onStore, Program.run_bind, opens.loaded]
  show (Backend.openFor config.settings config.network >>= _ : FileProgram _).run
    FileTree.answer ready = _
  rw [Program.run_bind, opens.opened]
  show (site.backend.perform (program config) >>= _ : FileProgram _).run FileTree.answer
    site.tree = _
  rw [Program.run_bind, Site.run]
  rfl

/-! ## Running the command -/

/-- What comes of a command, on the command line. -/
def Printed.outcome (printed : Printed) : Outcome :=
  ⟨printed.lines, match printed.failure with
    | none => .success
    | some error => .failure error⟩

/-- A command is run once the log file is opened. -/
theorem run_command {arguments : List String} {command : Command} {log : Option String}
    (asked : wish arguments = .run ⟨command, log⟩) (logged : LogOpened log tree ready) :
    (run arguments).run FileTree.answer tree =
      ((command.run.run FileTree.answer ready).1.outcome,
        (command.run.run FileTree.answer ready).2) := by
  have started : (run arguments).run FileTree.answer tree =
      (command.run >>= fun printed => pure printed.outcome : FileProgram _).run
        FileTree.answer ready := by
    rw [run, asked]
    show (Invocation.run ⟨command, log⟩).run FileTree.answer tree = _
    rw [Invocation.run]
    cases log with
    | none =>
      obtain rfl : ready = tree := logged
      rfl
    | some directory =>
      show (openLog directory >>= _ : FileProgram _).run FileTree.answer tree = _
      rw [Program.run_bind, logged]
      rfl
  rw [started, Program.run_bind]
  rfl

/-- **Without a live owner a collection is refused before anything is opened.** -/
theorem gc_refused (told : LiveText ready liveFile text)
    (nobody : ∀ owner, ¬ IsLive live text owner) :
    (Command.gc path live liveFile false).run.run FileTree.answer ready =
      (.failed .noLiveOwners, ready) := by
  obtain ⟨owners, gathered, members⟩ := gatherLive_run live told
  obtain rfl : owners = [] := by
    refine List.eq_nil_iff_forall_not_mem.mpr fun owner member => ?_
    exact nobody owner ((members owner).mp member)
  rw [Command.run, Program.run_bind, gathered]
  rfl

/-- Otherwise it is a sweep that spares the live owners, and its lines are printed. -/
theorem gc_run {allowEmpty : Bool} (told : LiveText ready liveFile text)
    (meant : allowEmpty = true ∨ ∃ owner, IsLive live text owner)
    (opens : Opens path ready config site) :
    ∃ owners, (∀ owner, owner ∈ owners ↔ IsLive live text owner) ∧
      (Command.gc path live liveFile allowEmpty).run.run FileTree.answer ready =
        ((site.run (sweepStore config owners)).1,
          (site.run (sweepStore config owners)).2.tree) := by
  obtain ⟨owners, gathered, members⟩ := gatherLive_run live told
  have goes : (owners.isEmpty && !allowEmpty) = false := by
    rcases meant with rfl | ⟨owner, live⟩
    · rw [Bool.not_true, Bool.and_false]
    · have filled := List.ne_nil_of_mem ((members owner).mpr live)
      rw [List.isEmpty_eq_false_iff.mpr filled, Bool.false_and]
  refine ⟨owners, members, ?_⟩
  rw [Command.run, Program.run_bind, gathered]
  show Program.run FileTree.answer (if (owners.isEmpty && !allowEmpty) = true then _
    else onStore path fun config => sweepStore config owners) ready = _
  rw [goes, if_neg Bool.false_ne_true]
  exact opens.onStore_run _

end Running

end AddressPool.Admin
