import AddressPool.Proofs.Config.Cursors
import AddressPool.Proofs.Files.Making
import AddressPool.Proofs.Store.Asking
import Mathlib.Logic.Function.Basic

/-!
# Stores that share a data directory

Any number of networks have their stores in one data directory.  A store is opened for a
network, as often as one likes, and then rings of configurations hand out addresses from
it, it is swept, or it is asked directly (`Operation`).

Every network has a directory of its own, a child of the data directory that bears the name
of the network.  It is made when the store is opened, together with its parents, and nothing
else is changed (`SharedDirectory.opening_confines`).  What is done with the store from then
on changes nothing outside of this directory (`SharedDirectory.Housed.use`), and it comes to
the same wherever the directory holds the same things (`SharedDirectory.use_inStep`).
-/

namespace AddressPool

set_option autoImplicit false

open AddressPool.Path (Plain)
open FileTree (SameUnder Confined InStep Grows KeepsDirectories)

/-! ## Operations -/

/-- What an operation comes to. -/
inductive Reply where
  | closed
  | opened (result : Except StoreError Disk)
  | granted (result : Except AllocationError Allocation)
  | released (result : Except AllocationError Nat)
  | found (result : Except AllocationError (List Allocation))
  | swept (result : Except StoreError SweepReport)
  | answered (request : StoreRequest) (answer : request.Answer)

/-- What can be done with a store that has been opened. -/
inductive StoreUse where
  | get (ring : Ring) (owner interface : String) (requested : Option Address)
  | release (ring : Ring) (owner : String)
  | lookup (ring : Ring) (owner interface : String)
  | sweep (live : List String)
  | ask (request : StoreRequest)

/-- What can be done with a network: its store is opened, or used if it has been opened. -/
inductive Operation where
  | opening (lockTimeout : Duration)
  | use (use : StoreUse)

/-- The reply that a store could not be opened. -/
def Reply.isRefusal : Reply → Bool
  | .opened (.error _) => true
  | _ => false

namespace StoreUse

/-- What is done with the store. -/
def program : StoreUse → StoreProgram Reply
  | .get ring owner interface requested =>
    return .granted (← ring.get owner interface requested)
  | .release ring owner => return .released (← ring.release owner)
  | .lookup ring owner interface => return .found (← ring.lookup owner interface)
  | .sweep live => return .swept (← AddressPool.sweep live)
  | .ask request => return .answered request (← request.ask)

/-- The rings that are used are those of configurations, and cursors are asked for under
identifiers that can be part of a name, as those of such rings are. -/
def Proper : StoreUse → Prop
  | .get ring _ _ _ => ∃ config : Config, ring ∈ config.rings
  | .release ring _ => ∃ config : Config, ring ∈ config.rings
  | .lookup ring _ _ => ∃ config : Config, ring ∈ config.rings
  | .sweep _ => True
  | .ask request => request.PlainCursor

theorem program_asksOnly {use : StoreUse} (proper : use.Proper) :
    use.program.AsksOnly StoreRequest.PlainCursor := by
  cases use with
  | get ring owner interface requested =>
    obtain ⟨config, member⟩ := proper
    have permitted := ring.permitted_plainCursor (Config.plainId_id member) owner interface
    exact (Ring.anyGet_asksOnly permitted requested).bind fun _ => trivial
  | release ring owner =>
    have asks : (ring.release owner).AsksOnly StoreRequest.PlainCursor :=
      ring.release_asksOnly trivial trivial
    exact asks.bind fun _ => trivial
  | lookup ring owner interface =>
    obtain ⟨config, member⟩ := proper
    have permitted := ring.permitted_plainCursor (Config.plainId_id member) owner interface
    exact (Ring.lookup_asksOnly permitted).bind fun _ => trivial
  | sweep live =>
    have asks : (AddressPool.sweep live).AsksOnly StoreRequest.PlainCursor :=
      sweep_asksOnly trivial trivial (fun _ => trivial) live
    exact asks.bind fun _ => trivial
  | ask request =>
    have asks : request.ask.AsksOnly StoreRequest.PlainCursor := StoreRequest.ask_asksOnly proper
    exact asks.bind fun _ => trivial

end StoreUse

/-- Stores are opened at any time, and used as proper uses are. -/
def Operation.Proper : Operation → Prop
  | .opening _ => True
  | .use kind => kind.Proper

/-- The entries that belong to one network. -/
def ofNetwork {α : Type} (name : String) (entries : List (String × α)) : List (String × α) :=
  entries.filter fun entry => decide (entry.1 = name)

theorem ofNetwork_cons_self {α : Type} (name : String) (value : α) (rest : List (String × α)) :
    ofNetwork name ((name, value) :: rest) = (name, value) :: ofNetwork name rest :=
  List.filter_cons_of_pos (decide_eq_true rfl)

theorem ofNetwork_cons_of_ne {α : Type} {name other : String} (different : other ≠ name)
    (value : α) (rest : List (String × α)) :
    ofNetwork name ((other, value) :: rest) = ofNetwork name rest :=
  List.filter_cons_of_neg (by simpa using different)

/-! ## Data directories -/

/-- The stores in a data directory that have been opened, and the files. -/
structure SharedDirectory (path : String) where
  stores : String → Option Disk
  tree : FileTree

namespace SharedDirectory

variable {path network name : String} {lockTimeout : Duration} {parent : Location}
variable {tree after ready : FileTree} {shared : SharedDirectory path}

/-- A data directory in which no store has been opened. -/
def start (path : String) (tree : FileTree) : SharedDirectory path := ⟨fun _ => none, tree⟩

/-- The data directory behind the opening of a store. -/
def enter (shared : SharedDirectory path) (network : String) (lockTimeout : Duration)
    (tree : FileTree) : SharedDirectory path :=
  ⟨Function.update shared.stores network (some ⟨Path.join path network, lockTimeout⟩), tree⟩

/-- Opens or uses the store of a network. -/
def perform (shared : SharedDirectory path) (network : String) :
    Operation → Reply × SharedDirectory path
  | .opening lockTimeout =>
    match (Disk.openIn path network lockTimeout).run FileTree.answer shared.tree with
    | (.error fault, tree) => (.opened (.error fault), { shared with tree })
    | (.ok disk, tree) =>
      (.opened (.ok disk), ⟨Function.update shared.stores network (some disk), tree⟩)
  | .use kind =>
    match shared.stores network with
    | none => (.closed, shared)
    | some disk =>
      let (reply, tree) := (kind.program.expand disk.answer).run FileTree.answer shared.tree
      (reply, { shared with tree })

/-- Performs some operations one after the other, each on its network. -/
def performAll (shared : SharedDirectory path) :
    List (String × Operation) → List (String × Reply) × SharedDirectory path
  | [] => ([], shared)
  | (network, operation) :: rest =>
    let (reply, next) := shared.perform network operation
    let (replies, last) := next.performAll rest
    ((network, reply) :: replies, last)

theorem perform_use_closed (closed : shared.stores network = none) (kind : StoreUse) :
    shared.perform network (.use kind) = (.closed, shared) := by
  rw [perform]
  simp only [closed]

theorem performAll_cons (shared : SharedDirectory path) (network : String) (operation : Operation)
    (rest : List (String × Operation)) :
    shared.performAll ((network, operation) :: rest) =
      ((network, (shared.perform network operation).1) ::
          ((shared.perform network operation).2.performAll rest).1,
        ((shared.perform network operation).2.performAll rest).2) := rfl

/-! ## Opening a store -/

/-- The directory of a network is made with all its parents. -/
def makeFor (path network : String) : FileProgram (Except FileError Unit) :=
  makeDirectories (Path.join path network) (Path.ancestors (Path.join path network))

theorem plain_of_isNetworkName (valid : Disk.isNetworkName network = true) : Plain network := by
  simp only [Disk.isNetworkName, Bool.and_eq_true, decide_eq_true_eq, Bool.not_eq_true',
    List.contains_eq_mem, decide_eq_false_iff_not] at valid
  obtain ⟨⟨⟨⟨nonempty, not_here⟩, not_up⟩, slashless⟩, nullless⟩ := valid
  exact ⟨nonempty, not_here, not_up, slashless, nullless⟩

theorem isNetworkName_of_plain (plain : Plain network) : Disk.isNetworkName network = true := by
  simp [Disk.isNetworkName, plain.nonempty, plain.not_here, plain.not_up, plain.slashless,
    plain.nullless]

/-- A store is opened when its directory has been made. -/
theorem perform_opening (plain : Plain network)
    (made : (makeFor path network).run FileTree.answer shared.tree = (.ok (), after)) :
    shared.perform network (.opening lockTimeout) =
      (.opened (.ok ⟨Path.join path network, lockTimeout⟩),
        shared.enter network lockTimeout after) := by
  have opened : (Disk.openIn path network lockTimeout).run FileTree.answer shared.tree =
      (.ok ⟨Path.join path network, lockTimeout⟩, after) := by
    rw [Disk.openIn, isNetworkName_of_plain plain]
    show (makeFor path network >>= _ : FileProgram _).run FileTree.answer shared.tree = _
    rw [Program.run_bind, made]
    rfl
  rw [perform]
  simp only [opened]
  rfl

/-- A store that is opened has a plain name, and its directory has been made. -/
theorem made_of_accepted
    (accepted : (shared.perform network (.opening lockTimeout)).1.isRefusal = false) :
    Plain network ∧ ∃ after,
      (makeFor path network).run FileTree.answer shared.tree = (.ok (), after) := by
  cases valid : Disk.isNetworkName network with
  | false =>
    have refused : (Disk.openIn path network lockTimeout).run FileTree.answer shared.tree =
        (.error (.invalidNetworkName network), shared.tree) := by
      rw [Disk.openIn, valid]
      rfl
    rw [perform] at accepted
    simp only [refused] at accepted
    cases accepted
  | true =>
    refine ⟨plain_of_isNetworkName valid, ?_⟩
    cases made : (makeFor path network).run FileTree.answer shared.tree with
    | mk result after =>
      cases result with
      | ok => exact ⟨after, rfl⟩
      | error cause =>
        have failed : (Disk.openIn path network lockTimeout).run FileTree.answer shared.tree =
            (.error (.file (Path.join path network) cause), after) := by
          rw [Disk.openIn, valid]
          show (makeFor path network >>= _ : FileProgram _).run FileTree.answer shared.tree = _
          rw [Program.run_bind, made]
          rfl
        rw [perform] at accepted
        simp only [failed] at accepted
        cases accepted

/-! ## Stores that have been opened -/

/-- The data directory is there, and so is, under its name, the directory of every network whose
store has been opened. -/
structure Housed (shared : SharedDirectory path) (parent : Location) : Prop where
  reaches : shared.tree.Reaches path parent
  stores : ∀ network disk, shared.stores network = some disk →
    Plain network ∧ disk.directory = Path.join path network ∧
      shared.tree.LeadsTo (Path.join path network) (network :: parent)

namespace Housed

theorem start (reaches : ready.Reaches path parent) :
    (SharedDirectory.start path ready).Housed parent := by
  refine ⟨reaches, ?_⟩
  intro network disk found
  cases found

variable (housed : shared.Housed parent)
include housed

/-- A store that is opened is housed like the others, if no directory has got lost. -/
theorem enter (plain : Plain network) (kept : KeepsDirectories shared.tree after)
    (leads : after.LeadsTo (Path.join path network) (network :: parent)) :
    (shared.enter network lockTimeout after).Housed parent := by
  refine ⟨housed.reaches.of_kept kept, ?_⟩
  intro other disk found
  change Function.update _ network _ other = _ at found
  rw [Function.update_apply] at found
  split at found
  · rename_i same
    subst same
    obtain rfl := Option.some.inj found
    exact ⟨plain, rfl, leads⟩
  · obtain ⟨named, directory, there⟩ := housed.stores other disk found
    exact ⟨named, directory, there.of_kept kept⟩

theorem of_confined {location : Location} (confined : Confined location shared.tree after) :
    ({ shared with tree := after } : SharedDirectory path).Housed parent := by
  have kept : KeepsDirectories shared.tree after := fun place => (confined.directories place).mpr
  refine ⟨housed.reaches.of_kept kept, ?_⟩
  intro network disk found
  obtain ⟨plain, directory, there⟩ := housed.stores network disk found
  exact ⟨plain, directory, there.of_kept kept⟩

/-- To open a store nothing is made but its directory. -/
theorem opening
    (accepted : (shared.perform network (.opening lockTimeout)).1.isRefusal = false) :
    Plain network ∧ FitsIn path network ∧ ∃ after,
      shared.perform network (.opening lockTimeout) =
          (.opened (.ok ⟨Path.join path network, lockTimeout⟩),
            shared.enter network lockTimeout after) ∧
        shared.tree.plantAt (network :: parent) = (.ok (), after) ∧
        (shared.enter network lockTimeout after).Housed parent := by
  obtain ⟨plain, after, made⟩ := made_of_accepted accepted
  obtain ⟨fits, _⟩ := FileTree.exists_ready plain (congrArg Prod.fst made)
  have planting : shared.tree.plantAt (network :: parent) = (.ok (), after) :=
    (housed.reaches.makeDirectories_run plain fits).symm.trans made
  have planted := FileTree.planted_of_plantAt planting
  have leads := (housed.reaches.of_kept planted.kept).leadsTo plain fits planted.made
  exact ⟨plain, fits, after, perform_opening plain made, planting,
    housed.enter plain planted.kept leads⟩

/-- A store that has been opened is opened again, and nothing is made. -/
theorem reopening {disk : Disk} (found : shared.stores network = some disk)
    (lockTimeout : Duration) :
    shared.perform network (.opening lockTimeout) =
        (.opened (.ok ⟨Path.join path network, lockTimeout⟩),
          shared.enter network lockTimeout shared.tree) ∧
      (shared.enter network lockTimeout shared.tree).Housed parent := by
  obtain ⟨plain, _, leads⟩ := housed.stores network disk found
  have made : (makeFor path network).run FileTree.answer shared.tree = (.ok (), shared.tree) :=
    makeDirectories_run leads _
  exact ⟨perform_opening plain made, housed.enter plain (fun _ there => there) leads⟩

end Housed

/-- **Two stores of one network whose directories hold the same things are used alike, and nothing
changes outside of these directories.** -/
theorem use_inStep {left right : SharedDirectory path} (here : left.Housed parent)
    (there : right.Housed parent) {disk : Disk} (found : left.stores name = some disk)
    (also : right.stores name = some disk)
    (same : SameUnder (name :: parent) left.tree right.tree) {kind : StoreUse}
    (proper : kind.Proper) :
    ∃ reply later latter, left.perform name (.use kind) = (reply, { left with tree := later }) ∧
      right.perform name (.use kind) = (reply, { right with tree := latter }) ∧
      InStep (name :: parent) left.tree right.tree later latter := by
  obtain ⟨_, directory, leads⟩ := here.stores name disk found
  obtain ⟨_, _, leads'⟩ := there.stores name disk also
  rw [← directory] at leads leads'
  have asks := (StoreUse.program_asksOnly proper).expand fun _ => disk.answer_asksOnly
  obtain ⟨reply, later, latter, run, rerun, step⟩ := FileTree.run_local leads leads' same asks
  refine ⟨reply, later, latter, ?_, ?_, step⟩
  · rw [perform]
    simp only [found, run]
  · rw [perform]
    simp only [also, rerun]

/-- What is done with one network is confined to its directory. -/
theorem Housed.use (housed : shared.Housed parent) {disk : Disk}
    (found : shared.stores network = some disk) {kind : StoreUse} (proper : kind.Proper) :
    ∃ reply after, shared.perform network (.use kind) = (reply, { shared with tree := after }) ∧
      Confined (network :: parent) shared.tree after := by
  obtain ⟨reply, after, _, used, _, step⟩ :=
    use_inStep housed housed found found (.refl _ _) proper
  exact ⟨reply, after, used, step.left_confined⟩

/-- Whatever is done with a network whose store has been opened is confined to its directory. -/
theorem Housed.performAll_confined (housed : shared.Housed parent) {disk : Disk}
    (found : shared.stores network = some disk) {operations : List Operation}
    (proper : ∀ operation ∈ operations, operation.Proper) :
    Confined (network :: parent) shared.tree
      (shared.performAll (operations.map (network, ·))).2.tree := by
  induction operations generalizing shared disk with
  | nil => exact .refl _ _
  | cons operation rest ih =>
    obtain ⟨first, later⟩ := List.forall_mem_cons.mp proper
    show Confined _ _ ((shared.perform network operation).2.performAll _).2.tree
    cases operation with
    | opening lockTimeout =>
      obtain ⟨opened, still⟩ := housed.reopening found lockTimeout
      rw [opened]
      exact ih still (Function.update_self ..) later
    | use kind =>
      obtain ⟨reply, after, used, confined⟩ := housed.use found first
      rw [used]
      exact confined.trans (ih (housed.of_confined confined) found later)

/-- What is done with one network makes no difference to another one. -/
theorem Housed.perform (housed : shared.Housed parent) {operation : Operation}
    (proper : operation.Proper)
    (accepted : (shared.perform network operation).1.isRefusal = false) :
    (shared.perform network operation).2.Housed parent ∧ ∀ other, other ≠ network →
      SameUnder (other :: parent) shared.tree (shared.perform network operation).2.tree ∧
        (shared.perform network operation).2.stores other = shared.stores other := by
  cases operation with
  | opening lockTimeout =>
    obtain ⟨_, _, after, opened, planting, still⟩ := housed.opening accepted
    rw [opened]
    refine ⟨still, fun other different => ⟨?_, Function.update_of_ne different ..⟩⟩
    exact (FileTree.planted_of_plantAt planting).beside different
  | use kind =>
    cases found : shared.stores network with
    | none =>
      rw [perform_use_closed found]
      exact ⟨housed, fun other _ => ⟨.refl _ _, rfl⟩⟩
    | some disk =>
      obtain ⟨reply, after, used, confined⟩ := housed.use found proper
      rw [used]
      exact ⟨housed.of_confined confined,
        fun other different => ⟨confined.sameUnder different, rfl⟩⟩

/-! ## The first store in a data directory -/

/-- A tree in which the data directory is there, and in which the directory of any network is made
as it is in the tree at hand. -/
structure Readied (path : String) (tree ready : FileTree) (parent : Location) : Prop where
  reaches : ready.Reaches path parent
  made : ∀ network, Plain network → FitsIn path network →
    (makeFor path network).run FileTree.answer tree = ready.plantAt (network :: parent)

/-- Where a directory is made in a tree that has been made ready, its store is housed. -/
theorem Readied.housed (readied : Readied path tree ready parent) (plain : Plain network)
    (fits : FitsIn path network) (planting : ready.plantAt (network :: parent) = (.ok (), after)) :
    ((start path tree).enter network lockTimeout after).Housed parent := by
  have planted := FileTree.planted_of_plantAt planting
  have leads := (readied.reaches.of_kept planted.kept).leadsTo plain fits planted.made
  exact (Housed.start readied.reaches).enter plain planted.kept leads

/-- When the first store is opened, the data directory is made ready for all of them. -/
theorem exists_readied
    (accepted : ((start path tree).perform network (.opening lockTimeout)).1.isRefusal = false) :
    ∃ ready after : FileTree, ∃ parent, Readied path tree ready parent ∧
      (makeFor path network).run FileTree.answer tree = (.ok (), after) ∧
      ready.plantAt (network :: parent) = (.ok (), after) ∧
      (start path tree).perform network (.opening lockTimeout) =
        (.opened (.ok ⟨Path.join path network, lockTimeout⟩),
          (start path tree).enter network lockTimeout after) ∧
      ((start path tree).enter network lockTimeout after).Housed parent := by
  obtain ⟨plain, after, made⟩ := made_of_accepted accepted
  obtain ⟨fits, ready, parent, reaches, all⟩ :=
    FileTree.exists_ready plain (congrArg Prod.fst made)
  have readied : Readied path tree ready parent := ⟨reaches, all⟩
  have planting : ready.plantAt (network :: parent) = (.ok (), after) :=
    (all network plain fits).symm.trans made
  exact ⟨ready, after, parent, readied, made, planting, perform_opening plain made,
    readied.housed plain fits planting⟩

/-- A store that has been opened is confined to a child of the data directory. -/
theorem opening_confines
    (accepted : ((start path tree).perform network (.opening lockTimeout)).1.isRefusal = false) :
    ∃ parent,
      ((start path tree).perform network (.opening lockTimeout)).2.tree.Reaches path parent ∧
      ((start path tree).perform network (.opening lockTimeout)).2.tree.LeadsTo
        (Path.join path network) (network :: parent) ∧
      Grows (Path.join path network :: Path.ancestors (Path.join path network)) tree
        ((start path tree).perform network (.opening lockTimeout)).2.tree ∧
      ∀ operations : List Operation, (∀ operation ∈ operations, operation.Proper) →
        Confined (network :: parent)
          ((start path tree).perform network (.opening lockTimeout)).2.tree
          (((start path tree).perform network (.opening lockTimeout)).2.performAll
            (operations.map (network, ·))).2.tree := by
  obtain ⟨_, after, parent, _, made, _, opened, housed⟩ := exists_readied accepted
  have found : ((start path tree).enter network lockTimeout after).stores network =
      some ⟨Path.join path network, lockTimeout⟩ := Function.update_self ..
  have grows : Grows (Path.join path network :: Path.ancestors (Path.join path network)) tree
      ((makeFor path network).run FileTree.answer tree).2 :=
    FileTree.makeDirectories_grows (Path.join path network) _ tree
  rw [made] at grows
  rw [opened]
  refine ⟨parent, housed.reaches, (housed.stores network _ found).2.2, grows, ?_⟩
  intro operations proper
  exact housed.performAll_confined found proper

end SharedDirectory

end AddressPool
