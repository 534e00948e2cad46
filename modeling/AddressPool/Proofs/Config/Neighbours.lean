import AddressPool.Proofs.Config.Sharing

/-!
# Networks that do not notice one another

Two runs are compared: one in which the stores of any networks are opened and used, and one
in which only the operations of a single network are left.  Step by step the two data
directories stay so close to each other that this network cannot tell them apart
(`SharedDirectory.Tracks`): its own operations come to the same in both
(`SharedDirectory.Tracks.own`), and those of the others, which are left out of the second
run, make no difference (`SharedDirectory.Tracks.others`).

So networks that share a data directory do not interfere (`networks_are_apart`).
-/

namespace AddressPool

set_option autoImplicit false

open AddressPool.Path (Plain)
open FileTree (SameUnder Confined Grows)

namespace SharedDirectory

variable {path network name : String} {tree : FileTree} {alone full : SharedDirectory path}

/-- How far a data directory in which only one network is served can be from one in which others
are served, too: no store has been opened in either; the other one has been made ready, and the
network holds there what it would hold if it had been made ready for it; or the store of the
network has been opened in both, and its directory holds the same things. -/
inductive Tracks (name : String) (tree : FileTree) :
    SharedDirectory path → SharedDirectory path → Prop where
  | untouched : Tracks name tree (start path tree) (start path tree)
  | waiting {full : SharedDirectory path} {ready : FileTree} {parent : Location}
      (housed : full.Housed parent) (closed : full.stores name = none)
      (readied : Readied path tree ready parent)
      (same : SameUnder (name :: parent) ready full.tree) : Tracks name tree (start path tree) full
  | opened {alone full : SharedDirectory path} {parent : Location} {disk : Disk}
      (here : alone.Housed parent) (there : full.Housed parent)
      (found : alone.stores name = some disk) (also : full.stores name = some disk)
      (same : SameUnder (name :: parent) alone.tree full.tree) : Tracks name tree alone full

namespace Tracks

variable {operation : Operation} {operations : List (String × Operation)}

/-- **What is done with the network itself comes to the same.** -/
theorem own (tracks : Tracks name tree alone full) (proper : operation.Proper)
    (accepted : (full.perform name operation).1.isRefusal = false) :
    (alone.perform name operation).1 = (full.perform name operation).1 ∧
      Tracks name tree (alone.perform name operation).2 (full.perform name operation).2 := by
  cases tracks with
  | untouched =>
    refine ⟨rfl, ?_⟩
    cases operation with
    | opening lockTimeout =>
      obtain ⟨_, _, _, _, _, _, opened, housed⟩ := exists_readied accepted
      rw [opened]
      exact .opened housed housed (Function.update_self ..) (Function.update_self ..) (.refl _ _)
    | use kind => exact .untouched
  | @waiting _ ready parent housed closed readied same =>
    cases operation with
    | opening lockTimeout =>
      obtain ⟨plain, fits, after, opened, planting, still⟩ := housed.opening accepted
      -- The network's directory is made in both, or was there in both.
      obtain ⟨result, under⟩ := same.plantAt
      rw [planting] at result under
      have planting' : ready.plantAt (name :: parent) =
          (.ok (), (ready.plantAt (name :: parent)).2) := Prod.ext result.symm rfl
      have opened' : (start path tree).perform name (.opening lockTimeout) = _ :=
        perform_opening plain ((readied.made name plain fits).trans planting')
      rw [opened, opened']
      exact ⟨rfl, .opened (readied.housed plain fits planting') still
        (Function.update_self ..) (Function.update_self ..) under⟩
    | use kind =>
      have idle : (start path tree).stores name = none := rfl
      rw [perform_use_closed closed, perform_use_closed idle]
      exact ⟨rfl, .waiting housed closed readied same⟩
  | opened here there found also same =>
    cases operation with
    | opening lockTimeout =>
      obtain ⟨opened, housed⟩ := here.reopening found lockTimeout
      obtain ⟨opened', housed'⟩ := there.reopening also lockTimeout
      rw [opened, opened']
      exact ⟨rfl, .opened housed housed' (Function.update_self ..) (Function.update_self ..) same⟩
    | use kind =>
      obtain ⟨reply, later, latter, used, used', step⟩ :=
        use_inStep here there found also same proper
      rw [used, used']
      exact ⟨rfl, .opened (here.of_confined step.left_confined)
        (there.of_confined step.right_confined) found also step.same⟩

/-- **What is done with another network makes no difference.** -/
theorem others (tracks : Tracks name tree alone full) (different : network ≠ name)
    (proper : operation.Proper)
    (accepted : (full.perform network operation).1.isRefusal = false) :
    Tracks name tree alone (full.perform network operation).2 := by
  cases tracks with
  | untouched =>
    cases operation with
    | opening lockTimeout =>
      obtain ⟨_, _, _, readied, _, planting, opened, housed⟩ := exists_readied accepted
      rw [opened]
      exact .waiting housed (Function.update_of_ne different.symm ..) readied
        ((FileTree.planted_of_plantAt planting).beside different.symm)
    | use kind => exact .untouched
  | waiting housed closed readied same =>
    obtain ⟨still, apart⟩ := housed.perform proper accepted
    obtain ⟨under, stores⟩ := apart name different.symm
    exact .waiting still (stores.trans closed) readied (same.trans under)
  | opened here there found also same =>
    obtain ⟨still, apart⟩ := there.perform proper accepted
    obtain ⟨under, stores⟩ := apart name different.symm
    exact .opened here still found (stores.trans also) (same.trans under)

/-- **A run of operations comes to the same for one network if those of the others are left out.** -/
theorem performAll (tracks : Tracks name tree alone full)
    (proper : ∀ entry ∈ operations, entry.2.Proper)
    (accepted : ∀ entry ∈ (full.performAll operations).1, entry.2.isRefusal = false) :
    (alone.performAll (ofNetwork name operations)).1 =
        ofNetwork name (full.performAll operations).1 ∧
      Tracks name tree (alone.performAll (ofNetwork name operations)).2
        (full.performAll operations).2 := by
  induction operations generalizing alone full with
  | nil => exact ⟨rfl, tracks⟩
  | cons entry rest ih =>
    obtain ⟨network, operation⟩ := entry
    obtain ⟨first, later⟩ := List.forall_mem_cons.mp proper
    rw [performAll_cons] at accepted
    obtain ⟨welcome, further⟩ := List.forall_mem_cons.mp accepted
    by_cases own : network = name
    · subst own
      obtain ⟨same, next⟩ := tracks.own first welcome
      obtain ⟨replies, last⟩ := ih next later further
      rw [ofNetwork_cons_self, performAll_cons, performAll_cons, ofNetwork_cons_self]
      exact ⟨congrArg₂ (fun reply others => (network, reply) :: others) same replies, last⟩
    · obtain ⟨replies, last⟩ := ih (tracks.others own first welcome) later further
      rw [ofNetwork_cons_of_ne own, performAll_cons, ofNetwork_cons_of_ne own]
      exact ⟨replies, last⟩

/-- A network whose store has been opened has a directory with the same things in it. -/
theorem sameUnder (tracks : Tracks name tree alone full)
    (there : (full.stores name).isSome = true) :
    ∃ location, alone.tree.LeadsTo (Path.join path name) location ∧
      full.tree.LeadsTo (Path.join path name) location ∧
      SameUnder location alone.tree full.tree := by
  cases tracks with
  | untouched => cases there
  | waiting _ closed =>
    rw [closed] at there
    cases there
  | @opened _ _ parent disk here there found also same =>
    exact ⟨name :: parent, (here.stores name disk found).2.2, (there.stores name disk also).2.2,
      same⟩

end Tracks

end SharedDirectory

/-! ## The main result -/

/-- **Networks that share a data directory do not interfere.**

Whatever a network is called, its store cannot be opened, or the network has a directory
that is a child of the data directory and bears its name.  To open the store nothing is
changed, but that this directory and its parents are made if they are missing; and what is
done with the store afterwards is confined to the directory.

Let the stores of any networks be opened and used in any order, and none of them be refused.
If everything is left out that is done with other networks, each operation of a network
comes to the same, and its directory ends up with the same things in it. -/
theorem networks_are_apart (path : String) (tree : FileTree) :
    (∀ network lockTimeout,
        let opened := (SharedDirectory.start path tree).perform network (.opening lockTimeout)
        opened.1.isRefusal = true ∨ ∃ parent, opened.2.tree.Reaches path parent ∧
          opened.2.tree.LeadsTo (Path.join path network) (network :: parent) ∧
          Grows (Path.join path network :: Path.ancestors (Path.join path network)) tree
            opened.2.tree ∧
          ∀ operations : List Operation, (∀ operation ∈ operations, operation.Proper) →
            Confined (network :: parent) opened.2.tree
              (opened.2.performAll (operations.map (network, ·))).2.tree) ∧
      ∀ operations : List (String × Operation), (∀ entry ∈ operations, entry.2.Proper) →
        let full := (SharedDirectory.start path tree).performAll operations
        (∀ entry ∈ full.1, entry.2.isRefusal = false) → ∀ name,
          let alone := (SharedDirectory.start path tree).performAll (ofNetwork name operations)
          alone.1 = ofNetwork name full.1 ∧
            ((full.2.stores name).isSome = true → ∃ location,
              alone.2.tree.LeadsTo (Path.join path name) location ∧
                full.2.tree.LeadsTo (Path.join path name) location ∧
                SameUnder location alone.2.tree full.2.tree) := by
  constructor
  · intro network lockTimeout opened
    cases refused : opened.1.isRefusal with
    | true => exact .inl rfl
    | false => exact .inr (SharedDirectory.opening_confines refused)
  · intro operations proper full accepted name alone
    have begun : SharedDirectory.Tracks name tree (SharedDirectory.start path tree)
        (SharedDirectory.start path tree) := .untouched
    obtain ⟨replies, tracks⟩ := begun.performAll proper accepted
    exact ⟨replies, tracks.sameUnder⟩

/-- Two networks are served from one ring, and the second one is swept. -/
def servedFrom (ring : Ring) : List (String × Operation) :=
  [("net", .opening (.ofMilliseconds 10000)), ("net2", .opening (.ofMilliseconds 10000)),
    ("net", .use (.get ring "a" "eth0" none)), ("net2", .use (.get ring "b" "eth0" none)),
    ("net2", .use (.sweep [])), ("net", .use (.ask .reservations))]

/-- The data directory of two networks is missing at first. -/
theorem networks_are_apart_net_net2 :
    let text := "[\"net\",[[[\"10.0.0.0/29\"]]]]"
    ∃ config ring, Config.ofText text = .ok config ∧ ring ∈ config.rings ∧
      let full := (SharedDirectory.start "/d" .empty).performAll (servedFrom ring)
      let alone := (SharedDirectory.start "/d" .empty).performAll
        (ofNetwork "net" (servedFrom ring))
      let opened := (SharedDirectory.start "/d" .empty).perform "net"
        (.opening (.ofMilliseconds 10000))
      (∀ entry ∈ servedFrom ring, entry.2.Proper) ∧
        (∀ entry ∈ full.1, entry.2.isRefusal = false) ∧ alone.1 = ofNetwork "net" full.1 ∧
        (∃ location, alone.2.tree.LeadsTo (Path.join "/d" "net") location ∧
          full.2.tree.LeadsTo (Path.join "/d" "net") location ∧
          SameUnder location alone.2.tree full.2.tree) ∧
        ∃ parent, opened.2.tree.LeadsTo (Path.join "/d" "net") ("net" :: parent) ∧
          Confined ("net" :: parent) opened.2.tree
            (opened.2.performAll [("net", .use (.get ring "a" "eth0" none))]).2.tree := by
  intro text
  have run : ((Config.ofText text).toOption.bind fun config => config.rings[0]?.map fun ring =>
      (((SharedDirectory.start "/d" .empty).performAll (servedFrom ring)).1.all
          fun entry => !entry.2.isRefusal,
        (((SharedDirectory.start "/d" .empty).performAll (servedFrom ring)).2.stores
          "net").isSome,
        ((SharedDirectory.start "/d" .empty).perform "net"
          (.opening (.ofMilliseconds 10000))).1.isRefusal)) = some (true, true, false) := by
    decide +kernel
  cases accepted : Config.ofText text with
  | error error =>
    rw [accepted] at run
    cases run
  | ok config =>
    rw [accepted] at run
    change (config.rings[0]?.map _) = _ at run
    obtain ⟨ring, placed, found⟩ := Option.map_eq_some_iff.mp run
    obtain ⟨welcome, rest⟩ := Prod.mk.inj found
    obtain ⟨there, first⟩ := Prod.mk.inj rest
    have member := List.mem_of_getElem? placed
    have proper : ∀ entry ∈ servedFrom ring, entry.2.Proper := by
      simp only [servedFrom, List.forall_mem_cons]
      exact ⟨trivial, trivial, ⟨config, member⟩, ⟨config, member⟩, trivial, trivial,
        List.forall_mem_nil _⟩
    have unrefused := List.all_eq_true.mp welcome
    simp only [Bool.not_eq_true'] at unrefused
    obtain ⟨confines, apart⟩ := networks_are_apart "/d" .empty
    obtain ⟨replies, under⟩ := apart (servedFrom ring) proper unrefused "net"
    refine ⟨config, ring, rfl, member, proper, unrefused, replies, under there, ?_⟩
    rcases confines "net" (.ofMilliseconds 10000) with refused | ⟨parent, _, leads, _, confined⟩
    · rw [first] at refused
      cases refused
    · refine ⟨parent, leads, confined [.use (.get ring "a" "eth0" none)] ?_⟩
      rw [List.forall_mem_singleton]
      exact ⟨config, member⟩

end AddressPool
