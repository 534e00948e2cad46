import AddressPool.Files.Path
import AddressPool.Program
import AddressPool.Text.Duration

/-!
# A tree of files

The files that a program reads and changes form a tree: a finite map from
locations to files and directories, in which the root is always a directory.  A
location lists names from the innermost outwards.  A relative path is followed
from the root, as an absolute one is.

A file may be held, which means that some other process holds its advisory lock.
There are no links and no permissions, and nothing fails but for the names and the
entries involved.  `FileTree.answer` says what each request does to the tree; a
request that fails changes nothing.
-/

namespace AddressPool

set_option autoImplicit false

/-- Why a request on files fails. -/
inductive FileError where
  | notFound
  | alreadyExists
  | notADirectory
  | isADirectory
  | nameTooLong
  | busy
  | invalidText
  | nullInName
  | other (text : String)
  deriving DecidableEq, Repr

/-- The text of an error. -/
def FileError.message : FileError → String
  | .notFound => "No such file or directory (os error 2)"
  | .alreadyExists => "File exists (os error 17)"
  | .notADirectory => "Not a directory (os error 20)"
  | .isADirectory => "Is a directory (os error 21)"
  | .nameTooLong => "File name too long (os error 36)"
  | .busy => "Device or resource busy (os error 16)"
  | .invalidText => "stream did not contain valid UTF-8"
  | .nullInName => "file name contained an unexpected NUL byte"
  | .other text => text

/-- What is bound to one key is kept when the bindings of another one are left out. -/
theorem lookup_filter_ne {κ υ : Type} [BEq κ] [LawfulBEq κ] [DecidableEq κ]
    (bindings : List (κ × υ)) {key other : κ} (different : other ≠ key) :
    (bindings.filter fun binding => decide (binding.1 ≠ key)).lookup other =
      bindings.lookup other := by
  induction bindings with
  | nil => rfl
  | cons binding rest ih =>
    by_cases here : binding.1 = key
    · have absent : (other == binding.1) = false := by
        rw [here]
        simpa using different
      rw [List.filter_cons_of_neg (by simpa using here), List.lookup_cons, absent, ih]
    · rw [List.filter_cons_of_pos (by simpa using here), List.lookup_cons, List.lookup_cons, ih]

/-- A place in a tree: names from the innermost outwards. -/
abbrev Location := List String

/-- What stands at a place. -/
inductive Entry where
  | file (content : ByteArray) (held : Bool)
  | directory
  deriving DecidableEq

/-- A finite map from places to entries. -/
structure FileTree where
  entries : List (Location × Entry)

/-! ## Requests on files -/

/-- What a program may ask of files. -/
inductive FileRequest where
  /-- The whole content of a file. -/
  | read (path : String)
  /-- The names in a directory. -/
  | names (path : String)
  /-- Whether there is a directory. -/
  | isDirectory (path : String)
  /-- The advisory lock of a file, which is created if it is missing; the answer is whether the
  lock was free within the time given. -/
  | lock (path : String) (timeout : Duration)
  /-- An empty file, in the place of whatever content a file had. -/
  | create (path : String)
  /-- More content at the end of a file, which is created if it is missing. -/
  | append (path : String) (content : ByteArray)
  /-- A file under another name, in the place of a file of that name. -/
  | rename (source target : String)
  /-- No file under a name. -/
  | remove (path : String)
  /-- A new directory. -/
  | makeDirectory (path : String)

/-- The kind of answer that a request has. -/
@[reducible] def FileRequest.Answer : FileRequest → Type
  | .read _ => Except FileError ByteArray
  | .names _ => Except FileError (List String)
  | .isDirectory _ => Bool
  | .lock _ _ => Except FileError Bool
  | .create _ => Except FileError Unit
  | .append _ _ => Except FileError Unit
  | .rename _ _ => Except FileError Unit
  | .remove _ => Except FileError Unit
  | .makeDirectory _ => Except FileError Unit

/-- A program that reads and changes files. -/
abbrev FileProgram (α : Type) := Program FileRequest FileRequest.Answer α

/-- The program that asks one request. -/
def FileRequest.ask (request : FileRequest) : FileProgram request.Answer := Program.request request

namespace FileTree

/-- The tree that holds nothing but its root. -/
def empty : FileTree := ⟨[]⟩

/-- What stands at a place. -/
def entryAt (tree : FileTree) : Location → Option Entry
  | [] => some .directory
  | location => tree.entries.lookup location

/-- The tree without anything at a place. -/
def erase (tree : FileTree) (location : Location) : FileTree :=
  ⟨tree.entries.filter fun entry => decide (entry.1 ≠ location)⟩

/-- The tree with an entry at a place, instead of what stood there. -/
def put (tree : FileTree) (location : Location) (entry : Entry) : FileTree :=
  ⟨(location, entry) :: (tree.erase location).entries⟩

/-- The names in a directory. -/
def namesIn (tree : FileTree) (directory : Location) : List String :=
  tree.entries.filterMap fun entry => match entry.1 with
    | [] => none
    | name :: parent => if parent = directory then some name else none

theorem lookup_filter_self (entries : List (Location × Entry)) (location : Location) :
    (entries.filter fun entry => decide (entry.1 ≠ location)).lookup location = none := by
  rw [List.lookup_eq_none_iff]
  intro entry member
  have := (List.mem_filter.1 member).2
  simp only [ne_eq, decide_eq_true_eq] at this
  simpa using Ne.symm this

/-- Nothing stands at an erased place. -/
theorem entryAt_erase_self (tree : FileTree) {location : Location} (inner : location ≠ []) :
    (tree.erase location).entryAt location = none := by
  cases location with
  | nil => exact absurd rfl inner
  | cons name parent => exact lookup_filter_self ..

/-- Erasing a place leaves every other place as it is. -/
theorem entryAt_erase_of_ne (tree : FileTree) {location other : Location}
    (different : other ≠ location) : (tree.erase location).entryAt other = tree.entryAt other := by
  cases other with
  | nil => rfl
  | cons name parent => exact lookup_filter_ne _ different

/-- An entry stands where it is put. -/
theorem entryAt_put_self (tree : FileTree) {location : Location} (inner : location ≠ [])
    (entry : Entry) : (tree.put location entry).entryAt location = some entry := by
  cases location with
  | nil => exact absurd rfl inner
  | cons name parent => simp [put, entryAt]

/-- Putting an entry in a place leaves every other place as it is. -/
theorem entryAt_put_of_ne (tree : FileTree) {location other : Location}
    (different : other ≠ location) (entry : Entry) :
    (tree.put location entry).entryAt other = tree.entryAt other := by
  cases other with
  | nil => rfl
  | cons name parent =>
    have absent : (name :: parent == location) = false := by simpa using different
    simp only [put, entryAt, List.lookup_cons, absent]
    exact lookup_filter_ne _ different

/-! ## Following paths -/

/-- The greatest number of bytes in a name. -/
def nameLimit : Nat := 255

/-- The number of bytes that no path reaches. -/
def pathLimit : Nat := 4096

/-- What is wrong with taking a step from a place, which has to be a directory. -/
def dirFault? (tree : FileTree) (here : Location) : Option FileError :=
  match tree.entryAt here with
  | none => some .notFound
  | some (.file ..) => some .notADirectory
  | some .directory => none

/-- The place that one step leads to. -/
def follow (tree : FileTree) (here : Location) (step : Path.Step) : Except FileError Location :=
  match tree.dirFault? here with
  | some error => .error error
  | none => match step with
    | .stay => .ok here
    | .up => .ok here.tail
    | .down name =>
      if nameLimit < name.utf8ByteSize then .error .nameTooLong else .ok (name :: here)

/-- The place that some steps lead to. -/
def followAll (tree : FileTree) : Location → List Path.Step → Except FileError Location
  | here, [] => .ok here
  | here, step :: rest => match tree.follow here step with
    | .error error => .error error
    | .ok next => tree.followAll next rest

/-- What is wrong with the text of a path, whatever the tree holds. -/
def pathFault? (path : String) : Option FileError :=
  if path.toList.contains (Char.ofNat 0) then some .nullInName
  else if path.isEmpty then some .notFound
  else if pathLimit ≤ path.utf8ByteSize then some .nameTooLong
  else none

/-- The place of something that is there; a slash at the end asks for a directory. -/
def locate (tree : FileTree) (path : String) : Except FileError (Location × Entry) :=
  match pathFault? path with
  | some error => .error error
  | none =>
    let steps := Path.steps path ++ if Path.endsWithSlash path then [.stay] else []
    match tree.followAll [] steps with
    | .error error => .error error
    | .ok location => match tree.entryAt location with
      | none => .error .notFound
      | some entry => .ok (location, entry)

/-- Where a path ends: at a name in a directory, or at a directory itself. -/
inductive Target where
  | named (location : Location)
  | itself

/-- The end of a path whose last name need not be there. -/
def target (tree : FileTree) (path : String) : Except FileError Target :=
  match pathFault? path with
  | some error => .error error
  | none =>
    let steps := Path.steps path
    match tree.followAll [] steps with
    | .error error => .error error
    | .ok location => match steps.getLast? with
      | some (.down _) => .ok (.named location)
      | _ => .ok .itself

/-! ## Answering requests -/

/-- Opens a file for writing; `existing` says what becomes of a file that is there. -/
def openToWrite (tree : FileTree) (path : String) (existing : ByteArray → ByteArray) :
    Except FileError (Bool × FileTree) :=
  match tree.target path with
  | .error error => .error error
  | .ok .itself => .error .isADirectory
  | .ok (.named location) =>
    if Path.endsWithSlash path then .error .isADirectory
    else match tree.entryAt location with
      | none => .ok (false, tree.put location (.file .empty false))
      | some (.file content held) => .ok (held, tree.put location (.file (existing content) held))
      | some .directory => .error .isADirectory

/-- Puts a file in another place, where a file may stand but no directory. -/
def move (tree : FileTree) (source goal : String) : Except FileError FileTree :=
  match tree.target source, tree.target goal with
  | .error error, _ => .error error
  | _, .error error => .error error
  | .ok (.named origin), .ok (.named destination) =>
    match tree.entryAt origin with
    | none => .error .notFound
    | some .directory => .error .isADirectory
    | some file =>
      if Path.endsWithSlash source || Path.endsWithSlash goal then .error .notADirectory
      else if tree.entryAt destination = some .directory then .error .isADirectory
      else .ok ((tree.erase origin).put destination file)
  | _, _ => .error .busy

/-- Takes a file away. -/
def discard (tree : FileTree) (path : String) : Except FileError FileTree :=
  match tree.target path with
  | .error error => .error error
  | .ok .itself => .error .isADirectory
  | .ok (.named location) => match tree.entryAt location with
    | none => .error .notFound
    | some .directory => .error .isADirectory
    | some (.file ..) =>
      if Path.endsWithSlash path then .error .notADirectory else .ok (tree.erase location)

/-- Makes a directory. -/
def plantDirectory (tree : FileTree) (path : String) : Except FileError FileTree :=
  match tree.target path with
  | .error error => .error error
  | .ok .itself => .error .alreadyExists
  | .ok (.named location) => match tree.entryAt location with
    | none => .ok (tree.put location .directory)
    | some _ => .error .alreadyExists

/-- The answer of a change, and the tree behind it: a change that fails leaves the tree alone. -/
def changed (tree : FileTree) : Except FileError FileTree → Except FileError Unit × FileTree
  | .error error => (.error error, tree)
  | .ok after => (.ok (), after)

/-- What a tree answers to a request, and the tree behind it. -/
def answer : (request : FileRequest) → FileTree → request.Answer × FileTree
  | .read path, tree => match tree.locate path with
    | .error error => (.error error, tree)
    | .ok (_, .directory) => (.error .isADirectory, tree)
    | .ok (_, .file content _) => (.ok content, tree)
  | .names path, tree => match tree.locate path with
    | .error error => (.error error, tree)
    | .ok (_, .file ..) => (.error .notADirectory, tree)
    | .ok (location, .directory) => (.ok (tree.namesIn location), tree)
  | .isDirectory path, tree => match tree.locate path with
    | .ok (_, .directory) => (true, tree)
    | _ => (false, tree)
  | .lock path _, tree => match tree.openToWrite path id with
    | .error error => (.error error, tree)
    | .ok (held, after) => (.ok !held, after)
  | .create path, tree => tree.changed ((tree.openToWrite path fun _ => .empty).map (·.2))
  | .append path content, tree => tree.changed ((tree.openToWrite path (· ++ content)).map (·.2))
  | .rename source goal, tree => tree.changed (tree.move source goal)
  | .remove path, tree => tree.changed (tree.discard path)
  | .makeDirectory path, tree => tree.changed (tree.plantDirectory path)

end FileTree

end AddressPool
