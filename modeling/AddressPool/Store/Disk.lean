import AddressPool.Address.Parser
import AddressPool.Store.Basic
import AddressPool.Text.Blank

/-!
# Stores on disk

A store on disk is a directory for one network.  It holds a file for every
reservation, named by the text of the address, with the owner and the interface in
it, separated by the first line break; a file `last_reserved_ip.` followed by the
ring's identifier for every cursor, with the text of an address in it; and the file
`lock`, which is there to be locked.  Whatever else lies in the directory is left
alone.  In particular a name counts as a reservation if and only if it can be read
as an address, whoever wrote the file.

A file is replaced by writing a temporary file and renaming it, so that at no point
a half-written record or cursor can be seen.  The programs below are written over
requests on files, one request for each change of the directory.
-/

namespace AddressPool

set_option autoImplicit false

/-! ## Files as texts -/

/-- The text in the content of a file. -/
def decodeText (content : ByteArray) : Except FileError String :=
  match String.fromUTF8? content with
  | some text => .ok text
  | none => .error .invalidText

/-- The text of a file. -/
def readText (path : String) : FileProgram (Except FileError String) := do
  match ← (FileRequest.read path).ask with
  | .error error => return .error error
  | .ok content => return decodeText content

/-- The text of a file, if there is such a file. -/
def readTextIfAny (path : String) : FileProgram (Except FileError (Option String)) := do
  match ← readText path with
  | .ok text => return .ok (some text)
  | .error .notFound => return .ok none
  | .error error => return .error error

/-- Makes one directory; one that is there already is as good as a new one.

What is done if the parent is missing is up to the caller. -/
def makeDirectory (path : String) (ifMissing : FileProgram (Except FileError Unit)) :
    FileProgram (Except FileError Unit) := do
  match ← (FileRequest.makeDirectory path).ask with
  | .ok () => return .ok ()
  | .error .notFound => ifMissing
  | .error error =>
    if ← (FileRequest.isDirectory path).ask then return .ok () else return .error error

/-- Makes a directory, and first those of its parents that are missing, the nearest parent being
given first.  The empty path stands for a directory that is there. -/
def makeDirectories (path : String) : List String → FileProgram (Except FileError Unit)
  | [] =>
    if path.isEmpty then return .ok ()
    else makeDirectory path (return .error (.other "failed to create whole tree"))
  | parent :: above =>
    if path.isEmpty then return .ok ()
    else makeDirectory path do
      match ← makeDirectories parent above with
      | .error error => return .error error
      | .ok () => makeDirectory path (return .error .notFound)

/-! ## Records and names -/

/-- The text of a reservation record. -/
def recordText (owner interface : String) : String := owner ++ "\n" ++ interface

/-- Cuts a text around its first line break. -/
def splitLine : List Char → List Char × List Char
  | [] => ([], [])
  | '\n' :: rest => ([], rest)
  | char :: rest => ((char :: (splitLine rest).1), (splitLine rest).2)

/-- Takes one line break off the end of a text. -/
def withoutFinalBreak (text : List Char) : List Char :=
  if text.getLast? = some '\n' then text.dropLast else text

/-- The owner and the interface in a record; a line break at the very end is not part of it. -/
def readRecord (text : String) : String × String :=
  let (owner, interface) := splitLine text.toList
  (String.ofList owner, String.ofList (withoutFinalBreak interface))

/-- The name of the file that is locked. -/
def lockName : String := "lock"

/-- The name of the file that holds the cursor of a ring. -/
def cursorName (id : String) : String := "last_reserved_ip." ++ id

/-- The name of the file that is written before it replaces another. -/
def temporaryName (name : String) : String := "." ++ name ++ ".tmp"

/-! ## The store -/

/-- A store on disk: its directory, and how long to wait for the lock. -/
structure Disk where
  directory : String
  lockTimeout : Duration
  deriving DecidableEq, Repr

namespace Disk

/-- The path of a name in the store's directory. -/
def path (disk : Disk) (name : String) : String := Path.join disk.directory name

/-- Whether a network can have a directory of its own. -/
def isNetworkName (network : String) : Bool :=
  network ≠ "" && network ≠ "." && network ≠ ".." && !network.toList.contains '/' &&
    !network.toList.contains (Char.ofNat 0)

/-- Opens the store of a network, and makes its directory if need be. -/
def openIn (dataDirectory network : String) (lockTimeout : Duration) :
    FileProgram (Except StoreError Disk) := do
  if !isNetworkName network then return .error (.invalidNetworkName network)
  let directory := Path.join dataDirectory network
  match ← makeDirectories directory (Path.ancestors directory) with
  | .error cause => return .error (.file directory cause)
  | .ok () => return .ok ⟨directory, lockTimeout⟩

/-- Takes the lock. -/
def lock (disk : Disk) : FileProgram (Except StoreError Unit) := do
  match ← (FileRequest.lock (disk.path lockName) disk.lockTimeout).ask with
  | .error cause => return .error (.file (disk.path lockName) cause)
  | .ok false => return .error (.lockTimeout disk.lockTimeout)
  | .ok true => return .ok ()

/-- Replaces the content of a file as a whole.

If the temporary file cannot be written it is taken away again. -/
def replace (disk : Disk) (name content : String) : FileProgram (Except StoreError Unit) := do
  let temporary := disk.path (temporaryName name)
  match ← write temporary content with
  | .error cause =>
    let _ ← (FileRequest.remove temporary).ask
    return .error (.file temporary cause)
  | .ok () =>
    match ← (FileRequest.rename temporary (disk.path name)).ask with
    | .error cause => return .error (.file (disk.path name) cause)
    | .ok () => return .ok ()
where
  /-- Creates a file and writes a text to it. -/
  write (path content : String) : FileProgram (Except FileError Unit) := do
    match ← (FileRequest.create path).ask with
    | .error error => return .error error
    | .ok () => (FileRequest.append path content.toUTF8).ask

/-- Takes a file away; the answer is whether there was one. -/
def remove (disk : Disk) (name : String) : FileProgram (Except StoreError Bool) := do
  match ← (FileRequest.remove (disk.path name)).ask with
  | .ok () => return .ok true
  | .error .notFound => return .ok false
  | .error cause => return .error (.file (disk.path name) cause)

/-- The owner and the interface in the record of a name, if there is one. -/
def record? (disk : Disk) (name : String) :
    FileProgram (Except StoreError (Option (String × String))) := do
  match ← readTextIfAny (disk.path name) with
  | .error cause => return .error (.file (disk.path name) cause)
  | .ok text => return .ok (text.map readRecord)

/-- The field of a record that cannot be written, because there is a line break in it. -/
def brokenField? (owner interface : String) : Option (RecordField × String) :=
  if owner.toList.contains '\n' then some (.owner, owner)
  else if interface.toList.contains '\n' then some (.interface, interface)
  else none

/-- Reserves an address for an owner, unless it is reserved. -/
def reserve (disk : Disk) (address : Address) (owner interface : String) :
    FileProgram (Except StoreError Bool) := do
  match brokenField? owner interface with
  | some (field, value) => return .error (.invalidRecordField field value)
  | none =>
    match ← disk.record? address.text with
    | .error error => return .error error
    | .ok (some (holder, _)) =>
      if holder = owner then return .ok false
      else return .error (.alreadyReserved address holder)
    | .ok none =>
      match ← disk.replace address.text (recordText owner interface) with
      | .error error => return .error error
      | .ok () => return .ok true

/-- The reservations under the given names; a name that is no address does not count. -/
def reservationsNamed (disk : Disk) :
    List String → FileProgram (Except StoreError (List Reservation))
  | [] => return .ok []
  | name :: rest => do
    match Address.ofString? name with
    | none => disk.reservationsNamed rest
    | some address =>
      match ← disk.record? name with
      | .error error => return .error error
      | .ok record =>
        match ← disk.reservationsNamed rest with
        | .error error => return .error error
        | .ok others => match record with
          | none => return .ok others
          | some (owner, interface) => return .ok (⟨address, owner, interface⟩ :: others)

/-- All reservations in the order of listings. -/
def reservations (disk : Disk) : FileProgram (Except StoreError (List Reservation)) := do
  match ← (FileRequest.names disk.directory).ask with
  | .error cause => return .error (.file disk.directory cause)
  | .ok names => match ← disk.reservationsNamed names with
    | .error error => return .error error
    | .ok found => return .ok (Reservation.sort found)

/-- Takes away the records of some addresses, and counts those that were there. -/
def releaseAll (disk : Disk) : List Address → FileProgram (Except StoreError Nat)
  | [] => return .ok 0
  | address :: rest => do
    match ← disk.remove address.text with
    | .error error => return .error error
    | .ok removed => match ← disk.releaseAll rest with
      | .error error => return .error error
      | .ok count => return .ok (if removed then count + 1 else count)

/-- Ends all reservations of an owner. -/
def releaseByOwner (disk : Disk) (owner : String) : FileProgram (Except StoreError Nat) := do
  match ← disk.reservations with
  | .error error => return .error error
  | .ok reservations =>
    let owned := reservations.filter fun reservation => decide (reservation.owner = owner)
    disk.releaseAll (owned.map (·.address))

/-- The cursor of a ring; a text that is no address is none. -/
def cursor (disk : Disk) (id : String) : FileProgram (Except StoreError (Option Address)) := do
  match ← readTextIfAny (disk.path (cursorName id)) with
  | .error cause => return .error (.file (disk.path (cursorName id)) cause)
  | .ok text => return .ok (text.bind fun text => Address.ofChars? (Text.trim text.toList))

/-- The program that answers a request. -/
def answer (disk : Disk) : (request : StoreRequest) → FileProgram request.Answer
  | .lock => disk.lock
  | .reserve address owner interface => disk.reserve address owner interface
  | .release address => disk.remove address.text
  | .releaseByOwner owner => disk.releaseByOwner owner
  | .reservations => disk.reservations
  | .cursor id => disk.cursor id
  | .setCursor id address => disk.replace (cursorName id) address.text

end Disk

end AddressPool
