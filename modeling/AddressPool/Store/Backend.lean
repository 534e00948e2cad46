import AddressPool.Store.Disk
import AddressPool.Store.Memory

/-!
# The store of a network

The settings of a network say which kind of store it has.  An opened store is a
`Backend`: a store in memory, which is the value itself, or a store on disk, which
is a directory among the files.  `Backend.perform` runs a program over store
requests on either kind; what it leaves behind is the backend and the files.
-/

namespace AddressPool

set_option autoImplicit false

/-- Which kind of store a network has. -/
inductive StoreSettings where
  | disk (dataDirectory : String) (lockTimeout : Duration)
  | memory
  deriving DecidableEq, Repr

namespace StoreSettings

/-- The directory above those of the networks, unless another one is set. -/
def defaultDataDirectory : String := "/var/lib/cni/networks"

/-- How long to wait for the lock, unless something else is set. -/
def defaultLockTimeout : Duration := .ofMilliseconds 10000

/-- The settings of a network that says nothing about its store. -/
def default : StoreSettings := .disk defaultDataDirectory defaultLockTimeout

end StoreSettings

/-- An opened store. -/
inductive Backend where
  | memory (memory : Memory)
  | disk (disk : Disk)

namespace Backend

/-- Opens the store of a network; a store in memory starts with nothing. -/
def openFor (settings : StoreSettings) (network : String) :
    FileProgram (Except StoreError Backend) :=
  match settings with
  | .memory => return .ok (.memory .empty)
  | .disk dataDirectory lockTimeout => do
    match ← Disk.openIn dataDirectory network lockTimeout with
    | .error error => return .error error
    | .ok opened => return .ok (.disk opened)

/-- Runs a program on the store. -/
def perform {α : Type} (backend : Backend) (program : StoreProgram α) :
    FileProgram (α × Backend) :=
  match backend with
  | .memory held =>
    let (result, after) := program.run Memory.answer held
    return (result, .memory after)
  | .disk opened => do
    let result ← program.expand opened.answer
    return (result, .disk opened)

end Backend

end AddressPool
