import AddressPool.Admin.Outcome

/-!
# The command line

Everything that is decided about a run is decided by `Admin.run`, a program over
requests on files.  This module answers those requests from the file system and
hands the outcome to the two output streams.

A lock is held through an open handle.  Taking a lock gives up the one before it,
and the last one is given up when the process ends.
-/

namespace AddressPool.Outside

set_option autoImplicit false

/-- The code and the text of an error of the system; some parts of it report the code negated. -/
def systemCode? : IO.Error → Option (Nat × String)
  | .alreadyExists _ code text | .otherError code text | .resourceBusy code text
  | .resourceVanished code text | .unsupportedOperation code text | .hardwareFault code text
  | .unsatisfiedConstraints code text | .illegalOperation code text | .protocolError code text
  | .timeExpired code text | .interrupted _ code text | .noFileOrDirectory _ code text
  | .invalidArgument _ code text | .permissionDenied _ code text
  | .resourceExhausted _ code text | .inappropriateType _ code text
  | .noSuchThing _ code text =>
    let number := code.toNat
    some (if number < 2 ^ 31 then number else 2 ^ 32 - number, text)
  | .unexpectedEof | .userError _ => none

/-- The cause of a failure. -/
def causeOf (error : IO.Error) : FileError :=
  match systemCode? error with
  | some (2, _) => .notFound
  | some (16, _) => .busy
  | some (17, _) => .alreadyExists
  | some (20, _) => .notADirectory
  | some (21, _) => .isADirectory
  | some (36, _) => .nameTooLong
  | some (code, text) => .other (text.capitalize ++ " (os error " ++ toString code ++ ")")
  | none => .other (toString error)

/-- Runs an action on a path; a path with a null character never reaches the system. -/
def attempt {α : Type} (path : String) (action : IO α) : IO (Except FileError α) := do
  if path.toList.contains (Char.ofNat 0) then return .error .nullInName
  try return .ok (← action) catch error => return .error (causeOf error)

/-- Whether there is a directory. -/
def isDirectory (path : String) : IO Bool := do
  try (← IO.FS.realPath path).isDir catch _ => return false

/-- Tries to take a lock again and again, until the time given has passed. -/
partial def waitForLock (handle : IO.FS.Handle) (deadline : Nat) : IO Bool := do
  if ← handle.tryLock then return true
  if deadline ≤ (← IO.monoNanosNow) then return false
  IO.sleep 5
  waitForLock handle deadline

/-- Answers a request from the file system. -/
def answer (lock : IO.Ref (Option IO.FS.Handle)) :
    (request : FileRequest) → IO request.Answer
  | .read path => attempt path (IO.FS.readBinFile path)
  | .names path => attempt path do
    let entries ← (← IO.FS.realPath path).readDir
    return entries.toList.map (·.fileName)
  | .isDirectory path => isDirectory path
  | .lock path timeout => attempt path do
    if let some before ← lock.get then before.unlock
    let handle ← IO.FS.Handle.mk path .append
    let held ← waitForLock handle ((← IO.monoNanosNow) + timeout.nanoseconds)
    lock.set (if held then some handle else none)
    return held
  | .create path => attempt path do
    let _ ← IO.FS.Handle.mk path .write
  | .append path content => attempt path do
    let handle ← IO.FS.Handle.mk path .append
    handle.write content
    handle.flush
  | .rename source target => attempt (source ++ target) (IO.FS.rename source target)
  | .remove path => do
    if ← isDirectory path then return .error .isADirectory
    attempt path (IO.FS.removeFile path)
  | .makeDirectory path => attempt path (IO.FS.createDir path)

end AddressPool.Outside

open AddressPool in
/-- Runs the command line. -/
def main (arguments : List String) : IO UInt32 := do
  let lock ← IO.mkRef none
  let outcome ← (Admin.run arguments).perform (Outside.answer lock)
  let output ← IO.getStdout
  output.putStr outcome.output
  output.flush
  (← IO.getStderr).putStr outcome.ending.text
  return outcome.ending.code.toUInt32
