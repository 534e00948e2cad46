import AddressPool.Admin.Command

/-!
# Outcomes of the command line

A run of the command line ends with a code, and writes to two streams.  A command
that fails writes a report: its error, and below it the causes, which are numbered
if there are several.  A mistake in the arguments and a log file that cannot be
opened have codes of their own.
-/

namespace AddressPool.Admin

set_option autoImplicit false

/-- How a run ends. -/
inductive Ending where
  | success
  | failure (error : AdminError)
  | mistake
  | noLog (cause : FileError)

/-- The name of the program. -/
def programName : String := "host-local-admin"

/-- The name of the program with its version. -/
def versionLine : String := programName ++ " 0.1.0"

/-- The arguments that the program takes. -/
def usageLines : List String := [
  "Usage: " ++ programName ++ " [--stderr <true|false>] [--log-dir <DIR>] <COMMAND>",
  "  show --config <FILE>",
  "  gc --config <FILE> [--live <OWNER>]... [--live-file <FILE>] [--allow-empty]",
  "  release --config <FILE> --owner <OWNER> [--interface <NAME>]"]

/-- The code of an ending. -/
def Ending.code : Ending → Nat
  | .success => 0
  | .failure _ => 1
  | .mistake => 2
  | .noLog _ => 101

/-- A cause below an error; further lines of it are moved in as far as its first one. -/
def causeText (number : Option Nat) (cause : String) : String :=
  let (first, further) : String × String := match number with
    | none => ("    ", "    ")
    | some number =>
      let digits := toString number
      (String.ofList (List.replicate (5 - digits.length) ' ') ++ digits ++ ": ", "       ")
  first ++ ("\n" ++ further).intercalate ((cause.toList.splitOn '\n').map String.ofList)

/-- The causes below an error, numbered if there are several. -/
def causeTexts : List String → List String
  | [cause] => [causeText none cause]
  | causes => causes.zipIdx.map fun (cause, number) => causeText (some number) cause

/-- The report of an error, without the last line break. -/
def report (chain : List String) : String :=
  match chain with
  | [] => "Error: "
  | [error] => "Error: " ++ error
  | error :: causes =>
    "Error: " ++ error ++ "\n\nCaused by:\n" ++ "\n".intercalate (causeTexts causes)

/-- What an ending has to say for itself. -/
def Ending.text : Ending → String
  | .success => ""
  | .failure error => report error.chain ++ "\n"
  | .mistake => "\n".intercalate usageLines ++ "\n"
  | .noLog cause => "failed to open the log file: " ++ cause.message ++ "\n"

/-- The outcome of a run: the lines on standard output, and the ending. -/
structure Outcome where
  lines : List String
  ending : Ending

/-- All that a run writes to standard output. -/
def Outcome.output (outcome : Outcome) : String := String.join (outcome.lines.map (· ++ "\n"))

/-- Opens the log file in a directory; if that fails, its parents are made and it is tried again.

The directory that is made is the parent of the log file, so that single points at the end of the
directory's path do not count. -/
def openLog (directory : String) : FileProgram (Except FileError Unit) := do
  let path := Path.join directory (programName ++ ".log")
  match ← (FileRequest.append path .empty).ask with
  | .ok () => return .ok ()
  | .error cause => match Path.ancestors path with
    | [] => return .error cause
    | parent :: above => match ← makeDirectories parent above with
      | .error error => return .error error
      | .ok () => (FileRequest.append path .empty).ask

/-- Runs a command with its log file. -/
def Invocation.run (invocation : Invocation) : FileProgram Outcome := do
  let opened ← match invocation.logDirectory with
    | none => pure (.ok ())
    | some directory => openLog directory
  match opened with
  | .error cause => return ⟨[], .noLog cause⟩
  | .ok () =>
    let printed ← invocation.command.run
    return ⟨printed.lines, match printed.failure with
      | none => .success
      | some error => .failure error⟩

/-- Runs the command line. -/
def run (arguments : List String) : FileProgram Outcome :=
  match wish arguments with
  | .mistake => return ⟨[], .mistake⟩
  | .version => return ⟨[versionLine], .success⟩
  | .help => return ⟨usageLines, .success⟩
  | .run invocation => invocation.run

end AddressPool.Admin
