/-!
# Arguments of the command line

The command line names one of three commands and gives options by name.  Two
options belong to every command and may stand in front of the command's name as
well; what is said behind it prevails.  An option that takes a value finds it behind
an equals sign or in the next argument, unless that one starts with a hyphen.  All
options but one may be given once only.

Arguments are read from left to right, and the first thing that settles what is to
be done does so: a mistake, or the wish to see the version or some help.
-/

namespace AddressPool.Admin

set_option autoImplicit false

/-- What is to be done, with a configuration file. -/
inductive Command where
  /-- Print the reservations and the cursors of a network. -/
  | show (config : String)
  /-- Release the reservations of owners that are no longer live. -/
  | gc (config : String) (live : List String) (liveFile : Option String) (allowEmpty : Bool)
  /-- Release all reservations of an owner. -/
  | release (config owner interface : String)
  deriving DecidableEq, Repr

/-- A command, with a directory for a log file if one is wanted. -/
structure Invocation where
  command : Command
  logDirectory : Option String
  deriving DecidableEq, Repr

/-- What the arguments ask for. -/
inductive Wish where
  | run (invocation : Invocation)
  | version
  | help
  | mistake
  deriving DecidableEq, Repr

/-! ## Options -/

/-- The options. -/
inductive OptionName where
  | stderr
  | logDir
  | config
  | live
  | liveFile
  | allowEmpty
  | owner
  | interface
  deriving DecidableEq, Repr

/-- The names of commands. -/
inductive CommandName where
  | show
  | gc
  | release
  deriving DecidableEq, Repr

namespace OptionName

/-- The option of a name. -/
def ofText? : String → Option OptionName
  | "stderr" => some .stderr
  | "log-dir" => some .logDir
  | "config" => some .config
  | "live" => some .live
  | "live-file" => some .liveFile
  | "allow-empty" => some .allowEmpty
  | "owner" => some .owner
  | "interface" => some .interface
  | _ => none

/-- Whether an option has no value. -/
def isFlag : OptionName → Bool
  | .allowEmpty => true
  | _ => false

/-- Whether an option may be given more than once. -/
def isRepeatable : OptionName → Bool
  | .live => true
  | _ => false

/-- Whether an option takes a value: a truth value is spelled out, and no path is empty. -/
def takes : OptionName → String → Bool
  | .stderr, value => value == "true" || value == "false"
  | .logDir, value | .config, value | .liveFile, value => value ≠ ""
  | _, _ => true

/-- Whether an option may stand behind a command's name, or in front of any. -/
def isFor : Option CommandName → OptionName → Bool
  | _, .stderr | _, .logDir => true
  | some _, .config => true
  | some .gc, .live | some .gc, .liveFile | some .gc, .allowEmpty => true
  | some .release, .owner | some .release, .interface => true
  | _, _ => false

end OptionName

/-- The command of a name. -/
def CommandName.ofText? : String → Option CommandName
  | "show" => some .show
  | "gc" => some .gc
  | "release" => some .release
  | _ => none

/-- Options with their values, in the order in which they are given. -/
abbrev Given := List (OptionName × String)

/-- All values that are given for an option. -/
def valuesOf (given : Given) (name : OptionName) : List String :=
  given.filterMap fun (other, value) => if other = name then some value else none

/-- The value that is given for an option. -/
def valueOf? (given : Given) (name : OptionName) : Option String := (valuesOf given name).head?

/-- Adds an option with its value, if it takes the value and may be given here. -/
def give? (given : Given) (name : OptionName) (value : String) : Option Given :=
  if name.takes value && (name.isRepeatable || (valueOf? given name).isNone) then
    some (given ++ [(name, value)])
  else none

/-! ## Reading arguments -/

/-- Where the reading of arguments ends. -/
inductive Stop where
  | done (given : Given)
  | command (given : Given) (name : String) (rest : List String)
  | version
  | help
  | mistake

/-- What kind of argument a text is. -/
inductive Token where
  | separator
  | long (name : String) (value : Option String)
  | short (letter : Char)
  | plain (text : String)

/-- Cuts a text around its first equals sign. -/
def splitEquals : List Char → List Char × Option (List Char)
  | [] => ([], none)
  | '=' :: rest => ([], some rest)
  | char :: rest => (char :: (splitEquals rest).1, (splitEquals rest).2)

/-- The kind of an argument. -/
def Token.of (argument : String) : Token :=
  match argument.toList with
  | ['-', '-'] => .separator
  | '-' :: '-' :: rest =>
    let (name, value) := splitEquals rest
    .long (String.ofList name) (value.map String.ofList)
  | '-' :: letter :: _ => .short letter
  | _ => .plain argument

/-- Whether an argument may be the value of the option in front of it. -/
def isValue (argument : String) : Bool :=
  match argument.toList with
  | '-' :: _ :: _ => false
  | _ => true

/-- Reads arguments, behind a command's name or in front of any. -/
def scan (command : Option CommandName) (given : Given) : List String → Stop
  | [] => .done given
  | argument :: rest =>
    match Token.of argument with
    | .separator => if rest.isEmpty then .done given else .mistake
    | .short 'h' => .help
    | .short 'V' => if command.isNone then .version else .mistake
    | .short _ => .mistake
    | .long "help" none => .help
    | .long "version" none => if command.isNone then .version else .mistake
    | .plain text => if command.isNone then .command given text rest else .mistake
    | .long name value =>
      match (OptionName.ofText? name).filter (·.isFor command) with
      | none => .mistake
      | some option =>
        if option.isFlag then
          if value.isSome then .mistake
          else match give? given option "" with
            | none => .mistake
            | some given => scan command given rest
        else match value with
          | some value => match give? given option value with
            | none => .mistake
            | some given => scan command given rest
          | none => match rest with
            | [] => .mistake
            | value :: rest =>
              if !isValue value then .mistake
              else match give? given option value with
                | none => .mistake
                | some given => scan command given rest

/-- The command with the options given, if none is missing that must be there. -/
def Command.of? (name : CommandName) (given : Given) : Option Command := do
  let config ← valueOf? given .config
  match name with
  | .show => return .show config
  | .gc =>
    return .gc config (valuesOf given .live) (valueOf? given .liveFile)
      (valueOf? given .allowEmpty).isSome
  | .release =>
    let owner ← valueOf? given .owner
    return .release config owner ((valueOf? given .interface).getD "eth0")

/-- Whether help is to be had for some names: for none, for one command, or for help itself. -/
def isHelpTopic : List String → Bool
  | [] => true
  | [name] => name == "help" || (CommandName.ofText? name).isSome
  | _ => false

/-- What the arguments ask for. -/
def wish (arguments : List String) : Wish :=
  match scan none [] arguments with
  | .done _ | .mistake => .mistake
  | .version => .version
  | .help => .help
  | .command outer text rest =>
    if text = "help" then if isHelpTopic rest then .help else .mistake
    else match CommandName.ofText? text with
      | none => .mistake
      | some name => match scan (some name) [] rest with
        | .version => .version
        | .help => .help
        | .command .. | .mistake => .mistake
        | .done inner => match Command.of? name inner with
          | none => .mistake
          | some command =>
            .run ⟨command, valueOf? inner .logDir <|> valueOf? outer .logDir⟩

end AddressPool.Admin
