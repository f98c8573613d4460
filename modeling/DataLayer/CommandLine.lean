import DataLayer.Text.Edit

/-! The command line. Arguments are read from left to right, so a request for the version or for
help counts only if what stands before it is in order. -/

namespace DataLayer.CommandLine

/-- What a run is asked to do. -/
structure Options where
  /-- File with the settings. -/
  settings : String
  /-- File that assigns environment variables. -/
  environmentFile : String := "./.env"
  /-- File with a snapshot, which replaces the live catalog. -/
  snapshot : Option String := none
  /-- File to write, in place of the one that the settings name. -/
  output : Option String := none
  /-- How much a run reports. -/
  verbosity : Nat := 0
deriving DecidableEq, Repr

/-- What the arguments ask for. -/
inductive Request where
  | run (options : Options)
  | version
  | help
deriving DecidableEq, Repr

/-- What is wrong with the arguments. -/
inductive Misuse where
  | unknownOption (name : String)
  | unexpectedValue (option : String)
  | missingValue (option : String)
  | emptyValue
  | repeatedOption (option : String)
  | unexpectedArgument (argument : String)
  | missingSettings
deriving DecidableEq, Repr

/-- The text shown for a misuse. -/
def Misuse.message : Misuse → String
  | unknownOption name => "unexpected argument '" ++ name ++ "' found"
  | unexpectedValue option => "unexpected value for '" ++ option ++ "'"
  | missingValue option => "a value is required for '" ++ option ++ "'"
  | emptyValue => "a value must not be empty"
  | repeatedOption option => "'" ++ option ++ "' cannot be used multiple times"
  | unexpectedArgument argument => "unexpected argument '" ++ argument ++ "' found"
  | missingSettings => "the settings file is missing"

/-- The options that take the path of a file. -/
inductive PathOption where
  | environmentFile
  | snapshot
  | output
deriving DecidableEq, Repr

/-- What an option does. -/
inductive OptionKind where
  | path (option : PathOption)
  | verbose
  | version
  | help
deriving DecidableEq, Repr

/-- The options under their long names. -/
def longOptions : List (String × OptionKind) :=
  [("env-file", .path .environmentFile), ("snapshot", .path .snapshot),
   ("output", .path .output), ("verbose", .verbose), ("version", .version), ("help", .help)]

/-- The options under their short names. -/
def shortOptions : List (Char × OptionKind) :=
  [('o', .path .output), ('v', .verbose), ('V', .version), ('h', .help)]

/-- The long name of an option with a path. -/
def PathOption.name : PathOption → String
  | environmentFile => "--env-file"
  | snapshot => "--snapshot"
  | output => "--output"

/-- The arguments read so far. -/
structure Given where
  settings : Option String := none
  paths : List (PathOption × String) := []
  verbosity : Nat := 0
deriving DecidableEq, Repr

/-- Takes the value of an option; each option is given at most once. -/
def Given.setPath (given : Given) (option : PathOption) (value : String) :
    Except Misuse Given :=
  if (given.paths.lookup option).isSome then .error (.repeatedOption option.name)
  else if value = "" then .error .emptyValue
  else .ok { given with paths := (option, value) :: given.paths }

/-- Takes an argument that is no option. -/
def Given.setSettings (given : Given) (value : String) : Except Misuse Given :=
  if given.settings.isSome then .error (.unexpectedArgument value)
  else if value = "" then .error .emptyValue
  else .ok { given with settings := some value }

/-- The options of a run, once all arguments are read. -/
def Given.options (given : Given) : Except Misuse Options :=
  match given.settings with
  | none => .error .missingSettings
  | some settings =>
    .ok
      { settings := settings
        environmentFile := (given.paths.lookup .environmentFile).getD "./.env"
        snapshot := given.paths.lookup .snapshot
        output := given.paths.lookup .output
        verbosity := given.verbosity }

/-- What follows from an argument. -/
inductive Step where
  | next (given : Given)
  /-- The next argument is the value of an option. -/
  | awaiting (given : Given) (option : PathOption)
  | done (request : Request)

/-- Reads an option with a long name and perhaps a value after an equals sign. -/
def readLong (given : Given) (name : String) (value : Option String) : Except Misuse Step :=
  match longOptions.lookup name, value with
  | none, _ => .error (.unknownOption ("--" ++ name))
  | some (.path option), some text => Step.next <$> given.setPath option text
  | some (.path option), none => .ok (.awaiting given option)
  | some _, some _ => .error (.unexpectedValue ("--" ++ name))
  | some .verbose, none => .ok (.next { given with verbosity := given.verbosity + 1 })
  | some .version, none => .ok (.done .version)
  | some .help, none => .ok (.done .help)

/-- Reads the options of an argument with short names. What stands behind the name of an option
with a value is that value, perhaps after an equals sign. -/
def readShort (given : Given) : List Char → Except Misuse Step
  | [] => .ok (.next given)
  | name :: rest =>
    match shortOptions.lookup name with
    | none => .error (.unknownOption (String.ofList ['-', name]))
    | some (.path option) =>
      match rest with
      | [] => .ok (.awaiting given option)
      | '=' :: value => Step.next <$> given.setPath option (String.ofList value)
      | value => Step.next <$> given.setPath option (String.ofList value)
    | some .verbose => readShort { given with verbosity := given.verbosity + 1 } rest
    | some .version => .ok (.done .version)
    | some .help => .ok (.done .help)

/-- Cuts a text at its first equals sign. -/
def cutAtEquals (text : List Char) : String × Option String :=
  let name := text.takeWhile (· != '=')
  match text.drop name.length with
  | [] => (String.ofList name, none)
  | _ :: value => (String.ofList name, some (String.ofList value))

/-- Reads an argument that begins no value: an option, or else the settings file. A single hyphen
is no option. -/
def readArgument (given : Given) (argument : String) : Except Misuse Step :=
  match argument.toList with
  | '-' :: '-' :: rest =>
    let (name, value) := cutAtEquals rest
    readLong given name value
  | '-' :: c :: rest => readShort given (c :: rest)
  | _ => Step.next <$> given.setSettings argument

/-- Whether an argument looks like an option or ends the options. -/
def isHyphenated (argument : String) : Bool :=
  match argument.toList with
  | '-' :: _ :: _ => true
  | _ => false

/-- Reads the arguments after the end of the options. -/
def readPlainArguments (given : Given) : List String → Except Misuse Given
  | [] => .ok given
  | argument :: rest => do readPlainArguments (← given.setSettings argument) rest

mutual

/-- Reads the arguments from an argument on that is no value of an option. -/
def readArguments (given : Given) : List String → Except Misuse Request
  | [] => Request.run <$> given.options
  | argument :: rest =>
    if argument = "--" then do
      Request.run <$> (← readPlainArguments given rest).options
    else do
      match ← readArgument given argument with
      | .next more => readArguments more rest
      | .awaiting more option => readValue more option rest
      | .done request => pure request

/-- Reads the value of an option and the arguments after it. -/
def readValue (given : Given) (option : PathOption) : List String → Except Misuse Request
  | [] => .error (.missingValue option.name)
  | argument :: rest =>
    if isHyphenated argument then .error (.missingValue option.name)
    else do readArguments (← given.setPath option argument) rest

end

/-- What the arguments ask for. -/
def request (arguments : List String) : Except Misuse Request := readArguments {} arguments

end DataLayer.CommandLine
