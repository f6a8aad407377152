import TemplateBundler.CommandLine.Arguments
import TemplateBundler.Schema.Basic

/-! # Reading the command line

Arguments are read from left to right. The value of an option, and a run of files, is
looked at only when the next option comes or the arguments end; an option that is not
known comes first even then. After two dashes all arguments are files.
-/

namespace TemplateBundler.CommandLine

/-! ### Forms of arguments -/

inductive Shape where
  | dashes
  /-- A long option, perhaps with a value. -/
  | long (name : String) (value : Option String)
  /-- Short options in a row, perhaps with a value. -/
  | short (first : Char) (rest : List Char)
  | word
  deriving DecidableEq, Repr

def Shape.of (argument : String) : Shape :=
  match argument.toList with
  | ['-', '-'] => dashes
  | '-' :: '-' :: cs =>
    let name := String.ofList (cs.takeWhile (· ≠ '='))
    match cs.dropWhile (· ≠ '=') with
    | _ :: value => long name (some (String.ofList value))
    | [] => long name none
  | '-' :: c :: cs => short c cs
  | _ => word

/-! ### Values -/

/-- Reads a number, which may have a plus sign before it. -/
def readNumber (value : String) : Except NumberError Nat :=
  match value.toList with
  | [] => .error .empty
  | ['+'] => .error .notDigit
  | '+' :: digits => go 0 digits
  | digits => go 0 digits
where
  /-- Reads digits onto a number. -/
  go (n : Nat) : List Char → Except NumberError Nat
    | [] => .ok n
    | c :: cs =>
      if !c.isDigit then .error .notDigit
      else
        let n := n * 10 + (c.toNat - '0'.toNat)
        if maxNatural < n then .error .tooLarge else go n cs

/-- A path, which may not be empty. -/
def readPath (shown value : String) : Except UsageError Path :=
  if value = "" then .error (.noValue shown) else .ok (Path.ofText value)

def readPreset (shown value : String) : Except UsageError Preset :=
  match Preset.ofName? value with
  | some preset => .ok preset
  | none => .error (if value = "" then .noValue shown else .impossibleValue value shown)

/-- The arguments with an option set; options without a value ignore it. -/
def BuildArguments.set (arguments : BuildArguments) (form : OptionForm) (value : String) :
    Except UsageError BuildArguments := do
  let path := readPath form.shown value
  match form.name with
  | .root => return { arguments with root := some (← path) }
  | .outDir => return { arguments with outDir := some (← path) }
  | .preset => return { arguments with preset := some (← readPreset form.shown value) }
  | .config => return { arguments with config := some (← path) }
  | .target => return { arguments with target := some value }
  | .devMode => return { arguments with devMode := true }
  | .cache => return { arguments with cache := true }
  | .exportName => return { arguments with exportName := some value }
  | .applyFuncName => return { arguments with applyFuncName := some value }
  | .includeVow => return { arguments with includeVow := true }
  | .noIncludeVow => return { arguments with noIncludeVow := true }
  | .require => return { arguments with requires := arguments.requires ++ [value] }
  | .jobs =>
    match readNumber value with
    | .ok n => return { arguments with jobs := some n }
    | .error error => throw (.badNumber value form.shown error)
  | .processor => return { arguments with processor := some (← path) }
  | .stdout => return { arguments with stdout := true }
  | .help => return arguments

/-! ### The build command -/

/-- What was read but not yet looked at. -/
inductive Pending where
  | nothing
  /-- An option, perhaps with its value. -/
  | option (form : OptionForm) (value : Option String)
  | files (values : List String)
  deriving DecidableEq, Repr

/-- How far the arguments of a build have been read. -/
structure BuildReading where
  arguments : BuildArguments := {}
  /-- The options that were given, in order. -/
  given : List OptionForm := []
  pending : Pending := .nothing

namespace BuildReading

/-- Takes an option with its value. Only libraries may be given more than once. -/
def store (reading : BuildReading) (form : OptionForm) (value : Option String) :
    Except UsageError BuildReading := do
  if form.placeholder.isSome && value.isNone then throw (.noValue form.shown)
  if form.name ≠ .require && reading.given.contains form then throw (.repeated form.shown)
  return {
    reading with
    arguments := ← reading.arguments.set form (value.getD "")
    given := reading.given ++ [form] }

/-- Looks at what is pending. -/
def settle (reading : BuildReading) : Except UsageError BuildReading := do
  let settled := { reading with pending := .nothing }
  match reading.pending with
  | .nothing => return settled
  | .option form value => settled.store form value
  | .files values =>
    let files ← values.mapM (readPath shownFiles)
    let arguments := { reading.arguments with files := reading.arguments.files ++ files }
    return { settled with arguments }

def addFile (reading : BuildReading) (argument : String) : Except UsageError BuildReading := do
  match reading.pending with
  | .files values => return { reading with pending := .files (values ++ [argument]) }
  | _ => return { ← reading.settle with pending := .files [argument] }

/-- Takes an option whose value may follow. -/
def addOption (reading : BuildReading) (form : OptionForm) (value : Option String) :
    Except UsageError BuildReading := do
  let reading ← reading.settle
  match form.placeholder, value with
  | some _, none => return { reading with pending := .option form none }
  | _, _ => reading.store form value

/-- The value after a short option in the same argument, if there is one. -/
def attachedValue (rest : List Char) : Option String :=
  match rest with
  | [] => none
  | '=' :: value => some (String.ofList value)
  | value => some (String.ofList value)

/-- Takes short options in a row. The result is `none` if help is asked for. -/
def addShort (reading : BuildReading) (c : Char) (rest : List Char) :
    Except UsageError (Option BuildReading) := do
  match buildOptions.find? (·.short == some c) with
  | none => throw (.unexpected ("-" ++ String.singleton c))
  | some form =>
    if form.name = .help then
      let _ ← reading.settle
      return none
    return some (← reading.addOption form (attachedValue rest))

/-- Takes a long option. The result is `none` if help is asked for. -/
def addLong (reading : BuildReading) (name : String) (value : Option String) :
    Except UsageError (Option BuildReading) := do
  match buildOptions.find? (·.long == name) with
  | none => throw (.unexpected ("--" ++ name))
  | some form =>
    match form.placeholder, value with
    | none, some value => throw (.needlessValue value form.shown)
    | _, _ =>
      if form.name = .help then
        let _ ← reading.settle
        return none
      return some (← reading.addOption form value)

/-- Takes a word: the value of the option before it, or else a file. -/
def addWord (reading : BuildReading) (argument : String) : Except UsageError BuildReading :=
  match reading.pending with
  | .option form none => .ok { reading with pending := .option form (some argument) }
  | _ => reading.addFile argument

/-- The first two of the given options that exclude each other. -/
def conflict? (reading : BuildReading) : Option (OptionForm × OptionForm) :=
  match reading.given.filter fun form =>
      form.name == .includeVow || form.name == .noIncludeVow with
  | first :: second :: _ => some (first, second)
  | _ => none

/-- What the arguments ask for in all. -/
def finish (reading : BuildReading) : Except UsageError Invocation := do
  let reading ← reading.settle
  if let some (first, second) := reading.conflict? then
    throw (.conflict first.shown second.shown)
  if reading.arguments.files.isEmpty then throw .noFiles
  return .build reading.arguments

/-- Reads the arguments of a build. After two dashes there are only files. -/
def read (onlyFiles : Bool) : List String → BuildReading → Except UsageError Invocation
  | [], reading => reading.finish
  | argument :: rest, reading => do
    if onlyFiles then read true rest (← reading.addFile argument)
    else match Shape.of argument with
      | .dashes => read true rest reading
      | .long name value =>
        match ← reading.addLong name value with
        | some reading => read false rest reading
        | none => return .buildHelp
      | .short c cs =>
        match ← reading.addShort c cs with
        | some reading => read false rest reading
        | none => return .buildHelp
      | .word => read false rest (← reading.addWord argument)

end BuildReading

/-! ### Commands -/

/-- Reads what help is asked for. -/
def readHelp : List String → Except UsageError Invocation
  | [] => .ok .help
  | ["build"] => .ok .buildHelp
  | ["help"] => .ok .helpHelp
  | "build" :: name :: _ | "help" :: name :: _ => .error (.unknownCommand name)
  | name :: _ => .error (.unknownCommand name)

/-- Reads the whole command line. After two dashes no command is accepted. -/
def read (afterDashes : Bool) : List String → Except UsageError Invocation
  | [] => .error .noCommand
  | argument :: rest =>
    let isCommand := argument = "build" || argument = "help"
    if afterDashes then
      .error (if isCommand then .unexpected argument else .unknownCommand argument)
    else if argument = "build" then BuildReading.read false rest {}
    else if argument = "help" then readHelp rest
    else match Shape.of argument with
      | .dashes => read true rest
      | .long "help" none => .ok .help
      | .long "version" none => .ok .version
      | .long "help" (some value) => .error (.needlessValue value "--help")
      | .long "version" (some value) => .error (.needlessValue value "--version")
      | .long name _ => .error (.unexpected ("--" ++ name))
      | .short 'h' _ => .ok .help
      | .short 'V' _ => .ok .version
      | .short c _ => .error (.unexpected ("-" ++ String.singleton c))
      | .word => .error (.unknownCommand argument)

/-- What the arguments of the command line ask for. -/
def parse (arguments : List String) : Except UsageError Invocation := read false arguments

end TemplateBundler.CommandLine
