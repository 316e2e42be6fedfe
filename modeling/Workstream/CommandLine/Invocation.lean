import Workstream.CommandLine.Usage

/-!
# From arguments to invocations

The arguments are read from left to right, by one level for each command on the way to
a leaf of the tree of commands. Each level knows its own options, and at each level an
option can be given once; of an option that every command knows, the value from the
innermost level counts.

A value is checked when the argument after it begins, so a later argument that is not
known at all is reported first, and so is a fault on an inner level. After `--` all
arguments are positional.
-/

namespace Workstream.CommandLine

/-- A parameter with the values that were given for it and are not checked yet. -/
structure Pending where
  parameter : Parameter
  values : List String

/-- The state of a level. -/
structure Level where
  command : Command
  arguments : Arguments
  pending : Option Pending
  /-- The positional parameters that are still open. -/
  positionals : List Parameter
  onlyPositional : Bool

namespace Level

/-- The level of a command before its first argument. -/
def start (command : Command) : Level :=
  { command, arguments := .none, pending := none, positionals := command.positionals,
    onlyPositional := false }

/-- The level with values that are still to be checked. -/
def hold (level : Level) (parameter : Parameter) (values : List String) : Level :=
  { level with pending := some { parameter, values } }

/-- Whether the next argument is the value of an option. -/
def awaitsValue (level : Level) : Bool :=
  match level.pending with
  | some pending => pending.values.isEmpty && !level.onlyPositional
  | none => false

/-- Keep a value. -/
def store (parameter : Parameter) (arguments : Arguments) (value : String) :
    Except UsageError Arguments :=
  (parameter.store value arguments).mapError fun
    | .missing => .missingValue parameter
    | .invalid reason => .invalidValue value parameter reason

/-- Keep the values of a parameter. -/
def give (level : Level) (parameter : Parameter) (values : List String) :
    Except UsageError Level :=
  if values.isEmpty then .error (.missingValue parameter)
  else if parameter.isGiven level.arguments && !parameter.isRepeatable then
    .error (.repeated parameter)
  else do
    let arguments ← values.foldlM (store parameter) level.arguments
    return { level with arguments }

/-- Check what is still to be checked. -/
def settle (level : Level) : Except UsageError Level :=
  match level.pending with
  | none => .ok level
  | some pending => give { level with pending := none } pending.parameter pending.values

/-- The notice about an error on a level. -/
def misuse (level : Level) (error : UsageError) : Notice := .misuse level.command error

/-- Check what is still to be checked before a notice. -/
def settled (level : Level) (notice : Notice) : Notice :=
  match level.settle with
  | .ok _ => notice
  | .error error => level.misuse error

/-- Take an option by its name, with the value after the equals sign if there is one and
with the arguments that follow. -/
def takeOption (level : Level) (name : String) (attached : Option String)
    (rest : List String) : Except Notice Level := do
  match level.command.option? name, attached with
  | some parameter, none =>
    let level ← level.settle.mapError level.misuse
    if parameter.isFlag then (level.give parameter [""]).mapError level.misuse
    else return level.hold parameter []
  | some parameter, some value =>
    if parameter.isFlag then
      .error (level.misuse (.unexpectedValue value parameter.display))
    else
      let level ← level.settle.mapError level.misuse
      (level.give parameter [value]).mapError level.misuse
  | none, attached =>
    match name, attached with
    | "help", none => .error (level.settled (.help (.command level.command) .full true))
    | "version", none => .error (level.settled (.version level.command))
    | "help", some value => .error (level.misuse (.unexpectedValue value "--help"))
    | "version", some value => .error (level.misuse (.unexpectedValue value "--version"))
    | _, _ => .error (level.misuse (.unknownOption name rest))

/-- Take an option by its letter. -/
def takeLetter (level : Level) (letter : Char) : Except Notice Level :=
  if letter = 'h' then .error (level.settled (.help (.command level.command) .brief true))
  else if letter = 'V' then .error (level.settled (.version level.command))
  else .error (level.misuse (.unknownLetter letter))

/-- Take a positional argument. -/
def takePositional (level : Level) (argument : String) : Except Notice Level :=
  match level.positionals with
  | [] =>
    .error (level.misuse (
      if level.command.isGroup then
        if level.onlyPositional && level.command.isSelected argument then
          .commandAsArgument argument
        else .unknownCommand argument
      else .extraArgument argument))
  | parameter :: others => do
    let others := if parameter.isRepeatable then parameter :: others else others
    match level.pending with
    | some { parameter := earlier, values } =>
      if earlier = parameter && parameter.isRepeatable then
        return level.hold parameter (values ++ [argument])
      else
        let level ← level.settle.mapError level.misuse
        return hold { level with positionals := others } parameter [argument]
    | none => return hold { level with positionals := others } parameter [argument]

/-- Take a value of an option or a positional argument. -/
def takeValue (level : Level) (argument : String) : Except Notice Level :=
  match level.pending with
  | some pending =>
    if level.awaitsValue then
      .ok (level.hold pending.parameter [argument])
    else
      level.takePositional argument
  | none => level.takePositional argument

/-- Take an argument that does not select a command, given the arguments that follow. -/
def take (level : Level) (argument : String) (rest : List String) : Except Notice Level :=
  if level.onlyPositional then
    level.takePositional argument
  else
    match argument.toList with
    | ['-', '-'] => .ok { level with onlyPositional := true }
    | '-' :: '-' :: option =>
      let name := option.takeWhile (· ≠ '=')
      let attached := match option.drop name.length with
        | _ :: value => some (String.ofList value)
        | [] => none
      level.takeOption (String.ofList name) attached rest
    | '-' :: letter :: _ => level.takeLetter letter
    | _ => level.takeValue argument

/-- Complete a level after its last argument. -/
def finish (level : Level) (selected : Bool) : Except Notice Level := do
  let level ← level.settle.mapError level.misuse
  let missing := level.command.positionals.filter fun parameter =>
    !parameter.isGiven level.arguments
  if level.command.isGroup && !selected then
    if level.arguments = .none then .error (.help (.command level.command) .brief false)
    else .error (level.misuse .missingCommand)
  else if !missing.isEmpty then
    .error (level.misuse (.missingArguments missing))
  else
    return level

end Level

/-- The explanation of what words lead to. -/
def explain (command : Command) : List String → Notice
  | [] => .help (.command command) .full true
  | word :: rest =>
    match command.subcommand? word with
    | some sub => explain sub rest
    | none =>
      if command.isGroup && word = Command.helpWord then
        match rest with
        | [] => .help (.help command) .full true
        | next :: _ => .noHelp command next
      else .misuse command (.unknownTopic word)

/-- Read arguments on a level and on those below it, and give the levels with the
innermost one last. -/
def readLevels (level : Level) : List String → Except Notice (List Level)
  | [] => do
    let level ← level.finish false
    return [level]
  | argument :: rest => do
    let selects := !level.onlyPositional && !level.awaitsValue
    if selects && level.command.isGroup && argument = Command.helpWord then
      .error (explain level.command rest)
    else
      match if selects then level.command.subcommand? argument else none with
      | some command =>
        let inner ← readLevels (.start command) rest
        let level ← level.finish true
        return level :: inner
      | none =>
        let level ← level.take argument rest
        readLevels level rest

/-- What is to be done. -/
inductive Task where
  | encode (specification : Specification)
  | decode (names : List String) (project : Option String)
  | scan (project : Option String)
  | check (kind : NameKind) (value : String)

/-- What a leaf does with its arguments. Nothing is left to do when an argument is
missing. -/
def Task.of? (command : Command) (arguments : Arguments) : Option Task :=
  match command with
  | .encode =>
    arguments.workspace.map fun id =>
      .encode (.of id (if arguments.group then .group else .user)
        (arguments.access.getD .live) (.ofPatchVersion? arguments.patch) arguments.user)
  | .decode => some (.decode arguments.names arguments.project)
  | .scan => some (.scan arguments.project)
  | .check =>
    match arguments.kind, arguments.value with
    | some kind, some value => some (.check kind value)
    | _, _ => none
  | _ => none

/-- A command with everything that it needs to know. -/
structure Invocation where
  /-- The path of the file with the settings. -/
  config : String
  /-- How results are printed, if it is not left to the settings. -/
  format : Option OutputFormat
  task : Task

/-- The value that was given on the innermost level. -/
def innermost {Content : Type} (levels : List Level) (value : Arguments → Option Content) :
    Option Content :=
  levels.reverse.findSome? fun level => value level.arguments

/-- The invocation that arguments ask for. -/
def Invocation.ofArguments (arguments : List String) : Except Notice Invocation := do
  let levels ← readLevels (.start .root) arguments
  let last := (levels.getLast?).getD (.start .root)
  match Task.of? last.command last.arguments with
  | some task =>
    return { config := (innermost levels (·.config)).getD Parameter.defaultConfig
             format := innermost levels (·.format)
             task }
  | none => .error (.help (.command last.command) .brief false)

end Workstream.CommandLine
