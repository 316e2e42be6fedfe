import Workstream.CommandLine.Help
import Workstream.Text.Similarity
import Workstream.Text.Terminal

/-!
# Usage errors

What is printed when the arguments do not fit the commands: what is wrong, tips for what
may have been meant, and how the command is called. Of what the arguments say, only what
a terminal shows stands in a message.
-/

namespace Workstream.CommandLine

/-- Why arguments do not fit the commands. -/
inductive UsageError where
  /-- There is no option of this name. The arguments after it are given too. -/
  | unknownOption (name : String) (rest : List String)
  | unknownLetter (letter : Char)
  | extraArgument (argument : String)
  /-- A command is named where only positional arguments are expected. -/
  | commandAsArgument (word : String)
  | unexpectedValue (value option : String)
  | missingValue (parameter : Parameter)
  | invalidValue (value : String) (parameter : Parameter) (reason : Option String)
  | repeated (parameter : Parameter)
  | unknownCommand (word : String)
  | unknownTopic (word : String)
  | missingArguments (parameters : List Parameter)
  /-- The command only groups others, of which none is selected. -/
  | missingCommand

namespace Command

/-- The words that are expected after a command. -/
def nextWords (command : Command) : List String :=
  command.subcommands.map word ++ (if command.isGroup then [helpWord] else [])

/-- The names of all options of a command. -/
def optionNames (command : Command) : List String :=
  command.options.filterMap Parameter.option? ++ ["help", "version"]

end Command

namespace UsageError

/-- What a message shows of an argument, between single quotes. -/
def shown (argument : String) : String := "'" ++ Text.withoutSequences argument ++ "'"

/-- A list in brackets on a line of its own, unless it is empty. -/
def listLines (title : String) (items : List String) : List String :=
  if items = [] then [] else ["  [" ++ title ++ ": " ++ ", ".intercalate items ++ "]"]

/-- The values that can be chosen. -/
def choiceLines (parameter : Parameter) : List String :=
  listLines "possible values" (parameter.choices.map (·.1))

/-- The message about an argument that nothing is known about. -/
def unexpected (argument : String) : List String :=
  ["unexpected argument " ++ shown argument ++ " found"]

/-- The lines that tell an error about a command. -/
def lines (command : Command) : UsageError → List String
  | .unknownOption name _ => unexpected ("--" ++ name)
  | .unknownLetter letter => unexpected ("-" ++ letter.toString)
  | .extraArgument argument => unexpected argument
  | .commandAsArgument word => unexpected word
  | .unexpectedValue value option =>
    ["unexpected value " ++ shown value ++ " for " ++ shown option ++
      " found; no more were expected"]
  | .missingValue parameter =>
    ("a value is required for '" ++ parameter.display ++ "' but none was supplied") ::
      choiceLines parameter
  | .invalidValue value parameter none =>
    ("invalid value " ++ shown value ++ " for '" ++ parameter.display ++ "'") ::
      choiceLines parameter
  | .invalidValue value parameter (some reason) =>
    ["invalid value " ++ shown value ++ " for '" ++ parameter.display ++ "': " ++ reason]
  | .repeated parameter =>
    ["the argument '" ++ parameter.display ++ "' cannot be used multiple times"]
  | .unknownCommand word => ["unrecognized subcommand " ++ shown word]
  | .unknownTopic word => ["unrecognized subcommand " ++ shown word]
  | .missingArguments parameters =>
    "the following required arguments were not provided:" ::
      parameters.map fun parameter => "  " ++ parameter.display
  | .missingCommand =>
    ("'" ++ " ".intercalate command.words ++ "' requires a subcommand but one was not provided") ::
      listLines "subcommands" command.nextWords

/-- The tip that something similar to a word exists. -/
def similarTip (kind word : String) (known : List String) : Option String :=
  match known.filter (Text.isSimilar word) with
  | [] => none
  | [found] => some ("a similar " ++ kind ++ " exists: '" ++ found ++ "'")
  | found =>
    some ("some similar " ++ kind ++ "s exist: " ++
      ", ".intercalate (found.map fun name => "'" ++ name ++ "'"))

/-- The tip that a later command has an option with a similar name. -/
def laterOptionTip (command : Command) (name : String) (rest : List String) : Option String :=
  rest.findSome? fun argument =>
    (command.subcommand? argument).bind fun sub =>
      (sub.optionNames.find? (Text.isSimilar name)).map fun option =>
        "'" ++ sub.word ++ " --" ++ option ++ "' exists"

/-- The tip that every argument after two dashes is positional. -/
def dashesTip (command : Command) (argument : String) : Option String :=
  if command.positionals.isEmpty then none
  else some ("to pass " ++ shown argument ++ " as a value, use " ++ shown ("-- " ++ argument))

/-- What may have been meant. -/
def tip? (command : Command) : UsageError → Option String
  | .unknownOption name rest =>
    match (command.optionNames.filter (Text.isSimilar name)).head? with
    | some option => some ("a similar argument exists: '--" ++ option ++ "'")
    | none => (laterOptionTip command name rest).or (dashesTip command ("--" ++ name))
  | .unknownLetter letter => dashesTip command ("-" ++ letter.toString)
  | .commandAsArgument word =>
    some ("subcommand " ++ shown word ++ " exists; to use it, remove the '--' before it")
  | .invalidValue value parameter none =>
    (parameter.choices.map (·.1)).find? (Text.isSimilar value) |>.map fun choice =>
      "a similar value exists: '" ++ choice ++ "'"
  | .unknownCommand word => similarTip "subcommand" word command.nextWords
  | _ => none

/-- Whether it is told how the command is called. It is not when a value is wrong. -/
def tellsUsage : UsageError → Bool
  | .missingValue _ => false
  | .invalidValue .. => false
  | _ => true

end UsageError

/-- What is done instead of carrying out a command. -/
inductive Notice where
  /-- Explain something, because it was asked for or because nothing was asked for. -/
  | help (topic : HelpTopic) (detail : HelpDetail) (asked : Bool)
  | version (command : Command)
  | misuse (command : Command) (error : UsageError)
  /-- Tell that there is no help about a word that follows the word for help. -/
  | noHelp (group : Command) (word : String)

namespace Notice

/-- The text about an error, with paragraphs after the message. -/
def errorText (lines : List String) (paragraphs : List String) : String :=
  "\n\n".intercalate (("error: " ++ "\n".intercalate lines) :: paragraphs) ++ "\n"

/-- The text about the misuse of a command. -/
def misuseText (command : Command) (error : UsageError) : String :=
  errorText (error.lines command)
    ((error.tip? command).toList.map ("  tip: " ++ ·) ++
      (if error.tellsUsage then ["Usage: " ++ (HelpTopic.command command).usage] else []) ++
      ["For more information, try '--help'."])

/-- The exit status. -/
def exit : Notice → Nat
  | .help _ _ true => 0
  | .version _ => 0
  | _ => 2

/-- What is printed on the standard output stream. -/
def output : Notice → String
  | .help topic detail true => topic.text detail
  | .version command => command.versionLine ++ "\n"
  | _ => ""

/-- What is printed on the standard error stream. -/
def errors : Notice → String
  | .help topic detail false => topic.text detail
  | .misuse command error => misuseText command error
  | .noHelp group word =>
    errorText ((UsageError.unknownTopic word).lines group)
      ["Usage: " ++ (HelpTopic.help group).usage]
  | _ => ""

end Notice

end Workstream.CommandLine
