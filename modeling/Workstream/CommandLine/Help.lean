import Workstream.CommandLine.Parameter
import Workstream.Text.Wrapped

/-!
# Help

What is printed about a command: what it is for, how it is called, and entries for the
commands that it groups, for its positional parameters and for its options. Brief help
has the explanation of an entry beside it, full help below it.
-/

namespace Workstream.CommandLine

/-- How much is explained. -/
inductive HelpDetail where
  | brief
  | full
deriving DecidableEq

/-- What is explained. -/
inductive HelpTopic where
  | command (command : Command)
  /-- The word that asks for help about the commands of a group. -/
  | help (group : Command)
deriving DecidableEq

/-- An entry of a list. -/
structure HelpEntry where
  head : String
  about : String
  remarks : List String
  /-- Values with what they are for, which only full help shows. -/
  values : List (String × String)

namespace HelpEntry

/-- The number of columns of a page. -/
def columns : Nat := 100

/-- The number of blanks in front of an explanation that stands below its entry. -/
def margin : Nat := 10

/-- The length of the longest of some texts. -/
def longest (texts : List String) : Nat := (texts.map String.length).foldl max 0

/-- An entry with its explanation beside it, where the longest entry has so many
characters. -/
def briefText (width : Nat) (entry : HelpEntry) : String :=
  let explanation := " ".intercalate (entry.about :: entry.remarks)
  "  " ++ (entry.head.pushn ' ' (width - entry.head.length)) ++ "  " ++
    Text.hang (width + 4) (Text.wrap (columns - (width + 4)) explanation)

/-- A value with what it is for, where the longest value has so many characters. -/
def valueText (width : Nat) (value : String × String) : String :=
  let (name, about) := value
  let text := (name ++ ": ").pushn ' ' (width - name.length) ++ about
  "- " ++ Text.hang (margin + 2) (Text.wrap (columns - (margin + 2)) text)

/-- An entry with its explanation below it. -/
def fullText (entry : HelpEntry) : String :=
  let remarks := if entry.remarks = [] then [] else ["\n".intercalate entry.remarks]
  let explanation := "\n\n".intercalate (entry.about :: remarks)
  let width := longest (entry.values.map (·.1))
  let values := if entry.values = [] then [] else
    ["\n".intercalate ("Possible values:" :: entry.values.map (valueText width))]
  "  " ++ entry.head ++ "\n" ++ "".pushn ' ' margin ++
    Text.hang margin
      ("\n\n".intercalate (Text.wrap (columns - margin) explanation :: values))

/-- Entries one below the other. -/
def list (detail : HelpDetail) (entries : List HelpEntry) : String :=
  match detail with
  | .brief => "\n".intercalate (entries.map (briefText (longest (entries.map (·.head)))))
  | .full => "\n\n".intercalate (entries.map fullText)

/-- The entry for a command that is grouped by another one. -/
def ofCommand (command : Command) : HelpEntry :=
  { head := command.word, about := command.about, remarks := [], values := [] }

/-- The entry for a parameter. The values of a choice are listed when full help explains
one of them, and named in a remark otherwise. -/
def ofParameter (detail : HelpDetail) (parameter : Parameter) : HelpEntry :=
  let explained := parameter.choices.filterMap fun (name, about) =>
    about.map fun text => (name, text)
  let values := if detail = .full then explained else []
  let names := parameter.choices.map (·.1)
  { head := (if parameter.option?.isSome then "    " else "") ++ parameter.display
    about := parameter.about
    remarks :=
      (parameter.default?.toList.map fun value => "[default: " ++ value ++ "]") ++
        (if names = [] || values ≠ [] then []
          else ["[possible values: " ++ ", ".intercalate names ++ "]"])
    values }

/-- The entry for the option that asks for help. -/
def helpOption (detail : HelpDetail) : HelpEntry :=
  { head := "-h, --help"
    about := match detail with
      | .brief => "Print help (see more with '--help')"
      | .full => "Print help (see a summary with '-h')"
    remarks := []
    values := [] }

/-- The entry for the option that asks for the version. -/
def versionOption : HelpEntry :=
  { head := "-V, --version", about := "Print version", remarks := [], values := [] }

end HelpEntry

namespace Command

/-- The options of a command as they are listed: by their positions among those that only
this command has or among those that all have, and by name at the same position. -/
def listedOptions (command : Command) : List Parameter :=
  let own := command.options.filter fun option => !commonOptions.contains option
  let inFront := fun (one, place) (other, otherPlace) =>
    place < otherPlace || (place = otherPlace && Parameter.display one ≤ other.display)
  ((own.zipIdx ++ commonOptions.zipIdx).mergeSort inFront).map (·.1)

end Command

namespace HelpTopic

/-- What the word that asks for help is for. -/
def aboutHelp : String := "Print this message or the help of the given subcommand(s)"

/-- What a topic is for, wrapped. -/
def about (detail : HelpDetail) : HelpTopic → String
  | .command target =>
    Text.wrap HelpEntry.columns
      (match detail with
        | .brief => target.about
        | .full => "\n\n".intercalate target.description)
  | .help _ => aboutHelp

/-- How a topic is called. -/
def usage : HelpTopic → String
  | .command target =>
    " ".intercalate (target.words ++ ["[OPTIONS]"] ++
      target.positionals.map Parameter.display ++
      (if target.isGroup then ["<COMMAND>"] else []))
  | .help group => " ".intercalate (group.words ++ [Command.helpWord, "[COMMAND]..."])

/-- The lists of a topic, each under its title. -/
def lists (detail : HelpDetail) : HelpTopic → List (String × String)
  | .command target =>
    let commands := target.subcommands.map HelpEntry.ofCommand ++
      [{ head := Command.helpWord, about := aboutHelp, remarks := [], values := [] }]
    let positionals := target.positionals.map (HelpEntry.ofParameter detail)
    let options := target.listedOptions.map (HelpEntry.ofParameter detail) ++
      [HelpEntry.helpOption detail, HelpEntry.versionOption]
    (if target.isGroup then [("Commands", HelpEntry.list .brief commands)] else []) ++
      (if positionals.isEmpty then [] else [("Arguments", HelpEntry.list detail positionals)]) ++
      [("Options", HelpEntry.list detail options)]
  | .help _ =>
    [("Arguments", HelpEntry.list .brief
      [{ head := "[COMMAND]...", about := "Print help for the subcommand(s)", remarks := [],
         values := [] }])]

/-- What is said about a topic after everything else. -/
def epilogue? : HelpTopic → Option String
  | .command target => target.epilogue?
  | .help _ => none

/-- What is printed about a topic. -/
def text (detail : HelpDetail) (topic : HelpTopic) : String :=
  "\n\n".intercalate
    ([topic.about detail, "Usage: " ++ topic.usage] ++
      (topic.lists detail).map (fun (title, list) => title ++ ":\n" ++ list) ++
      topic.epilogue?.toList) ++ "\n"

end HelpTopic

end Workstream.CommandLine
