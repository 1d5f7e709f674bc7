import SettingsForm.Command.Arguments
import SettingsForm.Text.Columns

/-!
# Help on the command line

A page of help says what its topic does and how it is called, and then explains commands, arguments and
options in tables of two columns. Every command has a page, and so have the program and the request for
help itself.
-/

namespace SettingsForm.Help

/-- The name of the program. -/
def programName : String := "prefsheet"

/-- The version of the program. -/
def versionLine : String := s!"{programName} 0.1.0"

/-- What a command does. -/
def describeCommand : CommandName → String
  | .check => "Parse and validate a schema"
  | .overview => "Print the root sections with their effective values"
  | .apply => "Apply assignments and print or save the resulting changes"
  | .configSchema => "Print the JSON schema of the session configuration file"

/-- What the help command does. -/
def describeHelp : String := "Print this message or the help of the given subcommand(s)"

/-- What an option does. -/
def describeOption : OptionName → String
  | .verbose => "Log session activity (overridden by RUST_LOG)"
  | .help => "Print help"
  | .version => "Print version"
  | .values => "Input values (.json or .toml)"
  | .defaults => "Fallback values (.json or .toml)"
  | .json => "Print descriptors as JSON"
  | .config => "Session configuration (.json or .toml)"
  | .set => "PATH=VALUE, where PATH is dotted through nested sections"
  | .output => "Write the changes here instead of stdout"

/-- What stands for the value of an option. -/
def valueName? : OptionName → Option String
  | .values => some "VALUES"
  | .defaults => some "DEFAULTS"
  | .config => some "CONFIG"
  | .set => some "PATH=VALUE"
  | .output => some "OUTPUT"
  | .verbose | .help | .version | .json => none

/-- What stands for the file of the form. -/
def formName : String := "<SCHEMA>"

/-- Only one of the commands explains the file of the form. -/
def describeForm : CommandName → String
  | .check => "Schema document (.json or .toml)"
  | .overview | .apply | .configSchema => ""

/-- How an option is written, with its letter if it has one. -/
def optionUsage (option : OptionName) : String :=
  let letter := match option.letter? with
    | some c => String.ofList ['-', c, ',', ' ']
    | none => "    "
  letter ++ "--" ++ option.long ++ (valueName? option).elim "" fun name => s!" <{name}>"

/-- Lines of two columns under a title, the second column as far left as the first one allows. -/
def table (title : String) (rows : List (String × String)) : List String :=
  let width := rows.foldl (fun width (left, _) => max width left.length) 0
  ["", title ++ ":"] ++ rows.map fun (left, right) => s!"  {Columns.padRight width left}  {right}"

/-- The lines above the tables. -/
def opening (description usage : String) : List String :=
  [description, "", s!"Usage: {programName} {usage}"]

/-- The commands with what they do, the help last. -/
def commandTable : List String :=
  table "Commands" <|
    CommandName.all.map (fun command => (command.name, describeCommand command)) ++
      [(helpName, describeHelp)]

/-- Options with what they do. -/
def optionTable (options : List OptionName) : List String :=
  table "Options" (options.map fun option => (optionUsage option, describeOption option))

/-- The page on a topic. -/
def lines : HelpTopic → List String
  | .program =>
    opening "Settings schema interpreter" "[OPTIONS] <COMMAND>" ++ commandTable ++
      optionTable [.verbose, .help, .version]
  | .command command =>
    let usage := s!"{command.name} [OPTIONS]"
    if command.takesForm then
      opening (describeCommand command) s!"{usage} {formName}" ++
        table "Arguments" [(formName, describeForm command)] ++ optionTable command.options
    else opening (describeCommand command) usage ++ optionTable command.options
  | .help =>
    opening describeHelp s!"{helpName} [COMMAND]..." ++
      table "Arguments" [("[COMMAND]...", "Print help for the subcommand(s)")]

end SettingsForm.Help
