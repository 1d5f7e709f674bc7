import SettingsForm.Script.Assignment

/-!
# Arguments of the command line

The arguments name a command, the file of a form and options. They are read from the left, and the first
argument that does not fit ends the reading, just as a request for help does. An option is written with two
hyphens and its name, or with one hyphen and its letter; several letters may share a hyphen. A value is the
next argument, or what follows the name after an equals sign, or what follows the letter. After an argument
of two hyphens alone no argument is an option.
-/

namespace SettingsForm

/-- The options of all commands. -/
inductive OptionName where
  | verbose
  | help
  | version
  | values
  | defaults
  | json
  | config
  | set
  | output
  deriving DecidableEq, Repr

namespace OptionName

/-- The name of an option after two hyphens. -/
def long : OptionName → String
  | verbose => "verbose"
  | help => "help"
  | version => "version"
  | values => "values"
  | defaults => "defaults"
  | json => "json"
  | config => "config"
  | set => "set"
  | output => "output"

/-- The letter of an option after one hyphen, if it has one. -/
def letter? : OptionName → Option Char
  | verbose => some 'v'
  | help => some 'h'
  | version => some 'V'
  | config => some 'c'
  | set => some 's'
  | output => some 'o'
  | values | defaults | json => none

/-- The option is followed by a value. -/
def takesValue : OptionName → Bool
  | values | defaults | config | set | output => true
  | verbose | help | version | json => false

end OptionName

/-- The commands by their names. -/
inductive CommandName where
  | check
  | overview
  | apply
  | configSchema
  deriving DecidableEq, Repr

namespace CommandName

/-- The commands, as they are listed. -/
def all : List CommandName := [check, overview, apply, configSchema]

/-- The name of a command. -/
def name : CommandName → String
  | check => "check"
  | overview => "show"
  | apply => "apply"
  | configSchema => "config-schema"

/-- The command with a name. -/
def ofName? (name : String) : Option CommandName := all.find? (·.name = name)

/-- The options of a command. -/
def options : CommandName → List OptionName
  | check | configSchema => [.verbose, .help]
  | overview => [.values, .defaults, .json, .verbose, .help]
  | apply => [.values, .defaults, .config, .set, .output, .verbose, .help]

/-- The command works on a form, whose file is an argument. -/
def takesForm : CommandName → Bool
  | configSchema => false
  | check | overview | apply => true

end CommandName

/-- In place of a command, this name asks for help. -/
def helpName : String := "help"

/-- The options that may stand before the command. -/
def OptionName.leading : List OptionName := [verbose, help, version]

/-- Why arguments do not fit. -/
inductive UsageError where
  | unknownOption (argument : String)
  | unexpectedArgument (argument : String)
  | repeated (option : OptionName)
  | missingValue (option : OptionName)
  | unexpectedValue (option : OptionName)
  | emptyPath
  | assignment (cause : AssignmentError)
  | missingForm
  | missingCommand
  | unknownCommand (name : String)
  deriving DecidableEq, Repr

/-- What is wrong with the arguments. -/
def UsageError.message : UsageError → String
  | unknownOption argument => s!"unexpected argument '{argument}'"
  | unexpectedArgument argument => s!"unexpected argument '{argument}'"
  | repeated option => s!"the option '--{option.long}' cannot be given twice"
  | missingValue option => s!"the option '--{option.long}' needs a value"
  | unexpectedValue option => s!"the option '--{option.long}' takes no value"
  | emptyPath => "a path is empty"
  | assignment cause => cause.message
  | missingForm => "the file of a form is missing"
  | missingCommand => "a command is missing"
  | unknownCommand name => s!"unknown command '{name}'"

/-- Why the reading of arguments ended before their end. -/
inductive Interruption where
  | usage (error : UsageError)
  | help
  | version
  deriving DecidableEq, Repr

/-- What the arguments read so far have given. -/
structure Given where
  switches : List OptionName
  paths : List (OptionName × String)
  assignments : List Assignment
  form : Option String

namespace Given

/-- No arguments yet. -/
def nothing : Given := { switches := [], paths := [], assignments := [], form := none }

/-- The option was given. -/
def has (g : Given) (option : OptionName) : Bool := g.switches.contains option

/-- The path that was given for an option. -/
def path? (g : Given) (option : OptionName) : Option String := g.paths.lookup option

/-- Takes an option without a value. -/
def addSwitch (g : Given) (option : OptionName) : Except Interruption Given :=
  match option with
  | .help => .error .help
  | .version => .error .version
  | option =>
    if g.has option then .error (.usage (.repeated option))
    else .ok { g with switches := option :: g.switches }

/-- Takes an option with its value. Only assignments may be given more than once. -/
def addValue (g : Given) (option : OptionName) (value : String) : Except Interruption Given :=
  if option = .set then
    match Assignment.read value with
    | .ok a => .ok { g with assignments := g.assignments ++ [a] }
    | .error cause => .error (.usage (.assignment cause))
  else if (g.path? option).isSome then .error (.usage (.repeated option))
  else if value = "" then .error (.usage .emptyPath)
  else .ok { g with paths := (option, value) :: g.paths }

/-- Takes the file of the form. -/
def addForm (g : Given) (command : CommandName) (path : String) : Except Interruption Given :=
  if g.form.isSome ∨ !command.takesForm then .error (.usage (.unexpectedArgument path))
  else if path = "" then .error (.usage .emptyPath)
  else .ok { g with form := some path }

/-- Takes an option that is written with its name. An option is returned whose value is still to come. -/
def addLong (g : Given) (known : List OptionName) (text : List Char) :
    Except Interruption (Given × Option OptionName) :=
  let name := text.takeWhile (· ≠ '=')
  let value := (text.drop name.length).tail?.map String.ofList
  match known.find? fun option => option.long.toList = name with
  | none => .error (.usage (.unknownOption (String.ofList ('-' :: '-' :: text))))
  | some option =>
    match option.takesValue, value with
    | true, some value => (g.addValue option value).map (·, none)
    | true, none => .ok (g, some option)
    | false, some _ => .error (.usage (.unexpectedValue option))
    | false, none => (g.addSwitch option).map (·, none)

/-- Takes options that are written with their letters. An option is returned whose value is still to come. -/
def addLetters (known : List OptionName) : List Char → Given → Except Interruption (Given × Option OptionName)
  | [], g => .ok (g, none)
  | letter :: rest, g =>
    match known.find? fun option => option.letter? = some letter with
    | none => .error (.usage (.unknownOption (String.ofList ['-', letter])))
    | some option =>
      if option.takesValue then
        match rest with
        | [] => .ok (g, some option)
        | '=' :: value | value => (g.addValue option (String.ofList value)).map (·, none)
      else do addLetters known rest (← g.addSwitch option)

/-- An argument that starts with a hyphen and goes on stands for options. -/
def isOptionText (argument : String) : Bool :=
  match argument.toList with
  | '-' :: _ :: _ => true
  | _ => false

/-- Takes an argument that stands for options. -/
def addOptions (g : Given) (known : List OptionName) (argument : String) :
    Except Interruption (Given × Option OptionName) :=
  match argument.toList.drop 1 with
  | '-' :: text => g.addLong known text
  | letters => addLetters known letters g

/-- Takes the arguments after the name of a command. An option may be waiting for its value. -/
def addAll (command : CommandName) :
    (waiting : Option OptionName) → (isOption : Bool) → List String → Given → Except Interruption Given
  | none, _, [], g => .ok g
  | some option, _, [], _ => .error (.usage (.missingValue option))
  | some option, isOption, argument :: rest, g => do
    if isOptionText argument then throw (.usage (.missingValue option))
    addAll command none isOption rest (← g.addValue option argument)
  | none, false, argument :: rest, g => do addAll command none false rest (← g.addForm command argument)
  | none, true, argument :: rest, g =>
    if argument = "--" then addAll command none false rest g
    else if isOptionText argument then do
      let (g, waiting) ← g.addOptions command.options argument
      addAll command waiting true rest g
    else do addAll command none true rest (← g.addForm command argument)

end Given

/-- The files with the values that a form is shown with. -/
structure ValueFiles where
  values : Option String
  defaults : Option String
  deriving DecidableEq, Repr

/-- A command with all that it needs. -/
inductive Command where
  /-- Validates a form and reports a summary. -/
  | check (form : String)
  /-- Shows the sections of a form with the values in effect, as lines or as JSON. -/
  | overview (form : String) (files : ValueFiles) (asJson : Bool)
  /-- Carries out assignments and writes the edits, to a file if one is given. -/
  | apply (form : String) (files : ValueFiles) (config : Option String) (assignments : List Assignment)
      (output : Option String)
  /-- Writes the schema of configuration files. -/
  | configSchema
  deriving Repr

/-- What help is given on. -/
inductive HelpTopic where
  | program
  | command (name : CommandName)
  /-- The request for help itself. -/
  | help
  deriving DecidableEq, Repr

/-- What the arguments ask for. -/
inductive Invocation where
  | command (command : Command)
  | help (topic : HelpTopic)
  | version
  | misuse (error : UsageError)

namespace Invocation

/-- What an interruption makes of an invocation while the arguments of a topic are read. -/
def ofInterruption (topic : HelpTopic) : Interruption → Invocation
  | .usage error => misuse error
  | .help => help topic
  | .version => version

/-- The command with what was given for it. -/
def ofGiven (name : CommandName) (g : Given) : Invocation :=
  let files : ValueFiles := ⟨g.path? .values, g.path? .defaults⟩
  match name, g.form with
  | .configSchema, _ => command .configSchema
  | .check, some form => command (.check form)
  | .overview, some form => command (.overview form files (g.has .json))
  | .apply, some form =>
    command (.apply form files (g.path? .config) g.assignments (g.path? .output))
  | _, none => misuse .missingForm

/-- Reads the arguments after the name of a command. -/
def ofCommandName (name : CommandName) (arguments : List String) : Invocation :=
  match Given.addAll name none true arguments Given.nothing with
  | .ok g => ofGiven name g
  | .error interruption => ofInterruption (.command name) interruption

/-- Reads the arguments after a request for help. -/
def ofHelpTopic : List String → Invocation
  | [] => help .program
  | [topic] => match CommandName.ofName? topic with
    | some name => help (.command name)
    | none => if topic = helpName then help .help else misuse (.unknownCommand topic)
  | _ :: argument :: _ => misuse (.unexpectedArgument argument)

/-- Reads arguments up to the name of a command, and then those after it. -/
def readFrom (g : Given) : List String → Invocation
  | [] => misuse .missingCommand
  | argument :: rest =>
    if Given.isOptionText argument then
      match g.addOptions OptionName.leading argument with
      | .ok (g, _) => readFrom g rest
      | .error interruption => ofInterruption .program interruption
    else if argument = helpName then ofHelpTopic rest
    else match CommandName.ofName? argument with
      | some name => ofCommandName name rest
      | none => misuse (.unknownCommand argument)

/-- Reads the arguments of the command line. -/
def read (arguments : List String) : Invocation := readFrom Given.nothing arguments

end Invocation

end SettingsForm
