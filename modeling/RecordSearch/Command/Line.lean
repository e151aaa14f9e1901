import RecordSearch.Command.Options
import RecordSearch.Command.Request
import RecordSearch.Text.Blank
import RecordSearch.Text.Digit
import RecordSearch.Text.LowerCase

/-!
# Options and what they mean

The options for the whole run and those of the commands: their names, what their values may be, the
settings that they make, and the request that a command's own options and arguments make.
-/

namespace RecordSearch

namespace OutputFormat

/-- The format's name. -/
def name : OutputFormat → String
  | .table => "table"
  | .json => "json"

/-- All formats. -/
def all : List OutputFormat := [.table, .json]

/-- The format of a name. -/
def ofName? (name : String) : Option OutputFormat := all.find? fun f => f.name == name

/-- The format that the option `--output` names. -/
def ofOption (value : String) : Except UsageError OutputFormat :=
  match ofName? value with
  | some f => .ok f
  | none =>
    .error (.badValue "--output" (Text.quoted value ++ " is not one of " ++
      ", ".intercalate (all.map fun f => Text.quoted f.name) ++ "."))

/-- The format that the environment names, if it names any. -/
def ofEnvironment (value : String) : Except UsageError OutputFormat :=
  let name := Text.fold (Text.trimmed value)
  if name = "" then .ok .table
  else
    match ofName? name with
    | some f => .ok f
    | none => .error (.badEnvironment name (all.map OutputFormat.name))

end OutputFormat

/-- What a command line asks for. -/
inductive Order where
  | run (settings : Settings) (request : Request)
  | showVersion
  | showHelp
  deriving DecidableEq, Repr

/-! ### Options of the run -/

/-- The options for the whole run. -/
inductive RunOption where
  | output
  | json
  | quiet
  | verbose
  | notesFile
  | noNotesFile
  | version
  | help
  deriving DecidableEq, Repr

/-- The names of the options for the whole run. -/
def runOptions : List (OptionSpec RunOption) :=
  [{ id := .output, names := ["--output"], hasValue := true },
    { id := .json, names := ["--json"] },
    { id := .quiet, names := ["--quiet"], letters := ['q'] },
    { id := .verbose, letters := ['v'] },
    { id := .notesFile, names := ["--log-file"], hasValue := true },
    { id := .noNotesFile, names := ["--no-log-file"] },
    { id := .version, names := ["--version"] },
    { id := .help, names := ["--help"], letters := ['h'] }]

/-- Checks the value of an option for the whole run. -/
def checkRunOption (disk : Disk) : RunOption × String → Except UsageError Unit
  | (.output, value) => (OutputFormat.ofOption value).map fun _ => ()
  | (.notesFile, value) =>
    if value.toList.contains '\x00' then .error .nullInPath
    else if value = "" then .ok ()
    else
      match disk.entry? (Path.ofText value) with
      | some .directory =>
        .error (.badValue "--log-file" ("File " ++ Text.quoted value ++ " is a directory."))
      | some .locked =>
        .error (.badValue "--log-file" ("File " ++ Text.quoted value ++ " is not readable."))
      | _ => .ok ()
  | _ => .ok ()

/-- The first of two options that ask for something other than a run. -/
def early? (s : Scan RunOption) : Option Order :=
  s.options.findSome? fun
    | (.version, _) => some .showVersion
    | (.help, _) => some .showHelp
    | _ => none

/-- The format of the output: the option's, or what the environment says. -/
def runFormat (s : Surroundings) (line : Scan RunOption) : Except UsageError OutputFormat :=
  if 0 < line.count .json then .ok .json
  else
    match line.value? .output with
    | some value => .ok ((OutputFormat.ofName? value).getD .table)
    | none => OutputFormat.ofEnvironment (s.variable "SEARCHQUERY_OUTPUT")

/-- Where the notes go: where the option says, or else the environment, or else the usual file. -/
def notesFile? (s : Surroundings) (line : Scan RunOption) : Option Path :=
  let named := (line.value? .notesFile).getD ""
  let fallback := Text.trimmed (s.variable "SEARCHQUERY_LOG_FILE")
  if 0 < line.count .noNotesFile then none
  else if named ≠ "" then some (.ofText named)
  else if fallback ≠ "" then some (.ofText fallback)
  else some s.usualNotesFile

/-- The settings that the options for the whole run make. -/
def settingsOf (s : Surroundings) (line : Scan RunOption) : Except UsageError Settings :=
  (runFormat s line).map fun format =>
    { format, quiet := 0 < line.count .quiet, verbosity := line.count .verbose
      notesFile := notesFile? s line }

/-! ### Options of the commands -/

/-- The options of the commands. -/
inductive CommandOption where
  | output
  | json
  | file
  | limit
  | count
  | help
  deriving DecidableEq, Repr

/-- The options that all commands have. -/
def sharedOptions : List (OptionSpec CommandOption) :=
  [{ id := .output, names := ["--output"], hasValue := true },
    { id := .json, names := ["--json"] },
    { id := .help, names := ["--help"], letters := ['h'] }]

/-- The options of the command that selects records. -/
def selectOptions : List (OptionSpec CommandOption) :=
  [{ id := .file, names := ["--file"], letters := ['f'], hasValue := true },
    { id := .limit, names := ["--limit"], hasValue := true },
    { id := .count, names := ["--count"] }] ++ sharedOptions

/-- The whole number that the option `--limit` names. -/
def limitOf (value : String) : Except UsageError Int :=
  match Text.integer? value with
  | some n => .ok n
  | none => .error (.badValue "--limit" (Text.quoted value ++ " is not a valid integer."))

/-- Checks the value of a command's option. -/
def checkCommandOption : CommandOption × String → Except UsageError Unit
  | (.output, value) => (OutputFormat.ofOption value).map fun _ => ()
  | (.limit, value) => (limitOf value).map fun _ => ()
  | _ => .ok ()

/-- The settings with the format that a command's own options name, the last of them counting. -/
def withOwnFormat (settings : Settings) (line : Scan CommandOption) : Settings :=
  line.settled.foldl
    (fun settings o =>
      match o with
      | (.output, value) =>
        { settings with format := (OutputFormat.ofName? value).getD settings.format }
      | (.json, _) => { settings with format := .json }
      | _ => settings)
    settings

/-- The one argument of a command. -/
def queryOf : List String → Except UsageError String
  | [] => .error (.missingArgument "QUERY")
  | [query] => .ok query
  | _ :: extra => .error (.extraArguments extra)

/-- The request of a command whose words have been told apart. -/
def requestOf (command : String) (line : Scan CommandOption) : Except UsageError Request :=
  if command = "parse" then (queryOf line.arguments).map .parse
  else if command = "match" then
    (queryOf line.arguments).map fun query =>
      .select query ((line.value? .file).getD "-")
        ((line.value? .limit).bind Text.integer?) (0 < line.count .count)
  else if line.arguments.isEmpty then .ok .version
  else .error (.extraArguments line.arguments)

/-- The names of the commands. -/
def commandNames : List String := ["match", "parse", "version"]

/-- The options of a command, if there is one of that name. -/
def commandOptions? (name : String) : Option (List (OptionSpec CommandOption)) :=
  if name = "match" then some selectOptions
  else if name = "parse" ∨ name = "version" then some sharedOptions
  else none

end RecordSearch
