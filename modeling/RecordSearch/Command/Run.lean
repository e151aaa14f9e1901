import RecordSearch.Command.Execution
import RecordSearch.Command.Line

/-!
# Runs

A command line has options for the whole run, the name of a command, and the command's own options
and arguments. Reading it gives the settings of the run and what it is asked to do, or what is wrong
with it. Where both are wrong, the run's options are complained about before the command, and within
each the options in the order in which they first occur. `respond` reads a command line and does
what it asks for.
-/

namespace RecordSearch

/-- Reads the words behind a command's name. -/
def readCommand (settings : Settings) (command : String) (specs : List (OptionSpec CommandOption))
    (words : List String) : Except UsageError Order := do
  let line ← scan specs true words
  if 0 < line.count .help then return .showHelp
  line.settled.forM checkCommandOption
  return .run (withOwnFormat settings line) (← requestOf command line)

/-- Reads the options for the whole run and checks their values: the words told apart, and the order
to show something, if there is one. -/
def readRunOptions (disk : Disk) (words : List String) :
    Except UsageError (Scan RunOption × Option Order) := do
  let line ← scan runOptions false words
  -- an order to show something goes before every complaint about a value
  if let some order := early? line then return (line, some order)
  line.settled.forM (checkRunOption disk)
  return (line, none)

/-- Reads a command line: the options for the whole run, and what is asked for. -/
def readLine (s : Surroundings) (words : List String) : Except UsageError Order := do
  let (line, early) ← readRunOptions s.disk words
  if let some order := early then return order
  match line.arguments with
  | [] => return .showHelp
  | command :: rest =>
    match commandOptions? command with
    | some specs => readCommand (← settingsOf s line) command specs rest
    | none =>
      -- behind two dashes there may be options where a command is due
      if let (_, some order) ← readRunOptions s.disk line.arguments then return order
      throw (.noSuchCommand command (Text.suggestions command commandNames))

/-- The paths that a word of a command line may name: the whole word, or what stands behind its
equals sign or its letter. -/
def pathsInWord (word : String) : List Path :=
  let texts := [word, (cutAtEquals word.toList).2.getD "", String.ofList (word.toList.drop 2)]
  (texts.filter (· != "")).map Path.ofText

/-- The paths that a run may look at: those that its words or its environment may name, and that of
the usual file of notes. -/
def pathsOf (s : Surroundings) (words : List String) : List Path :=
  words.flatMap pathsInWord ++ s.environment.map (fun v => .ofText (Text.trimmed v.2)) ++
    [s.usualNotesFile]

/-- Does what the words of a command line ask for. -/
def respond (s : Surroundings) (words : List String) : Except UsageError Finished :=
  (readLine s words).map fun
    | .run settings request => execute s settings request
    | .showVersion =>
      { exitCode := 0, stdout := "searchquery, version " ++ programVersion ++ "\n", stderr := "" }
    | .showHelp => { exitCode := 0, stdout := "", stderr := "" }

end RecordSearch
