import RecordSearch.Command.Run

/-!
# The program

The outer layer: it looks at the files that the command line may name, reads the standard input if
records come from there, and writes what the run has to say. A file of notes is written without
times.
-/

namespace RecordSearch

/-- The names of the standard output among the files. -/
def outputNames : List String := ["/dev/stdout", "/dev/fd/1", "/proc/self/fd/1"]

/-- What a path leads to on this computer, if anything. A directory can be opened, and fails only
when it is read, without a name then. -/
def look (p : Path) : IO (Option Entry) := do
  if outputNames.contains p.text then return some .output
  try
    return some (.file (← IO.FS.readBinFile p.text).toList)
  catch
    | .inappropriateType none _ _ => return some .directory
    | .permissionDenied _ _ _ => return some .locked
    | _ => return none

/-- The path that leads straight to a place. -/
def Place.path (p : Place) : Path :=
  match p.base with
  | .root => ⟨"/", p.names⟩
  | .above levels => ⟨"", List.replicate levels Path.up ++ p.names⟩

/-- The places on the way that names lead from a place, each with its path. -/
def placesFrom (here : Place) (p : Path) : List String → List (Place × Path)
  | [] => []
  | name :: rest =>
    (here.enter name, p.inside name) :: placesFrom (here.enter name) (p.inside name) rest

/-- What is in the places on the way of paths. A directory on the way may be missing now and be made
by the run, so what a path does not lead to yet is looked up straight. -/
def lookAround (paths : List Path) : IO Disk := do
  let ways := paths.flatMap fun p => placesFrom p.start { p with names := [] } p.names
  let found ← ways.mapM fun w => do
    let entry ← match ← look w.2 with
      | some e => pure (some e)
      | none => look w.1.path
    return entry.map fun e => (w.1, e)
  return ⟨found.filterMap id⟩

/-- The value of each variable of the environment that a run looks at. -/
def readEnvironment : IO (List (String × String)) :=
  ["SEARCHQUERY_OUTPUT", "SEARCHQUERY_LOG_FILE"].mapM fun name => do
    return (name, (← IO.getEnv name).getD "")

/-- The directory in which notes are kept if nobody says where: in the folder for states, which is a
hidden one in the user's own folder unless a variable names it. -/
def findNotesFolder : IO Path := do
  let named := (← IO.getEnv "XDG_STATE_HOME").getD ""
  let home := (← IO.getEnv "HOME").getD ""
  let states := if named.trimAscii.isEmpty then home ++ "/.local/state" else named
  return .ofText (states ++ "/searchquery/log")

/-- Whether a command line asks for records from the standard input. -/
def readsStdin (s : Surroundings) (words : List String) : Bool :=
  match readLine s words with
  | .ok (.run _ (.select _ "-" _ _)) => true
  | _ => false

/-- Adds text to a file, in a directory that is made if it is missing. -/
def addToFile (p : Path) (text : String) : IO Unit := do
  IO.FS.createDirAll p.parent.text
  let file ← IO.FS.Handle.mk p.text .append
  file.putStr text

end RecordSearch

open RecordSearch in
/-- Runs the program with the words of a command line. -/
def main (words : List String) : IO UInt32 := do
  let unseen : Surroundings :=
    { environment := ← readEnvironment, notesFolder := ← findNotesFolder }
  let surroundings := { unseen with disk := ← lookAround (pathsOf unseen words) }
  let stdin ←
    if readsStdin surroundings words then pure (← (← IO.getStdin).readBinToEnd).toList
    else pure []
  match respond { surroundings with stdin } words with
  | .error e =>
    (← IO.getStderr).putStrLn ("Error: " ++ e.message)
    return 2
  | .ok finished =>
    if let some (file, notes) := finished.filed then addToFile file.path (notesText notes)
    (← IO.getStderr).putStr finished.stderr
    (← IO.getStdout).putStr finished.stdout
    return UInt32.ofInt finished.exitCode
