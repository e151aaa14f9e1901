import RecordSearch.Command.Disk
import RecordSearch.Report.Serializer
import RecordSearch.Report.Terminal
import RecordSearch.Report.StandardTerminal

/-!
# Requests

What a run is asked to do, the settings with which it does it, and what it finds around it: what
comes in, the files, the time, and the tools that it makes use of.
-/

namespace RecordSearch

/-- How a run writes its result. -/
inductive OutputFormat where
  | table
  | json
  deriving DecidableEq, Repr

/-- What a run finds around it. -/
structure Surroundings where
  stdin : List UInt8 := []
  disk : Disk := {}
  environment : List (String × String) := []
  /-- The directory in which notes are kept if nobody says where. -/
  notesFolder : Path := { root := "/", names := ["var", "log", "searchquery"] }
  /-- The version that the run reports of what it runs on. -/
  platform : String := "0.0.0"
  /-- The time at which the run takes place, as a file of notes gives it. -/
  time : String := "1970-01-01 00:00:00,000"
  /-- The time that the run takes up to its result, in milliseconds. -/
  elapsed : Nat := 0
  serializer : Serializer := .standard
  terminal : Terminal := .standard

/-- A variable of the environment; one that is not set is empty. -/
def Surroundings.variable (s : Surroundings) (name : String) : String :=
  ((s.environment.find? fun v => v.1 == name).map (·.2)).getD ""

/-- The file of notes if nobody says where it is. -/
def Surroundings.usualNotesFile (s : Surroundings) : Path := s.notesFolder.inside "searchquery.log"

/-- The settings of a run. -/
structure Settings where
  format : OutputFormat := .table
  quiet : Bool := false
  verbosity : Nat := 0
  /-- Where the notes of the run are written. -/
  notesFile : Option Path := none
  deriving DecidableEq, Repr

/-- What a run is asked to do. -/
inductive Request where
  | parse (query : String)
  | select (query source : String) (limit : Option Int) (countOnly : Bool)
  | version
  deriving DecidableEq, Repr

/-- The name of the command that a request comes from. -/
def Request.command : Request → String
  | .parse _ => "parse"
  | .select .. => "match"
  | .version => "version"

end RecordSearch
