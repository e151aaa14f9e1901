import RecordSearch.Record.Document
import RecordSearch.Report.DisplayFault
import RecordSearch.Text.Quoted
import RecordSearch.Text.Utf8

/-!
# Problems

What may go wrong in a run, by its cause, and how it is reported: its kind, a message, a hint,
details, and the exit code. A failure that nobody has planned for is an accident; `Fault.report`
gives what a run says of either.
-/

namespace RecordSearch

/-- What is reported of a failure. -/
structure Problem where
  kind : String := "error"
  message : String
  hint : Option String := none
  details : Option (List (String × Json)) := none
  exitCode : Int := 1

/-- A failure that nobody has planned for. -/
inductive Accident where
  | badValue (message : String)
  | badState (message : String)
  | missingKey (key : String)
  /-- A file is no UTF-8 text. -/
  | undecodable (failure : Text.Utf8Failure)
  | undisplayable (fault : DisplayFault)
  /-- The serializer fails. -/
  | unserializable (fault : ToolFault)
  deriving DecidableEq, Repr

namespace Accident

/-- The name of the kind of accident that data are which cannot be shown. -/
def displayKind : DisplayFault → String
  | .noMembers _ => "AttributeError"
  | .noElements _ => "TypeError"
  | .noHeading _ => "AttributeError"
  | .terminal fault => fault.kind

/-- The name of the kind of accident. -/
def kind : Accident → String
  | .badValue _ => "ValueError"
  | .badState _ => "RuntimeError"
  | .missingKey _ => "KeyError"
  | .undecodable _ => "UnicodeDecodeError"
  | .undisplayable fault => displayKind fault
  | .unserializable fault => fault.kind

/-- An accident in words; a missing key is quoted. -/
def message : Accident → String
  | .badValue message => message
  | .badState message => message
  | .missingKey key => Text.quoted key
  | .undecodable failure => failure.message
  | .undisplayable fault => fault.message
  | .unserializable fault => fault.message

end Accident

/-- What ends a run before it has a result. -/
inductive Fault where
  | negativeLimit
  | noSuchFile (path : String)
  | unreadableFile (path reason : String)
  | badRecords (error : RecordError)
  /-- A failure that comes with its own report. -/
  | reported (problem : Problem)
  | accident (a : Accident)

/-- The hint that goes with records that are no JSON. -/
def recordsHint : String := "Provide a JSON array, a JSON object, or one JSON object per line."

/-- What is reported of records that cannot be read. -/
def RecordError.problem : RecordError → Problem
  | .badLine line failure =>
    { kind := "validation_error"
      message := "Invalid JSON on line " ++ toString line ++ ": " ++ failure.complaint.message
      hint := some recordsHint
      details := some [("line", .integer line), ("column", .integer (failure.position + 1))]
      exitCode := 2 }
  | .notAnObject index kind =>
    { kind := "validation_error"
      message := "Record " ++ toString index ++ " is a " ++ kind ++ ", expected a JSON object."
      details := some [("index", .integer index)]
      exitCode := 2 }

/-- What a fault says of itself. -/
def Fault.problem : Fault → Problem
  | .negativeLimit =>
    { kind := "usage_error", message := "--limit must be >= 0.", exitCode := 2 }
  | .noSuchFile path =>
    { kind := "io_error", message := "Records file not found: " ++ path, exitCode := 2 }
  | .unreadableFile path reason =>
    { kind := "io_error"
      message := "Cannot read records file " ++ path ++ ": " ++ reason
      exitCode := 2 }
  | .badRecords error => error.problem
  | .reported problem => problem
  | .accident a => { kind := a.kind, message := a.message }

/-- What a run reports of a fault: an accident is an internal error, whose kind is among the details
if the run is verbose. -/
def Fault.report (verbosity : Nat) : Fault → Problem
  | .accident a =>
    { kind := "internal_error"
      message := "Unexpected error: " ++ a.message
      details := if 1 ≤ verbosity then some [("exceptionType", .text a.kind)] else none }
  | fault => fault.problem

/-- A problem as a JSON value. -/
def Problem.toJson (p : Problem) : Json :=
  .object [("type", .text p.kind), ("message", .text p.message), ("hint", .ofText? p.hint),
    ("details", (p.details.map Json.object).getD .null)]

/-- The heading under which a problem is shown. -/
def Problem.heading (p : Problem) : String :=
  match Text.trimmed p.kind with
  | "usage_error" => "Usage error"
  | "validation_error" => "Validation error"
  | "io_error" => "I/O error"
  | "config_error" => "Configuration error"
  | "internal_error" => "Internal error"
  | _ => "Error"

end RecordSearch
