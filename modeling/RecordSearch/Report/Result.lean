import RecordSearch.Report.Outline
import RecordSearch.Report.Problem
import RecordSearch.Report.StandardTerminal
import RecordSearch.Report.Table

/-!
# Results and how they are shown

The result of a run, as an envelope in JSON or drawn for people. A result for people goes to the
standard output if the run went well and else to the standard error; what is drawn depends on what
the data look like: a described query is a tree, records stand in a grid, other members in pairs.
-/

namespace RecordSearch

/-- The result of a run. -/
structure Result where
  ok : Bool
  command : String
  /-- The data of a run that went well, or null. -/
  data : Json := .null
  warnings : List String := []
  query : Option String := none
  problem : Option Problem := none

/-- How a result is shown to people, and on which terminal. -/
structure Display where
  quiet : Bool := false
  verbosity : Nat := 0
  terminal : Terminal := .standard

/-- The two texts that a run writes. -/
structure Written where
  stdout : String := ""
  stderr : String := ""
  deriving DecidableEq, Repr

namespace Result

/-- A result as a JSON value, with the time that the run has taken in milliseconds. -/
def toJson (r : Result) (elapsed : Nat) : Json :=
  .object [("ok", .bool r.ok), ("command", .text r.command), ("data", r.data),
    ("warnings", .list (r.warnings.map .text)),
    ("meta", .object [("durationMs", .integer elapsed), ("query", .ofText? r.query)]),
    ("error", (r.problem.map Problem.toJson).getD .null)]

/-- The hint of a problem. -/
def hintText (r : Result) (p : Problem) (t : Terminal) : Except DisplayFault String :=
  if let some text := p.hint.filter (· != "") then .ok (t.plain ("Hint: " ++ text))
  else if p.kind = "usage_error" then
    t.markedText ("Hint: run `searchquery " ++ r.command ++ " --help`")
  else .ok ""

/-- The details of a problem, which are for verbose runs. -/
def detailText (p : Problem) (display : Display) : String :=
  match p.details with
  | some members =>
    if !members.isEmpty && decide (1 ≤ display.verbosity) then
      display.terminal.box (Json.object members).indented
    else ""
  | none => ""

/-- A failure: the message and, unless the run is quiet, a hint and the details. -/
def problemText (r : Result) (display : Display) : Except DisplayFault String :=
  match r.problem with
  | none => display.terminal.markedText "Error: command failed"
  | some p =>
    let first := display.terminal.plain (p.heading ++ ": " ++ p.message)
    if display.quiet then .ok first
    else (r.hintText p display.terminal).map fun hint => first ++ hint ++ detailText p display

/-- Records: the grid and, unless the run is quiet, how many of them there are. -/
def recordsText (members : List (String × Json)) (records : List Json) (display : Display) :
    Except DisplayFault String := do
  let matched := (Json.find? "matched" members).getD (.integer records.length)
  let total := (Json.find? "total" members).getD (.text "?")
  let (headings, rows) ← recordTable records
  let grid := if records.isEmpty then "" else display.terminal.grid headings rows
  if display.quiet then return grid
  return grid ++ (← display.terminal.markedText
    (matched.plain ++ " of " ++ total.plain ++ " records matched"))

/-- The data. -/
def dataText (r : Result) (display : Display) : Except DisplayFault String :=
  let t := display.terminal
  match r.data with
  | .null => .ok ""
  | .object members =>
    match Json.find? "tree" members, Json.find? "records" members with
    | some tree, _ =>
      let first := t.plain ("Query: " ++ ((Json.find? "normalized" members).getD (.text "")).plain)
      if ((Json.find? "isEmpty" members).getD .null).isSomething then
        (t.markedText "(empty query, matches everything)").map (first ++ ·)
      else (tree.outline false).map fun o => first ++ t.tree o
    | none, some (.list records) => recordsText members records display
    | _, _ => .ok (t.pairs (members.map fun m => (m.1, m.2.cell)))
  | v => .ok (t.plain v.cell)

/-- A result for people. -/
def toLines (r : Result) (display : Display) : Except DisplayFault Written :=
  if r.ok then (r.dataText display).map fun text => { stdout := text }
  else (r.problemText display).map fun text => { stderr := text }

end Result

end RecordSearch
