import RecordSearch.Command.Request
import RecordSearch.Note
import RecordSearch.Query.Description
import RecordSearch.Query.Matching
import RecordSearch.Report.Result

/-!
# Carrying requests out

A run does what it has been asked for and reports once: `perform` gives the data or the fault, with
the notes and warnings on the way, `Attempt.result` makes the one result of it, and `execute` writes
that result, in JSON or for people, with the exit code that goes with it.
-/

namespace RecordSearch

/-- The program's own version. -/
def programVersion : String := "1.2.0"

/-- What a request came to. -/
structure Attempt where
  notes : List Note := []
  warnings : List String := []
  /-- The data, and the query as it was understood; or what went wrong. -/
  outcome : Except Fault (Json × Option String)

/-! ### Requests -/

/-- What goes into the data of a parsed query. -/
def parseData (query : String) : Json :=
  let q := parse query
  .object [("query", .text query), ("normalized", .text q.text), ("isEmpty", .bool q.isEmpty),
    ("tokens", .list ((tokenize query).map .text)), ("tree", Group.toJson q)]

/-- Whether the double quotes of a text do not come in pairs. -/
def hasOddQuotes (query : String) : Bool := query.toList.count '"' % 2 == 1

/-- Parses a query. -/
def performParse (query : String) : Attempt where
  notes := parseNotes query
  warnings := if hasOddQuotes query then
    ["Unbalanced double quote; the rest of the query was read literally."] else []
  outcome := .ok (parseData query, some (parse query).text)

/-- Bytes as text, every line end read as a line feed. -/
def fileText (bytes : List UInt8) : Except Fault String :=
  match Text.decode bytes with
  | .error failure => .error (.accident (.undecodable failure))
  | .ok chars => .ok (String.ofList (Text.unifyLineEnds chars))

/-- The text of a source of records: a dash is the standard input, anything else a path. -/
def readSource (s : Surroundings) (source : String) : Except Fault String :=
  if source = "-" then fileText s.stdin
  else if source.toList.contains '\x00' then .error (.accident (.badValue "embedded null byte"))
  else
    let path := Path.ofText source
    match s.disk.read path with
    | .ok bytes => fileText bytes
    | .error .missing => .error (.noSuchFile path.text)
    | .error fault => .error (.unreadableFile path.text fault.reason)

/-- What reading a text of records notes. -/
def recordNotes (text : String) : List Note :=
  let tried : List Note :=
    match (readValues text.toList).1 with
    | .lines => [.lineByLine]
    | _ => []
  match (readValues text.toList).1, readRecords text with
  | .blank, _ => []
  | _, .ok records => tried ++ [.loaded records.length]
  | _, .error _ => tried

/-- The data and warnings of a selection: how many of the records match and, unless they are only
counted, those that match, at most as many as the limit. -/
def selectionData (query : String) (total : Nat) (matched : List Json) (limit : Option Int)
    (countOnly : Bool) : Json × List String :=
  let counts : List (String × Json) :=
    [("query", .text query), ("total", .integer total), ("matched", .integer matched.length)]
  if countOnly then (.object counts, [])
  else
    let shown := match limit with
      | none => matched
      | some n => matched.take n.toNat
    (.object (counts ++ [("records", .list shown)]),
      if shown.length < matched.length then
        ["Showing " ++ toString shown.length ++ " of " ++ toString matched.length ++
          " matching records."]
      else [])

/-- Notes as they stand in a file. -/
def notesText (notes : List Note) : String := String.join (notes.map fun n => n.line ++ "\n")

/-- Notes as they stand in a file, each with the time in front. -/
def timedNotesText (time : String) (notes : List Note) : String :=
  String.join (notes.map fun n => time ++ " " ++ n.line ++ "\n")

/-- The surroundings when notes have been written into the file in a place, if there is one. -/
def Surroundings.withNotes (s : Surroundings) (place : Option Place) (notes : List Note) :
    Surroundings :=
  match place with
  | none => s
  | some p => { s with disk := s.disk.add p (timedNotesText s.time notes).toUTF8.toList }

/-- Selects the records of a source that a query matches. What has been noted before the source is
read stands in the file of notes, which may be the source itself. -/
def performSelect (s : Surroundings) (place : Option Place) (query source : String)
    (limit : Option Int) (countOnly : Bool) : Attempt :=
  if limit.any (· < 0) then { outcome := .error .negativeLimit }
  else
    let q := parse query
    let warnings := if q.isEmpty then ["Empty query matches every record."] else []
    match readSource (s.withNotes place (parseNotes query)) source with
    | .error fault => { notes := parseNotes query, warnings, outcome := .error fault }
    | .ok text =>
      let notes := parseNotes query ++ recordNotes text
      match readRecords text with
      | .error e => { notes, warnings, outcome := .error (.badRecords e) }
      | .ok records =>
        let matched := (Group.select q Record.ofMembers records).map Json.object
        let (data, cut) := selectionData q.text records.length matched limit countOnly
        { notes := notes ++ [.matched matched.length records.length q.text]
          warnings := warnings ++ cut
          outcome := .ok (data, some q.text) }

/-- The signs of the query language. -/
def signs : Json :=
  .object [("and", .text "space"), ("or", .text "~"), ("exclude", .text "-"),
    ("group", .text "(...)"), ("contains", .text (String.singleton Operator.contains.sign)),
    ("exact", .text (String.singleton Operator.exact.sign))]

/-- Tells the version. -/
def performVersion (s : Surroundings) : Attempt where
  outcome := .ok (.object [("version", .text programVersion), ("syntax", signs),
    ("maxDepth", .integer maxDepth), ("pythonVersion", .text s.platform)], none)

/-- Does what a request asks for; `place` is where the file of notes is, if there is one. -/
def perform (s : Surroundings) (place : Option Place) : Request → Attempt
  | .parse query => performParse query
  | .select query source limit countOnly => performSelect s place query source limit countOnly
  | .version => performVersion s

/-! ### Results -/

/-- How results are shown to people by a run with the settings. -/
def Settings.display (settings : Settings) (terminal : Terminal) : Display :=
  { quiet := settings.quiet, verbosity := settings.verbosity, terminal }

/-- The one result of an attempt. -/
def Attempt.result (a : Attempt) (command : String) (verbosity : Nat) : Result :=
  match a.outcome with
  | .ok (data, query) => { ok := true, command, data, warnings := a.warnings, query }
  | .error fault =>
    { ok := false, command, warnings := a.warnings, problem := some (fault.report verbosity) }

/-- A result written in the format that the settings want, with the warnings behind it if it is for
people; or the accident that it cannot be written. -/
def Result.write (r : Result) (s : Surroundings) (settings : Settings) :
    Except Accident Written :=
  match settings.format with
  | .json =>
    match s.serializer.dump (r.toJson s.elapsed) with
    | .error fault => .error (.unserializable fault)
    | .ok payload => .ok { stdout := payload.compact ++ "\n" }
  | .table =>
    match r.toLines (settings.display s.terminal) with
    | .error fault => .error (.undisplayable fault)
    | .ok written =>
      let warnings := if settings.quiet then []
        else r.warnings.map fun w => s.terminal.plain ("Warning: " ++ w)
      .ok { written with stderr := written.stderr ++ String.join warnings }

/-- The attempt, which has failed after all if it has gone well and that cannot be written. -/
def Attempt.settled (a : Attempt) (s : Surroundings) (settings : Settings) (command : String) :
    Attempt :=
  match a.outcome, (a.result command settings.verbosity).write s settings with
  | .ok _, .error accident => { a with outcome := .error (.accident accident) }
  | _, _ => a

/-- The notes of an attempt: an accident is noted last. -/
def Attempt.allNotes (a : Attempt) : List Note :=
  match a.outcome with
  | .error (.accident accident) => a.notes ++ [.accident accident.kind]
  | _ => a.notes

/-- The exit code that goes with a result. -/
def Result.exitCode (r : Result) : Int :=
  match r.problem with
  | none => 0
  | some p => p.exitCode

/-- A file of notes that has been opened. -/
structure NotesFile where
  path : Path
  place : Place
  /-- Whether the file was missing before. -/
  isNew : Bool
  /-- Whether the file is the standard output. -/
  isOutput : Bool
  deriving DecidableEq, Repr

/-- What a run has done. -/
structure Finished where
  exitCode : Int
  stdout : String
  stderr : String
  /-- The file of notes, if there is one, and the notes that have been added to it. -/
  filed : Option (NotesFile × List Note) := none
  deriving DecidableEq, Repr

/-- The files that a run makes in the folder in which it starts, without the times of their
notes. -/
def Finished.made (f : Finished) : List (String × String) :=
  match f.filed with
  | some (file, notes) =>
    if file.isNew ∧ file.place.base = .above 0 then
      [("/".intercalate file.place.names, notesText notes)]
    else []
  | none => []

/-- The level from which on notes are shown. -/
def shownLevel (verbosity : Nat) : Level :=
  match verbosity with
  | 0 => .warning
  | 1 => .info
  | _ => .debug

/-- Opens a file of notes: the file and the disk behind, or the disk and why it cannot be opened.
Directories that are missing on the way are made. -/
def Disk.openNotes (d : Disk) (path : Path) : Disk × Except String NotesFile :=
  match d.makeDirectories path.parent with
  | (d, some (fault, where?)) => (d, .error (fault.messageAt where?))
  | (d, none) =>
    match d.openToAdd path with
    | .error fault => (d, .error (fault.messageAt path))
    | .ok (place, opened) =>
      (opened, .ok ⟨path, place, (d.at? place).isNone, d.at? place = some .output⟩)

/-- Opens the file of notes that the settings name, if any: the surroundings behind, the file, and
the note that it cannot be opened. -/
def openNotes (s : Surroundings) (settings : Settings) :
    Surroundings × Option NotesFile × List Note :=
  match settings.notesFile with
  | none => (s, none, [])
  | some path =>
    match s.disk.openNotes path with
    | (disk, .ok file) => ({ s with disk }, some file, [])
    | (disk, .error reason) => ({ s with disk }, none, [.noNotesFile path.text reason])

/-- Notes as they come onto the standard output: only if the file of notes is that. -/
def outputNotes (s : Surroundings) (file : Option NotesFile) (notes : List Note) : String :=
  if file.any NotesFile.isOutput then timedNotesText s.time notes else ""

/-- Carries a request out. If its failure cannot be written either, the run breaks off. -/
def execute (s : Surroundings) (settings : Settings) (request : Request) : Finished :=
  let (s, file, opening) := openNotes s settings
  let attempt :=
    (perform s (file.map NotesFile.place) request).settled s settings request.command
  let result := attempt.result request.command settings.verbosity
  let written := result.write s settings
  -- that the file cannot be opened is noted before anything the run itself notes
  let notes := opening ++ attempt.allNotes
  let shown := notes.filter fun n => (shownLevel settings.verbosity).rank ≤ n.level.rank
  { exitCode := if written.isOk then result.exitCode else 1
    stdout := outputNotes s file notes ++ (written.toOption.getD {}).stdout
    stderr := String.join (shown.map fun n => s.terminal.note n.level.name n.message) ++
      (written.toOption.getD {}).stderr
    filed := (file.filter (!·.isOutput)).map fun f => (f, notes) }

end RecordSearch
