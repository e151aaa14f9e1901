import RecordSearch.Json.Printer
import RecordSearch.Report.DisplayFault

/-!
# Tables of records

What records have in a table: a column for each name that occurs in one of them, and a row for each
record, with its values as texts.
-/

namespace RecordSearch

/-- A value in a cell: nothing for null, a text as it is, texts in a list with commas between
them. -/
def Json.cell : Json → String
  | .null => ""
  | .text s => s
  | .list elements =>
    match elements.mapM fun
      | .text s => some s
      | _ => none with
    | some texts => Json.join ", " texts
    | none => (Json.list elements).compact
  | v => v.compact

/-- The names that occur in records, in the order in which they first occur. -/
def columnsOf (names : List String) : List String :=
  names.foldl (fun seen name => if seen.contains name then seen else seen ++ [name]) []

/-- A name that heads a column; it has to be a text. -/
def headingOf : Json → Except DisplayFault String
  | .text name => .ok name
  | v => .error (.noHeading v.kind)

/-- The cells of a record, which has to be an object if there are columns. -/
def rowOf (columns : List String) (record : Json) : Except DisplayFault (List String) :=
  match columns, record with
  | [], _ => .ok []
  | columns, .object members =>
    .ok (columns.map fun name => ((Json.find? name members).getD .null).cell)
  | _, v => .error (.noMembers v.kind)

/-- The headings and the rows of records. -/
def recordTable (records : List Json) :
    Except DisplayFault (List String × List (List String)) := do
  let parts ← records.mapM Json.parts
  let columns := columnsOf (← parts.flatten.mapM headingOf)
  return (columns, ← records.mapM (rowOf columns))

end RecordSearch
