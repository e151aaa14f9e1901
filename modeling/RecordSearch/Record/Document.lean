import RecordSearch.Json.Reader
import RecordSearch.Record.Basic
import RecordSearch.Text.Blank
import RecordSearch.Text.Lines

/-!
# Texts of records

A text of records is one JSON document, an object or a list of objects, or else it has one object on
each line that is not blank. A blank text has no records.
-/

namespace RecordSearch

/-- What is wrong with a text of records. -/
inductive RecordError where
  /-- A line, counted from one, is no JSON. -/
  | badLine (line : Nat) (failure : Json.Failure)
  /-- The record at an index is no object. -/
  | notAnObject (index : Nat) (kind : String)
  deriving DecidableEq, Repr

/-- How a text of records is laid out. -/
inductive Layout where
  | blank
  | document
  | lines
  deriving DecidableEq, Repr

/-- The values of a text with one value on each line; `number` is the number of the first line. -/
def readLines (number : Nat) : List (List Char) → Except RecordError (List Json)
  | [] => .ok []
  | line :: lines =>
    if Text.allBlank line then readLines (number + 1) lines
    else
      match Json.read line with
      | .error failure => .error (.badLine number failure)
      | .ok v =>
        match readLines (number + 1) lines with
        | .error e => .error e
        | .ok values => .ok (v :: values)

/-- The values of a document: the elements of a list, or the value itself. -/
def documentValues : Json → List Json
  | .list elements => elements
  | v => [v]

/-- The layout of a text, and its values. -/
def readValues (text : List Char) : Layout × Except RecordError (List Json) :=
  if Text.allBlank text then (.blank, .ok [])
  else
    match Json.read text with
    | .ok v => (.document, .ok (documentValues v))
    | .error _ => (.lines, readLines 1 (Text.splitLines text))

/-- The members of each value, all of which have to be objects; `index` is the index of the
first. -/
def objectsOf (index : Nat) : List Json → Except RecordError (List (List (String × Json)))
  | [] => .ok []
  | .object members :: values => (objectsOf (index + 1) values).map (members :: ·)
  | v :: _ => .error (.notAnObject index v.kind)

/-- The records of a text, each as the members of its object. -/
def readRecords (text : String) : Except RecordError (List (List (String × Json))) :=
  (readValues text.toList).2.bind (objectsOf 0)

end RecordSearch
