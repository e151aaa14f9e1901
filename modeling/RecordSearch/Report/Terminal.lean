import RecordSearch.Report.Outline
import RecordSearch.Text.Lines

/-!
# Terminals

A terminal draws what a run shows to people: texts, grids, pairs, boxes, trees and notes. A run
takes whatever terminal is given to it, and two things may be asked of one: that no text without an
opening bracket has wrong markup (`Terminal.ShowsPlain`), and that a tree is laid out line by line,
for which it has to be wide enough (`Terminal.LaysOut`).
-/

namespace RecordSearch

/-- Lines as a text: each ends with a line feed, and with no blank before it. -/
def textOfLines (lines : List String) : String :=
  String.ofList (Text.trimLines (lines.flatMap fun line => line.toList ++ ['\n']))

/-- What draws for people: each function gives what is written for its arguments. -/
structure Terminal where
  /-- A text in which no markup counts. -/
  plain : String → String
  /-- A text in which markup counts, and may be wrong. -/
  marked : String → Except ToolFault String
  /-- Rows below headings. -/
  grid : (headings : List String) → (rows : List (List String)) → String
  /-- Names with their values. -/
  pairs : List (String × String) → String
  /-- A text with a frame. -/
  box : String → String
  tree : Outline → String
  /-- A note, by the name of its level and its message. -/
  note : (level message : String) → String

namespace Terminal

/-- A text without an opening bracket has no markup that could be wrong. -/
def ShowsPlain (t : Terminal) : Prop :=
  ∀ text : String, '[' ∉ text.toList → ∃ shown, t.marked text = .ok shown

/-- The terminal lays a tree out with guides, each label on one line. -/
def LaysOut (t : Terminal) (o : Outline) : Prop := t.tree o = textOfLines o.lines

/-- A text in which markup counts; the terminal may fail to draw it. -/
def markedText (t : Terminal) (text : String) : Except DisplayFault String :=
  match t.marked text with
  | .ok shown => .ok shown
  | .error fault => .error (.terminal fault)

end Terminal

end RecordSearch
