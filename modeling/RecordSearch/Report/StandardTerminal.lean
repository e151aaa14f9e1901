import RecordSearch.Markup.Shown
import RecordSearch.Report.Grid
import RecordSearch.Report.Terminal

/-!
# The standard terminal

The terminal that runs have if they are given none: it has no colors, and is wide enough for every
line. Blanks at the ends of lines are not written. What is known of it, beside what it does, is that
it shows plain texts (`Terminal.standard_showsPlain`).
-/

namespace RecordSearch

/-- The failure that wrong markup is. -/
def MarkupFault.toolFault (fault : MarkupFault) : ToolFault where
  kind :=
    match fault with
    | .noShare => "ValueError"
    | _ => "MarkupError"
  message := fault.message

/-- A note on one line: the level takes eight columns. -/
def noteLine (level message : String) : String :=
  level ++ repeated ' ' (8 - level.length) ++ " " ++ message

/-- A terminal without colors, wide enough for every line. -/
def Terminal.standard : Terminal where
  plain text := textOfLines [text]
  marked text :=
    match shown text with
    | .ok line => .ok (textOfLines [line])
    | .error fault => .error fault.toolFault
  grid headings rows := textOfLines (gridLines headings rows)
  pairs rows := textOfLines (pairLines rows)
  box text := textOfLines (boxLines text)
  tree o := textOfLines o.lines
  note level message := textOfLines [noteLine level message]

end RecordSearch
