import RecordSearch.Text.Blank
import RecordSearch.Text.Lines
import RecordSearch.Text.Width

/-!
# Laying text out in a column

A column is as wide as the widest line of its texts, where a line may end at any line break of
Unicode text. Only line feeds end a line for sure, though: text with other line breaks is cut before
a word when the word does not fit any more, and a word with such line breaks in front may be wider
than the column. `columnLines` gives the lines of a text in a column.
-/

namespace RecordSearch.Text

/-- What becomes of a word that is wider than its column. -/
inductive LongWord where
  /-- It goes on in the next line. -/
  | folded
  /-- An ellipsis stands for what does not fit. -/
  | shortened
  deriving DecidableEq, Repr

/-- The number of columns that the widest line of a text takes. -/
def columnWidth (text : String) : Nat :=
  ((splitLines text.toList).map widthOf).foldl max 0

/-- A text cut in front of each word, but for the first one: blanks at the start of the text belong
to the first word. -/
def stretches (text : List Char) : List (List Char) :=
  match text.splitBy fun c d => !(isBlank c && !isBlank d) with
  | front :: word :: rest =>
    if allBlank front then (front ++ word) :: rest else front :: word :: rest
  | others => others

/-- A text cut to lines of at most `size` columns. The characters `line` are the start of the first
line. -/
def cutAt (size : Nat) (line : List Char) : List Char → List (List Char)
  | [] => [line]
  | c :: rest =>
    if widthOf (line ++ [c]) ≤ size then cutAt size (line ++ [c]) rest
    else line :: cutAt size [c] rest

/-- The start of a line that fits into `size` columns, and an ellipsis in the last one of them. -/
def shorten (size : Nat) (line : List Char) : List Char :=
  (if size ≤ 1 then [] else (cutAt (size - 1) [] line).headD []) ++ ['…']

/-- Stretches put together to lines of at most `size` columns; blanks may stand out at the end. The
characters `line` are the start of the first line. -/
def joinStretches (size : Nat) (line : List Char) : List (List Char) → List (List Char)
  | [] => [line]
  | stretch :: rest =>
    if widthOf line + widthOf (stripEnd stretch) ≤ size then
      joinStretches size (line ++ stretch) rest
    else line :: joinStretches size stretch rest

/-- A line without blanks at its end that stand out of `size` characters. -/
def cropEnd (size : Nat) (line : List Char) : List Char :=
  let blanks := line.length - (stripEnd line).length
  line.take (line.length - min blanks (line.length - size))

/-- A line in a column of `size` columns. -/
def fitted (size : Nat) (line : List Char) : List Char :=
  let cropped := cropEnd size line
  if widthOf cropped ≤ size then cropped else shorten size cropped

/-- The lines of a text without line feeds, in a column of `size` columns. -/
def wrap (long : LongWord) (size : Nat) (text : List Char) : List (List Char) :=
  match stretches text with
  | [] => [[]]
  | word :: rest =>
    let lines :=
      if long = .folded ∧ size < widthOf (stripEnd word) then
        let pieces := cutAt size [] word
        pieces.dropLast ++ joinStretches size (pieces.getLastD []) rest
      else joinStretches size word rest
    lines.map (fitted size)

/-- A line filled up with spaces to `size` columns. -/
def fill (size : Nat) (line : List Char) : List Char :=
  line ++ List.replicate (size - widthOf line) ' '

/-- The lines of a text in a column of `size` columns. A column without width shows nothing. -/
def columnLines (long : LongWord) (size : Nat) (text : String) : List (List Char) :=
  if size = 0 then [] else (text.splitOn "\n").flatMap fun line => wrap long size line.toList

end RecordSearch.Text
