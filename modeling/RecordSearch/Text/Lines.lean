/-!
# Lines of text

Three ways to deal with line ends: cutting a text into lines at every character that Unicode text
may break at, turning the three line ends of text files into a line feed, and the trailing spaces
of each line.
-/

namespace RecordSearch.Text

/-- The characters that end a line. A carriage return and the line feed after it end one line
together. -/
def isLineBreak (c : Char) : Bool :=
  let n := c.toNat
  (10 ≤ n && n ≤ 13) || (0x1c ≤ n && n ≤ 0x1e) || n == 0x85 || n == 0x2028 || n == 0x2029

/-- The character put in front of the first of the lines. -/
def consToFirst (c : Char) : List (List Char) → List (List Char)
  | [] => [[c]]
  | line :: lines => (c :: line) :: lines

/-- The lines of a text, without their line breaks. A break at the very end opens no further
line. -/
def splitLines : List Char → List (List Char)
  | [] => []
  | '\r' :: '\n' :: rest => [] :: splitLines rest
  | c :: rest => if isLineBreak c then [] :: splitLines rest else consToFirst c (splitLines rest)

/-- The text with every carriage return, alone or before a line feed, read as a line feed. -/
def unifyLineEnds : List Char → List Char
  | [] => []
  | '\r' :: '\n' :: rest => '\n' :: unifyLineEnds rest
  | '\r' :: rest => '\n' :: unifyLineEnds rest
  | c :: rest => c :: unifyLineEnds rest

/-- The text with the spaces before each line feed, and those at its end, taken away. -/
def trimLines : List Char → List Char
  | [] => []
  | c :: rest =>
    match c, trimLines rest with
    | ' ', [] => []
    | ' ', '\n' :: kept => '\n' :: kept
    | c, kept => c :: kept

end RecordSearch.Text
