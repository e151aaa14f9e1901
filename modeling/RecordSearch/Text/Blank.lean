/-!
# Blank characters

The blank characters of Unicode text, and cutting them off both ends of a text. `strip_eq_nil_iff`
says that exactly the texts made of blanks are cut down to nothing.
-/

namespace RecordSearch.Text

/-- The blank characters: the ASCII controls from tab to carriage return and from the file to the
unit separator, the space, and the spaces and line separators beyond ASCII. -/
def isBlank (c : Char) : Bool :=
  let n := c.toNat
  (9 ≤ n && n ≤ 13) || (0x1c ≤ n && n ≤ 0x20) || n == 0x85 || n == 0xa0 || n == 0x1680 ||
    (0x2000 ≤ n && n ≤ 0x200a) || n == 0x2028 || n == 0x2029 || n == 0x202f || n == 0x205f ||
    n == 0x3000

/-- The text without its blanks at the end. -/
def stripEnd : List Char → List Char
  | [] => []
  | c :: rest =>
    match stripEnd rest with
    | [] => if isBlank c then [] else [c]
    | kept => c :: kept

/-- The text without its blanks at either end. -/
def strip (text : List Char) : List Char := stripEnd (text.dropWhile isBlank)

/-- A text is blank when all its characters are. -/
def allBlank (text : List Char) : Bool := text.all isBlank

/-- The stretches of a text that hold no blank. -/
def words (text : List Char) : List (List Char) :=
  (text.splitBy fun c d => isBlank c == isBlank d).filter fun stretch => !allBlank stretch

/-- The text of a string without its blanks at either end. -/
def trimmed (s : String) : String := String.ofList (strip s.toList)

@[simp] theorem stripEnd_nil : stripEnd [] = [] := rfl

theorem stripEnd_eq_nil_iff (text : List Char) : stripEnd text = [] ↔ allBlank text = true := by
  induction text with
  | nil => simp [stripEnd, allBlank]
  | cons c rest ih =>
    rw [stripEnd]
    cases h : stripEnd rest with
    | nil => by_cases hc : isBlank c <;> simp_all [allBlank]
    | cons d kept => simp_all [allBlank]

theorem strip_eq_nil_iff (text : List Char) : strip text = [] ↔ allBlank text = true := by
  rw [strip, stripEnd_eq_nil_iff]
  induction text with
  | nil => rfl
  | cons c rest ih => by_cases hc : isBlank c <;> simp_all [allBlank, List.dropWhile]

end RecordSearch.Text
