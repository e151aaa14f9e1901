import RecordSearch.Json.Basic
import RecordSearch.Number.Shortest
import RecordSearch.Text.Quoted

/-!
# Writing JSON

Three ways to write a value: `compact` on one line, `indented` over several lines, and `literal`,
which is how messages quote a value, with quoted texts and capitalised names.
-/

namespace RecordSearch.Json

/-- How a character is written in a JSON string. Only the quote, the backslash and the control
characters are escaped. -/
def escape (c : Char) : List Char :=
  if c = '"' then ['\\', '"']
  else if c = '\\' then ['\\', '\\']
  else if c = '\n' then ['\\', 'n']
  else if c = '\r' then ['\\', 'r']
  else if c = '\t' then ['\\', 't']
  else if c = '\x08' then ['\\', 'b']
  else if c = '\x0c' then ['\\', 'f']
  else if c.toNat < 0x20 then '\\' :: 'u' :: Text.hexDigits 4 c.toNat
  else [c]

/-- A JSON string. -/
def stringText (s : String) : String :=
  String.ofList ('"' :: s.toList.flatMap escape ++ ['"'])

/-- A floating-point number in JSON. -/
def floatText (x : Binary64) : String := x.textWith "Infinity" "NaN"

/-- The parts with `separator` between each two of them. -/
def join (separator : String) (parts : List String) : String := separator.intercalate parts

mutual

/-- A value on one line, with a blank behind each comma and colon. -/
def compact : Json → String
  | .null => "null"
  | .bool b => if b then "true" else "false"
  | .integer n => toString n
  | .float x => floatText x
  | .text s => stringText s
  | .list elements => "[" ++ join ", " (compactElements elements) ++ "]"
  | .object members => "\x7b" ++ join ", " (compactMembers members) ++ "\x7d"

/-- The elements of a list, each on one line. -/
def compactElements : List Json → List String
  | [] => []
  | v :: rest => v.compact :: compactElements rest

/-- The members of an object, each on one line. -/
def compactMembers : List (String × Json) → List String
  | [] => []
  | (name, v) :: rest => (stringText name ++ ": " ++ v.compact) :: compactMembers rest

end

/-- The parts on lines of their own between two marks, indented to the given depth. -/
def block (depth : Nat) (opening closing : String) (parts : List String) : String :=
  if parts.isEmpty then opening ++ closing
  else
    let line (d : Nat) := "\n" ++ String.ofList (List.replicate (2 * d) ' ')
    opening ++ line (depth + 1) ++ join ("," ++ line (depth + 1)) parts ++ line depth ++ closing

mutual

/-- A value over several lines, inside `depth` lists and objects. -/
def indentedAt (depth : Nat) : Json → String
  | .list elements => block depth "[" "]" (indentedElements depth elements)
  | .object members => block depth "\x7b" "\x7d" (indentedMembers depth members)
  | .null => "null"
  | .bool b => if b then "true" else "false"
  | .integer n => toString n
  | .float x => floatText x
  | .text s => stringText s

/-- The elements of a list inside `depth` others. -/
def indentedElements (depth : Nat) : List Json → List String
  | [] => []
  | v :: rest => v.indentedAt (depth + 1) :: indentedElements depth rest

/-- The members of an object inside `depth` others. -/
def indentedMembers (depth : Nat) : List (String × Json) → List String
  | [] => []
  | (name, v) :: rest =>
    (stringText name ++ ": " ++ v.indentedAt (depth + 1)) :: indentedMembers depth rest

end

/-- A value over several lines, each level indented by two columns. -/
def indented (v : Json) : String := v.indentedAt 0

mutual

/-- A value as messages quote it. -/
def literal : Json → String
  | .null => "None"
  | .bool b => if b then "True" else "False"
  | .integer n => toString n
  | .float x => x.textWith "inf" "nan"
  | .text s => Text.quoted s
  | .list elements => "[" ++ join ", " (literalElements elements) ++ "]"
  | .object members => "\x7b" ++ join ", " (literalMembers members) ++ "\x7d"

/-- The elements of a list as messages quote them. -/
def literalElements : List Json → List String
  | [] => []
  | v :: rest => v.literal :: literalElements rest

/-- The members of an object as messages quote them. -/
def literalMembers : List (String × Json) → List String
  | [] => []
  | (name, v) :: rest => (Text.quoted name ++ ": " ++ v.literal) :: literalMembers rest

end

/-- A value put into a sentence: a text stands for itself, anything else is quoted. -/
def plain : Json → String
  | .text s => s
  | v => v.literal

end RecordSearch.Json
