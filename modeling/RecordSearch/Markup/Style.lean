import RecordSearch.Markup.Color
import RecordSearch.Text.Blank
import RecordSearch.Text.LowerCase

/-!
# Styles

A style says how text looks: which attributes it has and has not, its color and the color behind it,
and where it links to. `Style.nameOf` writes a style in a standard form, so that two ways to name
one style have the same name.
-/

namespace RecordSearch

/-- The attributes of text in the order in which a style names them, each with the words for it. -/
def styleAttributes : List (String × List String) :=
  [("bold", ["bold", "b"]), ("dim", ["dim", "d"]), ("italic", ["italic", "i"]),
    ("underline", ["underline", "u"]), ("blink", ["blink"]), ("blink2", ["blink2"]),
    ("reverse", ["reverse", "r"]), ("conceal", ["conceal", "c"]), ("strike", ["strike", "s"]),
    ("underline2", ["underline2", "uu"]), ("frame", ["frame"]), ("encircle", ["encircle"]),
    ("overline", ["overline", "o"])]

/-- The attribute that a word stands for. -/
def attribute? (word : String) : Option String :=
  (styleAttributes.find? fun a => a.2.contains word).map (·.1)

/-- How text looks. -/
structure Style where
  /-- Attributes that are switched on or off; of two settings of one the first counts. -/
  attributes : List (String × Bool) := []
  color : Option String := none
  behind : Option String := none
  link : Option String := none
  deriving DecidableEq, Repr

namespace Style

/-- The style with an attribute switched. -/
def switch (s : Style) (name : String) (on : Bool) : Style :=
  { s with attributes := (name, on) :: s.attributes }

/-- Reads the words of a style. -/
def read (s : Style) : List String → Except StyleFault Style
  | [] => .ok s
  | word :: rest =>
    match Text.fold word, rest with
    | "on", color :: rest =>
      match Color.check (Text.fold color) with
      | .error fault => .error fault
      | .ok () => read { s with behind := some (Text.fold color) } rest
    | "link", target :: rest => read { s with link := some target } rest
    | "not", other :: rest =>
      match attribute? other with
      | some name => read (s.switch name false) rest
      | none => .error .unknown
    | word, rest =>
      match attribute? word with
      | some name => read (s.switch name true) rest
      | none =>
        match Color.check word with
        | .error fault => .error fault
        | .ok () => read { s with color := some word } rest

/-- The style that a text describes. -/
def ofChars (text : List Char) : Except StyleFault Style :=
  match (Text.words text).map String.ofList with
  | ["none"] => .ok {}
  | words => read {} words

/-- The words that switch an attribute, if the style does. -/
def attributeWords (s : Style) (name : String) : List String :=
  match s.attributes.find? fun a => a.1 == name with
  | some (_, true) => [name]
  | some (_, false) => ["not", name]
  | none => []

/-- A style in its standard form. -/
def text (s : Style) : String :=
  let words := styleAttributes.flatMap (fun a => s.attributeWords a.1) ++ s.color.toList ++
    (s.behind.map fun color => ["on", color]).getD [] ++
    (s.link.map fun target => ["link", target]).getD []
  if words.isEmpty then "none" else " ".intercalate words

/-- The standard name of what a text describes: that of the style or, if it is none, the text itself
in small letters. -/
def nameOf (text : List Char) : Except StyleFault String :=
  match ofChars text with
  | .ok s => .ok s.text
  | .error .unknown => .ok (Text.fold (String.ofList (Text.strip text)))
  | .error .noShare => .error .noShare

end Style

end RecordSearch
