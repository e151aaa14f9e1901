import RecordSearch.Markup.Handler
import RecordSearch.Markup.Piece
import RecordSearch.Markup.Style

/-!
# What is seen of a text with markup

On a terminal without colors, the tags of a text with markup are not seen. Still every closing tag
has to belong to an open one, the parameters of a handler that is closed have to be as they should,
and no style may leave a share of a color empty: `shown` gives the text without its tags, or what is
wrong. The styles count last.
-/

namespace RecordSearch

/-- What is wrong with the markup of a text. -/
inductive MarkupFault where
  /-- A tag at an index closes the last open tag, and there is none. -/
  | nothingToClose (position : Nat)
  /-- A tag at an index closes a style that is not open. -/
  | notOpen (tag : String) (position : Nat)
  | handler (fault : HandlerFault)
  /-- A share of a color is left empty. -/
  | noShare
  deriving DecidableEq, Repr

/-- What is wrong with markup, in words. -/
def MarkupFault.message : MarkupFault → String
  | .nothingToClose position =>
    "closing tag '[/]' at position " ++ toString position ++ " has nothing to close"
  | .notOpen tag position =>
    "closing tag '" ++ tag ++ "' at position " ++ toString position ++
      " doesn't match any open tag"
  | .handler fault => fault.message
  | .noShare => "invalid literal for int() with base 10: ''"

/-- Text outside tags: a backslash before an opening bracket is not shown. -/
def unescaped : List Char → List Char
  | '\\' :: '[' :: cs => '[' :: unescaped cs
  | c :: cs => c :: unescaped cs
  | [] => []

/-- A tag as it was written. -/
def tagText (name : List Char) (parameters : Option (List Char)) : String :=
  String.ofList ('[' :: name ++ (parameters.map ('=' :: ·)).getD [] ++ [']'])

/-- A tag that is open. -/
structure OpenTag where
  /-- The standard name of its style. -/
  style : String
  parameters : Option (List Char)
  /-- How much of the text is seen before the tag. -/
  start : Nat
  deriving DecidableEq, Repr

/-- A stretch of a seen text, as the indices of its ends, that a tag gives its style. -/
structure StyledStretch where
  tag : OpenTag
  stop : Nat
  deriving DecidableEq, Repr

namespace OpenTag

/-- What is wrong with a tag when it is closed. -/
def fault? (tag : OpenTag) : Option HandlerFault :=
  match tag.parameters with
  | some (c :: cs) => if Handler.isHandler tag.style then handlerFault? (c :: cs) else none
  | _ => none

/-- The text of the style of a tag: parameters follow its name. -/
def styleText (tag : OpenTag) : List Char :=
  tag.style.toList ++ (tag.parameters.map (' ' :: ·)).getD []

/-- Whether the style of a tag leaves a share of a color empty. -/
def lacksShare (tag : OpenTag) : Bool := Style.ofChars tag.styleText matches .error .noShare

end OpenTag

/-- Whether the style of a stretch is used for a text: in a text of one line every style is, in
others only those of stretches that hold something of a line. -/
def StyledStretch.isUsed (stretch : StyledStretch) (text : List Char) : Bool :=
  !text.contains '\n' || ((text.take stretch.stop).drop stretch.tag.start).any (· != '\n')

/-- What a tag changes: the tags that are open behind it, the last one first, and the tag that is
closed. -/
structure TagEffect where
  tags : List OpenTag
  closed : Option OpenTag := none

/-- The effect of closing a tag. -/
def closeTag (closed : OpenTag) (tags : List OpenTag) : Except MarkupFault TagEffect :=
  match closed.fault? with
  | some fault => .error (.handler fault)
  | none => .ok { tags, closed }

/-- The effect of a tag behind open tags, the last one first, and behind some seen text. -/
def tagEffect (tags : List OpenTag) (seen : Nat) (name : List Char)
    (parameters : Option (List Char)) (position : Nat) : Except MarkupFault TagEffect :=
  match name with
  | '/' :: closing =>
    match Text.strip closing, tags with
    | [], [] => .error (.nothingToClose position)
    | [], last :: others => closeTag last others
    | closing, _ =>
      match Style.nameOf closing with
      | .error _ => .error .noShare
      | .ok style =>
        match tags.find? (·.style == style) with
        | some closed => closeTag closed (tags.eraseP (·.style == style))
        | none => .error (.notOpen (tagText name parameters) position)
  | name =>
    match Style.nameOf name with
    | .error _ => .error .noShare
    | .ok style => .ok { tags := ⟨style, parameters, seen⟩ :: tags }

/-- What is seen of the pieces behind open tags and behind some seen text, and the stretches of the
tags that were open there or are opened among the pieces. -/
def shownPieces (tags : List OpenTag) (seen : Nat) :
    List Piece → Except MarkupFault (List Char × List StyledStretch)
  | [] => .ok ([], tags.map fun tag => ⟨tag, seen⟩)
  | .plain text :: pieces =>
    let text := unescaped text
    (shownPieces tags (seen + text.length) pieces).map fun rest => (text ++ rest.1, rest.2)
  | .literal text :: pieces =>
    (shownPieces tags (seen + text.length) pieces).map fun rest => (text ++ rest.1, rest.2)
  | .tag name parameters position :: pieces =>
    match tagEffect tags seen name parameters position with
    | .error fault => .error fault
    | .ok effect =>
      let closed := (effect.closed.map fun tag => ⟨tag, seen⟩).toList
      (shownPieces effect.tags seen pieces).map fun rest => (rest.1, closed ++ rest.2)

/-- What is seen of a text with markup. -/
def shown (text : String) : Except MarkupFault String :=
  match shownPieces [] 0 (Piece.ofChars 0 text.toList) with
  | .error fault => .error fault
  | .ok (seen, stretches) =>
    if stretches.any fun s => s.tag.lacksShare && s.isUsed seen then .error .noShare
    else .ok (String.ofList seen)

end RecordSearch
