import RecordSearch.Json.Lexeme

/-!
# Reading JSON

A reader goes through the lexemes of a text one by one. It keeps the lists and objects that are
still open and knows what has to come next; the first lexeme that may not come there is the fault.
`Json.read` reads a whole text.
-/

namespace RecordSearch.Json

/-- A list or an object that is still open, with what it holds so far, the latest first. -/
inductive Frame where
  | list (elements : List Json)
  /-- An object, and the name of the member whose value is being read. -/
  | object (members : List (String × Json)) (name : String)

/-- What has to come next, inside the open frames, the innermost first. -/
inductive Place where
  /-- A value. -/
  | value (frames : List Frame)
  /-- The first element of a list, or its end. -/
  | firstElement (frames : List Frame)
  /-- The first member of an object, or its end. -/
  | firstMember (frames : List Frame)
  /-- The name of a further member. -/
  | name (frames : List Frame) (members : List (String × Json))
  /-- The colon behind a name. -/
  | colon (frames : List Frame) (members : List (String × Json)) (name : String)
  /-- A value is complete: a comma, or the end of what it stands in. -/
  | complete (frames : List Frame) (v : Json)

namespace Place

/-- What is wrong if anything else comes. -/
def complaint : Place → Complaint
  | .value _ => .value
  | .firstElement _ => .value
  | .firstMember _ => .name
  | .name _ _ => .name
  | .colon _ _ _ => .colon
  | .complete [] _ => .extraData
  | .complete (_ :: _) _ => .comma

/-- Whether a string may come. -/
def takesText : Place → Bool
  | .value _ => true
  | .firstElement _ => true
  | .firstMember _ => true
  | .name _ _ => true
  | .colon _ _ _ => false
  | .complete _ _ => false

/-- The place behind the start of a value. -/
def startValue (frames : List Frame) : Lexeme → Option Place
  | .openList => some (.firstElement frames)
  | .openObject => some (.firstMember frames)
  | .text s => some (.complete frames (.text s))
  | .scalar v => some (.complete frames v)
  | _ => none

/-- The place behind a lexeme, if the lexeme may come. -/
def step : Place → Lexeme → Option Place
  | .value frames, l => startValue frames l
  | .firstElement frames, .closeList => some (.complete frames (.list []))
  -- the list is open from its first element on
  | .firstElement frames, l => startValue (.list [] :: frames) l
  | .firstMember frames, .closeObject => some (.complete frames (.object []))
  | .firstMember frames, .text key => some (.colon frames [] key)
  | .firstMember _, _ => none
  | .name frames members, .text key => some (.colon frames members key)
  | .name _ _, _ => none
  | .colon frames members key, .colon => some (.value (.object members key :: frames))
  | .colon _ _ _, _ => none
  | .complete (.list elements :: frames) v, .comma =>
    some (.value (.list (v :: elements) :: frames))
  | .complete (.list elements :: frames) v, .closeList =>
    some (.complete frames (.list (v :: elements).reverse))
  | .complete (.object members key :: frames) v, .comma =>
    some (.name frames ((key, v) :: members))
  | .complete (.object members key :: frames) v, .closeObject =>
    some (.complete frames (.ofMembers ((key, v) :: members).reverse))
  | .complete _ _, _ => none

end Place

/-- Reads lexemes from a place on. -/
def readFrom : Place → Lexemes → Except Failure Json
  | .complete [] v, .done _ => .ok v
  | place, .done position => .error ⟨place.complaint, position⟩
  | place, .stray position => .error ⟨place.complaint, position⟩
  | place, .brokenText position failure =>
    .error (if place.takesText then failure else ⟨place.complaint, position⟩)
  | place, .next position l rest =>
    match place.step l with
    | some next => readFrom next rest
    | none => .error ⟨place.complaint, position⟩

/-- Reads a whole text as one value. -/
def read (text : List Char) : Except Failure Json :=
  match text with
  | '\ufeff' :: _ => .error ⟨.byteOrderMark, 0⟩
  | _ => readFrom (.value []) (Lexemes.ofChars 0 text)

end RecordSearch.Json
