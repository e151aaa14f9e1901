import RecordSearch.Json.Basic
import RecordSearch.Text.Quoted

/-!
# Data that cannot be shown

Data for people may have a shape that cannot be drawn: a value that is no object where an object is
due, no list where elements are due, or no text where a heading is due. Or what draws them fails.
-/

namespace RecordSearch

/-- A failure of something that a run makes use of: the name of its kind, and a message. -/
structure ToolFault where
  kind : String
  message : String
  deriving DecidableEq, Repr

/-- Why data cannot be shown. -/
inductive DisplayFault where
  /-- A value of this kind stands where an object is due. -/
  | noMembers (kind : String)
  /-- A value of this kind stands where elements are due. -/
  | noElements (kind : String)
  /-- A value of this kind stands where a heading is due. -/
  | noHeading (kind : String)
  /-- The terminal fails to draw a text. -/
  | terminal (fault : ToolFault)
  deriving DecidableEq, Repr

/-- Why data cannot be shown, in words. -/
def DisplayFault.message : DisplayFault → String
  | .noMembers kind => Text.quoted kind ++ " object has no attribute 'get'"
  | .noElements kind => Text.quoted kind ++ " object is not iterable"
  | .noHeading kind => Text.quoted kind ++ " object has no attribute 'translate'"
  | .terminal fault => fault.message

/-- What a value has in place of elements: a list its elements, an object its names, a text its
characters. -/
def Json.parts : Json → Except DisplayFault (List Json)
  | .list elements => .ok elements
  | .object members => .ok (members.map fun m => .text m.1)
  | .text s => .ok (s.toList.map fun c => .text (String.singleton c))
  | v => .error (.noElements v.kind)

end RecordSearch
