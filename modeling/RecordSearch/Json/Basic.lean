import RecordSearch.Number.Binary64

/-!
# JSON values

A JSON value. Whole numbers are exact and kept apart from floating-point numbers, and an object
keeps its members in order, each name once.
-/

namespace RecordSearch

/-- A JSON value. -/
inductive Json where
  | null
  | bool (b : Bool)
  | integer (n : Int)
  | float (x : Binary64)
  | text (s : String)
  | list (elements : List Json)
  | object (members : List (String × Json))

namespace Json

instance : Inhabited Json := ⟨.null⟩

/-- A text, or null. -/
def ofText? : Option String → Json
  | none => .null
  | some s => .text s

/-- The value of a name among members. -/
def find? (name : String) (members : List (String × Json)) : Option Json :=
  (members.find? fun m => m.1 == name).map (·.2)

/-- The value of a member of an object. -/
def get? (name : String) : Json → Option Json
  | .object members => find? name members
  | _ => none

/-- The members with one more: its value takes the place of an older one of that name. -/
def putMember (members : List (String × Json)) (m : String × Json) : List (String × Json) :=
  match members with
  | [] => [m]
  | first :: rest => if first.1 = m.1 then m :: rest else first :: putMember rest m

/-- The object of a list of members, in the order in which their names first occur, each with its
last value. -/
def ofMembers (members : List (String × Json)) : Json := .object (members.foldl putMember [])

/-- The kind of a value, as messages name it. -/
def kind : Json → String
  | .null => "NoneType"
  | .bool _ => "bool"
  | .integer _ => "int"
  | .float _ => "float"
  | .text _ => "str"
  | .list _ => "list"
  | .object _ => "dict"

/-- Whether a value counts as something: not null, not false, not zero, and not empty. -/
def isSomething : Json → Bool
  | .null => false
  | .bool b => b
  | .integer n => n != 0
  | .float (.finite _ significand _) => significand != 0
  | .float _ => true
  | .text s => s != ""
  | .list elements => !elements.isEmpty
  | .object members => !members.isEmpty

/-- A finite number in units of `2 ^ -1074`; the truth values count as one and zero. -/
def units? : Json → Option Int
  | .bool b => some (if b then Nat.pow 2 1074 else 0)
  | .integer n => some (n * Nat.pow 2 1074)
  | .float (.finite negative significand shift) =>
    let magnitude : Int := significand * Nat.pow 2 shift
    some (if negative then -magnitude else magnitude)
  | _ => none

/-- Whether two values are equal that are neither lists nor objects: numbers by what they count, and
not-a-number never. -/
def equalScalars (v w : Json) : Bool :=
  match v.units?, w.units? with
  | some m, some n => m == n
  | none, none =>
    match v, w with
    | .null, .null => true
    | .text s, .text t => s == t
    | .float (.infinite a), .float (.infinite b) => a == b
    | _, _ => false
  | _, _ => false

mutual

/-- Whether two values are equal; the order of an object's members does not count. -/
def equals : Json → Json → Bool
  | .list xs, .list ys => equalElements xs ys
  | .object ms, .object ns => ms.length == ns.length && equalMembers ms ns
  | v, w => equalScalars v w

/-- Whether two lists are equal, element by element. -/
def equalElements : List Json → List Json → Bool
  | [], [] => true
  | x :: xs, y :: ys => equals x y && equalElements xs ys
  | _, _ => false

/-- Whether each of the first members has an equal among the second ones. -/
def equalMembers : List (String × Json) → List (String × Json) → Bool
  | [], _ => true
  | (name, v) :: rest, ns =>
    (match find? name ns with
      | some w => equals v w
      | none => false) && equalMembers rest ns

end

end Json

end RecordSearch
