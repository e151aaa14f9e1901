import RecordSearch.Json.Basic
import RecordSearch.Text.LowerCase

/-!
# Records

A record is a list of entries, each a value under a key. Its keys are looked up without regard to
case, an exact one first; and the texts that a query can look into are those that stand under a key,
alone or in a list.
-/

namespace RecordSearch

/-- The key of an entry. -/
inductive Key where
  | name (s : String)
  /-- A key that is no text; no field has its name. -/
  | other
  deriving DecidableEq, Repr

/-- A record: its entries in order, each key once. -/
structure Record where
  entries : List (Key × Json)

/-- The texts of a value: itself, or the texts among the elements of a list. -/
def Json.texts : Json → List String
  | .text s => [s]
  | .list elements => elements.filterMap fun
    | .text s => some s
    | _ => none
  | _ => []

/-- Whether a key is a name that folds to `folded`. -/
def Key.foldsTo (folded : String) : Key → Bool
  | .name s => Text.fold s == folded
  | .other => false

namespace Record

/-- The record of an object's members. -/
def ofMembers (members : List (String × Json)) : Record :=
  ⟨members.map fun m => (.name m.1, m.2)⟩

/-- The value of a field: under the key of exactly that name or, if there is none, under the first
key that folds to the same. -/
def lookup? (r : Record) (field : String) : Option Json :=
  match r.entries.find? fun e => e.1 == .name field with
  | some e => some e.2
  | none => (r.entries.find? fun e => e.1.foldsTo (Text.fold field)).map (·.2)

/-- The texts in a field. -/
def textsIn (r : Record) (field : String) : List String :=
  match r.lookup? field with
  | some v => v.texts
  | none => []

/-- The texts in all fields, without the empty ones. -/
def allTexts (r : Record) : List String :=
  (r.entries.flatMap fun e => e.2.texts).filter (· != "")

end Record

end RecordSearch
