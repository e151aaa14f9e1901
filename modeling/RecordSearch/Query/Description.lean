import RecordSearch.Json.Basic
import RecordSearch.Query.Item

/-!
# Described queries

A query described as a JSON value: each node is an object with its type and its parts.
-/

namespace RecordSearch

/-- A condition as a JSON value. -/
def Condition.toJson (c : Condition) : Json :=
  .object [("type", .text "filter"), ("field", .ofText? c.field), ("term", .text c.term),
    ("operator", .text c.operator.name)]

mutual

/-- An item as a JSON value. -/
def Item.toJson : Item → Json
  | .condition c => c.toJson
  | .group g => Group.toJson g

/-- A group as a JSON value. -/
def Group.toJson : Group Item → Json
  | ⟨mode, included, excluded⟩ =>
    .object [("type", .text "group"), ("mode", .text mode.name),
      ("include", .list (Item.listToJson included)), ("exclude", .list (Item.listToJson excluded))]

/-- The items of a list as JSON values. -/
def Item.listToJson : List Item → List Json
  | [] => []
  | i :: items => i.toJson :: Item.listToJson items

end

end RecordSearch
