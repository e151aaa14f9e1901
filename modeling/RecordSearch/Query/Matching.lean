import RecordSearch.Query.Item
import RecordSearch.Record.Basic

/-!
# Matching

A condition matches a record if one of the record's texts passes its comparison, in which case does
not count. A group matches if the items that it includes hold, all or any of them, and none of
those that it excludes does. A group that includes nothing demands nothing.
-/

namespace RecordSearch

/-- Whether `part` occurs in a text. -/
def occursIn (part : List Char) : List Char → Bool
  | [] => part.isEmpty
  | c :: rest => part.isPrefixOf (c :: rest) || occursIn part rest

namespace Condition

/-- Whether a text passes the comparison with the term. -/
def accepts (c : Condition) (value : String) : Bool :=
  match c.operator with
  | .exact => Text.fold value == Text.fold c.term
  | .contains => occursIn (Text.fold c.term).toList (Text.fold value).toList

/-- The texts of a record that a condition looks at. -/
def candidates (c : Condition) (r : Record) : List String :=
  match c.field with
  | none => r.allTexts
  | some field => r.textsIn field

end Condition

/-- Whether a condition matches a record. -/
def Condition.matches (r : Record) (c : Condition) : Bool := (c.candidates r).any c.accepts

mutual

/-- Whether an item matches a record. -/
def Item.matches (r : Record) : Item → Bool
  | .condition c => Condition.matches r c
  | .group g => Group.matches r g

/-- Whether a group matches a record. -/
def Group.matches (r : Record) : Group Item → Bool
  | ⟨mode, included, excluded⟩ =>
    (match mode with
      | .and => Item.allMatch r included
      | .or => included.isEmpty || Item.anyMatch r included) && !Item.anyMatch r excluded

/-- Whether all items match a record. -/
def Item.allMatch (r : Record) : List Item → Bool
  | [] => true
  | i :: items => i.matches r && Item.allMatch r items

/-- Whether any of the items matches a record. -/
def Item.anyMatch (r : Record) : List Item → Bool
  | [] => false
  | i :: items => i.matches r || Item.anyMatch r items

end

theorem Item.allMatch_eq_all (r : Record) (items : List Item) :
    Item.allMatch r items = items.all (Item.matches r) := by
  induction items with
  | nil => rfl
  | cons i items ih => simp [Item.allMatch, ih]

theorem Item.anyMatch_eq_any (r : Record) (items : List Item) :
    Item.anyMatch r items = items.any (Item.matches r) := by
  induction items with
  | nil => rfl
  | cons i items ih => simp [Item.anyMatch, ih]

/-- The rule of matching. -/
theorem Group.matches_eq (r : Record) (g : Group Item) :
    Group.matches r g =
      ((match g.mode with
        | .and => g.included.all (Item.matches r)
        | .or => g.included.isEmpty || g.included.any (Item.matches r)) &&
          !g.excluded.any (Item.matches r)) := by
  obtain ⟨mode, included, excluded⟩ := g
  simp only [Group.matches.eq_def, Item.allMatch_eq_all, Item.anyMatch_eq_any]

/-- The records that a query matches, in order. -/
def Group.select {α : Type} (q : Query) (view : α → Record) (records : List α) : List α :=
  records.filter fun r => Group.matches (view r) q

end RecordSearch
