import RecordSearch.Query.Condition

/-!
# Filter trees

A query is a tree. Its leaves are conditions; a group joins other items: all of them, or any of
them, has to hold, and none of the items that it excludes may. `Group.text` writes a group as a
query text; brackets stand only where an item is a group and is not alone.
-/

namespace RecordSearch

/-- How a group joins the items that it includes. -/
inductive Mode where
  /-- All of them have to hold. -/
  | and
  /-- One of them has to hold. -/
  | or
  deriving DecidableEq, Repr

namespace Mode

/-- The mode's name in a described query. -/
def name : Mode → String
  | .and => "AND"
  | .or => "OR"

/-- What stands between two items in a query text. -/
def joiner : Mode → Char
  | .and => ' '
  | .or => '~'

end Mode

/-- The two lists of a group. -/
inductive Side where
  | included
  | excluded
  deriving DecidableEq, Repr

/-- A group over items of type `α`: it includes some, joined by its mode, and excludes others. -/
structure Group (α : Type) where
  mode : Mode := .and
  included : List α := []
  excluded : List α := []
  deriving DecidableEq, Repr

/-- The items on one side of a group. -/
def Group.side {α : Type} (g : Group α) : Side → List α
  | .included => g.included
  | .excluded => g.excluded

/-- Whether a group has no items at all. -/
def Group.isEmpty {α : Type} (g : Group α) : Bool := g.included.isEmpty && g.excluded.isEmpty

/-- A node of a filter tree: a condition or a group of further items. -/
inductive Item where
  | condition (c : Condition)
  | group (g : Group Item)

/-- A query: the group at the root of its filter tree. -/
abbrev Query := Group Item

/-! ### Equality -/

mutual

/-- Equality of items is decidable. -/
def Item.decEq : (a b : Item) → Decidable (a = b)
  | .condition c, .condition d =>
    if h : c = d then isTrue (h ▸ rfl) else isFalse fun e => h (Item.condition.inj e)
  | .group g, .group h =>
    match Item.decEqGroup g h with
    | isTrue e => isTrue (e ▸ rfl)
    | isFalse n => isFalse fun e => n (Item.group.inj e)
  | .condition _, .group _ => isFalse nofun
  | .group _, .condition _ => isFalse nofun

/-- Equality of groups of items is decidable. -/
def Item.decEqGroup : (a b : Group Item) → Decidable (a = b)
  | ⟨m, xs, ys⟩, ⟨m', xs', ys'⟩ =>
    if h : m = m' then
      match Item.decEqList xs xs', Item.decEqList ys ys' with
      | isTrue e, isTrue f => isTrue (h ▸ e ▸ f ▸ rfl)
      | isFalse n, _ => isFalse fun e => n (Group.mk.inj e).2.1
      | _, isFalse n => isFalse fun e => n (Group.mk.inj e).2.2
    else isFalse fun e => h (Group.mk.inj e).1

/-- Equality of lists of items is decidable. -/
def Item.decEqList : (a b : List Item) → Decidable (a = b)
  | [], [] => isTrue rfl
  | x :: xs, y :: ys =>
    match Item.decEq x y, Item.decEqList xs ys with
    | isTrue e, isTrue f => isTrue (e ▸ f ▸ rfl)
    | isFalse n, _ => isFalse fun e => n (List.cons.inj e).1
    | _, isFalse n => isFalse fun e => n (List.cons.inj e).2
  | [], _ :: _ => isFalse nofun
  | _ :: _, [] => isFalse nofun

end

instance : DecidableEq Item := Item.decEq

/-! ### Writing -/

/-- The parts that are not empty, with a space between them. -/
def spaced (a b : List Char) : List Char :=
  if a.isEmpty then b else if b.isEmpty then a else a ++ ' ' :: b

mutual

/-- A group as it is written, without brackets around it. -/
def Group.chars : Group Item → List Char
  | ⟨mode, included, excluded⟩ =>
    spaced ([mode.joiner].intercalate (Item.charsIn (decide (1 < included.length)) included))
      ([' '].intercalate ((Item.charsIn true excluded).map ('-' :: ·)))

/-- The items of a list as they are written, groups between brackets if `bracketed`. -/
def Item.charsIn (bracketed : Bool) : List Item → List (List Char)
  | [] => []
  | .condition c :: items => c.chars :: Item.charsIn bracketed items
  | .group g :: items =>
    (if bracketed then '(' :: Group.chars g ++ [')'] else Group.chars g) ::
      Item.charsIn bracketed items

end

/-- A query as text, which can be read again. -/
def Group.text (g : Group Item) : String := String.ofList g.chars

end RecordSearch
