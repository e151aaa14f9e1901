import RecordSearch.Json.Printer
import RecordSearch.Query.Item

/-!
# Building queries by hand

Items are added to a group on either side, and conditions are taken out of it again. Adding with a
mode makes sure that the group joins its items in that mode: what it included before, if more than
one item, moves into a group of its own that keeps the old mode.

`Group.add` and its like work on groups over any kind of items. What a caller hands in need not be
an item, or name a mode: `Group.change` and `Group.lookFor` say how a group answers any caller, and
what it has become by then.
-/

namespace RecordSearch

namespace Group

variable {α : Type}

/-- The group with one side replaced. -/
def withSide (g : Group α) (side : Side) (items : List α) : Group α :=
  match side with
  | .included => { g with included := items }
  | .excluded => { g with excluded := items }

/-- Adds an item at the end of one side. -/
def add (g : Group α) (x : α) (side : Side) : Group α := g.withSide side (g.side side ++ [x])

/-- Whether adding on that side with that mode moves what is included into a group of its own. -/
def promotes (g : Group α) (mode : Mode) (side : Side) : Bool :=
  side == .included && g.mode != mode && decide (1 < g.included.length)

/-- The group made ready for items to be added on that side with that mode; `wrap` makes an item of
the group of those included before. -/
def prepare (wrap : Group α → α) (g : Group α) (mode : Mode) (side : Side) : Group α :=
  if side = .included ∧ g.mode ≠ mode then
    if 1 < g.included.length then
      ⟨mode, [wrap { mode := g.mode, included := g.included }], g.excluded⟩
    else { g with mode }
  else g

/-- Adds an item on one side, with a mode for what is included. -/
def addWithMode (wrap : Group α → α) (g : Group α) (x : α) (mode : Mode) (side : Side) : Group α :=
  (g.prepare wrap mode side).add x side

/-- Takes the items for which `p` holds out of one side. -/
def removeAll (g : Group α) (p : α → Bool) (side : Side) : Group α :=
  g.withSide side ((g.side side).filter fun x => !p x)

@[simp] theorem mode_withSide (g : Group α) (side : Side) (items : List α) :
    (g.withSide side items).mode = g.mode := by
  cases side <;> rfl

@[simp] theorem side_withSide (g : Group α) (side : Side) (items : List α) :
    (g.withSide side items).side side = items := by
  cases side <;> rfl

@[simp] theorem mode_add (g : Group α) (x : α) (side : Side) : (g.add x side).mode = g.mode := by
  simp [add]

@[simp] theorem side_add (g : Group α) (x : α) (side : Side) :
    (g.add x side).side side = g.side side ++ [x] := by
  simp [add]

@[simp] theorem excluded_prepare (wrap : Group α → α) (g : Group α) (mode : Mode) (side : Side) :
    (g.prepare wrap mode side).excluded = g.excluded := by
  unfold prepare
  split
  · split <;> rfl
  · rfl

theorem mode_prepare (wrap : Group α → α) (g : Group α) (mode : Mode) :
    (g.prepare wrap mode .included).mode = mode := by
  unfold prepare
  split
  · split <;> rfl
  · rename_i h
    simpa using h

end Group

mutual

/-- Whether a condition stands in a list of items, or in the same side of the groups in it. -/
def Item.hasNested (c : Condition) (side : Side) : List Item → Bool
  | [] => false
  | .condition d :: items => decide (d = c) || Item.hasNested c side items
  | .group g :: items => Group.hasNested c side g || Item.hasNested c side items

/-- Whether a condition stands on one side of a group, or of the groups in it. -/
def Group.hasNested (c : Condition) (side : Side) : Group Item → Bool
  | ⟨_, included, excluded⟩ =>
    match side with
    | .included => Item.hasNested c side included
    | .excluded => Item.hasNested c side excluded

end

/-- Whether a condition stands on one side of a group itself. -/
def Group.has (g : Group Item) (c : Condition) (side : Side) : Bool :=
  (g.side side).contains (.condition c)

mutual

/-- Whether a search through a list of items, and the same side of the groups in it, meets a
condition. -/
def Item.meetsCondition (side : Side) : List Item → Bool
  | [] => false
  | .condition _ :: _ => true
  | .group g :: items => Group.meetsCondition side g || Item.meetsCondition side items

/-- Whether a search through one side of a group, and of the groups in it, meets a condition. -/
def Group.meetsCondition (side : Side) : Group Item → Bool
  | ⟨_, included, excluded⟩ =>
    match side with
    | .included => Item.meetsCondition side included
    | .excluded => Item.meetsCondition side excluded

end

/-! ### Calls -/

/-- What a caller hands in as an item. -/
inductive Given (α : Type) where
  | item (x : α)
  /-- A value that is no item at all. -/
  | value (v : Json)

/-- Why a call is rejected. -/
inductive Rejection where
  /-- What was to be added is no item. -/
  | notAnItem (kind : String)
  /-- What was to be compared with a condition is none. -/
  | notACondition (kind : String)
  | notAMode (given : Json)
  | notAnOperator (given : Json)
  /-- What was to be counted cannot be told apart from others. -/
  | notCountable (kind : String)

/-- A rejection in words. -/
def Rejection.message : Rejection → String
  | .notAnItem kind => "Expected Filter or FilterGroup, got " ++ kind
  | .notACondition kind => "'" ++ kind ++ "' object has no attribute 'field'"
  | .notAMode given => given.literal ++ " is not a valid Mode"
  | .notAnOperator given => given.literal ++ " is not a valid Operator"
  | .notCountable kind => "unhashable type: '" ++ kind ++ "'"

/-- The kind of a group, as messages name it. -/
def groupKind : String := "FilterGroup"

/-- The operator that a caller names by its sign. -/
def Operator.ofJson (v : Json) : Except Rejection Operator :=
  match v with
  | .text ":" => .ok .contains
  | .text "=" => .ok .exact
  | _ => .error (.notAnOperator v)

/-- The mode that a caller names. -/
def Mode.ofJson (v : Json) : Except Rejection Mode :=
  match v with
  | .text "AND" => .ok .and
  | .text "OR" => .ok .or
  | _ => .error (.notAMode v)

/-- A call that may change a group. -/
inductive Change where
  | add
  | addWithMode (mode : Json)
  | remove

namespace Group

variable {α : Type}

/-- What was handed in, if it is a condition, and else its kind. -/
def comparable (condition? : α → Option Condition) : Given α → Except String Condition
  | .item x =>
    match condition? x with
    | some c => .ok c
    | none => .error groupKind
  | .value v => .error v.kind

/-- The group after a call, and what was wrong with the call. A call that is rejected may have
prepared the group already. -/
def change (wrap : Group α → α) (condition? : α → Option Condition) (g : Group α)
    (given : Given α) (side : Side) : Change → Group α × Except Rejection Unit
  | .add =>
    match given with
    | .item x => (g.add x side, .ok ())
    | .value v => (g, .error (.notAnItem v.kind))
  | .addWithMode named =>
    match Mode.ofJson named with
    | .error rejection => (g, .error rejection)
    | .ok mode =>
      match given with
      | .item x => (g.addWithMode wrap x mode side, .ok ())
      | .value v => (g.prepare wrap mode side, .error (.notAnItem v.kind))
  | .remove =>
    match comparable condition? given with
    | .ok c => (g.removeAll (fun x => condition? x == some c) side, .ok ())
    | .error kind =>
      if (g.side side).any fun x => (condition? x).isSome then (g, .error (.notACondition kind))
      else (g, .ok ())

end Group

/-- The condition that an item is. -/
def Item.condition? : Item → Option Condition
  | .condition c => some c
  | .group _ => none

/-- Whether what was handed in stands on one side of a group or, if `nested`, of the groups in it.
It is compared with the conditions there one after the other. -/
def Group.lookFor (g : Group Item) (given : Given Item) (side : Side) (nested : Bool) :
    Except Rejection Bool :=
  match Group.comparable Item.condition? given with
  | .ok c => .ok (if nested then Group.hasNested c side g else g.has c side)
  | .error kind =>
    let met := if nested then Group.meetsCondition side g
      else (g.side side).any fun x => x.condition?.isSome
    if met then .error (.notACondition kind) else .ok false

end RecordSearch
