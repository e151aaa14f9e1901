import RecordSearch.Query.Building

/-!
# Shared groups

Callers who build queries may give a group a name and add it in several places; a later change of it
then shows in all of them. A store keeps every group once, under a number, and a group in it holds
the numbers of the groups that it joins. `Store.group` reads a group of the store back as a tree.
-/

namespace RecordSearch

/-- An item of a stored group: a condition, or the number of a group. -/
inductive Handle where
  | condition (c : Condition)
  | group (number : Nat)
  deriving DecidableEq, Repr

/-- The condition that a handle is. -/
def Handle.condition? : Handle → Option Condition
  | .condition c => some c
  | .group _ => none

/-- Groups that may share others, each under the number of its place. -/
structure Store where
  groups : List (Group Handle) := []

namespace Store

/-- The group under a number; a number that is not in use stands for an empty group. -/
def get (s : Store) (number : Nat) : Group Handle := s.groups[number]?.getD {}

/-- The store with the group under a number replaced. -/
def set (s : Store) (number : Nat) (g : Group Handle) : Store := ⟨s.groups.set number g⟩

/-- The number of the next group. -/
def next (s : Store) : Nat := s.groups.length

/-- The store with one more group, which gets the next number. -/
def push (s : Store) (g : Group Handle) : Store := ⟨s.groups ++ [g]⟩

@[simp] theorem get_push_next (s : Store) (g : Group Handle) : (s.push g).get s.next = g := by
  simp [get, push, next]

theorem get_push_of_lt {s : Store} {number : Nat} (h : number < s.next) (g : Group Handle) :
    (s.push g).get number = s.get number := by
  simp [get, push, List.getElem?_append_left h]

theorem get_set_self {s : Store} {number : Nat} (h : number < s.next) (g : Group Handle) :
    (s.set number g).get number = g := by
  simp [get, set, List.getElem?_set_self h]

theorem get_set_of_ne {number other : Nat} (h : number ≠ other) (s : Store) (g : Group Handle) :
    (s.set number g).get other = s.get other := by
  simp [get, set, List.getElem?_set_ne h]

/-- Reads a group back as a tree of at most so many levels. -/
def groupWithin (s : Store) : Nat → Nat → Group Item
  | 0, _ => {}
  | levels + 1, number =>
    let g := s.get number
    let item : Handle → Item
      | .condition c => .condition c
      | .group n => .group (s.groupWithin levels n)
    ⟨g.mode, g.included.map item, g.excluded.map item⟩

/-- The tree of the group under a number. No group stands inside itself, so that a tree has at most
as many levels as there are groups. -/
def group (s : Store) (number : Nat) : Group Item := s.groupWithin s.groups.length number

/-- The item of a handle. -/
def item (s : Store) : Handle → Item
  | .condition c => .condition c
  | .group number => .group (s.group number)

mutual

/-- Puts the groups of an item into the store. -/
def insert (s : Store) : Item → Store × Handle
  | .condition c => (s, .condition c)
  | .group g =>
    let (s, number) := s.insertGroup g
    (s, .group number)

/-- Puts a group, and those in it, into the store. -/
def insertGroup (s : Store) : Group Item → Store × Nat
  | ⟨mode, included, excluded⟩ =>
    let (s, included) := s.insertAll included
    let (s, excluded) := s.insertAll excluded
    (s.push ⟨mode, included, excluded⟩, s.next)

/-- Puts the groups of several items into the store. -/
def insertAll (s : Store) : List Item → Store × List Handle
  | [] => (s, [])
  | i :: items =>
    let (s, handle) := s.insert i
    let (s, handles) := s.insertAll items
    (s, handle :: handles)

end

/-- The group that a call moves into a group of its own, if there is one: what it included, with its
mode. -/
def promoted (g : Group Handle) (side : Side) : Change → Option (Group Handle)
  | .addWithMode named =>
    match Mode.ofJson named with
    | .ok mode =>
      if g.promotes mode side then some { mode := g.mode, included := g.included } else none
    | .error _ => none
  | _ => none

/-- The store after a call on the group under a number, and what was wrong with the call. -/
def change (s : Store) (number : Nat) (given : Given Handle) (side : Side) (c : Change) :
    Store × Except Rejection Unit :=
  let g := s.get number
  -- a group that is moved out gets the next number, and is put there below
  let (changed, outcome) := g.change (fun _ => .group s.next) Handle.condition? given side c
  let s := s.set number changed
  match promoted g side c with
  | some inner => (s.push inner, outcome)
  | none => (s, outcome)

end Store

end RecordSearch
