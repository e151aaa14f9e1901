import Mathlib.Data.List.Induction
import RecordSearch.Proofs.Tree

/-!
# Queries built by additions

A query is built by adding items to a group, one after the other, on either side, some with a mode
for what is included. When the mode changes, what is included by then may move into a group of its
own, so that the tree gets deeper with every change of mode.

What the query means does not depend on that. `Verdict` goes through the additions from left to
right and joins each included item to what was included before it, and `verdict_takeAll` says that
the tree agrees with it. `includedThrough_takeAll` reads the included items back in their order,
through the groups that have been made on the way.
-/

namespace RecordSearch

/-- An item to be added: on which side, and the mode that is named with it, if one is. -/
structure Addition (α : Type) where
  item : α
  side : Side := .included
  mode : Option Mode := none
  deriving DecidableEq, Repr

namespace Addition

variable {α β : Type}

/-- The addition of another item in the same way. -/
def map (f : α → β) (a : Addition α) : Addition β := ⟨f a.item, a.side, a.mode⟩

/-- The call by which the item is added. -/
def change (a : Addition α) : Change :=
  match a.mode with
  | none => .add
  | some mode => .addWithMode (.text mode.name)

end Addition

/-- The items that are added on one side. -/
def itemsOn {α : Type} (side : Side) (additions : List (Addition α)) : List α :=
  (additions.filter fun a => a.side = side).map Addition.item

theorem itemsOn_append {α : Type} (side : Side) (as bs : List (Addition α)) :
    itemsOn side (as ++ bs) = itemsOn side as ++ itemsOn side bs := by
  simp [itemsOn]

theorem itemsOn_singleton {α : Type} (side : Side) (a : Addition α) :
    itemsOn side [a] = if a.side = side then [a.item] else [] := by
  by_cases h : a.side = side <;> simp [itemsOn, h]

theorem Mode.ofJson_name (mode : Mode) : Mode.ofJson (.text mode.name) = .ok mode := by
  cases mode <;> rfl

namespace Group

variable {α : Type} {wrap : Group α → α} {g : Group α}

/-- The group after an addition. One that names no mode keeps the mode in use. -/
def take (wrap : Group α → α) (g : Group α) (a : Addition α) : Group α :=
  g.addWithMode wrap a.item (a.mode.getD g.mode) a.side

/-- The group after some additions. -/
def takeAll (wrap : Group α → α) (g : Group α) (additions : List (Addition α)) : Group α :=
  additions.foldl (take wrap) g

/-- Whether an addition moves what is included into a group of its own. -/
def promotesFor (g : Group α) (a : Addition α) : Bool := g.promotes (a.mode.getD g.mode) a.side

/-- How many of the additions move what is included by then into a group of its own. -/
def promotions (wrap : Group α → α) (g : Group α) : List (Addition α) → Nat
  | [] => 0
  | a :: additions =>
    (g.promotesFor a).toNat + (g.take wrap a).promotions wrap additions

theorem takeAll_concat (additions : List (Addition α)) (a : Addition α) :
    g.takeAll wrap (additions ++ [a]) = (g.takeAll wrap additions).take wrap a := by
  simp [takeAll]

theorem promotions_concat (additions : List (Addition α)) (a : Addition α) :
    g.promotions wrap (additions ++ [a]) =
      g.promotions wrap additions + ((g.takeAll wrap additions).promotesFor a).toNat := by
  induction additions generalizing g with
  | nil => simp [promotions, takeAll]
  | cons b additions ih =>
    rw [List.cons_append, promotions, ih, promotions, Nat.add_assoc]
    rfl

/-! ### Preparing a group -/

/-- A group is prepared in one of two ways: what it includes moves into a group of its own, or stays
where it is. It stays if the mode does, or if the mode does not show between less than two items. -/
theorem prepare_cases (wrap : Group α → α) (g : Group α) (mode : Mode) (side : Side) :
    (g.promotes mode side = true ∧ side = .included ∧ 1 < g.included.length ∧
      g.prepare wrap mode side =
        ⟨mode, [wrap { mode := g.mode, included := g.included }], g.excluded⟩) ∨
    (g.promotes mode side = false ∧ ∃ mode', (mode' = g.mode ∨ g.included.length < 2) ∧
      g.prepare wrap mode side = ⟨mode', g.included, g.excluded⟩) := by
  unfold prepare promotes
  by_cases hside : side = .included ∧ g.mode ≠ mode
  · rw [if_pos hside]
    obtain ⟨rfl, hmode⟩ := hside
    by_cases hlen : 1 < g.included.length
    · left
      simp [hlen, hmode]
    · right
      rw [if_neg hlen]
      refine ⟨by simp [hlen], mode, .inr (by omega), rfl⟩
  · right
    rw [if_neg hside]
    refine ⟨?_, g.mode, .inl rfl, rfl⟩
    cases side <;> simp_all

theorem isEmpty_prepare (wrap : Group α → α) (g : Group α) (mode : Mode) (side : Side) :
    (g.prepare wrap mode side).included.isEmpty = g.included.isEmpty := by
  rcases g.prepare_cases wrap mode side with ⟨-, -, hlen, hprepare⟩ | ⟨-, mode', -, hprepare⟩
  · have hne : g.included ≠ [] := List.ne_nil_of_length_pos (by omega)
    rw [hprepare, List.isEmpty_eq_false_iff.2 hne]
    rfl
  · rw [hprepare]

@[simp] theorem prepare_mode (wrap : Group α → α) (g : Group α) (side : Side) :
    g.prepare wrap g.mode side = g := by
  simp [prepare]

/-- An item can be added in any of these ways, and the call is not rejected. -/
theorem change_addition (condition? : α → Option Condition) (g : Group α) (a : Addition α) :
    g.change wrap condition? (.item a.item) a.side a.change = (g.take wrap a, .ok ()) := by
  obtain ⟨item, side, mode⟩ := a
  cases mode with
  | none =>
    show (g.add item side, _) = ((g.prepare wrap g.mode side).add item side, _)
    rw [prepare_mode]
  | some mode =>
    simp only [change, Addition.change, Mode.ofJson_name]
    rfl

end Group

/-! ### What a record makes of additions -/

/-- Joins what has been found of some items with what is found of the next. -/
def Mode.join : Mode → Bool → Bool → Bool
  | .and, held, next => held && next
  | .or, held, next => held || next

/-- What a record makes of items that are added: the mode that was named last, and whether what is
included holds, if anything is. -/
structure Verdict where
  mode : Mode := .and
  included : Option Bool := none
  deriving DecidableEq, Repr

namespace Verdict

/-- The verdict after one more addition. An excluded item plays no part in it. The first included
item is taken as it is, and every other is joined to those before it. -/
def after (r : Record) (v : Verdict) (a : Addition Item) : Verdict :=
  match a.side with
  | .excluded => v
  | .included =>
    let mode := a.mode.getD v.mode
    match v.included with
    | none => ⟨mode, some (a.item.matches r)⟩
    | some held => ⟨mode, some (mode.join held (a.item.matches r))⟩

/-- The verdict after some additions. -/
def ofAdditions (r : Record) (additions : List (Addition Item)) : Verdict :=
  additions.foldl (after r) {}

/-- Whether what is included holds. Nothing is demanded if nothing is included. -/
def holds (v : Verdict) : Bool := v.included.getD true

end Verdict

namespace Group

variable {r : Record} {g : Query}

/-- Whether a record has what a group includes. -/
def passes (r : Record) (g : Query) : Bool :=
  match g.mode with
  | .and => g.included.all (Item.matches r)
  | .or => g.included.isEmpty || g.included.any (Item.matches r)

/-- The verdict on a group: whether the record has what it includes, if it includes anything. -/
def verdict (r : Record) (g : Query) : Verdict :=
  ⟨g.mode, if g.included.isEmpty then none else some (g.passes r)⟩

theorem matches_eq_passes (r : Record) (g : Query) :
    Group.matches r g = (g.passes r && !g.excluded.any (Item.matches r)) :=
  Group.matches_eq r g

theorem holds_verdict (r : Record) (g : Query) : (g.verdict r).holds = g.passes r := by
  obtain ⟨mode, included, excluded⟩ := g
  cases included with
  | nil => cases mode <;> rfl
  | cons i items => rfl

/-- Less than two items hold in one mode if they do in the other. -/
theorem passes_of_short (mode : Mode) (excluded : List Item) (h : g.included.length < 2) :
    Group.passes r ⟨mode, g.included, excluded⟩ = g.passes r := by
  obtain ⟨mode', included, excluded'⟩ := g
  match included with
  | [] => cases mode <;> cases mode' <;> rfl
  | [i] => cases mode <;> cases mode' <;> simp [passes]
  | i :: j :: items =>
    simp only [List.length_cons] at h
    omega

/-- A group that has been prepared includes what holds whenever what it included before does. -/
theorem passes_prepare (r : Record) (g : Query) (mode : Mode) (side : Side) :
    (g.prepare .group mode side).passes r = g.passes r := by
  rcases g.prepare_cases .group mode side with ⟨-, -, -, hprepare⟩ | ⟨-, mode', hmode, hprepare⟩
  · -- the group that has been made excludes nothing
    have hgroup : Group.matches r ⟨g.mode, g.included, []⟩ = g.passes r := by
      rw [matches_eq_passes, List.any_nil, Bool.not_false, Bool.and_true]
      rfl
    rw [hprepare, ← hgroup]
    cases mode <;> simp [passes, Item.matches]
  · rw [hprepare]
    rcases hmode with rfl | hlen
    · rfl
    · exact passes_of_short mode' g.excluded hlen

/-- Preparing a group changes the mode in which the verdict goes on, and nothing else. -/
theorem verdict_prepare (r : Record) (g : Query) (mode : Mode) :
    (g.prepare .group mode .included).verdict r = ⟨mode, (g.verdict r).included⟩ := by
  rw [verdict, mode_prepare, isEmpty_prepare, passes_prepare]
  rfl

theorem verdict_add (r : Record) (g : Query) (i : Item) :
    (g.add i .included).verdict r = (g.verdict r).after r ⟨i, .included, none⟩ := by
  obtain ⟨mode, included, excluded⟩ := g
  cases included with
  | nil => cases mode <;> simp [verdict, passes, add, withSide, side, Verdict.after]
  | cons j items =>
    cases mode with
    | and =>
      simp [verdict, passes, add, withSide, side, Verdict.after, Mode.join, Bool.and_assoc]
    | or =>
      simp [verdict, passes, add, withSide, side, Verdict.after, Mode.join, Bool.or_assoc]

/-- **One addition.** The verdict on a group after an addition is what the verdict on it before
becomes by the addition, whether anything has moved or not. -/
theorem verdict_take (r : Record) (g : Query) (a : Addition Item) :
    (g.take .group a).verdict r = (g.verdict r).after r a := by
  obtain ⟨i, side, mode?⟩ := a
  cases side with
  | excluded => simp [take, addWithMode, prepare, verdict, Verdict.after, add, withSide, passes]
  | included =>
    rw [take, addWithMode, verdict_add, verdict_prepare]
    rfl

/-- The verdict on a group after some additions. -/
theorem verdict_takeAll (r : Record) (additions : List (Addition Item)) :
    (Group.takeAll .group {} additions).verdict r = Verdict.ofAdditions r additions := by
  induction additions using List.reverseRecOn with
  | nil => rfl
  | append_singleton additions a ih =>
    rw [takeAll_concat, verdict_take, ih, Verdict.ofAdditions, Verdict.ofAdditions,
      List.foldl_append, List.foldl_cons, List.foldl_nil]

/-! ### The items of a group that has been built -/

variable {α : Type} {wrap : Group α → α}

theorem excluded_take (g : Group α) (a : Addition α) :
    (g.take wrap a).excluded = g.excluded ++ itemsOn .excluded [a] := by
  obtain ⟨i, side, mode?⟩ := a
  rw [itemsOn_singleton, take, addWithMode]
  cases side with
  | excluded =>
    show (g.prepare wrap _ .excluded).excluded ++ [i] = _
    rw [excluded_prepare]
    rfl
  | included =>
    show (g.prepare wrap _ .included).excluded = _
    rw [excluded_prepare]
    exact (List.append_nil _).symm

theorem excluded_takeAll (g : Group α) (additions : List (Addition α)) :
    (g.takeAll wrap additions).excluded = g.excluded ++ itemsOn .excluded additions := by
  induction additions using List.reverseRecOn with
  | nil => simp [takeAll, itemsOn]
  | append_singleton additions a ih =>
    rw [takeAll_concat, excluded_take, ih, List.append_assoc, ← itemsOn_append]

/-- The items read from left to right through so many groups, each of which is the first item of the
one around it. -/
def includedThrough : Nat → List Item → Option (List Item)
  | 0, items => some items
  | n + 1, .group g :: items => (includedThrough n g.included).map (· ++ items)
  | _ + 1, _ => none

theorem includedThrough_append {n : Nat} {items found : List Item}
    (h : includedThrough n items = some found) (more : List Item) :
    includedThrough n (items ++ more) = some (found ++ more) := by
  match n, items with
  | 0, items =>
    obtain rfl : items = found := Option.some.inj h
    rfl
  | n + 1, [] => exact absurd h (by simp [includedThrough])
  | n + 1, .condition c :: items => exact absurd h (by simp [includedThrough])
  | n + 1, .group g :: items =>
    rw [includedThrough, Option.map_eq_some_iff] at h
    obtain ⟨inner, hinner, rfl⟩ := h
    rw [List.cons_append, includedThrough, hinner, Option.map_some, List.append_assoc]

/-- An addition puts its item behind the others, where it is read through one group more if one has
been made for them. -/
theorem includedThrough_take {n : Nat} {g : Query} {found : List Item}
    (h : includedThrough n g.included = some found) (a : Addition Item) :
    includedThrough (n + (g.promotesFor a).toNat) (g.take .group a).included =
      some (found ++ itemsOn .included [a]) := by
  obtain ⟨i, side, mode?⟩ := a
  rw [itemsOn_singleton, take, addWithMode, promotesFor]
  rcases g.prepare_cases .group (mode?.getD g.mode) side with
    ⟨hpromotes, rfl, -, hprepare⟩ | ⟨hpromotes, mode, -, hprepare⟩
  · rw [hpromotes, hprepare]
    show (includedThrough n g.included).map (· ++ [i]) = _
    rw [h]
    rfl
  · rw [hpromotes, hprepare]
    cases side with
    | excluded =>
      show includedThrough n g.included = some (found ++ [])
      rw [h, List.append_nil]
    | included => exact includedThrough_append h [i]

/-- **No item is lost.** The included items are read back in the order in which they were added,
through the groups that have been made for them on the way. -/
theorem includedThrough_takeAll (additions : List (Addition Item)) :
    includedThrough (Group.promotions .group {} additions)
      (Group.takeAll .group {} additions).included = some (itemsOn .included additions) := by
  induction additions using List.reverseRecOn with
  | nil => rfl
  | append_singleton additions a ih =>
    rw [takeAll_concat, promotions_concat, itemsOn_append]
    exact includedThrough_take ih a

end Group

end RecordSearch
