import RecordSearch.Proofs.Tree

/-!
# The normal form of a filter tree

Different trees are written alike: a group that includes just one group is written without brackets
around it, and no mode shows between less than two items. The normal form is the one among them that
is read back.

`Group.normal` keeps what a tree means (`matches_normal`) and how it is written (`chars_normal`).
-/

namespace RecordSearch

/-- A group that includes exactly one group gives way to that group, which then excludes also what
the outer one did. Any other group stays, joined by `and` if it includes less than two items. -/
def Group.hoist : Group Item → Group Item
  | ⟨_, [.group g], excluded⟩ => { g with excluded := g.excluded ++ excluded }
  | ⟨mode, included, excluded⟩ =>
    ⟨if included.length < 2 then .and else mode, included, excluded⟩

mutual

/-- The normal form of an item. -/
def Item.normal : Item → Item
  | .condition c => .condition c
  | .group g => .group (Group.normal g)

/-- The normal form of a group: the groups in it are brought to normal form and then it is. -/
def Group.normal : Group Item → Group Item
  | ⟨mode, included, excluded⟩ =>
    Group.hoist ⟨mode, Item.normalIn included, Item.normalIn excluded⟩

/-- The normal forms of the items of a list. -/
def Item.normalIn : List Item → List Item
  | [] => []
  | i :: items => i.normal :: Item.normalIn items

end

theorem Item.normalIn_eq_map (items : List Item) :
    Item.normalIn items = items.map Item.normal := by
  induction items with
  | nil => rfl
  | cons i items ih => rw [Item.normalIn, ih, List.map_cons]

theorem Group.normal_eq (g : Query) :
    g.normal = Group.hoist ⟨g.mode, g.included.map Item.normal, g.excluded.map Item.normal⟩ := by
  obtain ⟨mode, included, excluded⟩ := g
  rw [Group.normal, Item.normalIn_eq_map, Item.normalIn_eq_map]

@[simp] theorem Group.hoist_group (mode : Mode) (k : Query) (excluded : List Item) :
    Group.hoist ⟨mode, [.group k], excluded⟩ = { k with excluded := k.excluded ++ excluded } := rfl

@[simp] theorem Group.hoist_cons_cons (mode : Mode) (i j : Item) (items excluded : List Item) :
    Group.hoist ⟨mode, i :: j :: items, excluded⟩ = ⟨mode, i :: j :: items, excluded⟩ := by
  rw [Group.hoist, if_neg (by simp)]
  simp

/-- The two rules of hoisting. -/
theorem Group.hoist_cases (g : Query) :
    (∃ mode k excluded, g = ⟨mode, [.group k], excluded⟩ ∧
      g.hoist = { k with excluded := k.excluded ++ excluded }) ∨
    ((∀ k, g.included ≠ [.group k]) ∧
      g.hoist = ⟨if g.included.length < 2 then .and else g.mode, g.included, g.excluded⟩) := by
  obtain ⟨mode, included, excluded⟩ := g
  match included with
  | [.group k] => exact .inl ⟨mode, k, excluded, rfl, rfl⟩
  | [] => exact .inr ⟨fun k => by simp, rfl⟩
  | [.condition c] => exact .inr ⟨fun k => by simp, rfl⟩
  | i :: j :: items =>
    exact .inr ⟨fun k => by simp, by rw [Group.hoist_cons_cons, if_neg (by simp)]⟩

/-! ### Meaning -/

theorem Group.matches_hoist (r : Record) (g : Query) :
    Group.matches r g.hoist = Group.matches r g := by
  rcases Group.hoist_cases g with ⟨mode, k, excluded, rfl, hg⟩ | ⟨-, hg⟩
  · have hone : Group.matches r ⟨mode, [.group k], excluded⟩ =
        (Group.matches r k && !excluded.any (Item.matches r)) := by
      rw [Group.matches_eq]
      cases mode <;> simp [Item.matches]
    rw [hg, hone, Group.matches_eq, Group.matches_eq r k, List.any_append, Bool.not_or,
      Bool.and_assoc]
  · rw [hg, Group.matches_eq, Group.matches_eq r g]
    obtain ⟨mode, included, excluded⟩ := g
    -- the mode is reset only where it does not show
    match included, mode with
    | [], mode => cases mode <;> rfl
    | [i], mode => cases mode <;> simp
    | i :: j :: items, mode => rw [if_neg (by simp)]

/-- A tree and its normal form match the same records. -/
theorem Group.matches_normal (r : Record) (g : Query) :
    Group.matches r g.normal = Group.matches r g := by
  induction g using Group.induction with
  | step g hinc hexc =>
    rw [Group.normal_eq, Group.matches_hoist]
    refine Group.matches_map (fun i hi => ?_) (fun i hi => ?_)
    · cases i with
      | condition c => rfl
      | group k => exact hinc k hi
    · cases i with
      | condition c => rfl
      | group k => exact hexc k hi

/-! ### Text -/

/-- An item as it is written among others. -/
def Item.chars (bracketed : Bool) : Item → List Char
  | .condition c => c.chars
  | .group g => if bracketed then '(' :: g.chars ++ [')'] else g.chars

theorem Item.charsIn_eq_map (bracketed : Bool) (items : List Item) :
    Item.charsIn bracketed items = items.map (Item.chars bracketed) := by
  induction items with
  | nil => rw [Item.charsIn, List.map_nil]
  | cons i items ih =>
    cases i <;> rw [Item.charsIn, ih] <;> rfl

/-- The items that a group includes, as they are written. -/
def Group.includedChars (g : Query) : List Char :=
  [g.mode.joiner].intercalate (g.included.map (Item.chars (decide (1 < g.included.length))))

/-- The items that a group excludes, as they are written. -/
def Group.excludedChars (excluded : List Item) : List Char :=
  [' '].intercalate (excluded.map fun i => '-' :: i.chars true)

/-- The rule of writing. -/
theorem Group.chars_eq (g : Query) :
    g.chars = spaced g.includedChars (Group.excludedChars g.excluded) := by
  obtain ⟨mode, included, excluded⟩ := g
  rw [Group.chars, Item.charsIn_eq_map, Item.charsIn_eq_map, List.map_map]
  rfl

@[simp] theorem spaced_nil_left (a : List Char) : spaced [] a = a := rfl

@[simp] theorem spaced_nil_right (a : List Char) : spaced a [] = a := by
  cases a <;> rfl

theorem spaced_eq {a b : List Char} (ha : a ≠ []) (hb : b ≠ []) : spaced a b = a ++ ' ' :: b := by
  rw [spaced, if_neg (by simpa using ha), if_neg (by simpa using hb)]

theorem spaced_assoc (a b c : List Char) : spaced (spaced a b) c = spaced a (spaced b c) := by
  by_cases ha : a = []
  · rw [ha, spaced_nil_left, spaced_nil_left]
  by_cases hb : b = []
  · rw [hb, spaced_nil_right, spaced_nil_left]
  by_cases hc : c = []
  · rw [hc, spaced_nil_right, spaced_nil_right]
  rw [spaced_eq ha hb, spaced_eq hb hc, spaced_eq (by simp) hc, spaced_eq ha (by simp),
    List.append_assoc, List.cons_append]

theorem Group.excludedChars_cons (i : Item) (excluded : List Item) :
    Group.excludedChars (i :: excluded) =
      spaced ('-' :: i.chars true) (Group.excludedChars excluded) := by
  cases excluded with
  | nil => simp [Group.excludedChars]
  | cons j excluded =>
    have hne : Group.excludedChars (j :: excluded) ≠ [] := by
      cases excluded <;> simp [Group.excludedChars]
    rw [spaced_eq (by simp) hne]
    simp [Group.excludedChars]

theorem Group.excludedChars_append (xs ys : List Item) :
    Group.excludedChars (xs ++ ys) =
      spaced (Group.excludedChars xs) (Group.excludedChars ys) := by
  induction xs with
  | nil => rfl
  | cons i xs ih =>
    rw [List.cons_append, Group.excludedChars_cons, ih, Group.excludedChars_cons, spaced_assoc]

theorem Group.chars_hoist (g : Query) : g.hoist.chars = g.chars := by
  rcases Group.hoist_cases g with ⟨mode, k, excluded, rfl, hg⟩ | ⟨-, hg⟩
  · have hone : Group.includedChars ⟨mode, [.group k], excluded⟩ = k.chars := by
      simp [Group.includedChars, Item.chars]
    rw [hg, Group.chars_eq, Group.chars_eq ⟨mode, [.group k], excluded⟩, hone, Group.chars_eq k,
      Group.excludedChars_append, spaced_assoc]
    rfl
  · rw [hg, Group.chars_eq, Group.chars_eq g]
    obtain ⟨mode, included, excluded⟩ := g
    match included with
    | [] => rfl
    | [i] => simp [Group.includedChars]
    | i :: j :: items => rw [if_neg (by simp)]

/-- Items may be put in the place of others that are written the same. -/
theorem Group.chars_map {f : Item → Item} {g : Query}
    (hinc : ∀ i ∈ g.included, ∀ b, (f i).chars b = i.chars b)
    (hexc : ∀ i ∈ g.excluded, ∀ b, (f i).chars b = i.chars b) :
    Group.chars ⟨g.mode, g.included.map f, g.excluded.map f⟩ = g.chars := by
  rw [Group.chars_eq, Group.chars_eq g]
  congr 1
  · rw [Group.includedChars, Group.includedChars, List.length_map, List.map_map]
    exact congrArg _ (List.map_congr_left fun i hi => hinc i hi _)
  · rw [Group.excludedChars, Group.excludedChars, List.map_map]
    exact congrArg _ (List.map_congr_left fun i hi => congrArg ('-' :: ·) (hexc i hi true))

/-- A tree and its normal form are written the same. -/
theorem Group.chars_normal (g : Query) : g.normal.chars = g.chars := by
  induction g using Group.induction with
  | step g hinc hexc =>
    rw [Group.normal_eq, Group.chars_hoist]
    refine Group.chars_map (fun i hi b => ?_) (fun i hi b => ?_)
    · cases i with
      | condition c => rfl
      | group k => rw [Item.normal, Item.chars, Item.chars, hinc k hi]
    · cases i with
      | condition c => rfl
      | group k => rw [Item.normal, Item.chars, Item.chars, hexc k hi]

end RecordSearch
