import RecordSearch.Proofs.Paired
import RecordSearch.Query.Building
import RecordSearch.Query.Matching

/-!
# Induction on filter trees

`Group.induction` is induction on the groups of a tree. Beside it stand the two measures of a tree
that reading and writing depend on, its conditions and how deep its groups are nested, and the
joining of two groups, which takes the items of one and then those of the other.
-/

namespace RecordSearch

/-! ### Induction -/

/-- A property of groups holds for all of them if each group has it whose groups have it. -/
theorem Group.induction {p : Query → Prop}
    (step : ∀ g : Query, (∀ k, .group k ∈ g.included → p k) →
      (∀ k, .group k ∈ g.excluded → p k) → p g) (g : Query) : p g :=
  step g (fun k _ => Group.induction step k) (fun k _ => Group.induction step k)
termination_by sizeOf g
decreasing_by
  all_goals
    have hlt := List.sizeOf_lt_of_mem ‹_›
    rw [Item.group.sizeOf_spec] at hlt
    obtain ⟨mode, included, excluded⟩ := g
    simp only [Group.mk.sizeOf_spec] at hlt ⊢
    omega

/-! ### Conditions and nesting -/

mutual

/-- The conditions in an item, in the order in which they are written. -/
def Item.conditions : Item → List Condition
  | .condition c => [c]
  | .group g => Group.conditions g

/-- The conditions in a group, in the order in which they are written. -/
def Group.conditions : Group Item → List Condition
  | ⟨_, included, excluded⟩ => Item.conditionsIn included ++ Item.conditionsIn excluded

/-- The conditions in the items of a list. -/
def Item.conditionsIn : List Item → List Condition
  | [] => []
  | i :: items => i.conditions ++ Item.conditionsIn items

end

mutual

/-- How many groups are nested in an item, itself included. -/
def Item.nesting : Item → Nat
  | .condition _ => 0
  | .group g => Group.nesting g + 1

/-- How deep groups are nested in a group. -/
def Group.nesting : Group Item → Nat
  | ⟨_, included, excluded⟩ => max (Item.nestingIn included) (Item.nestingIn excluded)

/-- How deep groups are nested in the items of a list. -/
def Item.nestingIn : List Item → Nat
  | [] => 0
  | i :: items => max i.nesting (Item.nestingIn items)

end

theorem Item.conditionsIn_eq (items : List Item) :
    Item.conditionsIn items = items.flatMap Item.conditions := by
  induction items with
  | nil => rfl
  | cons i items ih => rw [Item.conditionsIn, ih, List.flatMap_cons]

theorem Group.conditions_eq (g : Query) :
    g.conditions = g.included.flatMap Item.conditions ++ g.excluded.flatMap Item.conditions := by
  obtain ⟨mode, included, excluded⟩ := g
  rw [Group.conditions, Item.conditionsIn_eq, Item.conditionsIn_eq]

theorem Group.mem_conditions {g : Query} {c : Condition} :
    c ∈ g.conditions ↔ ∃ i, (i ∈ g.included ∨ i ∈ g.excluded) ∧ c ∈ i.conditions := by
  simp only [Group.conditions_eq, List.mem_append, List.mem_flatMap, or_and_right, exists_or]

theorem Item.nestingIn_le_iff {items : List Item} {n : Nat} :
    Item.nestingIn items ≤ n ↔ ∀ i ∈ items, i.nesting ≤ n := by
  induction items with
  | nil => simp [Item.nestingIn]
  | cons i items ih => rw [Item.nestingIn, Nat.max_le, ih, List.forall_mem_cons]

theorem Group.nesting_le_iff {g : Query} {n : Nat} :
    g.nesting ≤ n ↔ ∀ i, i ∈ g.included ∨ i ∈ g.excluded → i.nesting ≤ n := by
  obtain ⟨mode, included, excluded⟩ := g
  rw [Group.nesting, Nat.max_le, Item.nestingIn_le_iff, Item.nestingIn_le_iff]
  constructor
  · rintro ⟨hinc, hexc⟩ i (hi | hi)
    · exact hinc i hi
    · exact hexc i hi
  · intro h
    exact ⟨fun i hi => h i (.inl hi), fun i hi => h i (.inr hi)⟩

/-! ### Meaning -/

/-- What a group makes of a record depends on its mode and on what its items make of the record. -/
theorem Group.matches_of_forall₂ {r r' : Record} {g g' : Query} (hmode : g.mode = g'.mode)
    (hinc : List.Forall₂ (fun i j => Item.matches r i = Item.matches r' j) g.included g'.included)
    (hexc : List.Forall₂ (fun i j => Item.matches r i = Item.matches r' j) g.excluded g'.excluded) :
    Group.matches r g = Group.matches r' g' := by
  rw [Group.matches_eq, Group.matches_eq r' g', hmode, isEmpty_eq_of_forall₂ hinc,
    all_eq_of_forall₂ hinc, any_eq_of_forall₂ hinc, any_eq_of_forall₂ hexc]

/-- Items may be put in the place of others, and a record in the place of another, if what matches
stays the same. -/
theorem Group.matches_map {r r' : Record} {f : Item → Item} {g : Query}
    (hinc : ∀ i ∈ g.included, (f i).matches r' = i.matches r)
    (hexc : ∀ i ∈ g.excluded, (f i).matches r' = i.matches r) :
    Group.matches r' ⟨g.mode, g.included.map f, g.excluded.map f⟩ = Group.matches r g := by
  refine Group.matches_of_forall₂ rfl ?_ ?_
  · rw [List.forall₂_map_left_iff, List.forall₂_same]
    exact hinc
  · rw [List.forall₂_map_left_iff, List.forall₂_same]
    exact hexc

/-- Two records that agree on the conditions of a tree agree on the tree. -/
theorem Group.matches_congr {r r' : Record} {g : Query}
    (h : ∀ c ∈ g.conditions, Condition.matches r' c = Condition.matches r c) :
    Group.matches r' g = Group.matches r g := by
  induction g using Group.induction with
  | step g hinc hexc =>
    have hconditions : ∀ i, i ∈ g.included ∨ i ∈ g.excluded → ∀ c ∈ i.conditions,
        Condition.matches r' c = Condition.matches r c :=
      fun i hi c hc => h c (Group.mem_conditions.2 ⟨i, hi, hc⟩)
    have hincluded : ∀ i ∈ g.included, i.matches r' = i.matches r := by
      intro i hi
      cases i with
      | condition c => exact hconditions _ (.inl hi) c (List.mem_singleton_self c)
      | group k => exact hinc k hi (hconditions _ (.inl hi))
    have hexcluded : ∀ i ∈ g.excluded, i.matches r' = i.matches r := by
      intro i hi
      cases i with
      | condition c => exact hconditions _ (.inr hi) c (List.mem_singleton_self c)
      | group k => exact hexc k hi (hconditions _ (.inr hi))
    exact Group.matches_of_forall₂ rfl (List.forall₂_same.2 hincluded)
      (List.forall₂_same.2 hexcluded)

/-! ### Joining -/

namespace Group

variable {α : Type}

/-- The items of one group and then those of another, joined by `or` if either joins its own so. -/
instance : Append (Group α) where
  append g h := ⟨if g.mode = .or then .or else h.mode, g.included ++ h.included,
    g.excluded ++ h.excluded⟩

/-- The group of one item. -/
def single (side : Side) (x : α) : Group α := ({} : Group α).add x side

/-- The group without items whose mode is `or`. -/
def emptyOr : Group α := { mode := .or }

@[simp] theorem included_append (g h : Group α) :
    (g ++ h).included = g.included ++ h.included := rfl

@[simp] theorem excluded_append (g h : Group α) :
    (g ++ h).excluded = g.excluded ++ h.excluded := rfl

@[simp] theorem empty_append (g : Group α) : ({} : Group α) ++ g = g := rfl

@[simp] theorem append_empty (g : Group α) : g ++ ({} : Group α) = g := by
  obtain ⟨mode, included, excluded⟩ := g
  show Group.mk (if mode = .or then .or else .and) (included ++ []) (excluded ++ []) = _
  rw [List.append_nil, List.append_nil]
  cases mode <;> rfl

theorem append_assoc (g h k : Group α) : g ++ h ++ k = g ++ (h ++ k) := by
  show Group.mk (if (if g.mode = .or then .or else h.mode) = .or then .or else k.mode) _ _ =
    Group.mk (if g.mode = .or then .or else if h.mode = .or then .or else k.mode) _ _
  rw [included_append, excluded_append, List.append_assoc, List.append_assoc]
  cases g.mode <;> rfl

@[simp] theorem single_included (x : α) : single .included x = ⟨.and, [x], []⟩ := rfl

@[simp] theorem single_excluded (x : α) : single .excluded x = ⟨.and, [], [x]⟩ := rfl

theorem add_eq_append (g : Group α) (x : α) (side : Side) : g.add x side = g ++ single side x := by
  obtain ⟨mode, included, excluded⟩ := g
  cases side with
  | included =>
    show Group.mk mode (included ++ [x]) excluded =
      Group.mk (if mode = .or then .or else .and) (included ++ [x]) (excluded ++ [])
    rw [List.append_nil]
    cases mode <;> rfl
  | excluded =>
    show Group.mk mode included (excluded ++ [x]) =
      Group.mk (if mode = .or then .or else .and) (included ++ []) (excluded ++ [x])
    rw [List.append_nil]
    cases mode <;> rfl

theorem withOr_eq_append (g : Group α) : { g with mode := .or } = g ++ emptyOr := by
  obtain ⟨mode, included, excluded⟩ := g
  show Group.mk .or included excluded =
    Group.mk (if mode = .or then .or else .or) (included ++ []) (excluded ++ [])
  rw [ite_self, List.append_nil, List.append_nil]

end Group

end RecordSearch
