import Mathlib.Data.Fintype.Card
import RecordSearch.Proofs.Additions
import RecordSearch.Sharing.Store

/-!
# Groups of a store as trees

A group of a store stands for a tree if the groups that it joins do, and so on down to the
conditions. `Group.StandsAt` says so without counting levels, and with a bound on the numbers that
may occur, so that it can say too that a group does not occur. `group_eq` connects it with reading a
group back.

`takeAll_standsAt` is about additions to a group of a store: as long as the group does not occur
in the items that are added to it, it goes on standing for the tree that the same additions build.
-/

namespace RecordSearch

/-! ### Standing for a tree -/

mutual

/-- A handle stands for an item, with groups only under numbers that `p` allows. -/
def Item.StandsAt (s : Store) (p : Nat → Prop) : Item → Handle → Prop
  | .condition c, h => h = .condition c
  | .group g, h => ∃ n, h = .group n ∧ p n ∧ Group.StandsAt s p g (s.get n)

/-- A stored group stands for a tree, with groups in it only under numbers that `p` allows. -/
def Group.StandsAt (s : Store) (p : Nat → Prop) : Group Item → Group Handle → Prop
  | ⟨mode, included, excluded⟩, k =>
    k.mode = mode ∧ Item.StandAt s p included k.included ∧ Item.StandAt s p excluded k.excluded

/-- Handles stand for items, one by one. -/
def Item.StandAt (s : Store) (p : Nat → Prop) : List Item → List Handle → Prop
  | [], hs => hs = []
  | i :: items, hs => ∃ h rest, hs = h :: rest ∧ i.StandsAt s p h ∧ Item.StandAt s p items rest

end

variable {s s' : Store} {p p' : Nat → Prop}

theorem Item.standAt_iff {items : List Item} {hs : List Handle} :
    Item.StandAt s p items hs ↔ List.Forall₂ (Item.StandsAt s p) items hs := by
  induction items generalizing hs with
  | nil => rw [Item.StandAt, List.forall₂_nil_left_iff]
  | cons i items ih =>
    rw [Item.StandAt, List.forall₂_cons_left_iff]
    constructor
    · rintro ⟨h, rest, rfl, hi, hrest⟩
      exact ⟨h, rest, hi, ih.1 hrest, rfl⟩
    · rintro ⟨h, rest, hi, hrest, rfl⟩
      exact ⟨h, rest, rfl, hi, ih.2 hrest⟩

theorem Group.standsAt_iff {g : Query} {k : Group Handle} :
    g.StandsAt s p k ↔ k.mode = g.mode ∧
      List.Forall₂ (Item.StandsAt s p) g.included k.included ∧
      List.Forall₂ (Item.StandsAt s p) g.excluded k.excluded := by
  obtain ⟨mode, included, excluded⟩ := g
  rw [Group.StandsAt, Item.standAt_iff, Item.standAt_iff]

/-- Standing for a tree depends only on the groups under the numbers that are allowed. -/
theorem Group.StandsAt.mono {g : Query} {k : Group Handle} (h : g.StandsAt s p k)
    (hp : ∀ n, p n → p' n ∧ s'.get n = s.get n) : g.StandsAt s' p' k := by
  induction g using Group.induction generalizing k with
  | step g hinc hexc =>
    have hitem : ∀ i, (i ∈ g.included ∨ i ∈ g.excluded) → ∀ x, i.StandsAt s p x →
        i.StandsAt s' p' x := by
      intro i hi x hx
      cases i with
      | condition c => exact hx
      | group g' =>
        obtain ⟨n, rfl, hn, hg'⟩ := hx
        obtain ⟨hn', hget⟩ := hp n hn
        rw [← hget] at hg'
        rcases hi with hi | hi
        · exact ⟨n, rfl, hn', hinc g' hi hg'⟩
        · exact ⟨n, rfl, hn', hexc g' hi hg'⟩
    obtain ⟨hmode, hincluded, hexcluded⟩ := Group.standsAt_iff.1 h
    refine Group.standsAt_iff.2 ⟨hmode, ?_, ?_⟩
    · exact forall₂_imp_of_mem hincluded fun i hi => hitem i (.inl hi)
    · exact forall₂_imp_of_mem hexcluded fun i hi => hitem i (.inr hi)

theorem Item.StandsAt.mono {i : Item} {x : Handle} (h : i.StandsAt s p x)
    (hp : ∀ n, p n → p' n ∧ s'.get n = s.get n) : i.StandsAt s' p' x := by
  cases i with
  | condition c => exact h
  | group g =>
    obtain ⟨n, rfl, hn, hg⟩ := h
    obtain ⟨hn', hget⟩ := hp n hn
    rw [← hget] at hg
    exact ⟨n, rfl, hn', hg.mono hp⟩

/-! ### Reading back -/

/-- Reads a handle back as an item of at most so many levels. -/
def Store.itemWithin (s : Store) (levels : Nat) : Handle → Item
  | .condition c => .condition c
  | .group n => .group (s.groupWithin levels n)

theorem Store.groupWithin_succ (s : Store) (levels n : Nat) :
    s.groupWithin (levels + 1) n = ⟨(s.get n).mode, (s.get n).included.map (s.itemWithin levels),
      (s.get n).excluded.map (s.itemWithin levels)⟩ := rfl

/-- A tree is read back with more levels than its groups are nested. -/
theorem Group.groupWithin_eq {g : Query} {n levels : Nat} (h : g.StandsAt s p (s.get n))
    (hlevels : g.nesting < levels) : s.groupWithin levels n = g := by
  induction g using Group.induction generalizing n levels with
  | step g hinc hexc =>
    obtain ⟨levels, rfl⟩ : ∃ l, levels = l + 1 := ⟨levels - 1, by omega⟩
    have hle := Group.nesting_le_iff.1 (Nat.le_of_lt_succ hlevels)
    obtain ⟨hmode, hincluded, hexcluded⟩ := Group.standsAt_iff.1 h
    have hitem : ∀ i, (i ∈ g.included ∨ i ∈ g.excluded) → ∀ x, i.StandsAt s p x →
        i = s.itemWithin levels x := by
      intro i hi x hx
      have hnest := hle i hi
      cases i with
      | condition c =>
        obtain rfl : x = .condition c := hx
        rfl
      | group k =>
        obtain ⟨m, rfl, -, hk⟩ := hx
        rcases hi with hi | hi
        · exact congrArg Item.group (hinc k hi hk hnest).symm
        · exact congrArg Item.group (hexc k hi hk hnest).symm
    rw [Store.groupWithin_succ, hmode, ← eq_map_of_forall₂ hincluded fun i hi => hitem i (.inl hi),
      ← eq_map_of_forall₂ hexcluded fun i hi => hitem i (.inr hi)]

/-- A stored group stands for one tree only. -/
theorem Group.StandsAt.unique {g k : Query} {n : Nat} (hg : g.StandsAt s p (s.get n))
    (hk : k.StandsAt s p (s.get n)) : g = k := by
  have hle : g.nesting < g.nesting + k.nesting + 1 := by omega
  have hle' : k.nesting < g.nesting + k.nesting + 1 := by omega
  exact (Group.groupWithin_eq hg hle).symm.trans (Group.groupWithin_eq hk hle')

/-- Among the groups of a tree there is one of each smaller nesting. -/
theorem Group.StandsAt.exists_nesting {g : Query} {n j : Nat} (h : g.StandsAt s p (s.get n))
    (hn : p n) (hj : j ≤ g.nesting) :
    ∃ m k, p m ∧ Group.StandsAt s p k (s.get m) ∧ k.nesting = j := by
  induction g using Group.induction generalizing n with
  | step g hinc hexc =>
    rcases Nat.eq_or_lt_of_le hj with rfl | hlt
    · exact ⟨n, g, hn, h, rfl⟩
    · have hdeep : ∃ i, (i ∈ g.included ∨ i ∈ g.excluded) ∧ j < i.nesting := by
        by_contra hno
        push Not at hno
        exact absurd (Group.nesting_le_iff.2 hno) (Nat.not_le_of_lt hlt)
      obtain ⟨i, hi, hdeep⟩ := hdeep
      obtain ⟨-, hincluded, hexcluded⟩ := Group.standsAt_iff.1 h
      cases i with
      | condition c => exact absurd hdeep (Nat.not_lt_zero j)
      | group k =>
        have hj' : j ≤ k.nesting := Nat.le_of_lt_succ hdeep
        rcases hi with hi | hi
        · obtain ⟨x, -, m, rfl, hm, hk⟩ := exists_of_mem_of_forall₂ hincluded hi
          exact hinc k hi hk hm hj'
        · obtain ⟨x, -, m, rfl, hm, hk⟩ := exists_of_mem_of_forall₂ hexcluded hi
          exact hexc k hi hk hm hj'

/-- A tree has no more levels than there are groups. -/
theorem Group.StandsAt.nesting_lt {g : Query} {n : Nat} (h : g.StandsAt s (· < s.next) (s.get n))
    (hn : n < s.next) : g.nesting < s.next := by
  have hchoice : ∀ j : Fin (g.nesting + 1), ∃ m : Fin s.next, ∃ k,
      Group.StandsAt s (· < s.next) k (s.get m) ∧ k.nesting = j := by
    intro j
    obtain ⟨m, k, hm, hk, hj⟩ := h.exists_nesting hn (Nat.le_of_lt_succ j.isLt)
    exact ⟨⟨m, hm⟩, k, hk, hj⟩
  choose m k hk hnesting using hchoice
  -- groups of different nesting have different numbers
  have hinj : Function.Injective m := by
    intro i j hij
    have hsame : k i = k j := (hk i).unique (hij ▸ hk j)
    exact Fin.ext (by rw [← hnesting i, ← hnesting j, hsame])
  have hcard := Fintype.card_le_of_injective m hinj
  rwa [Fintype.card_fin, Fintype.card_fin] at hcard

/-- What a stored group stands for is what is read back. -/
theorem Group.StandsAt.group_eq {g : Query} {n : Nat} (h : g.StandsAt s (· < s.next) (s.get n))
    (hn : n < s.next) : s.group n = g :=
  Group.groupWithin_eq h (h.nesting_lt hn)

/-! ### Additions to a stored group -/

@[simp] theorem Store.next_set (s : Store) (n : Nat) (k : Group Handle) :
    (s.set n k).next = s.next := by
  simp [Store.set, Store.next]

@[simp] theorem Store.next_push (s : Store) (k : Group Handle) : (s.push k).next = s.next + 1 := by
  simp [Store.push, Store.next]

namespace Store

/-- The numbers in use, but for one. -/
def Without (s : Store) (n m : Nat) : Prop := m < s.next ∧ m ≠ n

instance (s : Store) (n m : Nat) : Decidable (s.Without n m) :=
  inferInstanceAs (Decidable (m < s.next ∧ m ≠ n))

/-- The store with a group replaced and, if one has been made for it, one more group. -/
def renew (s : Store) (n : Nat) (k : Group Handle) (made : Option (Group Handle)) : Store :=
  match made with
  | some inner => (s.set n k).push inner
  | none => s.set n k

section Renew

variable {n : Nat} {k : Group Handle} {made : Option (Group Handle)}

theorem next_renew (s : Store) (n : Nat) (k : Group Handle) (made : Option (Group Handle)) :
    (s.renew n k made).next = s.next + made.isSome.toNat := by
  cases made <;> simp [renew]

theorem get_renew (hn : n < s.next) : (s.renew n k made).get n = k := by
  cases made with
  | none => exact get_set_self hn k
  | some inner =>
    rw [renew, get_push_of_lt (by rwa [next_set])]
    exact get_set_self hn k

/-- The group that has been made gets the next number. -/
theorem get_next_renew (s : Store) (n : Nat) (k inner : Group Handle) :
    (s.renew n k (some inner)).get s.next = inner := by
  have hpush := get_push_next (s.set n k) inner
  rwa [next_set] at hpush

/-- The other groups stay as they are. -/
theorem frame_renew (s : Store) (n : Nat) (k : Group Handle) (made : Option (Group Handle)) :
    ∀ m, s.Without n m → (s.renew n k made).Without n m ∧ (s.renew n k made).get m = s.get m := by
  rintro m ⟨hlt, hne⟩
  refine ⟨⟨?_, hne⟩, ?_⟩
  · rw [next_renew]
    exact Nat.lt_add_right _ hlt
  · cases made with
    | none => exact get_set_of_ne hne.symm s k
    | some inner =>
      rw [renew, get_push_of_lt (by rwa [next_set])]
      exact get_set_of_ne hne.symm s k

/-- A call replaces the group, and may make another one. -/
theorem change_eq_renew (s : Store) (n : Nat) (given : Given Handle) (side : Side) (c : Change) :
    s.change n given side c =
      (s.renew n ((s.get n).change (fun _ => .group s.next) Handle.condition? given side c).1
          (promoted (s.get n) side c),
        ((s.get n).change (fun _ => .group s.next) Handle.condition? given side c).2) := by
  simp only [change, renew]
  cases promoted (s.get n) side c <;> rfl

end Renew

/-- The store after an addition to the group under a number. -/
def take (s : Store) (n : Nat) (a : Addition Handle) : Store :=
  let k := s.get n
  let s' := s.set n (k.take (fun _ => .group s.next) a)
  if k.promotesFor a then s'.push { mode := k.mode, included := k.included } else s'

/-- Makes additions to the group under a number, up to one that is rejected. -/
def addAll (s : Store) (n : Nat) : List (Addition Handle) → Except Rejection Store
  | [] => .ok s
  | a :: additions =>
    match s.change n (.item a.item) a.side a.change with
    | (s, .ok ()) => s.addAll n additions
    | (_, .error rejection) => .error rejection

theorem promoted_addition (k : Group Handle) (a : Addition Handle) :
    promoted k a.side a.change =
      if k.promotesFor a then some { mode := k.mode, included := k.included } else none := by
  obtain ⟨item, side, mode⟩ := a
  cases mode with
  | none => simp [promoted, Addition.change, Group.promotesFor, Group.promotes]
  | some mode =>
    simp only [promoted, Addition.change, Mode.ofJson_name]
    rfl

variable {n : Nat} {a : Addition Handle}

theorem take_eq_renew (s : Store) (n : Nat) (a : Addition Handle) :
    s.take n a = s.renew n ((s.get n).take (fun _ => .group s.next) a)
      (promoted (s.get n) a.side a.change) := by
  rw [promoted_addition, take]
  cases (s.get n).promotesFor a <;> rfl

/-- An addition to a stored group is not rejected. -/
theorem change_addition (s : Store) (n : Nat) (a : Addition Handle) :
    s.change n (.item a.item) a.side a.change = (s.take n a, .ok ()) := by
  rw [change_eq_renew, Group.change_addition, take_eq_renew]

theorem next_take (s : Store) (n : Nat) (a : Addition Handle) :
    (s.take n a).next = s.next + ((s.get n).promotesFor a).toNat := by
  rw [take_eq_renew, next_renew, promoted_addition]
  cases (s.get n).promotesFor a <;> rfl

theorem get_take (hn : n < s.next) (a : Addition Handle) :
    (s.take n a).get n = (s.get n).take (fun _ => .group s.next) a := by
  rw [take_eq_renew, get_renew hn]

/-- The group that an addition makes gets the next number. -/
theorem get_next_take (hpromotes : (s.get n).promotesFor a = true) :
    (s.take n a).get s.next = { mode := (s.get n).mode, included := (s.get n).included } := by
  rw [take_eq_renew, promoted_addition, if_pos hpromotes, get_next_renew]

/-- The other groups stay as they are. -/
theorem frame_take (s : Store) (n : Nat) (a : Addition Handle) :
    ∀ m, s.Without n m → (s.take n a).Without n m ∧ (s.take n a).get m = s.get m := by
  rw [take_eq_renew]
  exact s.frame_renew n _ _

end Store

namespace Group.StandsAt

variable {g : Query} {k : Group Handle}

theorem promotes_eq (hg : g.StandsAt s p k) (mode : Mode) (side : Side) :
    k.promotes mode side = g.promotes mode side := by
  obtain ⟨hmode, hincluded, -⟩ := Group.standsAt_iff.1 hg
  rw [Group.promotes, Group.promotes, hmode, hincluded.length_eq]

/-- Adding an item on one side, and its handle on the other. -/
theorem add (hg : g.StandsAt s p k) {i : Item} {x : Handle} (hi : i.StandsAt s p x) (side : Side) :
    (g.add i side).StandsAt s p (k.add x side) := by
  obtain ⟨hmode, hincluded, hexcluded⟩ := Group.standsAt_iff.1 hg
  rw [Group.standsAt_iff]
  cases side with
  | included => exact ⟨hmode, List.rel_append hincluded (.cons hi .nil), hexcluded⟩
  | excluded => exact ⟨hmode, hincluded, List.rel_append hexcluded (.cons hi .nil)⟩

/-- Preparing a group, if the group that is made for its items is under the number `m`. -/
theorem prepare (hg : g.StandsAt s p k) {mode : Mode} {side : Side} {m : Nat}
    (hmade : k.promotes mode side = true →
      p m ∧ s.get m = { mode := k.mode, included := k.included }) :
    (g.prepare .group mode side).StandsAt s p (k.prepare (fun _ => .group m) mode side) := by
  obtain ⟨hmode, hincluded, hexcluded⟩ := Group.standsAt_iff.1 hg
  rw [Group.prepare, Group.prepare, hmode, ← hincluded.length_eq]
  by_cases hside : side = .included ∧ g.mode ≠ mode
  · rw [if_pos hside, if_pos hside]
    by_cases hlen : 1 < g.included.length
    · rw [if_pos hlen, if_pos hlen, Group.standsAt_iff]
      have hpromotes : k.promotes mode side = true := by
        rw [hg.promotes_eq, Group.promotes, hside.1]
        simp [hside.2, hlen]
      obtain ⟨hm, hget⟩ := hmade hpromotes
      have hinner : Group.StandsAt s p ⟨g.mode, g.included, []⟩ (s.get m) := by
        rw [hget, Group.standsAt_iff]
        exact ⟨hmode, hincluded, .nil⟩
      exact ⟨rfl, .cons ⟨m, rfl, hm, hinner⟩ .nil, hexcluded⟩
    · rw [if_neg hlen, if_neg hlen, Group.standsAt_iff]
      exact ⟨rfl, hincluded, hexcluded⟩
  · rw [if_neg hside, if_neg hside]
    exact hg

end Group.StandsAt

/-- **One addition to a stored group.** If the group stands for a tree and does not occur in what is
added to it, it stands afterwards for the tree with the addition. -/
theorem Group.StandsAt.take {n : Nat} {g : Query} (hn : n < s.next)
    (hg : g.StandsAt s (s.Without n) (s.get n)) {a : Addition Handle} {i : Item}
    (hi : i.StandsAt s (s.Without n) a.item) :
    (g.take .group (a.map fun _ => i)).StandsAt (s.take n a) ((s.take n a).Without n)
      ((s.take n a).get n) := by
  have hframe := s.frame_take n a
  have hmode : (s.get n).mode = g.mode := (Group.standsAt_iff.1 hg).1
  rw [Store.get_take hn, Group.take, Group.take, Group.addWithMode, Group.addWithMode, hmode]
  refine Group.StandsAt.add (Group.StandsAt.prepare (hg.mono hframe) fun hpromotes => ?_)
    (hi.mono hframe) a.side
  have hnew : (s.get n).promotesFor a = true := by
    rw [Group.promotesFor, hmode]
    exact hpromotes
  refine ⟨⟨?_, Nat.ne_of_gt hn⟩, Store.get_next_take hnew⟩
  rw [Store.next_take, hnew]
  exact Nat.lt_succ_self s.next

/-- A handle stands for an item in which the group under a number does not occur. -/
def Store.Apart (s : Store) (n : Nat) (x : Handle) : Prop :=
  ∃ i, Item.StandsAt s (s.Without n) i x

theorem Store.apart_condition (s : Store) (n : Nat) (c : Condition) : s.Apart n (.condition c) :=
  ⟨.condition c, rfl⟩

/-- A group does not occur in another if it is another and does not occur in the items of that. -/
theorem Store.apart_group {n m : Nat} (hm : s.Without n m)
    (hincluded : ∀ x ∈ (s.get m).included, s.Apart n x)
    (hexcluded : ∀ x ∈ (s.get m).excluded, s.Apart n x) : s.Apart n (.group m) := by
  have hitems : ∀ hs : List Handle, (∀ x ∈ hs, s.Apart n x) →
      ∃ items, List.Forall₂ (Item.StandsAt s (s.Without n)) items hs := by
    intro hs hapart
    obtain ⟨items, h⟩ := exists_forall₂ hapart
    exact ⟨items, h.flip⟩
  obtain ⟨included, hinc⟩ := hitems _ hincluded
  obtain ⟨excluded, hexc⟩ := hitems _ hexcluded
  exact ⟨.group ⟨(s.get m).mode, included, excluded⟩, m, rfl, hm,
    Group.standsAt_iff.2 ⟨rfl, hinc, hexc⟩⟩

/-- What a handle stands for is what is read back. -/
theorem Item.StandsAt.item_eq {i : Item} {x : Handle} (h : i.StandsAt s (· < s.next) x) :
    s.item x = i := by
  cases i with
  | condition c =>
    obtain rfl : x = .condition c := h
    rfl
  | group g =>
    obtain ⟨n, rfl, hn, hg⟩ := h
    exact congrArg Item.group (hg.group_eq hn)

theorem Item.StandsAt.item_eq_of_without {i : Item} {x : Handle} {n : Nat}
    (h : i.StandsAt s (s.Without n) x) : s.item x = i :=
  (h.mono fun _ hm => ⟨hm.1, rfl⟩).item_eq

theorem Group.StandsAt.group_eq_of_without {g : Query} {n : Nat}
    (h : g.StandsAt s (s.Without n) (s.get n)) (hn : n < s.next) : s.group n = g :=
  (h.mono fun _ hm => ⟨hm.1, rfl⟩).group_eq hn

/-- **Additions to a stored group.** None of them is rejected, the group stands afterwards for the
tree with the additions, and what has been added is what it was before. -/
theorem Group.StandsAt.addAll {n : Nat} {g : Query} {f : Handle → Item}
    {additions : List (Addition Handle)} (hn : n < s.next)
    (hg : g.StandsAt s (s.Without n) (s.get n))
    (hitems : ∀ a ∈ additions, (f a.item).StandsAt s (s.Without n) a.item) :
    ∃ after, s.addAll n additions = .ok after ∧ n < after.next ∧
      (g.takeAll .group (additions.map (Addition.map f))).StandsAt after (after.Without n)
        (after.get n) ∧
      ∀ i x, Item.StandsAt s (s.Without n) i x → i.StandsAt after (after.Without n) x := by
  induction additions generalizing s g with
  | nil => exact ⟨s, rfl, hn, hg, fun i x hi => hi⟩
  | cons a additions ih =>
    have hframe := s.frame_take n a
    have hn' : n < (s.take n a).next := by
      rw [Store.next_take]
      exact Nat.lt_add_right _ hn
    have htake := hg.take hn (hitems a (List.mem_cons_self ..))
    obtain ⟨after, hafter, hlt, hstands, hkept⟩ :=
      ih hn' htake fun b hb => (hitems b (List.mem_cons_of_mem a hb)).mono hframe
    refine ⟨after, ?_, hlt, hstands, fun i x hi => hkept i x (hi.mono hframe)⟩
    rw [Store.addAll, Store.change_addition]
    exact hafter

/-- **What additions to a group mean.** A group is empty at first, and does not occur in the items
that are added to it. However many they are, none of the additions is rejected and no item is
changed by them. A record matches the group if what is included holds, joined from left to right in
the mode that was named last, and no excluded item matches. The included items are read back in
order through the groups that have been made on the way. -/
theorem addAll_spec (s : Store) (n : Nat) (hn : n < s.next) (hempty : s.get n = {})
    (additions : List (Addition Handle)) (hapart : ∀ a ∈ additions, s.Apart n a.item) :
    let added := additions.map (Addition.map s.item)
    ∃ after, s.addAll n additions = .ok after ∧
      (∀ a ∈ additions, after.item a.item = s.item a.item) ∧
      (∀ r, Group.matches r (after.group n) = ((Verdict.ofAdditions r added).holds &&
          !(itemsOn .excluded added).any (Item.matches r)) ∧
        (after.group n).mode = (Verdict.ofAdditions r added).mode) ∧
      (after.group n).excluded = itemsOn .excluded added ∧
      Group.includedThrough (Group.promotions .group {} added) (after.group n).included =
        some (itemsOn .included added) := by
  intro added
  have hitems : ∀ a ∈ additions, (s.item a.item).StandsAt s (s.Without n) a.item := by
    intro a ha
    obtain ⟨i, hi⟩ := hapart a ha
    rwa [hi.item_eq_of_without]
  have hnew : Group.StandsAt s (s.Without n) {} (s.get n) := by
    rw [hempty, Group.standsAt_iff]
    exact ⟨rfl, .nil, .nil⟩
  obtain ⟨after, hafter, hlt, hstands, hkept⟩ := hnew.addAll hn hitems
  have hgroup : after.group n = Group.takeAll .group {} added := hstands.group_eq_of_without hlt
  refine ⟨after, hafter, fun a ha => (hkept _ _ (hitems a ha)).item_eq_of_without, ?_⟩
  rw [hgroup]
  refine ⟨fun r => ⟨?_, ?_⟩, ?_, ?_⟩
  · rw [Group.matches_eq_passes, ← Group.holds_verdict, Group.verdict_takeAll,
      Group.excluded_takeAll]
    rfl
  · rw [← Group.verdict_takeAll]
    rfl
  · exact Group.excluded_takeAll {} added
  · exact Group.includedThrough_takeAll added

/-- A group of two conditions that stands alone and inside another, and an empty group. -/
def sampleStore : Store :=
  ⟨[{}, ⟨.or, [.condition ⟨none, "x", .contains⟩, .condition ⟨none, "y", .contains⟩], []⟩,
    ⟨.and, [.group 1], [.condition ⟨none, "z", .contains⟩]⟩]⟩

/-- A mode is named while nothing is included, and another when there is something to move. -/
def sampleAdditions : List (Addition Handle) :=
  [⟨.condition ⟨none, "draft", .contains⟩, .excluded, some .and⟩, ⟨.group 1, .included, some .or⟩,
    ⟨.condition ⟨none, "a", .contains⟩, .included, none⟩, ⟨.group 2, .included, some .and⟩]

/-- The first item and the second move into a group of their own. -/
theorem addAll_spec_sampleStore :
    0 < sampleStore.next ∧ sampleStore.get 0 = {} ∧
      (∀ a ∈ sampleAdditions, sampleStore.Apart 0 a.item) ∧
      ∃ after, sampleStore.addAll 0 sampleAdditions = .ok after ∧
        Group.matches ⟨[(.name "t", .text "a x")]⟩ (after.group 0) = true ∧
        Group.matches ⟨[(.name "t", .text "a")]⟩ (after.group 0) = false ∧
        Group.includedThrough 1 (after.group 0).included = some [sampleStore.item (.group 1),
          .condition ⟨none, "a", .contains⟩, sampleStore.item (.group 2)] := by
  have hcondition := sampleStore.apart_condition 0
  have hone : sampleStore.Apart 0 (.group 1) := by
    refine Store.apart_group (by decide) ?_ ?_
    · exact List.forall_mem_cons.2 ⟨hcondition _, List.forall_mem_singleton.2 (hcondition _)⟩
    · exact fun x hx => absurd hx List.not_mem_nil
  have htwo : sampleStore.Apart 0 (.group 2) := by
    refine Store.apart_group (by decide) ?_ ?_
    · exact List.forall_mem_singleton.2 hone
    · exact List.forall_mem_singleton.2 (hcondition _)
  have hapart : ∀ a ∈ sampleAdditions, sampleStore.Apart 0 a.item := by
    simp only [sampleAdditions, List.forall_mem_cons]
    exact ⟨hcondition _, hone, hcondition _, htwo, fun a ha => absurd ha List.not_mem_nil⟩
  obtain ⟨after, hafter, -, hmatches, -, hincluded⟩ :=
    addAll_spec sampleStore 0 (by decide) (by decide) sampleAdditions hapart
  refine ⟨by decide, by decide, hapart, after, hafter, ?_, ?_, ?_⟩
  · rw [(hmatches _).1]
    decide
  · rw [(hmatches _).1]
    decide
  · exact hincluded

end RecordSearch
