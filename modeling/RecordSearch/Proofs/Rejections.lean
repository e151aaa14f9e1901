import RecordSearch.Proofs.Sharing

/-!
# Rejected calls

A call that is rejected may have prepared the group already: what was included has then moved into a
group of its own, or the mode has changed. Nothing shows of that in what matches, not in the group
and not in any other that holds it: `exists_counterpart` puts the prepared group in the place of the
one before, all through a tree. `call_rejected` says what is kept by a rejected call, and which call
may leave a trace at all.
-/

namespace RecordSearch

/-! ### Trees in a store -/

namespace Store

/-- A handle stands for a tree: no group under it occurs inside itself. -/
def Acyclic (s : Store) (x : Handle) : Prop := ∃ i, Item.StandsAt s (· < s.next) i x

/-- A handle occurs in what another stands for. -/
inductive Within (s : Store) (x : Handle) : Handle → Prop
  | self : Within s x x
  | inside {y : Handle} {n : Nat} (hy : y ∈ (s.get n).included ∨ y ∈ (s.get n).excluded)
      (h : Within s x y) : Within s x (.group n)

theorem acyclic_group {s : Store} {n : Nat} :
    s.Acyclic (.group n) ↔ n < s.next ∧ ∃ g : Query, g.StandsAt s (· < s.next) (s.get n) := by
  constructor
  · rintro ⟨i, hi⟩
    cases i with
    | condition c => exact absurd hi (by simp [Item.StandsAt])
    | group g =>
      obtain ⟨m, hm, hlt, hg⟩ := hi
      obtain rfl := Handle.group.inj hm
      exact ⟨hlt, g, hg⟩
  · rintro ⟨hlt, g, hg⟩
    exact ⟨.group g, n, rfl, hlt, hg⟩

/-- What occurs in a tree is one. -/
theorem Acyclic.of_within {s : Store} {x y : Handle} (hy : s.Acyclic y) (h : s.Within x y) :
    s.Acyclic x := by
  induction h with
  | self => exact hy
  | @inside z n hz _ ih =>
    obtain ⟨-, g, hg⟩ := acyclic_group.1 hy
    obtain ⟨-, hincluded, hexcluded⟩ := Group.standsAt_iff.1 hg
    refine ih ?_
    rcases hz with hz | hz
    · obtain ⟨i, -, hi⟩ := exists_of_mem_of_forall₂ hincluded.flip hz
      exact ⟨i, hi⟩
    · obtain ⟨i, -, hi⟩ := exists_of_mem_of_forall₂ hexcluded.flip hz
      exact ⟨i, hi⟩

end Store

namespace Group.StandsAt

variable {s s' : Store} {n : Nat} {g : Query}

/-- A group does not occur in a tree that is not nested deeper than the group itself. -/
theorem without {k : Query} {m : Nat} (hg : g.StandsAt s (· < s.next) (s.get n))
    (hk : k.StandsAt s (· < s.next) (s.get m)) (hle : k.nesting ≤ g.nesting) :
    k.StandsAt s (s.Without n) (s.get m) := by
  induction k using Group.induction generalizing m with
  | step k hinc hexc =>
    have hitem : ∀ i, (i ∈ k.included ∨ i ∈ k.excluded) → ∀ x, i.StandsAt s (· < s.next) x →
        i.StandsAt s (s.Without n) x := by
      intro i hi x hx
      cases i with
      | condition c => exact hx
      | group j =>
        obtain ⟨l, rfl, hl, hj⟩ := hx
        have hlt : j.nesting < k.nesting := Group.nesting_le_iff.1 (Nat.le_refl _) _ hi
        have hne : l ≠ n := by
          rintro rfl
          rw [hj.unique hg] at hlt
          exact absurd hle (Nat.not_le_of_lt hlt)
        have hle' : j.nesting ≤ g.nesting := Nat.le_trans (Nat.le_of_lt hlt) hle
        rcases hi with hi | hi
        · exact ⟨l, rfl, ⟨hl, hne⟩, hinc j hi hj hle'⟩
        · exact ⟨l, rfl, ⟨hl, hne⟩, hexc j hi hj hle'⟩
    obtain ⟨hmode, hincluded, hexcluded⟩ := Group.standsAt_iff.1 hk
    exact Group.standsAt_iff.2 ⟨hmode, forall₂_imp_of_mem hincluded fun i hi => hitem i (.inl hi),
      forall₂_imp_of_mem hexcluded fun i hi => hitem i (.inr hi)⟩

/-- **One group replaced by another that matches the same.** Every tree of the store is still one
afterwards, and matches the records that it matched. -/
theorem exists_counterpart {g' k : Query} {m : Nat} (hg : g.StandsAt s (· < s.next) (s.get n))
    (hg' : g'.StandsAt s' (· < s'.next) (s'.get n))
    (hframe : ∀ l, s.Without n l → s'.Without n l ∧ s'.get l = s.get l)
    (hmatches : ∀ r, Group.matches r g' = Group.matches r g) (hn : n < s'.next) (hm : m < s.next)
    (hk : k.StandsAt s (· < s.next) (s.get m)) :
    m < s'.next ∧ ∃ k' : Query, k'.StandsAt s' (· < s'.next) (s'.get m) ∧
      ∀ r, Group.matches r k' = Group.matches r k := by
  induction k using Group.induction generalizing m with
  | step k hinc hexc =>
    by_cases hmn : m = n
    · subst hmn
      rw [hk.unique hg]
      exact ⟨hn, g', hg', hmatches⟩
    · obtain ⟨⟨hm', -⟩, hget⟩ := hframe m ⟨hm, hmn⟩
      have hitem : ∀ i, (i ∈ k.included ∨ i ∈ k.excluded) → ∀ x, i.StandsAt s (· < s.next) x →
          ∃ i', Item.StandsAt s' (· < s'.next) i' x ∧ ∀ r, i'.matches r = i.matches r := by
        intro i hi x hx
        cases i with
        | condition c => exact ⟨.condition c, hx, fun r => rfl⟩
        | group j =>
          obtain ⟨l, rfl, hl, hj⟩ := hx
          obtain ⟨hl', j', hj', hsame⟩ := hi.elim (fun hi => hinc j hi hl hj) fun hi =>
            hexc j hi hl hj
          exact ⟨.group j', ⟨l, rfl, hl', hj'⟩, hsame⟩
      obtain ⟨hmode, hincluded, hexcluded⟩ := Group.standsAt_iff.1 hk
      obtain ⟨included, hinc', hincluded'⟩ := exists_between_of_forall₂
        (forall₂_imp_of_mem hincluded fun i hi => hitem i (.inl hi))
      obtain ⟨excluded, hexc', hexcluded'⟩ := exists_between_of_forall₂
        (forall₂_imp_of_mem hexcluded fun i hi => hitem i (.inr hi))
      refine ⟨hm', ⟨k.mode, included, excluded⟩, ?_, fun r => ?_⟩
      · rw [hget, Group.standsAt_iff]
        exact ⟨hmode, hinc', hexc'⟩
      · exact Group.matches_of_forall₂ rfl (hincluded'.imp fun _ _ h => h r)
          (hexcluded'.imp fun _ _ h => h r)

end Group.StandsAt

/-! ### Prepared groups -/

namespace Group

theorem matches_prepare (r : Record) (g : Query) (mode : Mode) (side : Side) :
    Group.matches r (g.prepare .group mode side) = Group.matches r g := by
  rw [matches_eq_passes, matches_eq_passes, passes_prepare, excluded_prepare]

theorem conditionsIn_prepare (g : Query) (mode : Mode) (side : Side) :
    Item.conditionsIn (g.prepare .group mode side).included = Item.conditionsIn g.included := by
  rcases g.prepare_cases .group mode side with ⟨-, -, -, hprepare⟩ | ⟨-, mode', -, hprepare⟩
  · rw [hprepare]
    simp [Item.conditionsIn, Item.conditions, Group.conditions]
  · rw [hprepare]

end Group

namespace Store

variable {s : Store} {n : Nat}

theorem set_get (s : Store) (n : Nat) : s.set n (s.get n) = s := by
  obtain ⟨groups⟩ := s
  rw [set, get, Store.mk.injEq]
  by_cases hn : n < groups.length
  · simp [hn]
  · exact List.set_eq_of_length_le (Nat.not_lt.1 hn)

/-- The store with the group under a number prepared. -/
def prepare (s : Store) (n : Nat) (mode : Mode) (side : Side) : Store :=
  s.renew n ((s.get n).prepare (fun _ => .group s.next) mode side)
    (if (s.get n).promotes mode side then
      some { mode := (s.get n).mode, included := (s.get n).included }
    else none)

theorem lt_next_prepare {m : Nat} (hm : m < s.next) (mode : Mode) (side : Side) :
    m < (s.prepare n mode side).next := by
  rw [prepare, next_renew]
  exact Nat.lt_add_right _ hm

theorem frame_prepare (s : Store) (n : Nat) (mode : Mode) (side : Side) :
    ∀ m, s.Without n m → (s.prepare n mode side).Without n m ∧
      (s.prepare n mode side).get m = s.get m :=
  s.frame_renew n _ _

/-- The prepared group stands for the prepared tree. -/
theorem standsAt_prepare {g : Query} (hn : n < s.next)
    (hg : g.StandsAt s (s.Without n) (s.get n)) (mode : Mode) (side : Side) :
    (g.prepare .group mode side).StandsAt (s.prepare n mode side) (· < (s.prepare n mode side).next)
      ((s.prepare n mode side).get n) := by
  have hframe := s.frame_prepare n mode side
  have hget : (s.prepare n mode side).get n =
      (s.get n).prepare (fun _ => .group s.next) mode side := get_renew hn
  rw [hget]
  refine Group.StandsAt.prepare (hg.mono fun m hm => ⟨(hframe m hm).1.1, (hframe m hm).2⟩)
    fun hpromotes => ?_
  rw [prepare, if_pos hpromotes]
  refine ⟨?_, get_next_renew s n _ _⟩
  rw [next_renew]
  exact Nat.lt_succ_self s.next

/-- A prepared group is read as the prepared tree. -/
theorem group_prepare (h : s.Acyclic (.group n)) (mode : Mode) (side : Side) :
    (s.prepare n mode side).group n = (s.group n).prepare .group mode side := by
  obtain ⟨hn, g, hg⟩ := acyclic_group.1 h
  have hg' := standsAt_prepare hn (hg.without hg (Nat.le_refl _)) mode side
  rw [hg'.group_eq (lt_next_prepare hn mode side), hg.group_eq hn]

/-- When a group is prepared, whatever holds it is still a tree and matches the same. -/
theorem matches_item_prepare (h : s.Acyclic (.group n)) {x : Handle} (hx : s.Acyclic x)
    (mode : Mode) (side : Side) : (s.prepare n mode side).Acyclic x ∧
      ∀ r, ((s.prepare n mode side).item x).matches r = (s.item x).matches r := by
  cases x with
  | condition c => exact ⟨⟨.condition c, rfl⟩, fun r => rfl⟩
  | group m =>
    obtain ⟨hn, g, hg⟩ := acyclic_group.1 h
    obtain ⟨hm, k, hk⟩ := acyclic_group.1 hx
    have hg' := standsAt_prepare hn (hg.without hg (Nat.le_refl _)) mode side
    obtain ⟨hm', k', hk', hmatches⟩ := hg.exists_counterpart hg' (s.frame_prepare n mode side)
      (fun r => g.matches_prepare r mode side) (lt_next_prepare hn mode side) hm hk
    refine ⟨acyclic_group.2 ⟨hm', k', hk'⟩, fun r => ?_⟩
    show Group.matches r (group _ m) = Group.matches r (s.group m)
    rw [hk'.group_eq hm', hk.group_eq hm, hmatches]

/-- Nothing has to be prepared for excluded items, or for the mode in use. -/
theorem prepare_eq_self {mode : Mode} {side : Side}
    (h : ¬(side = .included ∧ mode ≠ (s.get n).mode)) : s.prepare n mode side = s := by
  have hkeeps : ¬(side = .included ∧ (s.get n).mode ≠ mode) :=
    fun hboth => h ⟨hboth.1, hboth.2.symm⟩
  have hpromotes : (s.get n).promotes mode side = false := by
    rw [Group.promotes]
    cases side <;> simp_all
  rw [prepare, Group.prepare, if_neg hkeeps, hpromotes]
  exact s.set_get n

/-- A call that is rejected leaves the store as it was, or the group prepared. -/
theorem change_of_rejected {given : Given Handle} {side : Side} {c : Change}
    {rejection : Rejection} (h : (s.change n given side c).2 = .error rejection) :
    (s.change n given side c).1 = s ∨ ∃ named mode v, c = .addWithMode named ∧
      Mode.ofJson named = .ok mode ∧ side = .included ∧ mode ≠ (s.get n).mode ∧ given = .value v ∧
      (s.change n given side c).1 = s.prepare n mode side := by
  rw [change_eq_renew] at h ⊢
  cases c with
  | add =>
    cases given with
    | item x => cases h
    | value v => exact .inl (s.set_get n)
  | addWithMode named =>
    cases hmode : Mode.ofJson named with
    | error rejected =>
      left
      simp only [Group.change, promoted, hmode]
      exact s.set_get n
    | ok mode =>
      simp only [Group.change, promoted, hmode] at h ⊢
      cases given with
      | item x => cases h
      | value v =>
        by_cases hkeeps : side = .included ∧ mode ≠ (s.get n).mode
        · exact .inr ⟨named, mode, v, rfl, hmode, hkeeps.1, hkeeps.2, rfl, rfl⟩
        · left
          exact prepare_eq_self hkeeps
  | remove =>
    left
    simp only [Group.change] at h ⊢
    split at h
    · cases h
    · split at h
      · simp only [*, if_true]
        exact s.set_get n
      · cases h

end Store

/-! ### Calls on a tree -/

/-- A call on a group: one that may change it, or a search for a condition. -/
inductive Call where
  | change (c : Change)
  | lookFor (nested : Bool)

/-- The store after a call on the group under a number, and what was wrong with the call. A search
goes through the tree of the group. -/
def Store.call (s : Store) (n : Nat) (given : Given Handle) (side : Side) :
    Call → Store × Except Rejection Unit
  | .change c => s.change n given side c
  | .lookFor nested =>
    let given : Given Item :=
      match given with
      | .item x => .item (s.item x)
      | .value v => .value v
    (s, ((s.group n).lookFor given side nested).map fun _ => ())

/-- **A rejected call changes nothing that matches.** Whatever group of a tree the call is on, every
node of the tree matches the records that it matched before, and the group has the excluded items
and, from left to right, the included conditions that it had. Nothing at all is changed unless the
call names another mode for what is included and hands in a value that is no item. -/
theorem call_rejected (s : Store) (root n : Nat) (hroot : s.Acyclic (.group root))
    (hn : s.Within (.group n) (.group root)) (given : Given Handle) (side : Side) (call : Call)
    (rejection : Rejection) (h : (s.call n given side call).2 = .error rejection) :
    let s' := (s.call n given side call).1
    (∀ x, s.Within x (.group root) →
      s'.Acyclic x ∧ ∀ r, (s'.item x).matches r = (s.item x).matches r) ∧
    (s'.group n).excluded = (s.group n).excluded ∧
    Item.conditionsIn (s'.group n).included = Item.conditionsIn (s.group n).included ∧
    (s' = s ∨ ∃ named mode v, call = .change (.addWithMode named) ∧
      Mode.ofJson named = .ok mode ∧ side = .included ∧ mode ≠ (s.get n).mode ∧
      given = .value v) := by
  intro s'
  have hsame : s' = s → (∀ x, s.Within x (.group root) →
      s'.Acyclic x ∧ ∀ r, (s'.item x).matches r = (s.item x).matches r) ∧
      (s'.group n).excluded = (s.group n).excluded ∧
      Item.conditionsIn (s'.group n).included = Item.conditionsIn (s.group n).included := by
    intro hs
    rw [hs]
    exact ⟨fun x hx => ⟨hroot.of_within hx, fun r => rfl⟩, rfl, rfl⟩
  cases call with
  | lookFor nested =>
    obtain ⟨hmatches, hexcluded, hincluded⟩ := hsame rfl
    exact ⟨hmatches, hexcluded, hincluded, .inl rfl⟩
  | change c =>
    rcases Store.change_of_rejected h with hs | ⟨named, mode, v, rfl, hmode, hside, hne, rfl, hs⟩
    · obtain ⟨hmatches, hexcluded, hincluded⟩ := hsame hs
      exact ⟨hmatches, hexcluded, hincluded, .inl hs⟩
    · have hs' : s' = s.prepare n mode side := hs
      have hgroup := Store.group_prepare (hroot.of_within hn) mode side
      rw [hs', hgroup]
      exact ⟨fun x hx => Store.matches_item_prepare (hroot.of_within hn) (hroot.of_within hx) mode
        side, Group.excluded_prepare .., Group.conditionsIn_prepare _ mode side,
        .inr ⟨named, mode, v, rfl, hmode, hside, hne, rfl⟩⟩

/-- The group stands alone and inside another. The call moves its two conditions into a group of
their own before it sees that it has been given no item. -/
theorem call_rejected_sampleStore :
    sampleStore.Acyclic (.group 2) ∧ sampleStore.Within (.group 1) (.group 2) ∧
      (sampleStore.call 1 (.value .null) .included (.change (.addWithMode (.text "AND")))).2 =
        .error (.notAnItem "NoneType") ∧
      ∃ s', (sampleStore.call 1 (.value .null) .included
          (.change (.addWithMode (.text "AND")))).1 = s' ∧
        (s'.get 1).included = [.group 3] ∧
        (∀ r, Group.matches r (s'.group 2) = Group.matches r (sampleStore.group 2)) ∧
        Item.conditionsIn (s'.group 1).included =
          [⟨none, "x", .contains⟩, ⟨none, "y", .contains⟩] := by
  have hone : Group.StandsAt sampleStore (· < sampleStore.next)
      ⟨.or, [.condition ⟨none, "x", .contains⟩, .condition ⟨none, "y", .contains⟩], []⟩
      (sampleStore.get 1) :=
    Group.standsAt_iff.2 ⟨rfl, .cons rfl (.cons rfl .nil), .nil⟩
  have hroot : Group.StandsAt sampleStore (· < sampleStore.next)
      ⟨.and, [.group ⟨.or, [.condition ⟨none, "x", .contains⟩,
        .condition ⟨none, "y", .contains⟩], []⟩], [.condition ⟨none, "z", .contains⟩]⟩
      (sampleStore.get 2) :=
    Group.standsAt_iff.2 ⟨rfl, .cons ⟨1, rfl, by decide, hone⟩ .nil, .cons rfl .nil⟩
  have htwo : sampleStore.Acyclic (.group 2) := Store.acyclic_group.2 ⟨by decide, _, hroot⟩
  have hwithin : sampleStore.Within (.group 1) (.group 2) := .inside (.inl (by decide)) .self
  obtain ⟨hmatches, -, hincluded, -⟩ := call_rejected sampleStore 2 1 htwo hwithin (.value .null)
    .included (.change (.addWithMode (.text "AND"))) (.notAnItem "NoneType") rfl
  exact ⟨htwo, hwithin, rfl, _, rfl, rfl, (hmatches _ .self).2, hincluded⟩

end RecordSearch
