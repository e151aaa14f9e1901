import RecordSearch.Proofs.RoundTrip
import RecordSearch.Proofs.ReadTree
import RecordSearch.Proofs.Sharing
import RecordSearch.Proofs.StackMachine
import RecordSearch.Sharing.Session

/-!
# Built queries as text

A query that is built in a session can be written as a text, and the text can be read again. Every
change of mode between two or more items puts them one level deeper, and a text is read with at most
a hundred levels. `parse_text_run` says that this is all that can go wrong with conditions in whose
terms no quotes stand: the query is read back exactly if no more than a hundred of the additions
have moved what was included before.
-/

namespace RecordSearch

/-! ### How deep a built query is -/

namespace Group

variable {g : Query} {n : Nat}

/-- What is put into a group of its own gets one level deeper. -/
theorem nesting_prepare_le (hg : g.nesting ≤ n) (mode : Mode) (side : Side) :
    (g.prepare .group mode side).nesting ≤ n + (g.promotes mode side).toNat := by
  rw [nesting_le_iff] at hg
  rcases g.prepare_cases .group mode side with
    ⟨hpromotes, -, -, hprepare⟩ | ⟨hpromotes, mode', -, hprepare⟩
  · rw [hprepare, hpromotes, nesting_le_iff]
    rintro i (hi | hi)
    · obtain rfl := List.mem_singleton.1 hi
      refine Nat.succ_le_succ (nesting_le_iff.2 ?_)
      rintro j (hj | hj)
      · exact hg j (.inl hj)
      · exact absurd hj List.not_mem_nil
    · exact Nat.le_succ_of_le (hg i (.inr hi))
  · rw [hprepare, hpromotes, nesting_le_iff]
    exact hg

theorem nesting_take_le (hg : g.nesting ≤ n) {a : Addition Item} (ha : a.item.nesting = 0) :
    (g.take .group a).nesting ≤ n + (g.promotesFor a).toNat := by
  rw [take, addWithMode, add_eq_append, nesting_append_le_iff, nesting_single_le_iff, ha]
  exact ⟨nesting_prepare_le hg _ _, Nat.zero_le _⟩

/-- Conditions that are added stand no deeper than so many groups have been made. -/
theorem nesting_takeAll_le {additions : List (Addition Item)}
    (hflat : ∀ a ∈ additions, a.item.nesting = 0) :
    (Group.takeAll .group {} additions).nesting ≤ Group.promotions .group {} additions := by
  induction additions using List.reverseRecOn with
  | nil => exact Nat.le_refl 0
  | append_singleton additions a ih =>
    rw [List.forall_mem_append, List.forall_mem_singleton] at hflat
    rw [takeAll_concat, promotions_concat]
    exact nesting_take_le (ih hflat.1) hflat.2

/-- What a group includes stands at least `n` levels deep in normal form, and goes on doing so if
it is moved. -/
def Deep (n : Nat) (g : Query) : Prop :=
  n = 0 ∨ 1 < g.included.length ∧ n ≤ Item.nestingIn (g.included.map Item.normal)

theorem le_nestingIn {items : List Item} {i : Item} (hi : i ∈ items) :
    i.nesting ≤ Item.nestingIn items :=
  Item.nestingIn_le_iff.1 (Nat.le_refl _) i hi

/-- A group of two items or more stays where it is in normal form. -/
theorem normal_of_two_le (h : 1 < g.included.length) :
    g.normal = ⟨g.mode, g.included.map Item.normal, g.excluded.map Item.normal⟩ := by
  obtain ⟨mode, included, excluded⟩ := g
  match included with
  | [] => exact absurd h (by simp)
  | [i] => exact absurd h (by simp)
  | i :: j :: items => rw [normal_eq, List.map_cons, List.map_cons, hoist_cons_cons]

theorem Deep.add (hg : g.Deep n) (i : Item) (side : Side) : (g.add i side).Deep n := by
  rcases hg with rfl | ⟨hlen, hn⟩
  · exact .inl rfl
  · right
    cases side with
    | excluded => exact ⟨hlen, hn⟩
    | included =>
      show 1 < (g.included ++ [i]).length ∧ n ≤ Item.nestingIn ((g.included ++ [i]).map Item.normal)
      rw [List.length_append, List.map_append]
      refine ⟨Nat.lt_add_right _ hlen, hn.trans (Item.nestingIn_le_iff.2 fun j hj => ?_)⟩
      exact le_nestingIn (List.mem_append_left _ hj)

/-- An addition that moves what is included adds a level that is seen in normal form, because there
is another item beside it then. -/
theorem Deep.take (hg : g.Deep n) (a : Addition Item) :
    (g.take .group a).Deep (n + (g.promotesFor a).toNat) := by
  obtain ⟨i, side, mode?⟩ := a
  rw [Group.take, addWithMode, promotesFor]
  rcases g.prepare_cases .group (mode?.getD g.mode) side with
    ⟨hpromotes, rfl, hlen, hprepare⟩ | ⟨hpromotes, mode', -, hprepare⟩
  · rw [hprepare, hpromotes]
    refine .inr ⟨Nat.lt_succ_self 1, ?_⟩
    have hinner : n ≤ (Group.normal ⟨g.mode, g.included, []⟩).nesting := by
      rw [normal_of_two_le (g := ⟨g.mode, g.included, []⟩) hlen]
      rcases hg with rfl | ⟨-, hn⟩
      · exact Nat.zero_le _
      · exact hn.trans (Nat.le_max_left _ _)
    calc n + 1 ≤ (Item.group (Group.normal ⟨g.mode, g.included, []⟩)).nesting :=
          Nat.succ_le_succ hinner
      _ ≤ _ := le_nestingIn (List.mem_cons_self ..)
  · rw [hprepare, hpromotes]
    exact Deep.add (g := ⟨mode', g.included, g.excluded⟩) hg i side

/-- Every move adds a level, also in normal form. -/
theorem promotions_le_nesting_normal (additions : List (Addition Item)) :
    Group.promotions .group {} additions ≤ (Group.takeAll .group {} additions).normal.nesting := by
  have hdeep : (Group.takeAll .group {} additions).Deep (Group.promotions .group {} additions) := by
    induction additions using List.reverseRecOn with
    | nil => exact .inl rfl
    | append_singleton additions a ih =>
      rw [takeAll_concat, promotions_concat]
      exact ih.take a
  rcases hdeep with hzero | ⟨hlen, hle⟩
  · rw [hzero]
    exact Nat.zero_le _
  · rw [normal_of_two_le hlen]
    exact hle.trans (Nat.le_max_left _ _)

/-! ### The conditions of a built query -/

theorem mem_conditions_prepare {c : Condition} {mode : Mode} {side : Side}
    (hc : c ∈ (g.prepare .group mode side).conditions) : c ∈ g.conditions := by
  rcases g.prepare_cases .group mode side with ⟨-, -, -, hprepare⟩ | ⟨-, mode', -, hprepare⟩
  · rw [hprepare, mem_conditions] at hc
    obtain ⟨i, hi | hi, hc⟩ := hc
    · obtain rfl := List.mem_singleton.1 hi
      obtain ⟨j, hj | hj, hc⟩ := mem_conditions.1 hc
      · exact mem_conditions.2 ⟨j, .inl hj, hc⟩
      · exact absurd hj List.not_mem_nil
    · exact mem_conditions.2 ⟨i, .inr hi, hc⟩
  · rw [hprepare, mem_conditions] at hc
    exact mem_conditions.2 hc

/-- The conditions of a built query are those of the items that were added. -/
theorem exists_of_mem_conditions_takeAll {additions : List (Addition Item)} {c : Condition}
    (hc : c ∈ (Group.takeAll .group {} additions).conditions) :
    ∃ a ∈ additions, c ∈ a.item.conditions := by
  induction additions using List.reverseRecOn with
  | nil => exact absurd hc List.not_mem_nil
  | append_singleton additions a ih =>
    rw [takeAll_concat, take, addWithMode, add_eq_append, mem_conditions_append,
      mem_conditions_single] at hc
    rcases hc with hc | hc
    · obtain ⟨b, hb, hc⟩ := ih (mem_conditions_prepare hc)
      exact ⟨b, List.mem_append_left _ hb, hc⟩
    · exact ⟨a, List.mem_append_right _ (List.mem_singleton_self a), hc⟩

end Group

/-- A condition is closed if no quotes stand in its term. -/
theorem Condition.closed_of_notMem {c : Condition} (h : '"' ∉ c.term.toList) : c.Closed :=
  fun _ _ _ => evenQuotes_of_notMem fun hmem => h (List.mem_of_mem_take hmem)

/-- **A query built of spelled conditions as text.** It is read back in normal form exactly if its
items have not been moved more than a hundred times. -/
theorem parse_text_takeAll_iff {additions : List (Addition String)}
    (hplain : ∀ a ∈ additions, '"' ∉ (Condition.ofToken a.item).term.toList) :
    let added := additions.map (Addition.map fun raw => Item.condition (.ofToken raw))
    let q : Query := Group.takeAll .group {} added
    parse q.text = q.normal ↔ Group.promotions .group {} added ≤ 100 := by
  intro added q
  have hflat : ∀ a ∈ added, a.item.nesting = 0 := by
    intro a ha
    obtain ⟨b, -, rfl⟩ := List.mem_map.1 ha
    rfl
  have hconditions : ∀ c ∈ q.conditions,
      c.Readable ∧ EvenQuotes c.term.toList ∧ c.Closed := by
    intro c hc
    obtain ⟨a, ha, hc⟩ := Group.exists_of_mem_conditions_takeAll hc
    obtain ⟨b, hb, rfl⟩ := List.mem_map.1 ha
    obtain rfl := List.mem_singleton.1 hc
    exact ⟨(Condition.ofChars_spec b.item.toList).1, evenQuotes_of_notMem (hplain b hb),
      Condition.closed_of_notMem (hplain b hb)⟩
  constructor
  · intro hparse
    have hread := (parse_spec q.text).1
    rw [hparse] at hread
    exact (Group.promotions_le_nesting_normal added).trans hread
  · intro hfew
    exact parse_text_of_closed ((Group.nesting_takeAll_le hflat).trans hfew) hconditions

/-! ### Sessions that add -/

namespace Session

/-- Takes steps one after the other, up to one that is rejected. -/
def run (s : Session) : List Step → Except Rejection Session
  | [] => .ok s
  | step :: steps =>
    match s.step step with
    | (s, .ok _) => s.run steps
    | (_, .error rejection) => .error rejection

end Session

/-- The step that adds what a token spells to the query. -/
def Addition.step (a : Addition String) : Step := .change (.token a.item) a.side none a.change

/-- The handle of what a token spells. -/
def Handle.ofToken (raw : String) : Handle := .condition (.ofToken raw)

namespace Session

theorem step_addition (s : Session) (a : Addition String) :
    s.step a.step =
      ({ s with store := s.store.take s.root (a.map Handle.ofToken) }, .ok .nothing) := by
  have hchange : s.store.change s.root (.item (Handle.ofToken a.item)) a.side a.change =
      (s.store.take s.root (a.map Handle.ofToken), .ok ()) :=
    s.store.change_addition s.root (a.map Handle.ofToken)
  simp only [Addition.step, step, make, target]
  rw [← Handle.ofToken, hchange]
  rfl

/-- Steps that add to the query make the same additions to its root group. -/
theorem run_additions (s : Session) (additions : List (Addition String)) :
    s.run (additions.map Addition.step) =
      (s.store.addAll s.root (additions.map (Addition.map Handle.ofToken))).map
        fun store => { s with store } := by
  induction additions generalizing s with
  | nil => rfl
  | cons a additions ih =>
    rw [List.map_cons, List.map_cons, run, step_addition, Store.addAll, Store.change_addition]
    exact ih _

/-- A session that adds what tokens spell to an empty query builds the tree with those items. -/
theorem query_run (additions : List (Addition String)) :
    ∃ s, (start none).run (additions.map Addition.step) = .ok s ∧
      s.query = Group.takeAll .group {}
        (additions.map (Addition.map fun raw => Item.condition (.ofToken raw))) := by
  have hempty : Group.StandsAt (start none).store ((start none).store.Without 0) {}
      ((start none).store.get 0) := Group.standsAt_iff.2 ⟨rfl, .nil, .nil⟩
  have hitems : ∀ a ∈ additions.map (Addition.map Handle.ofToken),
      ((start none).store.item a.item).StandsAt (start none).store
        ((start none).store.Without 0) a.item := by
    intro a ha
    obtain ⟨b, -, rfl⟩ := List.mem_map.1 ha
    rfl
  obtain ⟨after, hafter, hlt, hstands, -⟩ := hempty.addAll (by decide) hitems
  refine ⟨{ start none with store := after }, ?_, ?_⟩
  · rw [run_additions]
    show (Store.addAll _ 0 _).map _ = _
    rw [hafter]
    rfl
  · rw [List.map_map] at hstands
    exact hstands.group_eq_of_without hlt

end Session

/-- **Saving a built query.** Conditions in whose terms no quotes stand are added to an empty query,
however many and in whatever way. No step is rejected. The query is read back from its text in
normal form exactly if at most a hundred of the steps have moved what was included by then into a
group of its own, and then it matches the same records. -/
theorem parse_text_run (additions : List (Addition String))
    (hplain : ∀ a ∈ additions, '"' ∉ (Condition.ofToken a.item).term.toList) :
    let moves := Group.promotions .group {}
      (additions.map (Addition.map fun raw => Item.condition (.ofToken raw)))
    ∃ s, (Session.start none).run (additions.map Addition.step) = .ok s ∧
      (parse s.query.text = s.query.normal ↔ moves ≤ 100) ∧
      (moves ≤ 100 → ∀ r, Group.matches r (parse s.query.text) = Group.matches r s.query) := by
  intro moves
  obtain ⟨s, hrun, hquery⟩ := Session.query_run additions
  have hiff : parse s.query.text = s.query.normal ↔ moves ≤ 100 := by
    rw [hquery]
    exact parse_text_takeAll_iff hplain
  refine ⟨s, hrun, hiff, fun hfew r => ?_⟩
  rw [hiff.2 hfew, Group.matches_normal]

/-- Two words, and then so many more, each of which changes the mode. -/
def changingModes : Nat → List (Addition String)
  | 0 => [⟨"a", .included, none⟩, ⟨"b", .included, none⟩]
  | n + 1 => changingModes n ++
    [if n % 2 = 0 then ⟨"d", .included, some .or⟩ else ⟨"c", .included, some .and⟩]

/-- With a hundred changes of mode the query is still read back. -/
theorem parse_text_run_changingModes :
    (∀ a ∈ changingModes 100, '"' ∉ (Condition.ofToken a.item).term.toList) ∧
      ∃ s, (Session.start none).run ((changingModes 100).map Addition.step) = .ok s ∧
        parse s.query.text = s.query.normal ∧
        ∀ r, Group.matches r (parse s.query.text) = Group.matches r s.query := by
  have hplain : ∀ a ∈ changingModes 100, '"' ∉ (Condition.ofToken a.item).term.toList := by
    decide +kernel
  have hmoves : Group.promotions .group {} ((changingModes 100).map
      (Addition.map fun raw => Item.condition (.ofToken raw))) ≤ 100 := by decide +kernel
  obtain ⟨s, hrun, hiff, hmatches⟩ := parse_text_run (changingModes 100) hplain
  exact ⟨hplain, s, hrun, hiff.2 hmoves, hmatches hmoves⟩

/-- With one more the innermost bracket is read as a term. From there on every closing bracket
closes the group around the one that it was written for, and the last one ends the query, so that
the word behind it is lost. -/
theorem matches_parse_text_changingModes :
    (∀ a ∈ changingModes 101, '"' ∉ (Condition.ofToken a.item).term.toList) ∧
      ∃ s, (Session.start none).run ((changingModes 101).map Addition.step) = .ok s ∧
        Group.matches ⟨[(.name "t", .text "d")]⟩ s.query = true ∧
        Group.matches ⟨[(.name "t", .text "d")]⟩ (parse s.query.text) = false := by
  obtain ⟨s, hrun, hquery⟩ := Session.query_run (changingModes 101)
  refine ⟨by decide +kernel, s, hrun, ?_, ?_⟩
  · rw [hquery, Group.matches_eq_passes, ← Group.holds_verdict, Group.verdict_takeAll,
      Group.excluded_takeAll]
    decide +kernel
  · rw [parse_eq_machine, tokenize_eq, Group.text, String.toList_ofList, hquery]
    decide +kernel

end RecordSearch
