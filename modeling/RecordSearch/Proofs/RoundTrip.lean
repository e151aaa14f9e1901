import RecordSearch.Proofs.Fragment
import RecordSearch.Proofs.SingleConditions

/-!
# Written trees are read back

`Group.readsIff_chars` is the heart of it, an induction on the tree: a group is written as a text
that reads as its normal form wherever it stands if its conditions are closed, and does not if one
of them is not. So a query whose conditions are closed is read back in normal form, which means the
same and is written the same, and no other query is.
-/

namespace RecordSearch

variable {n : Nat}

/-- A closed condition reads as itself on either side. -/
theorem Condition.readsAs {c : Condition} (hc : c.Readable) (heven : EvenQuotes c.term.toList)
    (hclosed : c.Closed) (side : Side) :
    ReadsAs (side.dash ++ c.chars) (Group.single side (.condition c)) 0 where
  even := (evenQuotes_append side.evenQuotes_dash).2 (evenQuotes_chars hc heven)
  reads d rest _ := readGroup_dash_chars hc hclosed side d rest

/-- A condition reads as itself on either side exactly if it is closed. -/
theorem Condition.readsIff {c : Condition} (hc : c.Readable) (heven : EvenQuotes c.term.toList)
    (side : Side) :
    ReadsIff (side.dash ++ c.chars) (Group.single side (.condition c)) 0 c.Closed where
  even := (evenQuotes_append side.evenQuotes_dash).2 (evenQuotes_chars hc heven)
  readsAs hclosed := Condition.readsAs hc heven hclosed side
  of_isPrefix d rest _ hprefix := by
    by_contra hopen
    obtain ⟨piece, later, hne, hread⟩ := exists_readGroup_dash_chars hc hopen side
    rw [hread, Reading.group_prepend] at hprefix
    -- the piece stands where the condition should
    exact hne (Item.condition.inj (Group.eq_of_single_isPrefix hprefix)).symm

/-! ### Trees -/

/-- All conditions of a tree are closed. -/
def Item.Closed (i : Item) : Prop := ∀ c ∈ i.conditions, c.Closed

theorem Group.closed_iff {g : Query} : (∀ c ∈ g.conditions, c.Closed) ↔
    (∀ i ∈ g.included, i.Closed) ∧ ∀ i ∈ g.excluded, i.Closed := by
  rw [Group.conditions_eq, List.forall_mem_append, List.forall_mem_flatMap,
    List.forall_mem_flatMap]
  rfl

/-- An item among others reads as its normal form if its group, where it is one, does. -/
theorem Item.readsIff_chars {i : Item} (side : Side)
    (hcond : ∀ c ∈ i.conditions, c.Readable ∧ EvenQuotes c.term.toList)
    (hgroup : ∀ k, i = .group k → k.nesting < n →
      ReadsIff k.chars k.normal (n - 1) (∀ c ∈ k.conditions, c.Closed))
    (hn : i.nesting ≤ n) :
    ReadsIff (side.dash ++ i.chars true) (Group.single side i.normal) n i.Closed := by
  cases i with
  | condition c =>
    obtain ⟨hc, heven⟩ := hcond c (List.mem_singleton_self c)
    refine ((Condition.readsIff hc heven side).mono (Nat.zero_le n)).congr ?_
    exact (List.forall_mem_singleton (p := Condition.Closed)).symm
  | group k =>
    have hlt : k.nesting < n := hn
    have hk := (hgroup k rfl hlt).bracketed side
    rw [Nat.sub_add_cancel (by omega), List.append_assoc] at hk
    exact hk

/-- Several items joined in a mode read as the group that includes their normal forms. -/
theorem readsIff_intercalate (mode : Mode) {items : List Item}
    (h : ∀ i ∈ items, ReadsIff (i.chars true) (Group.single .included i.normal) n i.Closed) :
    ReadsIff ([mode.joiner].intercalate (items.map (Item.chars true)))
      ⟨if items.length < 2 then .and else mode, items.map Item.normal, []⟩ n
      (∀ i ∈ items, i.Closed) := by
  match items with
  | [] => exact readsIff_nil.congr (by simp)
  | [i] =>
    rw [List.map_singleton, List.intercalate_singleton]
    exact (h i (List.mem_singleton_self i)).congr (by simp)
  | i :: j :: items =>
    have hi := h i (List.mem_cons_self ..)
    have hrest := readsIff_intercalate mode fun k hk => h k (List.mem_cons_of_mem i hk)
    have hmode : (⟨mode, [], []⟩ ++ ⟨if (j :: items).length < 2 then .and else mode,
        (j :: items).map Item.normal, []⟩ : Query) = ⟨mode, (j :: items).map Item.normal, []⟩ := by
      cases mode
      · rw [ite_self]
        rfl
      · rfl
    have hjoined := hi.joined mode hrest
    rw [hmode] at hjoined
    rw [List.map_cons, List.map_cons, List.intercalate_cons_cons, List.append_assoc,
      ← List.map_cons, if_neg (by simp)]
    exact hjoined.congr List.forall_mem_cons.symm

/-- Excluded items read as the group that excludes their normal forms. -/
theorem readsIff_excludedChars {items : List Item}
    (h : ∀ i ∈ items, ReadsIff ('-' :: i.chars true) (Group.single .excluded i.normal) n i.Closed) :
    ReadsIff (Group.excludedChars items) ⟨.and, [], items.map Item.normal⟩ n
      (∀ i ∈ items, i.Closed) := by
  induction items with
  | nil => exact readsIff_nil.congr (by simp)
  | cons i items ih =>
    have hitems := ih fun j hj => h j (List.mem_cons_of_mem i hj)
    rw [Group.excludedChars_cons]
    exact ((h i (List.mem_cons_self ..)).spaced hitems).congr List.forall_mem_cons.symm

/-- What a group excludes plays no part in how it is hoisted. -/
theorem Group.hoist_append (mode : Mode) (included excluded : List Item) :
    Group.hoist ⟨mode, included, []⟩ ++ (⟨.and, [], excluded⟩ : Query) =
      Group.hoist ⟨mode, included, excluded⟩ := by
  have hand : ∀ g : Query, g ++ (⟨.and, [], excluded⟩ : Query) =
      { g with excluded := g.excluded ++ excluded } := by
    intro g
    rw [← Group.append_empty g, Group.append_assoc, Group.empty_append, Group.append_empty]
    obtain ⟨m, inc, exc⟩ := g
    show Group.mk (if m = .or then .or else .and) (inc ++ []) _ = _
    rw [List.append_nil]
    cases m <;> rfl
  rw [hand]
  match included with
  | [] => rfl
  | [.condition c] => rfl
  | [.group k] => rw [Group.hoist_group, Group.hoist_group, List.append_nil]
  | i :: j :: items => rw [Group.hoist_cons_cons, Group.hoist_cons_cons, List.nil_append]

/-- The included part of a group reads as it is hoisted: a group that stands alone there reads as
itself, without brackets. -/
theorem readsIff_includedChars {g : Query}
    (hitems : ∀ i ∈ g.included,
      ReadsIff (i.chars true) (Group.single .included i.normal) n i.Closed)
    (hgroup : ∀ k, .group k ∈ g.included →
      ReadsIff k.chars k.normal n (∀ c ∈ k.conditions, c.Closed)) :
    ReadsIff g.includedChars (Group.hoist ⟨g.mode, g.included.map Item.normal, []⟩) n
      (∀ i ∈ g.included, i.Closed) := by
  obtain ⟨mode, included, excluded⟩ := g
  match included with
  | [] => exact readsIff_nil.congr (by simp)
  | [.condition c] =>
    rw [Group.includedChars, List.map_singleton, List.intercalate_singleton]
    exact (hitems _ (List.mem_singleton_self _)).congr List.forall_mem_singleton.symm
  | [.group k] =>
    have hk := hgroup k (List.mem_singleton_self _)
    rw [Group.includedChars, List.map_singleton, List.intercalate_singleton, List.map_singleton,
      Item.normal, Group.hoist_group, List.append_nil]
    refine hk.congr ?_
    rw [List.forall_mem_singleton]
    rfl
  | i :: j :: items =>
    have hmany := readsIff_intercalate mode hitems
    rw [if_neg (by simp)] at hmany
    rw [List.map_cons, List.map_cons, Group.hoist_cons_cons]
    exact hmany

/-- A tree is written as a text that reads as its normal form exactly if its conditions are closed.
-/
theorem Group.readsIff_chars {g : Query} (hdeep : g.nesting ≤ n)
    (hcond : ∀ c ∈ g.conditions, c.Readable ∧ EvenQuotes c.term.toList) :
    ReadsIff g.chars g.normal n (∀ c ∈ g.conditions, c.Closed) := by
  induction g using Group.induction generalizing n with
  | step g hinc hexc =>
    rw [Group.nesting_le_iff] at hdeep
    have hcond' : ∀ i, i ∈ g.included ∨ i ∈ g.excluded → ∀ c ∈ i.conditions,
        c.Readable ∧ EvenQuotes c.term.toList :=
      fun i hi c hc => hcond c (Group.mem_conditions.2 ⟨i, hi, hc⟩)
    have hincluded : ∀ k m, .group k ∈ g.included → k.nesting ≤ m →
        ReadsIff k.chars k.normal m (∀ c ∈ k.conditions, c.Closed) :=
      fun k m hk hm => hinc k hk hm (hcond' _ (.inl hk))
    have hexcluded : ∀ k m, .group k ∈ g.excluded → k.nesting ≤ m →
        ReadsIff k.chars k.normal m (∀ c ∈ k.conditions, c.Closed) :=
      fun k m hk hm => hexc k hk hm (hcond' _ (.inr hk))
    have hleft : ReadsIff g.includedChars
        (Group.hoist ⟨g.mode, g.included.map Item.normal, []⟩) n (∀ i ∈ g.included, i.Closed) := by
      refine readsIff_includedChars (fun i hi => ?_) (fun k hk => ?_)
      · exact Item.readsIff_chars .included (hcond' i (.inl hi))
          (fun k hik hlt => hincluded k _ (hik ▸ hi) (by omega)) (hdeep i (.inl hi))
      · have hlt : k.nesting + 1 ≤ n := hdeep _ (.inl hk)
        exact hincluded k n hk (by omega)
    have hright : ReadsIff (Group.excludedChars g.excluded)
        ⟨.and, [], g.excluded.map Item.normal⟩ n (∀ i ∈ g.excluded, i.Closed) := by
      refine readsIff_excludedChars fun i hi => ?_
      exact Item.readsIff_chars .excluded (hcond' i (.inr hi))
        (fun k hik hlt => hexcluded k _ (hik ▸ hi) (by omega)) (hdeep i (.inr hi))
    rw [Group.chars_eq, Group.normal_eq, ← Group.hoist_append]
    exact (hleft.spaced hright).congr Group.closed_iff.symm

/-- A tree with not too many nested groups is read back in normal form exactly if its conditions are
closed. -/
theorem parse_text_eq_normal_iff {g : Query} (hdeep : g.nesting ≤ 100)
    (hcond : ∀ c ∈ g.conditions, c.Readable ∧ EvenQuotes c.term.toList) :
    parse g.text = g.normal ↔ ∀ c ∈ g.conditions, c.Closed := by
  have hreads := Group.readsIff_chars hdeep hcond
  have htext : g.text.toList = g.chars := String.toList_ofList
  constructor
  · intro h
    refine hreads.of_isPrefix 0 [] (by decide) ?_
    rw [← h, List.append_nil, ← htext, ← tokenize_eq]
    exact .refl (parse g.text)
  · intro hclosed
    refine ReadsAs.parse_eq (n := 100) ?_ (by decide)
    rw [htext]
    exact hreads.readsAs hclosed

theorem parse_text_of_closed {g : Query} (hdeep : g.nesting ≤ 100)
    (hcond : ∀ c ∈ g.conditions, c.Readable ∧ EvenQuotes c.term.toList ∧ c.Closed) :
    parse g.text = g.normal := by
  have hcond' : ∀ c ∈ g.conditions, c.Readable ∧ EvenQuotes c.term.toList := by
    intro c hc
    obtain ⟨hreadable, heven, -⟩ := hcond c hc
    exact ⟨hreadable, heven⟩
  exact (parse_text_eq_normal_iff hdeep hcond').2 fun c hc => (hcond c hc).2.2

/-- **A written tree is read back.** If its groups are nested at most a hundred deep and its
conditions are closed, it comes back in normal form, matches the same records and is written the
same again. -/
theorem parse_text (g : Query) (hdeep : g.nesting ≤ 100)
    (hcond : ∀ c ∈ g.conditions, c.Readable ∧ EvenQuotes c.term.toList ∧ c.Closed) :
    parse g.text = g.normal ∧ (∀ r, Group.matches r (parse g.text) = Group.matches r g) ∧
      (parse g.text).text = g.text := by
  have hparse := parse_text_of_closed hdeep hcond
  refine ⟨hparse, fun r => ?_, ?_⟩
  · rw [hparse, Group.matches_normal]
  · rw [hparse, Group.text, Group.text, Group.chars_normal]

/-- A tree with an empty group, a group alone in a group, and terms that need quotes. -/
def sampleTree : Query :=
  ⟨.or,
    [.group ⟨.or, [.group ⟨.and, [.condition ⟨none, "a b", .contains⟩, .group {}], []⟩],
      [.condition ⟨some "é", "-x", .exact⟩]⟩],
    [.group ⟨.or, [.condition ⟨none, "\"\"", .contains⟩], []⟩]⟩

/-- The sample is written as `"a b" () -é="-x" -("""")`. -/
theorem parse_text_sampleTree :
    sampleTree.nesting ≤ 100 ∧
      (∀ c ∈ sampleTree.conditions, c.Readable ∧ EvenQuotes c.term.toList ∧ c.Closed) ∧
      parse sampleTree.text =
        ⟨.and, [.condition ⟨none, "a b", .contains⟩, .group {}],
          [.condition ⟨some "é", "-x", .exact⟩,
            .group ⟨.and, [.condition ⟨none, "\"\"", .contains⟩], []⟩]⟩ := by
  have hdeep : sampleTree.nesting ≤ 100 := by decide
  have hcond : ∀ c ∈ sampleTree.conditions,
      c.Readable ∧ EvenQuotes c.term.toList ∧ c.Closed := by decide
  have hnormal : sampleTree.normal =
      ⟨.and, [.condition ⟨none, "a b", .contains⟩, .group {}],
        [.condition ⟨some "é", "-x", .exact⟩,
          .group ⟨.and, [.condition ⟨none, "\"\"", .contains⟩], []⟩]⟩ := by decide
  exact ⟨hdeep, hcond, (parse_text sampleTree hdeep hcond).1.trans hnormal⟩

end RecordSearch
