import RecordSearch.Proofs.Normal
import RecordSearch.Proofs.Rules

/-!
# Texts that read the same wherever they stand

A text reads as a group if, put in front of any other text, it adds the items of that group and
changes nothing else. Such texts can be glued: with a space between them they read as the joined
groups, with a tilde as the joined or-group, and between brackets as a group of its own. Every
bracket takes one of the levels that are left, so that the texts come with the number of levels that
they need.

A text that is to stand between brackets need not read the same wherever it stands; in front of a
closing bracket is enough (`ReadsInside`). `ReadsIff` is for texts that read as a group under a
condition, and where it fails do not even begin to. Such texts can be glued in the same ways.
-/

namespace RecordSearch

/-! ### Fragments -/

/-- A text reads as a group wherever it stands, as long as `n` levels are left. -/
structure ReadsAs (text : List Char) (g : Query) (n : Nat) : Prop where
  even : EvenQuotes text
  reads : ∀ (d : Int) (rest : List String), d + n ≤ maxDepth →
    readGroup d (tokensOf text ++ rest) = (readGroup d rest).prepend g

/-- A text reads as a group in front of a closing bracket, as long as `n` levels are left. -/
structure ReadsInside (text : List Char) (g : Query) (n : Nat) : Prop where
  even : EvenQuotes text
  reads : ∀ (d : Int) (rest : List String), d + n ≤ maxDepth →
    readGroup d (tokensOf text ++ ")" :: rest) = { group := g, rest := ")" :: rest }

section Fragments

variable {a b text : List Char} {g h : Query} {n m : Nat}

theorem ReadsAs.inside (hg : ReadsAs text g n) : ReadsInside text g n where
  even := hg.even
  reads d rest hd := by
    rw [hg.reads d _ hd, readGroup_close]
    show Reading.mk (g ++ {}) _ _ = _
    rw [Group.append_empty]

theorem ReadsAs.mono (hg : ReadsAs text g n) (hnm : n ≤ m) : ReadsAs text g m where
  even := hg.even
  reads d rest hd := hg.reads d rest (by omega)

theorem readsAs_nil : ReadsAs [] {} n where
  even := evenQuotes_nil
  reads _ _ _ := rfl

theorem evenQuotes_joined (mode : Mode) (ha : EvenQuotes a) (hb : EvenQuotes b) :
    EvenQuotes (a ++ mode.joiner :: b) := by
  rw [evenQuotes_append ha, evenQuotes_cons (by cases mode <;> decide)]
  exact hb

/-- What stands between two items joins them. -/
theorem readGroup_joined (mode : Mode) (ha : EvenQuotes a) (d : Int) (rest : List String) :
    readGroup d (tokensOf (a ++ mode.joiner :: b) ++ rest) =
      readGroup d (tokensOf a ++ (structuralToken mode.joiner ++ (tokensOf b ++ rest))) := by
  rw [tokensOf_append ha (by cases mode <;> decide), List.append_assoc, List.append_assoc]

theorem readGroup_joiner (mode : Mode) (d : Int) (rest : List String) :
    readGroup d (structuralToken mode.joiner ++ rest) =
      (readGroup d rest).prepend ⟨mode, [], []⟩ := by
  cases mode with
  | and => rfl
  | or => exact readGroup_tilde d rest

theorem ReadsAs.joined (mode : Mode) (ha : ReadsAs a g n) (hb : ReadsAs b h n) :
    ReadsAs (a ++ mode.joiner :: b) (g ++ (⟨mode, [], []⟩ ++ h)) n where
  even := evenQuotes_joined mode ha.even hb.even
  reads d rest hd := by
    rw [readGroup_joined mode ha.even, ha.reads d _ hd, readGroup_joiner, hb.reads d _ hd,
      Reading.prepend_prepend, Reading.prepend_prepend, Group.append_assoc]

theorem tokensOf_spaced (ha : EvenQuotes a) (b : List Char) :
    tokensOf (spaced a b) = tokensOf a ++ tokensOf b := by
  by_cases hnil : a = []
  · rw [hnil, spaced_nil_left, tokensOf_nil, List.nil_append]
  by_cases hnil' : b = []
  · rw [hnil', spaced_nil_right, tokensOf_nil, List.append_nil]
  rw [spaced_eq hnil hnil', tokensOf_append ha (by decide), List.append_assoc]
  rfl

theorem evenQuotes_spaced (ha : EvenQuotes a) (hb : EvenQuotes b) : EvenQuotes (spaced a b) := by
  by_cases hnil : a = []
  · rwa [hnil, spaced_nil_left]
  by_cases hnil' : b = []
  · rwa [hnil', spaced_nil_right]
  rw [spaced_eq hnil hnil', evenQuotes_append ha, evenQuotes_cons (by decide)]
  exact hb

theorem ReadsAs.spaced (ha : ReadsAs a g n) (hb : ReadsAs b h n) :
    ReadsAs (spaced a b) (g ++ h) n where
  even := evenQuotes_spaced ha.even hb.even
  reads d rest hd := by
    rw [tokensOf_spaced ha.even, List.append_assoc, ha.reads d _ hd, hb.reads d _ hd,
      Reading.prepend_prepend]

theorem evenQuotes_bracketed (side : Side) (ht : EvenQuotes text) :
    EvenQuotes (side.dash ++ '(' :: text ++ [')']) := by
  rw [List.append_assoc, evenQuotes_append side.evenQuotes_dash, List.cons_append,
    evenQuotes_cons (by decide), evenQuotes_append ht]
  decide

theorem tokensOf_bracketed (side : Side) (ht : EvenQuotes text) :
    tokensOf (side.dash ++ '(' :: text ++ [')']) = side.opening ++ (tokensOf text ++ [")"]) := by
  rw [List.append_assoc, List.cons_append, tokensOf_append side.evenQuotes_dash (by decide),
    tokensOf_append ht (by decide), Side.opening, List.append_assoc, List.append_assoc,
    List.append_assoc]
  rfl

/-- Between brackets a text reads as one item. -/
theorem ReadsInside.bracketed (hg : ReadsInside text g n) (side : Side) :
    ReadsAs (side.dash ++ '(' :: text ++ [')']) (Group.single side (.group g)) (n + 1) where
  even := evenQuotes_bracketed side hg.even
  reads d rest hd := by
    have hdepth : d < maxDepth := by omega
    have hinner : readGroup (d + 1) (tokensOf text ++ ")" :: rest) =
        { group := g, rest := ")" :: rest } :=
      hg.reads (d + 1) rest (by push_cast at hd; omega)
    rw [tokensOf_bracketed side hg.even, List.append_assoc, List.append_assoc,
      readGroup_opening side hdepth, List.singleton_append, hinner]
    show Reading.addGroup side _ (readGroup d rest) = _
    cases side <;> rfl

end Fragments

/-- A text that needs no more levels than there are reads as its group. -/
theorem ReadsAs.parse_eq {text : String} {g : Query} {n : Nat} (hg : ReadsAs text.toList g n)
    (hn : (n : Int) ≤ maxDepth) : parse text = g := by
  have h := hg.reads 0 [] (by omega)
  rw [List.append_nil, readGroup_nil] at h
  rw [parse, tokenize_eq, h, Reading.group_prepend, Group.append_empty]

/-! ### Fragments under a condition -/

/-- The items of a group stand in front of those of another. -/
def Group.IsPrefix (g h : Query) : Prop :=
  g.included <+: h.included ∧ g.excluded <+: h.excluded

namespace Group

variable {g h k : Query}

theorem IsPrefix.refl (g : Query) : g.IsPrefix g := ⟨List.prefix_rfl, List.prefix_rfl⟩

theorem IsPrefix.of_append (hp : (g ++ h).IsPrefix k) : g.IsPrefix k :=
  ⟨(List.prefix_append _ _).trans hp.1, (List.prefix_append _ _).trans hp.2⟩

theorem append_isPrefix_append_iff : (g ++ h).IsPrefix (g ++ k) ↔ h.IsPrefix k := by
  simp only [IsPrefix, included_append, excluded_append, List.prefix_append_right_inj]

theorem eq_of_single_isPrefix {side : Side} {x y : Item}
    (hp : (single side x).IsPrefix (single side y ++ k)) : x = y := by
  cases side with
  | included => exact (List.cons_prefix_cons.1 hp.1).1
  | excluded => exact (List.cons_prefix_cons.1 hp.2).1

end Group

/-- A text reads as a group wherever it stands if `p` holds, as long as `n` levels are left, and if
`p` does not hold, what is read from it begins with other items. -/
structure ReadsIff (text : List Char) (g : Query) (n : Nat) (p : Prop) : Prop where
  even : EvenQuotes text
  readsAs : p → ReadsAs text g n
  of_isPrefix : ∀ (d : Int) (rest : List String), d + n ≤ maxDepth →
    g.IsPrefix (readGroup d (tokensOf text ++ rest)).group → p

section Conditional

variable {a b text : List Char} {g h : Query} {n m : Nat} {p r : Prop}

theorem ReadsIff.mono (hg : ReadsIff text g n p) (hnm : n ≤ m) : ReadsIff text g m p where
  even := hg.even
  readsAs hp := (hg.readsAs hp).mono hnm
  of_isPrefix d rest hd := hg.of_isPrefix d rest (by omega)

theorem ReadsIff.congr (hg : ReadsIff text g n p) (hpr : p ↔ r) : ReadsIff text g n r where
  even := hg.even
  readsAs hr := hg.readsAs (hpr.2 hr)
  of_isPrefix d rest hd hprefix := hpr.1 (hg.of_isPrefix d rest hd hprefix)

theorem readsIff_nil : ReadsIff [] {} n True where
  even := evenQuotes_nil
  readsAs _ := readsAs_nil
  of_isPrefix _ _ _ _ := trivial

theorem ReadsIff.joined (mode : Mode) (ha : ReadsIff a g n p) (hb : ReadsIff b h n r) :
    ReadsIff (a ++ mode.joiner :: b) (g ++ (⟨mode, [], []⟩ ++ h)) n (p ∧ r) where
  even := evenQuotes_joined mode ha.even hb.even
  readsAs hpr := (ha.readsAs hpr.1).joined mode (hb.readsAs hpr.2)
  of_isPrefix d rest hd hprefix := by
    rw [readGroup_joined mode ha.even] at hprefix
    -- the first text decides by itself where its items end
    have hp : p := ha.of_isPrefix d _ hd hprefix.of_append
    rw [(ha.readsAs hp).reads d _ hd, Reading.group_prepend, Group.append_isPrefix_append_iff,
      readGroup_joiner, Reading.group_prepend, Group.append_isPrefix_append_iff] at hprefix
    exact ⟨hp, hb.of_isPrefix d rest hd hprefix⟩

theorem ReadsIff.spaced (ha : ReadsIff a g n p) (hb : ReadsIff b h n r) :
    ReadsIff (spaced a b) (g ++ h) n (p ∧ r) where
  even := evenQuotes_spaced ha.even hb.even
  readsAs hpr := (ha.readsAs hpr.1).spaced (hb.readsAs hpr.2)
  of_isPrefix d rest hd hprefix := by
    rw [tokensOf_spaced ha.even, List.append_assoc] at hprefix
    have hp : p := ha.of_isPrefix d _ hd hprefix.of_append
    rw [(ha.readsAs hp).reads d _ hd, Reading.group_prepend,
      Group.append_isPrefix_append_iff] at hprefix
    exact ⟨hp, hb.of_isPrefix d rest hd hprefix⟩

theorem ReadsIff.bracketed (hg : ReadsIff text g n p) (side : Side) :
    ReadsIff (side.dash ++ '(' :: text ++ [')']) (Group.single side (.group g)) (n + 1) p where
  even := evenQuotes_bracketed side hg.even
  readsAs hp := (hg.readsAs hp).inside.bracketed side
  of_isPrefix d rest hd hprefix := by
    have hdepth : d < maxDepth := by omega
    rw [tokensOf_bracketed side hg.even, List.append_assoc, List.append_assoc,
      readGroup_opening side hdepth, Reading.group_addGroup] at hprefix
    have hitem := Group.eq_of_single_isPrefix hprefix
    rw [Item.group.injEq] at hitem
    refine hg.of_isPrefix (d + 1) ([")"] ++ rest) (by push_cast at hd; omega) ?_
    rw [← hitem]
    exact .refl g

end Conditional

end RecordSearch
