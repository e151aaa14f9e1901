import Mathlib.Data.List.Pairwise
import Mathlib.Data.List.Perm.Basic
import RecordSearch.Proofs.Pieces

/-!
# Matching and case

What a query makes of a record depends on nothing but the query in small letters and the entries of
the record in small letters, taken in any order.

`matches_iff_holds` says so for a condition: to look a field up, first by its exact name and then by
any that folds to the same, is to look at all entries whose key folds to that, as long as no two do.
`matches_eq_of_folded` goes through the tree.
-/

namespace RecordSearch

/-- Only the empty text folds to nothing. -/
theorem Text.fold_eq_empty_iff {s : String} : Text.fold s = "" ↔ s = "" := by
  rw [← String.toList_eq_nil_iff, Text.fold, String.toList_ofList, ← List.length_eq_zero_iff,
    Text.length_lower, Text.lowerLength, Nat.add_eq_zero_iff, List.length_eq_zero_iff,
    String.toList_eq_nil_iff]
  constructor
  · rintro ⟨h, -⟩
    exact h
  · rintro rfl
    exact ⟨rfl, rfl⟩

/-! ### Folded trees -/

/-- A condition in small letters. -/
def Condition.folded (c : Condition) : Condition :=
  ⟨c.field.map Text.fold, Text.fold c.term, c.operator⟩

mutual

/-- An item with its conditions in small letters. -/
def Item.folded : Item → Item
  | .condition c => .condition c.folded
  | .group g => .group (Group.folded g)

/-- A group with its conditions in small letters. -/
def Group.folded : Group Item → Group Item
  | ⟨mode, included, excluded⟩ => ⟨mode, Item.foldedIn included, Item.foldedIn excluded⟩

/-- The items of a list with their conditions in small letters. -/
def Item.foldedIn : List Item → List Item
  | [] => []
  | i :: items => i.folded :: Item.foldedIn items

end

theorem Item.foldedIn_eq_map (items : List Item) : Item.foldedIn items = items.map Item.folded := by
  induction items with
  | nil => rfl
  | cons i items ih => rw [Item.foldedIn, ih, List.map_cons]

/-- Two groups fold to the same if they have the same mode and their items fold to the same, one by
one. -/
theorem Group.folded_eq_iff {g g' : Query} :
    g.folded = g'.folded ↔ g.mode = g'.mode ∧
      List.Forall₂ (fun i j => Item.folded i = Item.folded j) g.included g'.included ∧
      List.Forall₂ (fun i j => Item.folded i = Item.folded j) g.excluded g'.excluded := by
  have hpaired : ∀ items items' : List Item, items.map Item.folded = items'.map Item.folded ↔
      List.Forall₂ (fun i j => Item.folded i = Item.folded j) items items' := by
    intro items items'
    rw [← List.forall₂_eq_eq_eq, List.forall₂_map_left_iff, List.forall₂_map_right_iff]
  obtain ⟨mode, included, excluded⟩ := g
  obtain ⟨mode', included', excluded'⟩ := g'
  simp only [Group.folded, Item.foldedIn_eq_map, Group.mk.injEq, hpaired]

/-! ### Folded records -/

/-- The name in small letters that a key is, if it is a name. -/
def Key.folded? : Key → Option String
  | .name s => some (Text.fold s)
  | .other => none

theorem Key.foldsTo_iff {folded : String} {k : Key} :
    k.foldsTo folded = true ↔ k.folded? = some folded := by
  cases k <;> simp [Key.foldsTo, Key.folded?]

namespace Record

variable {r : Record} {field t : String} {v : Json}

/-- The entries in small letters: what is left of a key, and the texts under it. What a query cannot
look into is left out. -/
def folded (r : Record) : List (Option String × List String) :=
  r.entries.map fun e => (e.1.folded?, e.2.texts.map Text.fold)

/-- No two names fold to the same. -/
def KeysApart (r : Record) : Prop := (r.entries.filterMap fun e => e.1.folded?).Nodup

instance (r : Record) : Decidable r.KeysApart :=
  inferInstanceAs (Decidable (r.entries.filterMap fun e => e.1.folded?).Nodup)

theorem KeysApart.eq_of_folded? (hr : r.KeysApart) {e e' : Key × Json} (he : e ∈ r.entries)
    (he' : e' ∈ r.entries) {name : String} (hname : e.1.folded? = some name)
    (hname' : e'.1.folded? = some name) : e = e' := by
  by_contra hne
  rw [KeysApart, List.Nodup, List.pairwise_filterMap] at hr
  have hsymm : Std.Symm fun e e' : Key × Json =>
      ∀ a, e.1.folded? = some a → ∀ b, e'.1.folded? = some b → a ≠ b :=
    ⟨fun _ _ h b hb a ha => (h a ha b hb).symm⟩
  exact hr.forall he he' hne name hname name hname' rfl

/-- A field is found under the key that folds to the same, whether it is its exact name or not. -/
theorem lookup?_eq_some_iff (hr : r.KeysApart) :
    r.lookup? field = some v ↔
      ∃ e ∈ r.entries, e.1.folded? = some (Text.fold field) ∧ e.2 = v := by
  have hfound : ∀ w, r.lookup? field = some w →
      ∃ e ∈ r.entries, e.1.folded? = some (Text.fold field) ∧ e.2 = w := by
    intro w h
    unfold lookup? at h
    split at h
    · rename_i e he
      have hkey : e.1 = .name field := by simpa using List.find?_some he
      refine ⟨e, List.mem_of_find?_eq_some he, ?_, Option.some.inj h⟩
      rw [hkey]
      rfl
    · obtain ⟨e, he, hv⟩ := Option.map_eq_some_iff.1 h
      have hkey : e.1.foldsTo (Text.fold field) = true := by simpa using List.find?_some he
      exact ⟨e, List.mem_of_find?_eq_some he, Key.foldsTo_iff.1 hkey, hv⟩
  constructor
  · exact hfound v
  · rintro ⟨e, he, hname, rfl⟩
    cases hlookup : r.lookup? field with
    | some w =>
      obtain ⟨e', he', hname', rfl⟩ := hfound w hlookup
      rw [hr.eq_of_folded? he he' hname hname']
    | none =>
      unfold lookup? at hlookup
      split at hlookup
      · exact absurd hlookup (Option.some_ne_none _)
      · rw [Option.map_eq_none_iff, List.find?_eq_none] at hlookup
        exact absurd (Key.foldsTo_iff.2 hname) (hlookup e he)

theorem mem_textsIn (hr : r.KeysApart) :
    t ∈ r.textsIn field ↔
      ∃ e ∈ r.entries, e.1.folded? = some (Text.fold field) ∧ t ∈ e.2.texts := by
  have hlookup : t ∈ r.textsIn field ↔ ∃ v, r.lookup? field = some v ∧ t ∈ v.texts := by
    unfold textsIn
    cases r.lookup? field <;> simp
  rw [hlookup]
  constructor
  · rintro ⟨v, hv, ht⟩
    obtain ⟨e, he, hname, rfl⟩ := (lookup?_eq_some_iff hr).1 hv
    exact ⟨e, he, hname, ht⟩
  · rintro ⟨e, he, hname, ht⟩
    exact ⟨e.2, (lookup?_eq_some_iff hr).2 ⟨e, he, hname, rfl⟩, ht⟩

theorem mem_allTexts : t ∈ r.allTexts ↔ ∃ e ∈ r.entries, t ≠ "" ∧ t ∈ e.2.texts := by
  rw [allTexts, List.mem_filter, List.mem_flatMap]
  constructor
  · rintro ⟨⟨e, he, ht⟩, hne⟩
    exact ⟨e, he, by simpa using hne, ht⟩
  · rintro ⟨e, he, hne, ht⟩
    exact ⟨⟨e, he, ht⟩, by simpa using hne⟩

end Record

/-! ### Matching in small letters -/

namespace Condition

/-- Whether a text in small letters passes the comparison with the term. -/
def passes (c : Condition) (text : String) : Bool :=
  match c.operator with
  | .exact => text == c.term
  | .contains => occursIn c.term.toList text.toList

/-- A condition in small letters holds of entries in small letters: one of their texts passes, in
the field if there is one, and else in any, where empty texts do not count. -/
def Holds (c : Condition) (entries : List (Option String × List String)) : Prop :=
  ∃ e ∈ entries, ∃ text ∈ e.2, (match c.field with
    | none => text ≠ ""
    | some field => e.1 = some field) ∧ c.passes text = true

/-- What a condition looks at in a record. -/
theorem mem_candidates {c : Condition} {r : Record} (hr : r.KeysApart) {t : String} :
    t ∈ c.candidates r ↔ ∃ e ∈ r.entries, (match c.folded.field with
      | none => Text.fold t ≠ ""
      | some field => e.1.folded? = some field) ∧ t ∈ e.2.texts := by
  obtain ⟨field, term, operator⟩ := c
  cases field with
  | none =>
    simp only [candidates, folded, Option.map_none, Text.fold_eq_empty_iff, ne_eq]
    exact Record.mem_allTexts
  | some field => exact Record.mem_textsIn hr

/-- **One condition.** Whether it matches depends on what it and the entries of the record are in
small letters. -/
theorem matches_iff_holds {c : Condition} {r : Record} (hr : r.KeysApart) :
    Condition.matches r c = true ↔ c.folded.Holds r.folded := by
  rw [Condition.matches, List.any_eq_true]
  constructor
  · rintro ⟨t, ht, haccepts⟩
    obtain ⟨e, he, hwhere, ht⟩ := (mem_candidates hr).1 ht
    exact ⟨_, List.mem_map_of_mem he, Text.fold t, List.mem_map_of_mem ht, hwhere, haccepts⟩
  · rintro ⟨e', he', text, htext, hwhere, hpasses⟩
    obtain ⟨e, he, rfl⟩ := List.mem_map.1 he'
    obtain ⟨t, ht, rfl⟩ := List.mem_map.1 htext
    exact ⟨t, (mem_candidates hr).2 ⟨e, he, hwhere, ht⟩, hpasses⟩

theorem Holds.perm {c : Condition} {entries entries' : List (Option String × List String)}
    (h : c.Holds entries) (hperm : entries.Perm entries') : c.Holds entries' := by
  obtain ⟨e, he, htext⟩ := h
  exact ⟨e, hperm.mem_iff.1 he, htext⟩

end Condition

/-- Names that are apart in one record are so in another that has the same entries in small letters.
-/
theorem Record.KeysApart.of_perm {r r' : Record} (hr : r.KeysApart)
    (hperm : r.folded.Perm r'.folded) : r'.KeysApart := by
  have hkeys : ∀ s : Record,
      s.folded.filterMap Prod.fst = s.entries.filterMap fun e => e.1.folded? :=
    fun s => List.filterMap_map
  rw [KeysApart, ← hkeys] at hr ⊢
  exact (hperm.filterMap Prod.fst).nodup_iff.1 hr

theorem Condition.matches_congr_folded {c c' : Condition} {r r' : Record} (hr : r.KeysApart)
    (hrecord : r.folded.Perm r'.folded) (hc : c.folded = c'.folded) :
    Condition.matches r c = Condition.matches r' c' := by
  rw [Bool.eq_iff_iff, matches_iff_holds hr, matches_iff_holds (hr.of_perm hrecord), hc]
  exact ⟨fun h => h.perm hrecord, fun h => h.perm hrecord.symm⟩

/-- An item matches whatever it is alike to does, if the group that it may be does. -/
theorem Item.matches_congr_folded {i j : Item} {r r' : Record} (hr : r.KeysApart)
    (hrecord : r.folded.Perm r'.folded) (hij : i.folded = j.folded)
    (hgroup : ∀ k, i = .group k → ∀ k' : Query, k.folded = k'.folded →
      Group.matches r k = Group.matches r' k') :
    i.matches r = j.matches r' := by
  cases i with
  | condition c =>
    cases j with
    | condition c' => exact Condition.matches_congr_folded hr hrecord (Item.condition.inj hij)
    | group k' => exact absurd hij (by simp [Item.folded])
  | group k =>
    cases j with
    | condition c' => exact absurd hij (by simp [Item.folded])
    | group k' => exact hgroup k rfl k' (Item.group.inj hij)

theorem Group.matches_congr_folded {g g' : Query} {r r' : Record} (hr : r.KeysApart)
    (hrecord : r.folded.Perm r'.folded) (hg : g.folded = g'.folded) :
    Group.matches r g = Group.matches r' g' := by
  induction g using Group.induction generalizing g' with
  | step g hinc hexc =>
    obtain ⟨hmode, hincluded, hexcluded⟩ := Group.folded_eq_iff.1 hg
    refine Group.matches_of_forall₂ hmode ?_ ?_
    · refine forall₂_imp_of_mem hincluded fun i hi j hij => ?_
      refine Item.matches_congr_folded hr hrecord hij ?_
      rintro k rfl k' hk
      exact hinc k hi hk
    · refine forall₂_imp_of_mem hexcluded fun i hi j hij => ?_
      refine Item.matches_congr_folded hr hrecord hij ?_
      rintro k rfl k' hk
      exact hexc k hi hk

/-- **Matching ignores case and order.** Two trees are the same in small letters, and so are the
entries of two records in some order, where no two names of one record are. Then one tree matches
the one record if the other does the other. -/
theorem matches_eq_of_folded {i j : Item} {r r' : Record} (hr : r.KeysApart)
    (hrecord : r.folded.Perm r'.folded) (htree : i.folded = j.folded) :
    i.matches r = j.matches r' :=
  Item.matches_congr_folded hr hrecord htree fun _ _ _ hk =>
    Group.matches_congr_folded hr hrecord hk

/-- A record in capitals, with a key that is no text and a list with more than texts. -/
def capitalRecord : Record :=
  ⟨[(.name "TITLE", .text "ΟΔΟΣ"), (.other, .bool true),
    (.name "Tags", .list [.text "NEW", .null, .text ""])]⟩

/-- The record in small letters, with its entries in another order. -/
def smallRecord : Record :=
  ⟨[(.name "tags", .list [.text "new", .text ""]), (.other, .null), (.name "title", .text "οδος")]⟩

/-- A query in capitals. -/
def capitalQuery : Query :=
  ⟨.and, [.condition ⟨some "TITLE", "ΟΔΟΣ", .exact⟩,
    .group ⟨.or, [.condition ⟨none, "X", .contains⟩, .condition ⟨none, "NEW", .contains⟩], []⟩],
    [.condition ⟨some "TITLE", "NEW", .contains⟩]⟩

/-- The query in small letters. -/
def smallQuery : Query :=
  ⟨.and, [.condition ⟨some "title", "οδος", .exact⟩,
    .group ⟨.or, [.condition ⟨none, "x", .contains⟩, .condition ⟨none, "new", .contains⟩], []⟩],
    [.condition ⟨some "title", "new", .contains⟩]⟩

/-- The last capital of the title becomes the letter that stands at the end of a word. -/
theorem matches_capitalRecord :
    capitalRecord.KeysApart ∧ capitalRecord.folded.Perm smallRecord.folded ∧
      (Item.group capitalQuery).folded = (Item.group smallQuery).folded ∧
      Item.matches capitalRecord (.group capitalQuery) = true ∧
      Item.matches capitalRecord (.group smallQuery) = true ∧
      Item.matches smallRecord (.group capitalQuery) = true := by
  have hapart : capitalRecord.KeysApart := by decide +kernel
  have hcapital : capitalRecord.folded =
      [(some "title", ["οδος"]), (none, []), (some "tags", ["new", ""])] := by decide +kernel
  have hother : smallRecord.folded =
      [(some "tags", ["new", ""]), (none, []), (some "title", ["οδος"])] := by decide +kernel
  have hrecord : capitalRecord.folded.Perm smallRecord.folded := by
    rw [hcapital, hother]
    decide
  have hfolded : capitalQuery.folded = smallQuery := by decide +kernel
  have hfolds : smallQuery.folded = smallQuery := by decide +kernel
  have htree : (Item.group capitalQuery).folded = (Item.group smallQuery).folded :=
    congrArg Item.group (hfolded.trans hfolds.symm)
  have hsmall : Item.matches smallRecord (.group smallQuery) = true := by decide +kernel
  refine ⟨hapart, hrecord, htree, ?_, ?_, ?_⟩
  · rw [matches_eq_of_folded hapart hrecord htree, hsmall]
  · rw [matches_eq_of_folded hapart hrecord rfl, hsmall]
  · rw [matches_eq_of_folded (hapart.of_perm hrecord) (.refl _) htree, hsmall]

end RecordSearch
