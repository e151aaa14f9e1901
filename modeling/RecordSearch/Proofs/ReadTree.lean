import Mathlib.Data.List.Infix
import RecordSearch.Proofs.Pieces

/-!
# The trees that are read

What every tree that is read has in common: its conditions are spelled by tokens, and its groups are
not nested deeper than the greatest depth. `parse_spec` puts both together for a text whose quotes
come in pairs.
-/

namespace RecordSearch

/-! ### Joined groups -/

namespace Group

variable {g h : Query} {i : Item} {c : Condition} {n : Nat} {side : Side}

theorem mem_conditions_append :
    c ∈ (g ++ h).conditions ↔ c ∈ g.conditions ∨ c ∈ h.conditions := by
  simp only [mem_conditions, included_append, excluded_append, List.mem_append]
  constructor
  · rintro ⟨j, (hj | hj) | (hj | hj), hc⟩
    · exact .inl ⟨j, .inl hj, hc⟩
    · exact .inr ⟨j, .inl hj, hc⟩
    · exact .inl ⟨j, .inr hj, hc⟩
    · exact .inr ⟨j, .inr hj, hc⟩
  · rintro (⟨j, hj, hc⟩ | ⟨j, hj, hc⟩)
    · exact ⟨j, hj.imp .inl .inl, hc⟩
    · exact ⟨j, hj.imp .inr .inr, hc⟩

theorem mem_conditions_single : c ∈ (single side i).conditions ↔ c ∈ i.conditions := by
  rw [mem_conditions]
  cases side <;> simp

theorem nesting_append_le_iff : (g ++ h).nesting ≤ n ↔ g.nesting ≤ n ∧ h.nesting ≤ n := by
  simp only [nesting_le_iff, included_append, excluded_append, List.mem_append]
  constructor
  · intro hle
    exact ⟨fun j hj => hle j (hj.imp .inl .inl), fun j hj => hle j (hj.imp .inr .inr)⟩
  · rintro ⟨hg, hh⟩ j ((hj | hj) | (hj | hj))
    · exact hg j (.inl hj)
    · exact hh j (.inl hj)
    · exact hg j (.inr hj)
    · exact hh j (.inr hj)

theorem nesting_single_le_iff : (single side i).nesting ≤ n ↔ i.nesting ≤ n := by
  rw [nesting_le_iff]
  cases side <;> simp

end Group

/-! ### Conditions -/

/-- What is left over from a group is the end of the tokens. -/
theorem rest_readGroup_isSuffix (d : Int) (tokens : List String) :
    (readGroup d tokens).rest <:+ tokens := by
  induction d, tokens using readGroup_induction with
  | nil d => rw [readGroup_nil]
  | close d rest => rw [readGroup_close]
  | tilde d rest ih =>
    rw [readGroup_tilde, Reading.rest_prepend]
    exact ih.trans (List.suffix_cons _ _)
  | leaf d token rest side c hsign ih =>
    rw [readGroup_leaf hsign, Reading.rest_prepend]
    exact ih.trans (List.suffix_cons _ _)
  | group d side behind hd ihin ih =>
    rw [readGroup_opening side hd, Reading.rest_addGroup]
    exact ih.trans (((List.tail_suffix _).trans ihin).trans (List.suffix_append _ _))
  | bracket d side behind hd ih =>
    rw [readGroup_bracket side hd, Reading.rest_addBracket]
    exact ih.trans (List.suffix_append _ _)

/-- A bracket that is read as a term is the condition that a bracket would spell. -/
theorem Sign.ofLeaf_bracket :
    Sign.ofLeaf "(" = .leaf .included ⟨none, "(", .contains⟩ := by
  decide

/-- The conditions of a tree are those that its tokens spell. -/
theorem exists_token_of_mem_conditions {d : Int} {tokens : List String} {c : Condition}
    (hc : c ∈ (readGroup d tokens).group.conditions) :
    ∃ token ∈ tokens, ∃ side, Sign.ofLeaf token = .leaf side c := by
  induction d, tokens using readGroup_induction with
  | nil d =>
    rw [readGroup_nil] at hc
    exact absurd hc List.not_mem_nil
  | close d rest =>
    rw [readGroup_close] at hc
    exact absurd hc List.not_mem_nil
  | tilde d rest ih =>
    rw [readGroup_tilde, Reading.group_prepend, Group.mem_conditions_append] at hc
    rcases hc with hc | hc
    · exact absurd hc List.not_mem_nil
    · obtain ⟨token, hmem, h⟩ := ih hc
      exact ⟨token, List.mem_cons_of_mem _ hmem, h⟩
  | leaf d token rest side k hsign ih =>
    rw [readGroup_leaf hsign, Reading.group_prepend, Group.mem_conditions_append,
      Group.mem_conditions_single] at hc
    rcases hc with hc | hc
    · obtain rfl : c = k := List.mem_singleton.1 hc
      exact ⟨token, List.mem_cons_self .., side, (Sign.of_ofTokens_leaf hsign).2.2.2.2⟩
    · obtain ⟨token', hmem, h⟩ := ih hc
      exact ⟨token', List.mem_cons_of_mem _ hmem, h⟩
  | group d side behind hd ihin ih =>
    rw [readGroup_opening side hd, Reading.group_addGroup, Group.mem_conditions_append,
      Group.mem_conditions_single] at hc
    rcases hc with hc | hc
    · obtain ⟨token, hmem, h⟩ := ihin hc
      exact ⟨token, List.mem_append_right _ hmem, h⟩
    · obtain ⟨token, hmem, h⟩ := ih hc
      have hlater := (rest_readGroup_isSuffix (d + 1) behind).subset (List.mem_of_mem_tail hmem)
      exact ⟨token, List.mem_append_right _ hlater, h⟩
  | bracket d side behind hd ih =>
    rw [readGroup_bracket side hd, Reading.group_addBracket, Group.mem_conditions_append,
      Group.mem_conditions_single] at hc
    rcases hc with hc | hc
    · obtain rfl := List.mem_singleton.1 hc
      have hmem : "(" ∈ side.opening ++ behind := by
        rw [Side.opening, List.append_assoc]
        exact List.mem_append_right _ (List.mem_cons_self ..)
      exact ⟨"(", hmem, .included, Sign.ofLeaf_bracket⟩
    · obtain ⟨token, hmem, h⟩ := ih hc
      exact ⟨token, List.mem_append_right _ hmem, h⟩

/-! ### Nesting -/

/-- Groups are not nested deeper than there are levels left. -/
theorem nesting_readGroup_le {d : Int} {tokens : List String} {n : Nat} (hn : maxDepth ≤ d + n) :
    (readGroup d tokens).group.nesting ≤ n := by
  induction d, tokens using readGroup_induction generalizing n with
  | nil d =>
    rw [readGroup_nil]
    exact Nat.zero_le n
  | close d rest =>
    rw [readGroup_close]
    exact Nat.zero_le n
  | tilde d rest ih =>
    rw [readGroup_tilde, Reading.group_prepend, Group.nesting_append_le_iff]
    exact ⟨Nat.zero_le n, ih hn⟩
  | leaf d token rest side c hsign ih =>
    rw [readGroup_leaf hsign, Reading.group_prepend, Group.nesting_append_le_iff,
      Group.nesting_single_le_iff]
    exact ⟨Nat.zero_le n, ih hn⟩
  | group d side behind hd ihin ih =>
    -- the group takes one level, which is there
    obtain ⟨m, rfl⟩ : ∃ m, n = m + 1 := ⟨n - 1, by omega⟩
    rw [readGroup_opening side hd, Reading.group_addGroup, Group.nesting_append_le_iff,
      Group.nesting_single_le_iff]
    exact ⟨Nat.succ_le_succ (ihin (by push_cast at hn; omega)), ih hn⟩
  | bracket d side behind hd ih =>
    rw [readGroup_bracket side hd, Reading.group_addBracket, Group.nesting_append_le_iff,
      Group.nesting_single_le_iff]
    exact ⟨Nat.zero_le n, ih hn⟩

/-! ### Parsed texts -/

/-- The conditions of a parsed text are readable, and if the quotes of the text come in pairs, so do
those of their terms. Its groups are nested at most a hundred deep. -/
theorem parse_spec (q : String) :
    (parse q).nesting ≤ 100 ∧ ∀ c ∈ (parse q).conditions,
      c.Readable ∧ (EvenQuotes q.toList → EvenQuotes c.term.toList) := by
  refine ⟨nesting_readGroup_le (by decide), fun c hc => ?_⟩
  obtain ⟨token, hmem, side, hleaf⟩ := exists_token_of_mem_conditions hc
  obtain ⟨text, htext, rfl⟩ := Sign.of_ofLeaf_eq hleaf
  obtain ⟨hreadable, -, hquotes⟩ := Condition.ofChars_spec text
  refine ⟨hreadable, fun heven => hquotes ?_⟩
  rw [tokenize_eq] at hmem
  have htoken := evenQuotes_of_mem_tokensOf heven hmem
  rwa [htext, evenQuotes_append side.evenQuotes_dash] at htoken

end RecordSearch
