import RecordSearch.Proofs.StackMachine

/-!
# Closing brackets at the end

A query may leave brackets open, and closing them at its end changes nothing; nor does a bracket too
many, which ends the query. So a text behind which enough brackets are closed stands for itself,
whatever is written behind them.

The stack of the machine says how many are enough: one more than there are groups open inside the
outermost one when the tokens run out (`openAtEnd`). `parse_closings` says that so many are enough,
and that fewer are not.
-/

namespace RecordSearch

namespace OpenGroups

variable {depth : Int} {s t : OpenGroups} {index : Nat} {more : List String}

/-! ### Closing one group -/

theorem pop?_eq_some (h : s.pop? = some t) :
    t.close = s.close ∧ t.below.length + 1 = s.below.length := by
  obtain ⟨top, below⟩ := s
  cases below with
  | nil => exact absurd h (by simp [pop?])
  | cons p below =>
    obtain rfl := Option.some.inj h
    exact ⟨rfl, rfl⟩

theorem pop?_eq_none (h : s.pop? = none) : s.below = [] := by
  obtain ⟨top, below⟩ := s
  cases below with
  | nil => rfl
  | cons p below => exact absurd h (by simp [pop?])

/-! ### Tokens behind others -/

theorem run_giveCondition {token : String} {rest : List String} (hclose : token ≠ ")")
    (htilde : token ≠ "~") (hopen : token ≠ "(")
    (hdash : ¬(token = "-" ∧ rest.head? = some "(")) :
    run depth s index (token :: rest) = run depth (s.giveCondition token) (index + 1) rest := by
  rw [run]
  · exact htilde
  · exact hopen
  · rintro behind rfl rfl
    exact hdash ⟨rfl, rfl⟩
  · exact hclose

/-- Either a closing bracket too many stops the machine among the first tokens, or it gets to their
end and goes on from there. The tokens behind may not start with a bracket that a dash could take
along. -/
theorem run_append (hmore : more.head? ≠ some "(") (depth : Int) (s : OpenGroups)
    (tokens : List String) {last : Nat} (hlast : index + tokens.length = last) :
    ((run depth s index tokens).2 < last ∧ (run depth s index tokens).1.below = [] ∧
        run depth s index (tokens ++ more) = run depth s index tokens) ∨
      ((run depth s index tokens).2 = last ∧ run depth s index (tokens ++ more) =
        run depth (run depth s index tokens).1 last more) := by
  -- along the rules of the machine; only a bracket too many (`case6`) stops it
  fun_induction run depth s index tokens with
  | case1 s index =>
    obtain rfl : index = last := hlast
    exact .inr ⟨rfl, rfl⟩
  | case2 s index rest ih =>
    rw [List.length_cons] at hlast
    exact ih (by omega)
  | case3 s index rest ih =>
    rw [List.length_cons] at hlast
    exact ih (by omega)
  | case4 s index rest ih =>
    rw [List.length_cons, List.length_cons] at hlast
    exact ih (by omega)
  | case5 s index rest t hpop ih =>
    rw [List.length_cons] at hlast
    rw [List.cons_append, run_close, hpop]
    exact ih (by omega)
  | case6 s index rest hpop =>
    rw [List.length_cons] at hlast
    refine .inl ⟨by omega, pop?_eq_none hpop, ?_⟩
    rw [List.cons_append, run_close, hpop]
  | case7 s index token rest htilde hopen hdash hclose ih =>
    rw [List.length_cons] at hlast
    have hdash' : ¬(token = "-" ∧ (rest ++ more).head? = some "(") := by
      rintro ⟨rfl, hhead⟩
      cases rest with
      | nil => exact hmore hhead
      | cons next rest =>
        obtain rfl : next = "(" := Option.some.inj hhead
        exact hdash rest rfl rfl
    rw [List.cons_append, run_giveCondition hclose htilde hopen hdash']
    exact ih (by omega)

/-! ### Closing what is open -/

/-- Closing brackets do what the end of the tokens does. Nothing matters behind them if there are
more of them than groups are open. -/
theorem close_run_closings {k : Nat} (h : more = [] ∨ s.below.length < k) :
    (run depth s index (List.replicate k ")" ++ more)).1.close = s.close := by
  induction k generalizing s index with
  | zero =>
    obtain rfl : more = [] := h.resolve_right (Nat.not_lt_zero _)
    rw [List.replicate_zero, List.nil_append, run_nil]
  | succ k ih =>
    rw [List.replicate_succ, List.cons_append, run_close]
    cases hpop : s.pop? with
    | none => rfl
    | some t =>
      obtain ⟨hclose, hlength⟩ := pop?_eq_some hpop
      rw [← hclose]
      exact ih (h.imp_right fun hlt => by omega)

/-- Behind no more closing brackets than groups are open, the machine goes on. -/
theorem exists_run_closings {k : Nat} (h : k ≤ s.below.length) :
    ∃ t : OpenGroups, t.close = s.close ∧
      run depth s index (List.replicate k ")" ++ more) = run depth t (index + k) more := by
  induction k generalizing s index with
  | zero => exact ⟨s, rfl, rfl⟩
  | succ k ih =>
    cases hpop : s.pop? with
    | none =>
      rw [pop?_eq_none hpop] at h
      exact absurd h (Nat.not_succ_le_zero k)
    | some t =>
      obtain ⟨hclose, hlength⟩ := pop?_eq_some hpop
      obtain ⟨u, hu, hrun⟩ := @ih t (index + 1) (by omega)
      refine ⟨u, hu.trans hclose, ?_⟩
      rw [List.replicate_succ, List.cons_append, run_close, hpop, Nat.add_comm k, ← Nat.add_assoc]
      exact hrun

/-- Every open group stands somewhere in what the stack closes to. -/
theorem popAll_injective (below : List (Side × Query)) :
    Function.Injective fun top => popAll top below := by
  induction below with
  | nil => exact fun _ _ h => h
  | cons p below ih =>
    obtain ⟨side, g⟩ := p
    intro top top' h
    have hadd : g.add (.group top) side = g.add (.group top') side := ih h
    have hside := congrArg (Group.side · side) hadd
    simpa using hside

/-- An item more in the top group makes a difference. -/
theorem close_give_ne (s : OpenGroups) (side : Side) (i : Item) :
    (s.give side i).close ≠ s.close := by
  intro h
  have htop : s.top.add i side = s.top := popAll_injective s.below h
  have hlength := congrArg (fun g => (Group.side g side).length) htop
  simp at hlength

end OpenGroups

/-! ### Closing brackets behind a text -/

/-- How many groups are open inside the outermost one when the tokens run out: none, if a bracket
too many has ended the query before. -/
def openAtEnd (tokens : List String) : Nat := (OpenGroups.run 0 {} 0 tokens).1.below.length

/-- Closing brackets. -/
def closings (k : Nat) : String := String.ofList (List.replicate k ')')

theorem parse_eq_close (q : String) :
    parse q = (OpenGroups.run 0 {} 0 (tokenize q)).1.close := by
  rw [parse_eq_machine, machine, List.drop_zero]

/-- The machine stops in front of what the reader leaves over. -/
theorem run_index (tokens : List String) :
    (OpenGroups.run 0 {} 0 tokens).2 = tokens.length - (readGroup 0 tokens).rest.length := by
  have hmachine := congrArg Prod.snd (machine_eq tokens 0 0)
  rwa [machine, List.drop_zero, Nat.zero_add] at hmachine

theorem tokensOf_cons {c : Char} (hc : isStructural c = true) (rest : List Char) :
    tokensOf (c :: rest) = structuralToken c ++ tokensOf rest := by
  have h := tokensOf_append evenQuotes_nil hc rest
  rwa [List.nil_append, tokensOf_nil, List.nil_append] at h

theorem tokensOf_append_cons {a : List Char} (ha : EvenQuotes a) {c : Char}
    (hc : isStructural c = true) (rest : List Char) :
    tokensOf (a ++ c :: rest) = tokensOf a ++ tokensOf (c :: rest) := by
  rw [tokensOf_append ha hc, tokensOf_cons hc, List.append_assoc]

theorem tokensOf_closings (k : Nat) (text : List Char) :
    tokensOf (List.replicate k ')' ++ text) = List.replicate k ")" ++ tokensOf text := by
  induction k with
  | zero => rfl
  | succ k ih =>
    rw [List.replicate_succ, List.cons_append, tokensOf_cons rfl, ih]
    rfl

/-- Closing brackets behind a text whose quotes come in pairs are tokens of their own. -/
theorem tokenize_append_closings {a : String} (ha : EvenQuotes a.toList) {k : Nat} (b : String)
    (h : k = 0 → b = "" ∨ ∃ c rest, b.toList = c :: rest ∧ isStructural c = true) :
    tokenize (a ++ closings k ++ b) = tokenize a ++ (List.replicate k ")" ++ tokenize b) := by
  simp only [tokenize_eq, String.toList_append, closings, String.toList_ofList, List.append_assoc]
  cases k with
  | zero =>
    rcases h rfl with rfl | ⟨c, rest, hb, hc⟩
    · simp
    · rw [hb]
      exact tokensOf_append_cons ha hc rest
  | succ k =>
    rw [← tokensOf_closings, List.replicate_succ, List.cons_append]
    exact tokensOf_append_cons ha rfl _

/-- What is read of tokens in front of closing brackets and others. -/
theorem run_append_closings (tokens : List String) (k : Nat) {more : List String}
    (h : k = 0 → more.head? ≠ some "(") :
    ((readGroup 0 tokens).rest ≠ [] ∧ openAtEnd tokens = 0 ∧
        OpenGroups.run 0 {} 0 (tokens ++ (List.replicate k ")" ++ more)) =
          OpenGroups.run 0 {} 0 tokens) ∨
      ((readGroup 0 tokens).rest = [] ∧
        OpenGroups.run 0 {} 0 (tokens ++ (List.replicate k ")" ++ more)) =
          OpenGroups.run 0 (OpenGroups.run 0 {} 0 tokens).1 tokens.length
            (List.replicate k ")" ++ more)) := by
  have hhead : (List.replicate k ")" ++ more).head? ≠ some "(" := by
    cases k with
    | zero => exact h rfl
    | succ k => simp [List.replicate_succ]
  have hindex := run_index tokens
  have hle := length_rest_readGroup_le 0 tokens
  obtain ⟨hlt, hbelow, hrun⟩ | ⟨heq, hrun⟩ :=
    OpenGroups.run_append hhead 0 {} tokens (Nat.zero_add _)
  · refine .inl ⟨?_, ?_, hrun⟩
    · rintro hnil
      rw [hnil, List.length_nil] at hindex
      omega
    · rw [openAtEnd, hbelow, List.length_nil]
  · refine .inr ⟨List.eq_nil_of_length_eq_zero ?_, hrun⟩
    omega

/-- **Brackets closed at the end.** Behind a text whose quotes come in pairs, any number of closing
brackets leaves the query as it is; and so does whatever stands behind one bracket more than there
are groups open at its end. So many it takes, unless the query has ended before: behind fewer
brackets, there is something that makes a difference. -/
theorem parse_closings (a : String) (ha : EvenQuotes a.toList) :
    (∀ k, parse (a ++ closings k) = parse a) ∧
    (∀ b, parse (a ++ closings (openAtEnd (tokenize a) + 1) ++ b) = parse a) ∧
    ((readGroup 0 (tokenize a)).rest ≠ [] → openAtEnd (tokenize a) = 0) ∧
    ((readGroup 0 (tokenize a)).rest = [] → ∀ m ≤ openAtEnd (tokenize a),
      ∃ b, parse (a ++ closings m ++ b) ≠ parse a) := by
  have hclosed : ∀ (k : Nat) (b : String), b = "" ∨ openAtEnd (tokenize a) < k →
      parse (a ++ closings k ++ b) = parse a := by
    intro k b h
    have hb : k = 0 → b = "" := fun hk => h.resolve_right (by omega)
    have hmore : tokenize b = [] ∨ openAtEnd (tokenize a) < k := h.imp_left fun hb => by
      rw [hb]
      rfl
    rw [parse_eq_close, tokenize_append_closings ha b fun hk => .inl (hb hk), parse_eq_close a]
    have hhead : k = 0 → (tokenize b).head? ≠ some "(" := by
      intro hk
      rw [hb hk]
      exact nofun
    rcases run_append_closings (tokenize a) k hhead with ⟨-, -, hrun⟩ | ⟨-, hrun⟩
    · rw [hrun]
    · rw [hrun, OpenGroups.close_run_closings hmore]
  refine ⟨fun k => ?_, fun b => hclosed _ b (.inr (Nat.lt_succ_self _)), ?_, ?_⟩
  · have h := hclosed k "" (.inl rfl)
    rwa [String.append_empty] at h
  · intro hrest
    have hhead : 0 = 0 → ([] : List String).head? ≠ some "(" := fun _ => nofun
    rcases run_append_closings (tokenize a) 0 hhead with ⟨-, hzero, -⟩ | ⟨hnil, -⟩
    · exact hzero
    · exact absurd hnil hrest
  · -- a further condition stands in the group that is still open
    intro hrest m hm
    have hx : tokenize " x" = ["x"] := by decide
    refine ⟨" x", ?_⟩
    rw [parse_eq_close, tokenize_append_closings ha " x" fun _ => .inr ⟨' ', ['x'], rfl, rfl⟩,
      hx, parse_eq_close a]
    have hhead : m = 0 → ["x"].head? ≠ some "(" := fun _ => by decide
    rcases run_append_closings (tokenize a) m hhead with ⟨hne, -, -⟩ | ⟨-, hrun⟩
    · exact absurd hrest hne
    · obtain ⟨t, ht, hopen⟩ := OpenGroups.exists_run_closings hm
      rw [hrun, hopen, ← ht]
      exact OpenGroups.close_give_ne t .included _

/-- Two groups are open at the end, as the first bracket is closed again and a dash stands in front
of the last one. -/
theorem parse_closings_two_open :
    EvenQuotes "a (b) (c -(\"(\" ~".toList ∧
      parse ("a (b) (c -(\"(\" ~" ++ closings 3 ++ "\" ~(") = parse "a (b) (c -(\"(\" ~" := by
  have heven : EvenQuotes "a (b) (c -(\"(\" ~".toList := by decide
  have htokens : tokenize "a (b) (c -(\"(\" ~" =
      ["a", "(", "b", ")", "(", "c", "-", "(", "\"(\"", "~"] := by decide
  have hopen : openAtEnd ["a", "(", "b", ")", "(", "c", "-", "(", "\"(\"", "~"] = 2 := by decide
  have h := (parse_closings _ heven).2.1 "\" ~("
  rw [htokens, hopen] at h
  exact ⟨heven, h⟩

end RecordSearch
