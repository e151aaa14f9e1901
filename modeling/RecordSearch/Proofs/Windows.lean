import RecordSearch.Proofs.ReadTree

/-!
# Reading from any index

A reader that goes by indices sees, from index zero or a later one on, the tokens from there to the
end. From a negative index on it sees the last tokens first, and behind them all the tokens. Either
way it sees an end of the tokens written twice, and wherever it gets, the number of tokens that it
still sees says at which index it is.

`readFrom_of_isSuffix` has the rules of reading for the tokens that are seen, and `readFrom_eq`
follows: the reader by indices and the one that takes the tokens one by one make the same group of
what they see, and end at the same token. So the index to start from only selects a window on the
tokens (`parseTokens_eq_window`, `parseTokens_shifted`).
-/

namespace RecordSearch

/-! ### The tokens that are seen -/

section Seen

variable {tokens rest : List String} {token : String}

/-- How many tokens are seen says at which index the first of them stands. -/
theorem tokenAt?_of_isSuffix (h : token :: rest <:+ tokens ++ tokens) :
    tokenAt? tokens (tokens.length - (token :: rest).length) = some token := by
  obtain ⟨front, hfront⟩ := h
  have hlength := congrArg List.length hfront
  rw [List.length_append, List.length_append, List.length_cons] at hlength
  have htoken : (tokens ++ tokens)[front.length]? = some token := by
    rw [← hfront, List.getElem?_append_right (Nat.le_refl _), Nat.sub_self]
    rfl
  rw [tokenAt?, List.length_cons]
  by_cases hstart : (0 : Int) ≤ tokens.length - (rest.length + 1 : Nat)
  · have hindex : ((tokens.length : Int) - (rest.length + 1 : Nat)).toNat =
        front.length - tokens.length := by omega
    rw [if_pos hstart, hindex, ← List.getElem?_append_right (by omega), htoken]
  · have hindex : tokens.length - (-((tokens.length : Int) - (rest.length + 1 : Nat))).toNat =
        front.length := by omega
    rw [if_neg hstart, if_pos (by omega), hindex, ← List.getElem?_append_left (by omega), htoken]

theorem tokenBehind_of_isSuffix (h : token :: rest <:+ tokens ++ tokens) :
    tokenBehind tokens (tokens.length - (token :: rest).length) = rest.take 1 := by
  have hindex : (tokens.length : Int) - (token :: rest).length + 1 =
      tokens.length - rest.length := by
    rw [List.length_cons]
    omega
  rw [tokenBehind, hindex]
  cases rest with
  | nil => simp
  | cons next rest =>
    have hnext := tokenAt?_of_isSuffix ((List.suffix_cons token _).trans h)
    rw [hnext, if_pos (by rw [List.length_cons]; omega)]
    rfl

/-- One of the tokens behind is enough to tell what a token means. -/
theorem Sign.ofTokens_take (token : String) (rest : List String) :
    (Sign.ofTokens token (rest.take 1)).1 = (Sign.ofTokens token rest).1 ∧
    (rest.take 1).length - (Sign.ofTokens token (rest.take 1)).2.length =
      rest.length - (Sign.ofTokens token rest).2.length := by
  have hhead : (rest.take 1).head? = rest.head? := by
    cases rest <;> rfl
  simp only [Sign.ofTokens, hhead]
  by_cases hdash : token = "-" ∧ rest.head? = some "("
  · obtain ⟨rfl, hopen⟩ := hdash
    obtain ⟨behind, rfl⟩ := List.head?_eq_some_iff.1 hopen
    simp
  · simp only [if_neg hdash]
    repeat' split
    all_goals simp

/-- The rules of reading, for the tokens that are seen. -/
theorem readFrom_of_isSuffix (h : token :: rest <:+ tokens ++ tokens) (d : Int) (g : Query) :
    readFrom tokens d (tokens.length - (token :: rest).length) g =
      let behind := (Sign.ofTokens token rest).2
      match (Sign.ofTokens token rest).1 with
      | .closing => .ok (g, tokens.length - (token :: rest).length)
      | .or => readFrom tokens d (tokens.length - behind.length) { g with mode := .or }
      | .opening side =>
        if d < maxDepth then
          (readFrom tokens (d + 1) (tokens.length - behind.length) {}).bind fun inner =>
            readFrom tokens d (inner.2 + 1) (g.add (.group inner.1) side)
        else readFrom tokens d (tokens.length - behind.length)
          (g.add (.condition ⟨none, "(", .contains⟩) side)
      | .leaf side c =>
        readFrom tokens d (tokens.length - behind.length) (g.add (.condition c) side) := by
  have htoken : tokenAt tokens (tokens.length - (token :: rest).length) = .ok token := by
    rw [tokenAt, tokenAt?_of_isSuffix h]
  have hindex : (tokens.length : Int) - (token :: rest).length < tokens.length := by
    rw [List.length_cons]
    omega
  obtain ⟨hfirst, htaken⟩ := Sign.ofTokens_take token rest
  have hle := Sign.length_ofTokens_le token rest
  have hsign : (Sign.ofIndex tokens (tokens.length - (token :: rest).length) token).1 =
      (Sign.ofTokens token rest).1 := by
    simp only [Sign.ofIndex, tokenBehind_of_isSuffix h, hfirst]
  have hlater : (Sign.ofIndex tokens (tokens.length - (token :: rest).length) token).2.1 =
      tokens.length - (Sign.ofTokens token rest).2.length := by
    simp only [Sign.ofIndex, tokenBehind_of_isSuffix h, htaken]
    rw [List.length_cons]
    omega
  have hrule : readFrom tokens d (tokens.length - (token :: rest).length) g = _ :=
    readFrom_of_token hindex htoken
  rw [hlater, hsign] at hrule
  exact hrule

/-- What opens a group on either side is one sign. -/
theorem readFrom_opening {side : Side} (h : side.opening ++ rest <:+ tokens ++ tokens) (d : Int)
    (g : Query) :
    readFrom tokens d (tokens.length - (side.opening ++ rest).length) g =
      if d < maxDepth then
        (readFrom tokens (d + 1) (tokens.length - rest.length) {}).bind fun inner =>
          readFrom tokens d (inner.2 + 1) (g.add (.group inner.1) side)
      else readFrom tokens d (tokens.length - rest.length)
        (g.add (.condition ⟨none, "(", .contains⟩) side) := by
  obtain ⟨token, behind, hopening⟩ := side.exists_opening_append rest
  rw [hopening] at h ⊢
  rw [readFrom_of_isSuffix h, ofTokens_opening hopening]

end Seen

/-! ### The two readers -/

/-- The reader by indices adds to a group what the other reader makes of the tokens that are seen,
and ends at the first token that the other one leaves over. -/
theorem readFrom_eq (tokens : List String) (d : Int) (seen : List String)
    (h : seen <:+ tokens ++ tokens) (g : Query) :
    readFrom tokens d (tokens.length - seen.length) g =
      .ok (g ++ (readGroup d seen).group, tokens.length - (readGroup d seen).rest.length) := by
  induction d, seen using readGroup_induction generalizing g with
  | nil d =>
    rw [readFrom_of_le (by simp), readGroup_nil, Group.append_empty]
    simp
  | close d rest =>
    rw [readFrom_of_isSuffix h, readGroup_close]
    simp [Sign.ofTokens]
  | tilde d rest ih =>
    have hrest := (List.suffix_cons "~" rest).trans h
    rw [readFrom_of_isSuffix h, readGroup_tilde]
    show readFrom tokens d (tokens.length - rest.length) { g with mode := .or } = _
    rw [ih hrest, Group.withOr_eq_append, Group.append_assoc]
    rfl
  | leaf d token rest side c hsign ih =>
    have hrest := (List.suffix_cons token rest).trans h
    rw [readFrom_of_isSuffix h, readGroup_leaf hsign, hsign]
    show readFrom tokens d (tokens.length - rest.length) (g.add (.condition c) side) = _
    rw [ih hrest, Group.add_eq_append, Group.append_assoc]
    rfl
  | group d side behind hd ihin ih =>
    have hbehind := (List.suffix_append side.opening behind).trans h
    rw [readFrom_opening h, if_pos hd, ihin hbehind, Group.empty_append,
      readGroup_opening side hd, Reading.group_addGroup, Reading.rest_addGroup,
      ← Group.append_assoc, ← Group.add_eq_append]
    show readFrom tokens d (tokens.length - (readGroup (d + 1) behind).rest.length + 1) _ = _
    -- a group that is never closed ends at the number of tokens, and nothing is seen behind that
    rcases rest_readGroup (d + 1) behind with hrest | ⟨later, hrest⟩
    · rw [hrest, List.tail_nil, readGroup_nil, Group.append_empty]
      exact readFrom_of_le (by rw [List.length_nil]; omega)
    · have hinner := (rest_readGroup_isSuffix (d + 1) behind).trans hbehind
      have hindex : (tokens.length : Int) - (")" :: later).length + 1 =
          tokens.length - later.length := by
        rw [List.length_cons]
        omega
      rw [hrest] at hinner ih ⊢
      rw [hindex]
      exact ih ((List.suffix_cons ")" later).trans hinner) _
  | bracket d side behind hd ih =>
    have hbehind := (List.suffix_append side.opening behind).trans h
    rw [readFrom_opening h, if_neg hd, ih hbehind, readGroup_bracket side hd,
      Reading.group_addBracket, Reading.rest_addBracket, Group.add_eq_append, Group.append_assoc]

/-! ### Windows -/

/-- The tokens from index `start` on. A negative index counts from the end; behind the last tokens
then follow all the tokens. There is no window before the first token. -/
def window (tokens : List String) (start : Int) : Except IndexFault (List String) :=
  if 0 ≤ start then .ok (tokens.drop start.toNat)
  else if -start ≤ tokens.length then
    .ok (tokens.drop (tokens.length - (-start).toNat) ++ tokens)
  else if start < -(Nat.pow 2 63 : Int) then .error .tooLarge
  else .error .outOfRange

section Windows

variable (tokens : List String)

theorem window_natCast (s : Nat) : window tokens s = .ok (tokens.drop s) := by
  rw [window, if_pos (Int.natCast_nonneg s), Int.toNat_natCast]

theorem window_neg {k : Nat} (hpos : 1 ≤ k) (hk : k ≤ tokens.length) :
    window tokens (-k) = .ok (tokens.drop (tokens.length - k) ++ tokens) := by
  rw [window, if_neg (by omega), if_pos (by omega), Int.neg_neg, Int.toNat_natCast]

/-- Behind the end a window is empty. Every other one is an end of the tokens twice in a row, with
as many tokens as its index says. -/
theorem window_eq_ok {start : Int} {seen : List String} (h : window tokens start = .ok seen) :
    (tokens.length < start ∧ seen = []) ∨
      (seen <:+ tokens ++ tokens ∧ start = tokens.length - seen.length) := by
  unfold window at h
  split_ifs at h with hstart hwithin
  · obtain rfl := Except.ok.inj h
    by_cases hend : (tokens.length : Int) < start
    · exact .inl ⟨hend, List.drop_eq_nil_of_le (by omega)⟩
    · refine .inr ⟨(List.drop_suffix _ tokens).trans (List.suffix_append tokens tokens), ?_⟩
      rw [List.length_drop]
      omega
  · obtain rfl := Except.ok.inj h
    refine .inr ⟨?_, ?_⟩
    · rw [← List.drop_append_of_le_length (Nat.sub_le _ _)]
      exact List.drop_suffix _ _
    · rw [List.length_append, List.length_drop]
      omega

theorem tokenAt_of_window_error {start : Int} {fault : IndexFault}
    (h : window tokens start = .error fault) :
    start < tokens.length ∧ tokenAt tokens start = .error fault := by
  unfold window at h
  split_ifs at h with hstart hwithin hlarge
  all_goals
    have hnone : tokenAt? tokens start = none := by
      rw [tokenAt?, if_neg hstart, if_neg hwithin]
    refine ⟨by omega, ?_⟩
    rw [tokenAt, hnone]
    simp only [hlarge, if_true, if_false]
    exact congrArg Except.error (Except.error.inj h)

/-- **Reading through a window.** A group that is read from an index on is read from the tokens in
the window there, and ends at the first token that is left over. If there is no window, reading
fails with the same fault. -/
theorem parseTokens_eq_window (start depth : Int) :
    parseTokens tokens start depth = (window tokens start).map fun seen =>
      ((readGroup depth seen).group,
        (tokens.length : Int) - (readGroup depth seen).rest.length) := by
  cases hwindow : window tokens start with
  | error fault =>
    obtain ⟨hlt, hfault⟩ := tokenAt_of_window_error tokens hwindow
    exact readFrom_of_error hlt hfault
  | ok seen =>
    rcases window_eq_ok tokens hwindow with ⟨hend, rfl⟩ | ⟨hsuffix, hstart⟩
    · rw [parseTokens, readFrom_of_le (Int.le_of_lt hend)]
      simp [Except.map]
    · rw [parseTokens, hstart, readFrom_eq tokens depth seen hsuffix, Group.empty_append]
      rfl

theorem parseTokens_zero (depth : Int) :
    parseTokens tokens 0 depth = .ok ((readGroup depth tokens).group,
      tokens.length - (readGroup depth tokens).rest.length) := by
  rw [parseTokens_eq_window, window, if_pos (Int.le_refl 0)]
  rfl

/-- A query text is read from its first token on. -/
theorem parseTokens_tokenize (q : String) :
    ∃ stop, parseTokens (tokenize q) = .ok (parse q, stop) :=
  ⟨_, parseTokens_zero (tokenize q) 0⟩

/-- **The index to start from only selects a window.** From an index on, the group is the one that
is read from the first of the tokens there, and it ends as many tokens further on. From a negative
index on, it is the one that is read from the first of as many last tokens, with all the tokens
behind them, and it ends as many tokens earlier. -/
theorem parseTokens_shifted (depth : Int) :
    (∀ s : Nat, s ≤ tokens.length → ∃ (g : Query) (stop : Int),
      parseTokens (tokens.drop s) 0 depth = .ok (g, stop) ∧
      parseTokens tokens s depth = .ok (g, stop + s)) ∧
    (∀ k : Nat, 1 ≤ k → k ≤ tokens.length → ∃ (g : Query) (stop : Int),
      parseTokens (tokens.drop (tokens.length - k) ++ tokens) 0 depth = .ok (g, stop) ∧
      parseTokens tokens (-k) depth = .ok (g, stop - k)) := by
  constructor
  · intro s hs
    refine ⟨_, _, parseTokens_zero (tokens.drop s) depth, ?_⟩
    have hshift : ((tokens.drop s).length : Int) -
        (readGroup depth (tokens.drop s)).rest.length + s =
        tokens.length - (readGroup depth (tokens.drop s)).rest.length := by
      rw [List.length_drop]
      omega
    rw [parseTokens_eq_window, window_natCast, hshift]
    rfl
  · intro k hpos hk
    refine ⟨_, _, parseTokens_zero (tokens.drop (tokens.length - k) ++ tokens) depth, ?_⟩
    have hshift : ((tokens.drop (tokens.length - k) ++ tokens).length : Int) -
        (readGroup depth (tokens.drop (tokens.length - k) ++ tokens)).rest.length - k =
        tokens.length -
          (readGroup depth (tokens.drop (tokens.length - k) ++ tokens)).rest.length := by
      rw [List.length_append, List.length_drop]
      omega
    rw [parseTokens_eq_window, window_neg tokens hpos hk, hshift]
    rfl

end Windows

/-- The dash at the end and the bracket at the start are one sign here. -/
theorem parseTokens_shifted_dash_bracket :
    (1 ≤ ["(", "b", ")", "c", "-"].length ∧
      parseTokens ["b", ")", "c", "-"] 0 0 =
        .ok (⟨.and, [.condition ⟨none, "b", .contains⟩], []⟩, 1) ∧
      parseTokens ["(", "b", ")", "c", "-"] (1 : Nat) 0 =
        .ok (⟨.and, [.condition ⟨none, "b", .contains⟩], []⟩, 2)) ∧
    (1 ≤ 1 ∧ 1 ≤ ["(", "b", ")", "c", "-"].length ∧
      parseTokens ["-", "(", "b", ")", "c", "-"] 0 0 =
        .ok (⟨.and, [.condition ⟨none, "c", .contains⟩],
          [.group ⟨.and, [.condition ⟨none, "b", .contains⟩], []⟩,
            .condition ⟨none, "", .contains⟩]⟩, 6) ∧
      parseTokens ["(", "b", ")", "c", "-"] (-(1 : Nat)) 0 =
        .ok (⟨.and, [.condition ⟨none, "c", .contains⟩],
          [.group ⟨.and, [.condition ⟨none, "b", .contains⟩], []⟩,
            .condition ⟨none, "", .contains⟩]⟩, 5)) := by
  have hlength : 1 ≤ ["(", "b", ")", "c", "-"].length := by decide
  have hb : Sign.ofLeaf "b" = .leaf .included ⟨none, "b", .contains⟩ := by decide
  have hc : Sign.ofLeaf "c" = .leaf .included ⟨none, "c", .contains⟩ := by decide
  have hdash : Sign.ofLeaf "-" = .leaf .excluded ⟨none, "", .contains⟩ := by decide
  have hlater : readGroup 0 ["b", ")", "c", "-"] =
      { group := ⟨.and, [.condition ⟨none, "b", .contains⟩], []⟩, rest := [")", "c", "-"] } := by
    simp [readGroup_cons, Sign.ofTokens, hb, Reading.addFront]
  have hbelow : readGroup 0 ["-", "(", "b", ")", "c", "-"] =
      { group := ⟨.and, [.condition ⟨none, "c", .contains⟩],
          [.group ⟨.and, [.condition ⟨none, "b", .contains⟩], []⟩,
            .condition ⟨none, "", .contains⟩]⟩ } := by
    simp [readGroup_cons, Sign.ofTokens, hb, hc, hdash, Reading.addFront, Reading.addGroup,
      maxDepth]
  have hread : parseTokens ["b", ")", "c", "-"] 0 0 =
      .ok (⟨.and, [.condition ⟨none, "b", .contains⟩], []⟩, 1) := by
    rw [parseTokens_zero, hlater]
    rfl
  have hread' : parseTokens ["-", "(", "b", ")", "c", "-"] 0 0 =
      .ok (⟨.and, [.condition ⟨none, "c", .contains⟩],
        [.group ⟨.and, [.condition ⟨none, "b", .contains⟩], []⟩,
          .condition ⟨none, "", .contains⟩]⟩, 6) := by
    rw [parseTokens_zero, hbelow]
    rfl
  obtain ⟨hforward, hbackward⟩ := parseTokens_shifted ["(", "b", ")", "c", "-"] 0
  obtain ⟨g, stop, hwindow, hshifted⟩ := hforward 1 hlength
  obtain ⟨rfl, rfl⟩ := Prod.mk.inj (Except.ok.inj (hwindow.symm.trans hread))
  obtain ⟨g, stop, hwindow', hshifted'⟩ := hbackward 1 (Nat.le_refl 1) hlength
  obtain ⟨rfl, rfl⟩ := Prod.mk.inj (Except.ok.inj (hwindow'.symm.trans hread'))
  exact ⟨⟨hlength, hread, hshifted⟩, Nat.le_refl 1, hlength, hread', hshifted'⟩

end RecordSearch
