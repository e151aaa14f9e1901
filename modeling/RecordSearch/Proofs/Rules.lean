import RecordSearch.Proofs.Leaf
import RecordSearch.Proofs.Tree

/-!
# Rules of reading

One rule for each kind of token: what the first token of a group, or a dash and the bracket behind
it, adds to what is read behind it. `Sign.ofTokens_cases` says what a first token can be, and
`readGroup_induction` is induction along the rules.
-/

namespace RecordSearch

/-! ### Reading behind other items -/

/-- Items read in front of others. -/
def Reading.prepend (g : Query) (r : Reading) : Reading := { r with group := g ++ r.group }

@[simp] theorem Reading.group_prepend (g : Query) (r : Reading) :
    (r.prepend g).group = g ++ r.group := rfl

@[simp] theorem Reading.rest_prepend (g : Query) (r : Reading) : (r.prepend g).rest = r.rest := rfl

theorem Reading.prepend_prepend (g h : Query) (r : Reading) :
    (r.prepend h).prepend g = r.prepend (g ++ h) := by
  simp only [Reading.prepend, Group.append_assoc]

theorem Reading.addFront_eq (side : Side) (i : Item) (r : Reading) :
    r.addFront side i = r.prepend (Group.single side i) := by
  cases side <;> rfl

theorem Reading.group_addGroup (side : Side) (inner r : Reading) :
    (addGroup side inner r).group = Group.single side (.group inner.group) ++ r.group := by
  cases side <;> rfl

theorem Reading.group_addBracket (side : Side) (left : Nat) (r : Reading) :
    (r.addBracket side left).group =
      Group.single side (.condition ⟨none, "(", .contains⟩) ++ r.group := by
  cases side <;> rfl

/-! ### Rules of reading for each kind of token -/

/-- A token that is neither a bracket nor a tilde is a condition on one side. -/
theorem Sign.ofLeaf_eq (token : String) : ∃ side c, Sign.ofLeaf token = .leaf side c := by
  unfold Sign.ofLeaf
  split
  · exact ⟨_, _, rfl⟩
  · exact ⟨_, _, rfl⟩

theorem Sign.ofTokens_eq_ofLeaf {token : String} {rest : List String} (hclose : token ≠ ")")
    (htilde : token ≠ "~") (hopen : token ≠ "(")
    (hdash : ¬(token = "-" ∧ rest.head? = some "(")) :
    Sign.ofTokens token rest = (Sign.ofLeaf token, rest) := by
  rw [Sign.ofTokens, if_neg hclose, if_neg htilde, if_neg hopen, if_neg hdash]

theorem Sign.ofLeaf_dash_append (side : Side) {token : List Char}
    (hdash : token.head? ≠ some '-') :
    Sign.ofLeaf (String.ofList (side.dash ++ token)) = .leaf side (Condition.ofChars token) := by
  rw [Sign.ofLeaf, String.toList_ofList]
  cases side with
  | included =>
    split
    · rename_i term hterm
      rw [Side.dash, List.nil_append] at hterm
      rw [hterm] at hdash
      exact absurd rfl hdash
    · rfl
  | excluded => rfl

/-- A token that starts with neither a structural character nor a dash is a condition, with a dash
in front or without. -/
theorem Sign.ofTokens_dash_append (side : Side) {token : List Char} (hne : token ≠ [])
    (hhead : ∀ ch ∈ token.head?, isStructural ch = false ∧ ch ≠ '-') (rest : List String) :
    Sign.ofTokens (String.ofList (side.dash ++ token)) rest =
      (.leaf side (Condition.ofChars token), rest) := by
  obtain ⟨ch, token, rfl⟩ := List.exists_cons_of_ne_nil hne
  obtain ⟨hs, hd⟩ := hhead ch rfl
  have hstring : ∀ d, isStructural d = true →
      String.ofList (side.dash ++ ch :: token) ≠ String.ofList [d] := by
    intro d hstructural h
    rw [String.ofList_inj] at h
    cases side with
    | included =>
      obtain rfl : ch = d := (List.cons.inj h).1
      rw [hs] at hstructural
      exact Bool.false_ne_true hstructural
    | excluded => exact List.cons_ne_nil _ _ (List.cons.inj h).2
  have hdash : String.ofList (side.dash ++ ch :: token) ≠ String.ofList ['-'] := by
    intro h
    rw [String.ofList_inj] at h
    cases side with
    | included => exact hd (List.cons.inj h).1
    | excluded => exact List.cons_ne_nil _ _ (List.cons.inj h).2
  have hleaf : Sign.ofLeaf (String.ofList (side.dash ++ ch :: token)) =
      .leaf side (Condition.ofChars (ch :: token)) :=
    Sign.ofLeaf_dash_append side fun h => hd (Option.some.inj h)
  rw [Sign.ofTokens_eq_ofLeaf (hstring ')' rfl) (hstring '~' rfl) (hstring '(' rfl)
    (fun h => hdash h.1), hleaf]

/-- All that a first token can be. -/
theorem Sign.ofTokens_cases (token : String) (rest : List String) :
    (token = ")" ∧ Sign.ofTokens token rest = (.closing, rest)) ∨
    (token = "~" ∧ Sign.ofTokens token rest = (.or, rest)) ∨
    (token = "(" ∧ Sign.ofTokens token rest = (.opening .included, rest)) ∨
    (∃ behind, token = "-" ∧ rest = "(" :: behind ∧
      Sign.ofTokens token rest = (.opening .excluded, behind)) ∨
    (token ≠ ")" ∧ token ≠ "~" ∧ token ≠ "(" ∧ ¬(token = "-" ∧ rest.head? = some "(") ∧
      Sign.ofTokens token rest = (Sign.ofLeaf token, rest)) := by
  by_cases hclose : token = ")"
  · subst hclose
    exact .inl ⟨rfl, rfl⟩
  by_cases htilde : token = "~"
  · subst htilde
    exact .inr (.inl ⟨rfl, rfl⟩)
  by_cases hopen : token = "("
  · subst hopen
    exact .inr (.inr (.inl ⟨rfl, rfl⟩))
  by_cases hdash : token = "-" ∧ rest.head? = some "("
  · obtain ⟨rfl, hhead⟩ := hdash
    obtain ⟨behind, rfl⟩ := List.head?_eq_some_iff.1 hhead
    exact .inr (.inr (.inr (.inl ⟨behind, rfl, rfl, rfl⟩)))
  exact .inr (.inr (.inr (.inr ⟨hclose, htilde, hopen, hdash,
    Sign.ofTokens_eq_ofLeaf hclose htilde hopen hdash⟩)))

/-- What is known of a first token that is a condition. -/
theorem Sign.of_ofTokens_leaf {token : String} {rest : List String} {side : Side} {c : Condition}
    (h : Sign.ofTokens token rest = (.leaf side c, rest)) :
    token ≠ ")" ∧ token ≠ "~" ∧ token ≠ "(" ∧ ¬(token = "-" ∧ rest.head? = some "(") ∧
      Sign.ofLeaf token = .leaf side c := by
  rcases Sign.ofTokens_cases token rest with ⟨-, hs⟩ | ⟨-, hs⟩ | ⟨-, hs⟩ | ⟨behind, -, -, hs⟩ |
    ⟨hclose, htilde, hopen, hdash, hs⟩
  · rw [hs] at h
    cases h
  · rw [hs] at h
    cases h
  · rw [hs] at h
    cases h
  · rw [hs] at h
    cases h
  · rw [hs] at h
    exact ⟨hclose, htilde, hopen, hdash, (Prod.mk.inj h).1⟩

section Rules

variable (d : Int) (rest : List String)

theorem readGroup_close : readGroup d (")" :: rest) = { rest := ")" :: rest } := by
  rw [readGroup_cons]
  rfl

theorem readGroup_tilde :
    readGroup d ("~" :: rest) = (readGroup d rest).prepend Group.emptyOr := by
  rw [readGroup_cons]
  rfl

variable {d} {rest}

theorem readGroup_leaf {token : String} {side : Side} {c : Condition}
    (h : Sign.ofTokens token rest = (.leaf side c, rest)) :
    readGroup d (token :: rest) =
      (readGroup d rest).prepend (Group.single side (.condition c)) := by
  rw [readGroup_cons, h]
  exact Reading.addFront_eq side _ _

/-- The tokens of what opens a group on either side. -/
def Side.opening (side : Side) : List String := tokensOf side.dash ++ ["("]

theorem Side.exists_opening_append (side : Side) (rest : List String) :
    ∃ token behind, side.opening ++ rest = token :: behind := by
  cases side <;> exact ⟨_, _, rfl⟩

theorem ofTokens_opening {side : Side} {token : String} {behind : List String}
    (h : side.opening ++ rest = token :: behind) :
    Sign.ofTokens token behind = (.opening side, rest) := by
  cases side with
  | included =>
    obtain ⟨rfl, rfl⟩ := List.cons.inj h
    rfl
  | excluded =>
    obtain ⟨rfl, rfl⟩ := List.cons.inj h
    rfl

/-- A bracket above the greatest depth opens a group. -/
theorem readGroup_opening (side : Side) (hd : d < maxDepth) :
    readGroup d (side.opening ++ rest) =
      .addGroup side (readGroup (d + 1) rest)
        (readGroup d (readGroup (d + 1) rest).rest.tail) := by
  obtain ⟨token, behind, h⟩ := side.exists_opening_append rest
  rw [h, readGroup_cons, ofTokens_opening h]
  exact if_pos hd

/-- A bracket below the greatest depth is a term. -/
theorem readGroup_bracket (side : Side) (hd : ¬d < maxDepth) :
    readGroup d (side.opening ++ rest) = (readGroup d rest).addBracket side (rest.length + 1) := by
  obtain ⟨token, behind, h⟩ := side.exists_opening_append rest
  rw [h, readGroup_cons, ofTokens_opening h]
  exact if_neg hd

end Rules

/-- Induction along the rules of reading. -/
theorem readGroup_induction {motive : Int → List String → Prop}
    (nil : ∀ d, motive d [])
    (close : ∀ d rest, motive d (")" :: rest))
    (tilde : ∀ d rest, motive d rest → motive d ("~" :: rest))
    (leaf : ∀ d token rest side c, Sign.ofTokens token rest = (.leaf side c, rest) →
      motive d rest → motive d (token :: rest))
    (group : ∀ (d : Int) (side : Side) (behind : List String), d < maxDepth →
      motive (d + 1) behind → motive d (readGroup (d + 1) behind).rest.tail →
      motive d (side.opening ++ behind))
    (bracket : ∀ (d : Int) (side : Side) (behind : List String), ¬d < maxDepth →
      motive d behind → motive d (side.opening ++ behind))
    (d : Int) (tokens : List String) : motive d tokens := by
  induction hlen : tokens.length using Nat.strong_induction_on generalizing d tokens with
  | _ len ih =>
    subst hlen
    have hopening : ∀ (side : Side) (behind : List String), tokens = side.opening ++ behind →
        motive d tokens := by
      intro side behind h
      have hlt : behind.length < tokens.length := by
        rw [h, Side.opening, List.length_append, List.length_append, List.length_singleton]
        omega
      by_cases hd : d < maxDepth
      · have hrest := length_rest_readGroup_le (d + 1) behind
        have htail : (readGroup (d + 1) behind).rest.tail.length < tokens.length := by
          rw [List.length_tail]
          omega
        exact h ▸ group d side behind hd (ih _ hlt _ _ rfl) (ih _ htail _ _ rfl)
      · exact h ▸ bracket d side behind hd (ih _ hlt _ _ rfl)
    cases tokens with
    | nil => exact nil d
    | cons token rest =>
      have hrest : motive d rest := ih _ (Nat.lt_succ_self _) _ _ rfl
      rcases Sign.ofTokens_cases token rest with ⟨rfl, -⟩ | ⟨rfl, -⟩ | ⟨rfl, -⟩ |
        ⟨behind, rfl, rfl, -⟩ | ⟨-, -, -, -, hsign⟩
      · exact close d rest
      · exact tilde d rest hrest
      · exact hopening .included rest rfl
      · exact hopening .excluded behind rfl
      · obtain ⟨side, c, hleaf⟩ := Sign.ofLeaf_eq token
        rw [hleaf] at hsign
        exact leaf d token rest side c hsign hrest

/-- What is left over from a group is nothing, or starts with its closing bracket. -/
theorem rest_readGroup (d : Int) (tokens : List String) :
    (readGroup d tokens).rest = [] ∨ ∃ behind, (readGroup d tokens).rest = ")" :: behind := by
  induction d, tokens using readGroup_induction with
  | nil d => rw [readGroup_nil]; exact .inl rfl
  | close d rest => rw [readGroup_close]; exact .inr ⟨rest, rfl⟩
  | tilde d rest ih => rw [readGroup_tilde]; exact ih
  | leaf d token rest side c hsign ih => rw [readGroup_leaf hsign]; exact ih
  | group d side behind hd _ ih =>
    rw [readGroup_opening side hd, Reading.rest_addGroup]
    exact ih
  | bracket d side behind hd ih =>
    rw [readGroup_bracket side hd, Reading.rest_addBracket]
    exact ih

end RecordSearch
