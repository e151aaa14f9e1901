import RecordSearch.Proofs.Windows

/-!
# Tokens and nodes

Reading loses no token and reads none twice: a group has a node below it for each token up to its
end, except for the tildes, the closing brackets, and the dashes that belong to a bracket. One rule
of reading after the other, `nodes_readGroup` keeps that balance for the tokens left over, and
`parseTokens_accounting` counts by positions, with where a group ends and how deep it is.
-/

namespace RecordSearch

/-! ### Nodes -/

mutual

/-- How many nodes there are in an item, itself included. -/
def Item.nodes : Item → Nat
  | .condition _ => 1
  | .group g => Group.nodes g + 1

/-- How many nodes there are below a group. -/
def Group.nodes : Group Item → Nat
  | ⟨_, included, excluded⟩ => Item.nodesIn included + Item.nodesIn excluded

/-- How many nodes there are in the items of a list. -/
def Item.nodesIn : List Item → Nat
  | [] => 0
  | i :: items => i.nodes + Item.nodesIn items

end

theorem Item.nodesIn_append (items later : List Item) :
    Item.nodesIn (items ++ later) = Item.nodesIn items + Item.nodesIn later := by
  induction items with
  | nil => rw [List.nil_append, Item.nodesIn, Nat.zero_add]
  | cons i items ih => rw [List.cons_append, Item.nodesIn, Item.nodesIn, ih, Nat.add_assoc]

theorem Group.nodes_append (g h : Query) : (g ++ h).nodes = g.nodes + h.nodes := by
  obtain ⟨mode, included, excluded⟩ := g
  obtain ⟨mode', included', excluded'⟩ := h
  show Group.nodes ⟨_, included ++ included', excluded ++ excluded'⟩ = _
  rw [Group.nodes, Group.nodes, Group.nodes, Item.nodesIn_append, Item.nodesIn_append]
  omega

theorem Group.nodes_single (side : Side) (i : Item) : (single side i).nodes = i.nodes := by
  cases side <;> simp [Group.nodes, Item.nodesIn]

/-! ### Tokens that make nodes -/

/-- The token at a position makes a node: it is no tilde, no closing bracket, and no dash in front
of a bracket. -/
def MakesNode (tokens : List String) (p : Nat) : Prop :=
  tokens[p]? ≠ some "~" ∧ tokens[p]? ≠ some ")" ∧
    ¬(tokens[p]? = some "-" ∧ tokens[p + 1]? = some "(")

instance (tokens : List String) (p : Nat) : Decidable (MakesNode tokens p) :=
  inferInstanceAs (Decidable (_ ∧ _ ∧ ¬(_ ∧ _)))

/-- How many of the first `n` tokens make nodes. -/
def nodeTokens (tokens : List String) (n : Nat) : Nat :=
  (List.range n).countP fun p => MakesNode tokens p

theorem nodeTokens_append (front rest : List String) (n : Nat) :
    nodeTokens (front ++ rest) (front.length + n) =
      nodeTokens (front ++ rest) front.length + nodeTokens rest n := by
  have hshift : ∀ p, MakesNode (front ++ rest) (front.length + p) ↔ MakesNode rest p := by
    intro p
    simp [MakesNode, List.getElem?_append_right, Nat.add_assoc]
  rw [nodeTokens, List.range_add, List.countP_append, List.countP_map]
  simp only [nodeTokens, Function.comp_def, hshift]

/-- The first token makes a node or it does not, and the others do as they did. -/
theorem nodeTokens_cons (token : String) (rest : List String) (n : Nat) :
    nodeTokens (token :: rest) (n + 1) =
      (if token = "~" ∨ token = ")" ∨ (token = "-" ∧ rest.head? = some "(") then 0 else 1) +
        nodeTokens rest n := by
  have happend := nodeTokens_append [token] rest n
  rw [List.length_singleton, Nat.add_comm 1 n, List.singleton_append] at happend
  rw [happend]
  congr 1
  have hfirst : MakesNode (token :: rest) 0 ↔
      ¬(token = "~" ∨ token = ")" ∨ (token = "-" ∧ rest.head? = some "(")) := by
    simp [MakesNode, List.head?_eq_getElem?]
  by_cases h : token = "~" ∨ token = ")" ∨ (token = "-" ∧ rest.head? = some "(")
  · simp [nodeTokens, hfirst, h]
  · simp [nodeTokens, hfirst, h]

theorem nodeTokens_opening (side : Side) (rest : List String) :
    nodeTokens (side.opening ++ rest) (side.opening ++ rest).length =
      1 + nodeTokens rest rest.length := by
  cases side with
  | included => exact nodeTokens_cons "(" rest _
  | excluded =>
    show nodeTokens ("-" :: "(" :: rest) (rest.length + 1 + 1) = _
    rw [nodeTokens_cons, nodeTokens_cons]
    simp

/-- Each rule of reading makes a node of the tokens that it takes, or none where they make none. -/
theorem nodes_readGroup (d : Int) (tokens : List String) :
    (readGroup d tokens).group.nodes +
        nodeTokens (readGroup d tokens).rest (readGroup d tokens).rest.length =
      nodeTokens tokens tokens.length := by
  induction d, tokens using readGroup_induction with
  | nil d => rw [readGroup_nil]; rfl
  | close d rest => rw [readGroup_close]; exact Nat.zero_add _
  | tilde d rest ih =>
    have hnone : Group.emptyOr.nodes = 0 := rfl
    rw [readGroup_tilde, Reading.group_prepend, Reading.rest_prepend, Group.nodes_append, hnone,
      List.length_cons, nodeTokens_cons, if_pos (.inl rfl), ← ih]
    omega
  | leaf d token rest side c hsign ih =>
    obtain ⟨hclose, htilde, -, hdash, -⟩ := Sign.of_ofTokens_leaf hsign
    have hnode : ¬(token = "~" ∨ token = ")" ∨ (token = "-" ∧ rest.head? = some "(")) := by
      simp only [htilde, hclose, hdash, or_self, not_false_eq_true]
    rw [readGroup_leaf hsign, Reading.group_prepend, Reading.rest_prepend, Group.nodes_append,
      Group.nodes_single, Item.nodes, List.length_cons, nodeTokens_cons, if_neg hnode, ← ih]
    omega
  | group d side behind hd ihin ih =>
    -- the closing bracket of the group inside, if it has one, makes no node
    have htail : nodeTokens (readGroup (d + 1) behind).rest (readGroup (d + 1) behind).rest.length =
        nodeTokens (readGroup (d + 1) behind).rest.tail
          (readGroup (d + 1) behind).rest.tail.length := by
      rcases rest_readGroup (d + 1) behind with hrest | ⟨later, hrest⟩
      · rw [hrest, List.tail_nil]
      · rw [hrest, List.length_cons, nodeTokens_cons, if_pos (.inr (.inl rfl)), Nat.zero_add,
          List.tail_cons]
    rw [readGroup_opening side hd, Reading.group_addGroup, Reading.rest_addGroup,
      Group.nodes_append, Group.nodes_single, Item.nodes, nodeTokens_opening, ← ihin, htail, ← ih]
    omega
  | bracket d side behind hd ih =>
    rw [readGroup_bracket side hd, Reading.group_addBracket, Reading.rest_addBracket,
      Group.nodes_append, Group.nodes_single, Item.nodes, nodeTokens_opening, ← ih]
    omega

/-! ### Reading from an index on -/

theorem nodeTokens_drop (tokens : List String) (start n : Nat) :
    nodeTokens (tokens.drop start) n =
      (List.range' start n).countP fun p => MakesNode tokens p := by
  have hshift : ∀ p, MakesNode (tokens.drop start) p ↔ MakesNode tokens (start + p) := by
    intro p
    simp [MakesNode, Nat.add_assoc]
  rw [List.range'_eq_map_range, List.countP_map, nodeTokens]
  simp only [Function.comp_def, hshift]

/-- **Every token is accounted for.** A group that is read from an index on, at any depth, ends at a
closing bracket or behind the last token. Below it there are as many nodes as there are tokens up to
its end that make one, and its groups are nested as deep as there are levels left at most. -/
theorem parseTokens_accounting (tokens : List String) (start : Nat) (depth : Int)
    (hstart : start ≤ tokens.length) :
    ∃ (g : Query) (stop : Nat), parseTokens tokens start depth = .ok (g, (stop : Int)) ∧
      start ≤ stop ∧ stop ≤ tokens.length ∧
      (stop < tokens.length → tokens[stop]? = some ")") ∧
      g.nodes = (List.range' start (stop - start)).countP (fun p => MakesNode tokens p) ∧
      g.nesting ≤ (100 - depth).toNat := by
  obtain ⟨front, hfront⟩ := rest_readGroup_isSuffix depth (tokens.drop start)
  have hbalance := nodes_readGroup depth (tokens.drop start)
  have hrest := rest_readGroup depth (tokens.drop start)
  have hlength : start + front.length + (readGroup depth (tokens.drop start)).rest.length =
      tokens.length := by
    have hlen := congrArg List.length hfront
    rw [List.length_append, List.length_drop] at hlen
    omega
  refine ⟨(readGroup depth (tokens.drop start)).group, start + front.length, ?_,
    Nat.le_add_right _ _, by omega, fun hlt => ?_, ?_, nesting_readGroup_le ?_⟩
  · rw [parseTokens_eq_window, window_natCast, ← hlength]
    simp [Except.map]
  · rcases hrest with hnil | ⟨later, hclose⟩
    · rw [hnil, List.length_nil] at hlength
      omega
    · rw [hclose] at hfront
      rw [← List.getElem?_drop, ← hfront, List.getElem?_append_right (Nat.le_refl _), Nat.sub_self]
      rfl
  · rw [Nat.add_sub_cancel_left, ← nodeTokens_drop]
    have hsplit := nodeTokens_append front (readGroup depth (tokens.drop start)).rest
      (readGroup depth (tokens.drop start)).rest.length
    rw [← List.length_append, hfront, ← hbalance] at hsplit
    exact Nat.add_right_cancel hsplit
  · unfold maxDepth
    omega

/-- With 99 groups open around it, the group has room for one level of groups: the bracket at
position 3 and the one behind the dash are terms. -/
theorem parseTokens_accounting_of_inner_start :
    1 ≤ ["a", "(", "b", "(", "-", "(", "c", ")", "~", ")", "d"].length ∧
    ∃ (g : Query) (stop : Nat), parseTokens
        ["a", "(", "b", "(", "-", "(", "c", ")", "~", ")", "d"] (1 : Nat) 99 =
        .ok (g, (stop : Int)) ∧
      1 ≤ stop ∧ stop ≤ 11 ∧
      (stop < 11 →
        ["a", "(", "b", "(", "-", "(", "c", ")", "~", ")", "d"][stop]? = some ")") ∧
      g.nodes = (List.range' 1 (stop - 1)).countP
        (fun p => MakesNode ["a", "(", "b", "(", "-", "(", "c", ")", "~", ")", "d"] p) ∧
      g.nesting ≤ 1 := by
  have hstart : 1 ≤ ["a", "(", "b", "(", "-", "(", "c", ")", "~", ")", "d"].length := by decide
  exact ⟨hstart, parseTokens_accounting _ 1 99 hstart⟩

-- that group ends at position 9: it has a group below it and four conditions in that one
example : (List.range' 1 8).countP (fun p =>
    MakesNode ["a", "(", "b", "(", "-", "(", "c", ")", "~", ")", "d"] p) = 5 := by decide

end RecordSearch
