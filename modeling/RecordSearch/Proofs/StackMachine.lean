import RecordSearch.Proofs.Windows

/-!
# Reading with a stack

A machine that reads the same tokens in one pass. It has no calls to return from; it keeps the
groups that are open, the innermost on top, and looks at the tokens one after the other. A bracket
puts a new group on the stack, or takes the top one off and puts it into the group below.

`finish_run` compares the machine with the reader: from any stack, it gets where it would get
if the top group had been given at once what the reader makes of the tokens up to the end of that
group. `parseTokens_eq_machine` is the case of one empty group.
-/

namespace RecordSearch

/-- The groups that are open while tokens are read: the innermost, and those around it from the
inside out, each with the side on which the group inside it will stand. -/
structure OpenGroups where
  top : Query := {}
  below : List (Side × Query) := []
  deriving DecidableEq

namespace OpenGroups

/-- The top group joins its items by `or`. -/
def useOr (s : OpenGroups) : OpenGroups := { s with top := { s.top with mode := .or } }

/-- The top group gets an item. -/
def give (s : OpenGroups) (side : Side) (i : Item) : OpenGroups :=
  { s with top := s.top.add i side }

/-- A new group on top. -/
def push (s : OpenGroups) (side : Side) : OpenGroups := ⟨{}, (side, s.top) :: s.below⟩

/-- The top group put into the one below, if there is one. -/
def pop? (s : OpenGroups) : Option OpenGroups :=
  match s.below with
  | [] => none
  | (side, g) :: below => some ⟨g.add (.group s.top) side, below⟩

/-- The outermost group, after all those inside it are put into the ones around them. -/
def popAll (top : Query) : List (Side × Query) → Query
  | [] => top
  | (side, g) :: below => popAll (g.add (.group top) side) below

/-- All open groups taken off the stack. -/
def close (s : OpenGroups) : Query := popAll s.top s.below

/-- A bracket opens a new group while less than a hundred are open around it, and else is a term. -/
def openBracket (depth : Int) (side : Side) (s : OpenGroups) : OpenGroups :=
  if depth + s.below.length < 100 then s.push side
  else s.give side (.condition ⟨none, "(", .contains⟩)

/-- A token that is no bracket and no tilde is a condition, excluded by a dash in front. -/
def giveCondition (s : OpenGroups) (token : String) : OpenGroups :=
  match token.toList with
  | '-' :: term => s.give .excluded (.condition (Condition.ofToken (String.ofList term)))
  | _ => s.give .included (.condition (Condition.ofToken token))

/-- Reads tokens, the first of which has the index `index`, until they run out or a bracket closes
that none has opened. Gives the stack at that point, and its index. -/
def run (depth : Int) : OpenGroups → (index : Nat) → List String → OpenGroups × Nat
  | s, index, [] => (s, index)
  | s, index, "~" :: rest => run depth s.useOr (index + 1) rest
  | s, index, "(" :: rest => run depth (s.openBracket depth .included) (index + 1) rest
  | s, index, "-" :: "(" :: rest => run depth (s.openBracket depth .excluded) (index + 2) rest
  | s, index, ")" :: rest =>
    match s.pop? with
    | some s => run depth s (index + 1) rest
    | none => (s, index)
  | s, index, token :: rest => run depth (s.giveCondition token) (index + 1) rest

end OpenGroups

/-- Reads the tokens from index `start` on with a stack, inside `depth` other groups. Gives the
outermost group and the index where reading ended. -/
def machine (tokens : List String) (start : Nat) (depth : Int) : Query × Nat :=
  let (s, index) := OpenGroups.run depth {} start (tokens.drop start)
  (s.close, index)

namespace OpenGroups

variable {depth : Int} {s : OpenGroups} {index : Nat} {rest : List String}

/-! ### Steps of the machine -/

/-- The top group gets the items of another. -/
def extend (s : OpenGroups) (g : Query) : OpenGroups := { s with top := s.top ++ g }

@[simp] theorem extend_empty (s : OpenGroups) : s.extend {} = s := by
  rw [extend, Group.append_empty]

theorem extend_extend (s : OpenGroups) (g h : Query) :
    (s.extend g).extend h = s.extend (g ++ h) := by
  simp only [extend, Group.append_assoc]

theorem give_eq_extend (s : OpenGroups) (side : Side) (i : Item) :
    s.give side i = s.extend (Group.single side i) := by
  rw [give, extend, Group.add_eq_append]

theorem useOr_eq_extend (s : OpenGroups) : s.useOr = s.extend Group.emptyOr := by
  rw [useOr, Group.withOr_eq_append, extend]

/-- A group that has been put on top and filled is taken off again as an item. -/
theorem pop?_push_extend (s : OpenGroups) (side : Side) (g : Query) :
    ((s.push side).extend g).pop? = some (s.give side (.group g)) := by
  rw [pop?, extend, push, Group.empty_append]
  rfl

theorem close_push_extend (s : OpenGroups) (side : Side) (g : Query) :
    ((s.push side).extend g).close = (s.give side (.group g)).close := by
  rw [close, extend, push, Group.empty_append]
  rfl

theorem run_nil : run depth s index [] = (s, index) := by
  rw [run]

theorem run_close :
    run depth s index (")" :: rest) =
      match s.pop? with
      | some s => run depth s (index + 1) rest
      | none => (s, index) := by
  rw [run]

theorem run_opening (side : Side) :
    run depth s index (side.opening ++ rest) =
      run depth (s.openBracket depth side) (index + side.opening.length) rest := by
  cases side <;> rfl

theorem giveCondition_eq {token : String} {side : Side} {c : Condition}
    (h : Sign.ofLeaf token = .leaf side c) :
    s.giveCondition token = s.give side (.condition c) := by
  by_cases hdash : ∃ term, token.toList = '-' :: term
  · obtain ⟨term, hterm⟩ := hdash
    have hleaf : Sign.ofLeaf token = .leaf .excluded (Condition.ofChars term) := by
      simp only [Sign.ofLeaf, hterm]
    have hgive : s.giveCondition token =
        s.give .excluded (.condition (Condition.ofToken (String.ofList term))) := by
      simp only [giveCondition, hterm]
    rw [hgive, Condition.ofToken, String.toList_ofList]
    cases hleaf.symm.trans h
    rfl
  · have hleaf : Sign.ofLeaf token = .leaf .included (Condition.ofToken token) := by
      unfold Sign.ofLeaf
      split
      · rename_i term hterm
        exact absurd ⟨term, hterm⟩ hdash
      · rfl
    have hgive : s.giveCondition token =
        s.give .included (.condition (Condition.ofToken token)) := by
      unfold giveCondition
      split
      · rename_i term hterm
        exact absurd ⟨term, hterm⟩ hdash
      · rfl
    rw [hgive]
    cases hleaf.symm.trans h
    rfl

theorem run_leaf {token : String} {side : Side} {c : Condition}
    (h : Sign.ofTokens token rest = (.leaf side c, rest)) :
    run depth s index (token :: rest) =
      run depth (s.give side (.condition c)) (index + 1) rest := by
  obtain ⟨hclose, htilde, hopen, hdash, hleaf⟩ := Sign.of_ofTokens_leaf h
  rw [run, giveCondition_eq hleaf]
  · exact htilde
  · exact hopen
  · rintro behind rfl rfl
    exact hdash ⟨rfl, rfl⟩
  · exact hclose

/-! ### The machine and the reader -/

/-- What the machine gives for the stack and the index that it ends with. -/
def finish (p : OpenGroups × Nat) : Query × Nat := (p.1.close, p.2)

/-- What the machine gives if it starts where the reader of the top group ends, with what that
reader has made of the tokens. -/
def ahead (depth d : Int) (s : OpenGroups) (index : Nat) (tokens : List String) : Query × Nat :=
  finish (run depth (s.extend (readGroup d tokens).group)
    (index + (tokens.length - (readGroup d tokens).rest.length)) (readGroup d tokens).rest)

section Ahead

variable {d : Int} {behind later : List String}

/-- A group that is never closed is taken off the stack with all others. -/
theorem ahead_push_of_nil (side : Side) (hlt : d < maxDepth)
    (hrest : (readGroup (d + 1) behind).rest = []) :
    ahead depth (d + 1) (s.push side) (index + side.opening.length) behind =
      ahead depth d s index (side.opening ++ behind) := by
  rw [ahead, ahead, readGroup_opening side hlt, Reading.group_addGroup, Reading.rest_addGroup,
    hrest, List.tail_nil, readGroup_nil, run_nil, run_nil, Group.append_empty]
  show (close _, _) = (close _, _)
  rw [close_push_extend, give_eq_extend, List.length_append, List.length_nil, Nat.sub_zero,
    Nat.sub_zero, Nat.add_assoc]

/-- A group that is closed is put into the one below, which goes on behind the bracket. -/
theorem ahead_push_of_close (side : Side) (hlt : d < maxDepth)
    (hrest : (readGroup (d + 1) behind).rest = ")" :: later)
    (h : ∀ s index, d = depth + s.below.length →
      finish (run depth s index later) = ahead depth d s index later)
    (hd : d = depth + s.below.length) :
    ahead depth (d + 1) (s.push side) (index + side.opening.length) behind =
      ahead depth d s index (side.opening ++ behind) := by
  have hle := length_rest_readGroup_le (d + 1) behind
  have hle' := length_rest_readGroup_le d later
  rw [hrest, List.length_cons] at hle
  rw [ahead, hrest, run_close, pop?_push_extend]
  show finish (run depth (s.give side _) _ later) = _
  rw [h (s.give side _) _ hd, ahead, ahead, readGroup_opening side hlt, Reading.group_addGroup,
    Reading.rest_addGroup, hrest, List.tail_cons, give_eq_extend, extend_extend,
    List.length_append, List.length_cons]
  have hindex : index + side.opening.length + (behind.length - (later.length + 1)) + 1 +
      (later.length - (readGroup d later).rest.length) =
      index + (side.opening.length + behind.length - (readGroup d later).rest.length) := by
    omega
  rw [hindex]

end Ahead

/-- From any stack, the machine gets where it would get if the top group were given at once what the
reader makes of the tokens, up to the end of that group. -/
theorem finish_run (d : Int) (tokens : List String) (s : OpenGroups) (index : Nat)
    (hd : d = depth + s.below.length) :
    finish (run depth s index tokens) = ahead depth d s index tokens := by
  induction d, tokens using readGroup_induction generalizing s index with
  | nil d => simp [ahead]
  | close d rest => simp [ahead, readGroup_close]
  | tilde d rest ih =>
    have hle := length_rest_readGroup_le d rest
    show finish (run depth s.useOr (index + 1) rest) = _
    rw [ih s.useOr (index + 1) hd, ahead, ahead, readGroup_tilde, Reading.group_prepend,
      Reading.rest_prepend, useOr_eq_extend, extend_extend, List.length_cons, Nat.succ_sub hle,
      Nat.add_assoc, Nat.add_comm 1]
  | leaf d token rest side c hsign ih =>
    have hle := length_rest_readGroup_le d rest
    rw [run_leaf hsign, ih (s.give side (.condition c)) (index + 1) hd, ahead, ahead,
      readGroup_leaf hsign, Reading.group_prepend, Reading.rest_prepend, give_eq_extend,
      extend_extend, List.length_cons, Nat.succ_sub hle, Nat.add_assoc, Nat.add_comm 1]
  | group d side behind hlt ihin ih =>
    have hpush : s.openBracket depth side = s.push side := if_pos (by rw [← hd]; exact hlt)
    have hdepth : d + 1 = depth + (s.push side).below.length := by
      rw [hd, push, List.length_cons]
      push_cast
      omega
    rw [run_opening, hpush, ihin (s.push side) _ hdepth]
    rcases rest_readGroup (d + 1) behind with hrest | ⟨later, hrest⟩
    · exact ahead_push_of_nil side hlt hrest
    · rw [hrest, List.tail_cons] at ih
      exact ahead_push_of_close side hlt hrest ih hd
  | bracket d side behind hge ih =>
    have hle := length_rest_readGroup_le d behind
    have hterm : s.openBracket depth side = s.give side (.condition ⟨none, "(", .contains⟩) :=
      if_neg (by rw [← hd]; exact hge)
    rw [run_opening, hterm, ih (s.give side _) _ hd, ahead, ahead, readGroup_bracket side hge,
      Reading.group_addBracket, Reading.rest_addBracket, give_eq_extend, extend_extend,
      List.length_append, Nat.add_sub_assoc hle, Nat.add_assoc]

/-- What the reader leaves over of an outermost group stops the machine. -/
theorem run_rest (d : Int) (tokens : List String) (hs : s.below = []) :
    run depth s index (readGroup d tokens).rest = (s, index) := by
  rcases rest_readGroup d tokens with hrest | ⟨later, hrest⟩
  · rw [hrest, run_nil]
  · have hpop : s.pop? = none := by
      rw [pop?, hs]
    rw [hrest, run_close, hpop]

end OpenGroups

theorem machine_eq (tokens : List String) (start : Nat) (depth : Int) :
    machine tokens start depth = ((readGroup depth (tokens.drop start)).group,
      start + ((tokens.drop start).length -
        (readGroup depth (tokens.drop start)).rest.length)) := by
  have hdepth : depth = depth + (({} : OpenGroups).below.length : Int) := (Int.add_zero depth).symm
  have hrun := OpenGroups.finish_run depth (tokens.drop start) {} start hdepth
  rw [OpenGroups.ahead, OpenGroups.run_rest depth (tokens.drop start) rfl] at hrun
  refine Eq.trans hrun ?_
  show (OpenGroups.popAll ({} ++ _) [], _) = _
  rw [OpenGroups.popAll, Group.empty_append]

/-- A text is read by the machine too, which makes `parse` easy to evaluate. -/
theorem parse_eq_machine (q : String) : parse q = (machine (tokenize q) 0 0).1 := by
  rw [machine_eq, List.drop_zero, parse]

/-- Of the two closing brackets, the second ends the query. -/
example : parse "-(a~b)) c" =
    ⟨.and, [], [.group ⟨.or, [.condition ⟨none, "a", .contains⟩,
      .condition ⟨none, "b", .contains⟩], []⟩]⟩ := by
  have htokens : tokenize "-(a~b)) c" = ["-", "(", "a", "~", "b", ")", ")", "c"] := by decide
  rw [parse_eq_machine, htokens]
  decide

/-- **The reader is a machine with a stack.** Reading from any index on, at any depth, it gives the
same group and ends at the same index as the machine does. -/
theorem parseTokens_eq_machine (tokens : List String) (start : Nat) (depth : Int)
    (hstart : start ≤ tokens.length) :
    parseTokens tokens start depth =
      .ok ((machine tokens start depth).1, ((machine tokens start depth).2 : Int)) := by
  have hle := length_rest_readGroup_le depth (tokens.drop start)
  rw [List.length_drop] at hle
  have hindex : (tokens.length : Int) - (readGroup depth (tokens.drop start)).rest.length =
      ((start + (tokens.length - start -
        (readGroup depth (tokens.drop start)).rest.length) : Nat) : Int) := by
    omega
  rw [parseTokens_eq_window, window_natCast, machine_eq, List.length_drop, ← hindex]
  rfl

/-- Two brackets are terms here because 100 groups are open, and the last token but one closes a
group that was opened before the first token read. -/
theorem parseTokens_eq_machine_of_inner_start :
    1 ≤ ["a", "(", "b", "(", "-", "(", "c", ")", "~", ")", "d"].length ∧
    parseTokens ["a", "(", "b", "(", "-", "(", "c", ")", "~", ")", "d"] (1 : Nat) 99 =
      .ok (⟨.or, [.group ⟨.and, [.condition ⟨none, "b", .contains⟩,
        .condition ⟨none, "(", .contains⟩, .condition ⟨none, "c", .contains⟩],
        [.condition ⟨none, "(", .contains⟩]⟩], []⟩, 9) := by
  have hstart : 1 ≤ ["a", "(", "b", "(", "-", "(", "c", ")", "~", ")", "d"].length := by decide
  refine ⟨hstart, ?_⟩
  have hmachine : machine ["a", "(", "b", "(", "-", "(", "c", ")", "~", ")", "d"] 1 99 =
      (⟨.or, [.group ⟨.and, [.condition ⟨none, "b", .contains⟩,
        .condition ⟨none, "(", .contains⟩, .condition ⟨none, "c", .contains⟩],
        [.condition ⟨none, "(", .contains⟩]⟩], []⟩, 9) := by decide
  rw [parseTokens_eq_machine _ 1 99 hstart, hmachine]
  rfl

end RecordSearch
