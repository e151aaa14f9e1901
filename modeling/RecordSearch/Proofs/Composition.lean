import Mathlib.Data.List.Infix
import RecordSearch.Proofs.Fragment

/-!
# Queries glued from texts

A text whose brackets are balanced can be put between brackets: its own tildes, dashes and brackets
stay inside, and it means there what it means alone, as long as it leaves one level for the brackets
around it. `readsInside_of_balanced` says so; two such texts with a space or a tilde between them
are the conjunction and the disjunction of what they mean alone, and one behind a dash its negation.
-/

namespace RecordSearch

/-! ### Balanced brackets -/

/-- No bracket closes before it opens, and all that open close. -/
def Balanced (tokens : List String) : Prop :=
  (∀ front, front <+: tokens → front.count ")" ≤ front.count "(") ∧
    tokens.count "(" = tokens.count ")"

/-- At most `n` brackets are open at any time. -/
def NestedAtMost (n : Nat) (tokens : List String) : Prop :=
  ∀ front, front <+: tokens → front.count "(" ≤ front.count ")" + n

instance (tokens : List String) : Decidable (Balanced tokens) :=
  decidable_of_iff ((∀ front ∈ tokens.inits, front.count ")" ≤ front.count "(") ∧
    tokens.count "(" = tokens.count ")") (by simp only [List.mem_inits, Balanced])

instance (n : Nat) (tokens : List String) : Decidable (NestedAtMost n tokens) :=
  decidable_of_iff (∀ front ∈ tokens.inits, front.count "(" ≤ front.count ")" + n)
    (by simp only [List.mem_inits, NestedAtMost])

theorem Balanced.tail {token : String} {tokens : List String} (h : Balanced (token :: tokens))
    (hopen : token ≠ "(") (hclose : token ≠ ")") : Balanced tokens := by
  obtain ⟨hfront, htotal⟩ := h
  refine ⟨fun front hf => ?_, ?_⟩
  · have := hfront (token :: front) (List.cons_prefix_cons.2 ⟨rfl, hf⟩)
    rwa [List.count_cons_of_ne hopen, List.count_cons_of_ne hclose] at this
  · rwa [List.count_cons_of_ne hopen, List.count_cons_of_ne hclose] at htotal

theorem NestedAtMost.tail {n : Nat} {token : String} {tokens : List String}
    (h : NestedAtMost n (token :: tokens)) (hopen : token ≠ "(") (hclose : token ≠ ")") :
    NestedAtMost n tokens := by
  intro front hf
  have := h (token :: front) (List.cons_prefix_cons.2 ⟨rfl, hf⟩)
  rwa [List.count_cons_of_ne hopen, List.count_cons_of_ne hclose] at this

/-- Where more brackets close than are open, there is a first one that does. -/
theorem exists_first_closing {tokens : List String} {k : Nat}
    (h : tokens.count "(" + k < tokens.count ")") :
    ∃ inner later, tokens = inner ++ ")" :: later ∧
      inner.count "(" + k = inner.count ")" ∧
      ∀ front, front <+: inner → front.count ")" ≤ front.count "(" + k := by
  have hcount : ∀ (token bracket : String) (l : List String),
      (token :: l).count bracket = [token].count bracket + l.count bracket :=
    fun token bracket l => by rw [← List.count_append, List.singleton_append]
  induction tokens generalizing k with
  | nil => exact absurd h (Nat.not_lt_zero _)
  | cons token tokens ih =>
    by_cases hstop : token = ")" ∧ k = 0
    · obtain ⟨rfl, rfl⟩ := hstop
      refine ⟨[], tokens, rfl, rfl, fun front hfront => ?_⟩
      rw [List.prefix_nil.1 hfront]
      exact Nat.le_refl 0
    · -- `j` brackets are open behind the token
      obtain ⟨j, hj⟩ : ∃ j, [token].count ")" + j = [token].count "(" + k := by
        by_cases hclose : token = ")"
        · subst hclose
          obtain ⟨j, rfl⟩ := Nat.exists_eq_succ_of_ne_zero fun hk => hstop ⟨rfl, hk⟩
          exact ⟨j, by simp [Nat.add_comm]⟩
        · exact ⟨[token].count "(" + k, by simp [hclose]⟩
      rw [hcount _ _ tokens, hcount _ _ tokens] at h
      obtain ⟨inner, later, rfl, htotal, hinner⟩ := ih (k := j) (by omega)
      refine ⟨token :: inner, later, rfl, ?_, fun front hfront => ?_⟩
      · rw [hcount _ _ inner, hcount _ _ inner]
        omega
      · rcases List.prefix_cons_iff.1 hfront with rfl | ⟨front', rfl, hfront'⟩
        · exact Nat.zero_le _
        · have := hinner front' hfront'
          rw [hcount _ _ front', hcount _ _ front']
          omega

/-- Behind an opening bracket a balanced list is cut in two balanced ones by the bracket that closes
it, and the first of them is nested one level less deep. -/
theorem Balanced.split {tokens : List String} {n : Nat} (h : Balanced ("(" :: tokens))
    (hn : NestedAtMost n ("(" :: tokens)) :
    ∃ inner later m, tokens = inner ++ ")" :: later ∧ n = m + 1 ∧ Balanced inner ∧
      NestedAtMost m inner ∧ Balanced later ∧ NestedAtMost n later := by
  obtain ⟨hfront, htotal⟩ := h
  have hopen : ∀ l : List String, ("(" :: l).count "(" = l.count "(" + 1 ∧
      ("(" :: l).count ")" = l.count ")" := fun l => ⟨by simp, by simp⟩
  have hclose : ∀ l : List String, (")" :: l).count "(" = l.count "(" ∧
      (")" :: l).count ")" = l.count ")" + 1 := fun l => ⟨by simp, by simp⟩
  rw [(hopen _).1, (hopen _).2] at htotal
  have hmore : tokens.count "(" + 0 < tokens.count ")" := by omega
  obtain ⟨inner, later, rfl, heq, hinner⟩ := exists_first_closing hmore
  obtain ⟨m, rfl⟩ : ∃ m, n = m + 1 := by
    have := hn ["("] (by simp)
    exact ⟨n - 1, by simp at this; omega⟩
  have hlater : ∀ front, front <+: later →
      "(" :: (inner ++ ")" :: front) <+: "(" :: (inner ++ ")" :: later) := by
    intro front hf
    rw [List.cons_prefix_cons, List.prefix_append_right_inj, List.cons_prefix_cons]
    exact ⟨rfl, rfl, hf⟩
  refine ⟨inner, later, m, rfl, rfl, ⟨hinner, heq⟩, fun front hf => ?_,
    ⟨fun front hf => ?_, ?_⟩, fun front hf => ?_⟩
  · have hprefix : "(" :: front <+: "(" :: (inner ++ ")" :: later) :=
      List.cons_prefix_cons.2 ⟨rfl, hf.trans (List.prefix_append _ _)⟩
    have := hn _ hprefix
    rw [(hopen _).1, (hopen _).2] at this
    omega
  · have := hfront _ (hlater front hf)
    rw [(hopen _).1, (hopen _).2, List.count_append, List.count_append, (hclose _).1,
      (hclose _).2] at this
    omega
  · rw [List.count_append, List.count_append, (hclose _).1, (hclose _).2] at htotal
    omega
  · have := hn _ (hlater front hf)
    rw [(hopen _).1, (hopen _).2, List.count_append, List.count_append, (hclose _).1,
      (hclose _).2] at this
    omega

/-- Induction along balanced tokens: in front stands one that is no bracket, or a bracket with what
stands up to the one that closes it, on one level less. -/
theorem balanced_induction {motive : Nat → List String → Prop}
    (nil : ∀ n, motive n [])
    (plain : ∀ n token tokens, token ≠ "(" → token ≠ ")" →
      ¬(token = "-" ∧ tokens.head? = some "(") → motive n tokens → motive n (token :: tokens))
    (group : ∀ n (side : Side) inner later, motive n inner → motive (n + 1) later →
      motive (n + 1) (side.opening ++ (inner ++ ")" :: later)))
    {n : Nat} {tokens : List String} (h : Balanced tokens) (hn : NestedAtMost n tokens) :
    motive n tokens := by
  induction hlen : tokens.length using Nat.strong_induction_on generalizing tokens n with
  | _ len ih =>
    subst hlen
    have hopening : ∀ (side : Side) (behind : List String), tokens = side.opening ++ behind →
        Balanced ("(" :: behind) → NestedAtMost n ("(" :: behind) → motive n tokens := by
      intro side behind htokens hbal hnest
      obtain ⟨inner, later, m, rfl, rfl, hinner, hinner', hlater, hlater'⟩ := hbal.split hnest
      have hlen : inner.length < tokens.length ∧ later.length < tokens.length := by
        subst htokens
        simp
        omega
      rw [htokens]
      exact group m side inner later (ih _ hlen.1 hinner hinner' rfl)
        (ih _ hlen.2 hlater hlater' rfl)
    cases tokens with
    | nil => exact nil n
    | cons token tokens =>
      by_cases hclose : token = ")"
      · subst hclose
        exact absurd (h.1 [")"] (by simp)) (by decide)
      by_cases hopen : token = "("
      · subst hopen
        exact hopening .included tokens rfl h hn
      have hrest := h.tail hopen hclose
      have hrest' := hn.tail hopen hclose
      by_cases hdash : token = "-" ∧ tokens.head? = some "("
      · obtain ⟨rfl, hhead⟩ := hdash
        obtain ⟨behind, rfl⟩ := List.head?_eq_some_iff.1 hhead
        exact hopening .excluded behind rfl hrest hrest'
      exact plain n token tokens hopen hclose hdash (ih _ (Nat.lt_succ_self _) hrest hrest' rfl)

/-! ### Reading balanced tokens -/

/-- Tokens read as the same group at every depth that leaves them `n` levels, alone or in front of a
closing bracket. -/
def ReadAlike (n : Nat) (tokens : List String) : Prop :=
  ∃ g : Query, ∀ d : Int, d + n ≤ maxDepth →
    readGroup d tokens = { group := g } ∧
      ∀ rest, readGroup d (tokens ++ ")" :: rest) = { group := g, rest := ")" :: rest }

section ReadAlike

variable {n : Nat} {tokens : List String}

theorem readAlike_nil : ReadAlike n [] :=
  ⟨{}, fun d _ => ⟨readGroup_nil d, fun rest => readGroup_close d rest⟩⟩

theorem ReadAlike.tilde (h : ReadAlike n tokens) : ReadAlike n ("~" :: tokens) := by
  obtain ⟨g, hg⟩ := h
  refine ⟨Group.emptyOr ++ g, fun d hd => ⟨?_, fun rest => ?_⟩⟩
  · rw [readGroup_tilde, (hg d hd).1]
    rfl
  · rw [List.cons_append, readGroup_tilde, (hg d hd).2]
    rfl

theorem ReadAlike.leaf {token : String} (h : ReadAlike n tokens) (hclose : token ≠ ")")
    (htilde : token ≠ "~") (hopen : token ≠ "(")
    (hdash : ¬(token = "-" ∧ tokens.head? = some "(")) : ReadAlike n (token :: tokens) := by
  obtain ⟨g, hg⟩ := h
  obtain ⟨side, c, hleaf⟩ := Sign.ofLeaf_eq token
  refine ⟨Group.single side (.condition c) ++ g, fun d hd => ⟨?_, fun rest => ?_⟩⟩
  · have hsign := Sign.ofTokens_eq_ofLeaf hclose htilde hopen hdash
    rw [hleaf] at hsign
    rw [readGroup_leaf hsign, (hg d hd).1]
    rfl
  · -- a dash at the end is in front of a closing bracket, never of an opening one
    have hdash' : ¬(token = "-" ∧ (tokens ++ ")" :: rest).head? = some "(") := by
      cases tokens with
      | nil => simp
      | cons t tokens => exact hdash
    have hsign := Sign.ofTokens_eq_ofLeaf hclose htilde hopen hdash'
    rw [hleaf] at hsign
    rw [List.cons_append, readGroup_leaf hsign, (hg d hd).2]
    rfl

theorem ReadAlike.group {inner later : List String} (side : Side) (h : ReadAlike n inner)
    (h' : ReadAlike (n + 1) later) :
    ReadAlike (n + 1) (side.opening ++ (inner ++ ")" :: later)) := by
  obtain ⟨g, hg⟩ := h
  obtain ⟨k, hk⟩ := h'
  refine ⟨Group.single side (.group g) ++ k, fun d hd => ?_⟩
  have hdepth : d < maxDepth := by omega
  obtain ⟨-, hin⟩ := hg (d + 1) (by push_cast at hd ⊢; omega)
  obtain ⟨halone, hclosed⟩ := hk d hd
  refine ⟨?_, fun rest => ?_⟩
  · rw [readGroup_opening side hdepth, hin, List.tail_cons, halone]
    cases side <;> rfl
  · rw [List.append_assoc, readGroup_opening side hdepth, List.append_assoc, List.cons_append,
      hin, List.tail_cons, hclosed]
    cases side <;> rfl

theorem readAlike_of_balanced (h : Balanced tokens) (hn : NestedAtMost n tokens) :
    ReadAlike n tokens := by
  refine balanced_induction (motive := ReadAlike) (fun n => readAlike_nil) ?_ ?_ h hn
  · intro n token tokens hopen hclose hdash hrest
    by_cases htilde : token = "~"
    · subst htilde
      exact hrest.tilde
    · exact hrest.leaf hclose htilde hopen hdash
  · intro n side inner later hinner hlater
    exact hinner.group side hlater

end ReadAlike

/-- A balanced text reads between brackets as it does alone. -/
theorem readsInside_of_balanced {text : String} {n : Nat} (heven : EvenQuotes text.toList)
    (h : Balanced (tokenize text)) (hn : NestedAtMost n (tokenize text))
    (hdepth : (n : Int) ≤ maxDepth) : ReadsInside text.toList (parse text) n := by
  obtain ⟨g, hg⟩ := readAlike_of_balanced h hn
  have hparse : parse text = g := by
    rw [parse, (hg 0 (by omega)).1]
  rw [hparse]
  exact ⟨heven, fun d rest hd => (hg d hd).2 rest⟩

/-! ### The three connectives -/

theorem Group.matches_two (r : Record) (mode : Mode) (i j : Item) :
    Group.matches r ⟨mode, [i, j], []⟩ =
      match mode with
      | .and => i.matches r && j.matches r
      | .or => i.matches r || j.matches r := by
  rw [Group.matches_eq]
  cases mode <;> simp

theorem Group.matches_excluded (r : Record) (i : Item) :
    Group.matches r ⟨.and, [], [i]⟩ = !i.matches r := by
  rw [Group.matches_eq]
  simp

/-- **Queries compose as texts.** Between brackets, with a space between them two balanced queries
are their conjunction and with a tilde their disjunction, and behind a dash one is its negation. -/
theorem matches_parse_glued (a b : String) (ha : EvenQuotes a.toList) (hb : EvenQuotes b.toList)
    (ha' : Balanced (tokenize a)) (hb' : Balanced (tokenize b))
    (hna : NestedAtMost 99 (tokenize a)) (hnb : NestedAtMost 99 (tokenize b)) (r : Record) :
    Group.matches r (parse ("(" ++ a ++ ") (" ++ b ++ ")")) =
        (Group.matches r (parse a) && Group.matches r (parse b)) ∧
      Group.matches r (parse ("(" ++ a ++ ")~(" ++ b ++ ")")) =
        (Group.matches r (parse a) || Group.matches r (parse b)) ∧
      Group.matches r (parse ("-(" ++ a ++ ")")) = !Group.matches r (parse a) := by
  have hina := readsInside_of_balanced ha ha' hna (by decide)
  have hinb := readsInside_of_balanced hb hb' hnb (by decide)
  have hand : ReadsAs ("(" ++ a ++ ") (" ++ b ++ ")").toList
      ⟨.and, [.group (parse a), .group (parse b)], []⟩ 100 := by
    have h : ReadsAs _ ⟨.and, [.group (parse a), .group (parse b)], []⟩ 100 :=
      (hina.bracketed .included).joined .and (hinb.bracketed .included)
    simpa [Side.dash, Mode.joiner] using h
  have hor : ReadsAs ("(" ++ a ++ ")~(" ++ b ++ ")").toList
      ⟨.or, [.group (parse a), .group (parse b)], []⟩ 100 := by
    have h : ReadsAs _ ⟨.or, [.group (parse a), .group (parse b)], []⟩ 100 :=
      (hina.bracketed .included).joined .or (hinb.bracketed .included)
    simpa [Side.dash, Mode.joiner] using h
  have hnot : ReadsAs ("-(" ++ a ++ ")").toList ⟨.and, [], [.group (parse a)]⟩ 100 := by
    have h : ReadsAs _ ⟨.and, [], [.group (parse a)]⟩ 100 := hina.bracketed .excluded
    simpa [Side.dash] using h
  rw [hand.parse_eq (by decide), hor.parse_eq (by decide), hnot.parse_eq (by decide),
    Group.matches_two, Group.matches_two, Group.matches_excluded]
  exact ⟨rfl, rfl, rfl⟩

/-- The first text has a tilde and ends in a dash, the second excludes a group with a bracket
between quotes. -/
theorem matches_parse_glued_dash_tilde :
    (Balanced (tokenize "x~(y) -") ∧ NestedAtMost 99 (tokenize "x~(y) -")) ∧
      (Balanced (tokenize "-(\"(\" z)") ∧ NestedAtMost 99 (tokenize "-(\"(\" z)")) ∧
      Group.matches ⟨[(.name "k", .text "y")]⟩ (parse "(x~(y) -) (-(\"(\" z))") =
        (Group.matches ⟨[(.name "k", .text "y")]⟩ (parse "x~(y) -") &&
          Group.matches ⟨[(.name "k", .text "y")]⟩ (parse "-(\"(\" z)")) := by
  have ha : Balanced (tokenize "x~(y) -") ∧ NestedAtMost 99 (tokenize "x~(y) -") := by decide
  have hb : Balanced (tokenize "-(\"(\" z)") ∧ NestedAtMost 99 (tokenize "-(\"(\" z)") := by decide
  exact ⟨ha, hb, (matches_parse_glued "x~(y) -" "-(\"(\" z)" (by decide) (by decide) ha.1 hb.1 ha.2
    hb.2 ⟨[(.name "k", .text "y")]⟩).1⟩

end RecordSearch
