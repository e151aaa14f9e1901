import RecordSearch.Proofs.Occurrences
import RecordSearch.Proofs.ReadTree
import RecordSearch.Proofs.RoundTrip
import RecordSearch.Proofs.StackMachine

/-!
# Queries that are written again

A query whose quotes come in pairs can be read, written and read again. Nothing is lost if all its
conditions are closed, and what it means is kept then. A condition that is not closed falls to
pieces: its term was put together from what stands between quotes and what does not, and the quotes
around it turn one into the other. Then the tree that is read is another one, and for a condition
alone it means something else, as there are two records that only the whole tells apart
(`exists_records_of_shorter`).
-/

namespace RecordSearch

/-! ### Records that a condition tells apart -/

namespace Condition

variable {c : Condition}

/-- A condition accepts its own term. -/
theorem accepts_term (c : Condition) : c.accepts c.term = true := by
  unfold accepts
  split
  · exact beq_self_eq_true _
  · exact occursIn_iff.2 List.infix_rfl

/-- No condition accepts a text that is shorter than its term. -/
theorem lowerLength_le_of_accepts {value : String} (h : c.accepts value = true) :
    Text.lowerLength c.term.toList ≤ Text.lowerLength value.toList := by
  have hfold : ∀ s : String, (Text.fold s).toList.length = Text.lowerLength s.toList := by
    intro s
    rw [Text.fold, String.toList_ofList, Text.length_lower]
  rw [← hfold, ← hfold]
  unfold accepts at h
  split at h
  · rw [beq_iff_eq] at h
    rw [h]
  · exact (occursIn_iff.1 h).length_le

end Condition

/-- The record with a list of texts under one key. -/
def Record.ofTexts (key : String) (texts : List String) : Record :=
  ⟨[(.name key, .list (texts.map .text))]⟩

namespace Record

theorem texts_list (texts : List String) : (Json.list (texts.map .text)).texts = texts := by
  show (texts.map Json.text).filterMap _ = texts
  rw [List.filterMap_map]
  exact List.filterMap_some

theorem allTexts_ofTexts (key : String) (texts : List String) :
    (ofTexts key texts).allTexts = texts.filter (· != "") := by
  show (([(Key.name key, Json.list (texts.map .text))].flatMap fun e => e.2.texts).filter _) = _
  rw [List.flatMap_singleton, texts_list]

/-- A field of such a record holds all the texts, or none whatever they are. -/
theorem textsIn_ofTexts (key field : String) :
    (∀ texts, (ofTexts key texts).textsIn field = texts) ∨
      ∀ texts, (ofTexts key texts).textsIn field = [] := by
  by_cases hkey : (Key.name key == .name field) = true ∨ (Key.name key).foldsTo (Text.fold field)
  · refine .inl fun texts => ?_
    have hlookup : (ofTexts key texts).lookup? field = some (.list (texts.map .text)) := by
      unfold lookup? ofTexts
      by_cases hname : (Key.name key == .name field) = true
      · simp [hname]
      · simp [hname, hkey.resolve_left hname]
    rw [textsIn, hlookup]
    exact texts_list texts
  · refine .inr fun texts => ?_
    rw [not_or] at hkey
    have hlookup : (ofTexts key texts).lookup? field = none := by
      unfold lookup? ofTexts
      simp [hkey.1, hkey.2]
    rw [textsIn, hlookup]

theorem textsIn_ofTexts_self (key : String) (texts : List String) :
    (ofTexts key texts).textsIn key = texts := by
  have hlookup : (ofTexts key texts).lookup? key = some (.list (texts.map .text)) := by
    unfold lookup? ofTexts
    simp
  rw [textsIn, hlookup]
  exact texts_list texts

end Record

namespace Condition

variable {c p : Condition}

theorem candidates_of_none (h : c.field = none) (r : Record) : c.candidates r = r.allTexts := by
  rw [candidates, h]

theorem candidates_of_some {field : String} (h : c.field = some field) (r : Record) :
    c.candidates r = r.textsIn field := by
  rw [candidates, h]

/-- The texts that a condition looks at are among those of the record. -/
theorem mem_of_mem_candidates {key : String} {texts : List String} {s : String}
    (hs : s ∈ c.candidates (.ofTexts key texts)) : s ∈ texts := by
  cases hfield : c.field with
  | none =>
    rw [candidates_of_none hfield, Record.allTexts_ofTexts] at hs
    exact (List.mem_filter.1 hs).1
  | some field =>
    rw [candidates_of_some hfield] at hs
    rcases Record.textsIn_ofTexts key field with htexts | hnone
    · rwa [htexts] at hs
    · rw [hnone] at hs
      exact absurd hs List.not_mem_nil

/-- Under its own field a condition finds its term. -/
theorem matches_ofTexts_self {texts : List String} (hne : c.term ≠ "") (hmem : c.term ∈ texts) :
    Condition.matches (.ofTexts (c.field.getD "") texts) c = true := by
  rw [Condition.matches, List.any_eq_true]
  refine ⟨c.term, ?_, accepts_term c⟩
  cases hfield : c.field with
  | none =>
    rw [candidates_of_none hfield, Record.allTexts_ofTexts, List.mem_filter]
    exact ⟨hmem, bne_iff_ne.2 hne⟩
  | some field =>
    rw [candidates_of_some hfield, Option.getD_some, Record.textsIn_ofTexts_self]
    exact hmem

/-- A condition matches no record with texts under a key, or all of those that hold its term and any
other text that is not empty. -/
theorem matches_ofTexts_cases (hp : p.Readable) (key : String) :
    (∀ texts, Condition.matches (.ofTexts key texts) p = false) ∨
      ∀ texts, p.term ∈ texts → "\"" ∈ texts → Condition.matches (.ofTexts key texts) p = true := by
  rcases hp.cases with ⟨hfield, hop⟩ | ⟨field, hfield, -, -⟩
  · refine .inr fun texts hterm hquote => ?_
    rw [Condition.matches, candidates_of_none hfield, Record.allTexts_ofTexts, List.any_eq_true]
    by_cases hempty : p.term = ""
    · -- the empty term is no text to look at, but it is in every other
      refine ⟨"\"", List.mem_filter.2 ⟨hquote, by decide⟩, ?_⟩
      rw [accepts, hop, hempty]
      exact occursIn_iff.2 (List.nil_infix)
    · exact ⟨p.term, List.mem_filter.2 ⟨hterm, bne_iff_ne.2 hempty⟩, accepts_term p⟩
  · rcases Record.textsIn_ofTexts key field with htexts | hnone
    · refine .inr fun texts hterm _ => ?_
      rw [Condition.matches, candidates_of_some hfield, htexts, List.any_eq_true]
      exact ⟨p.term, hterm, accepts_term p⟩
    · refine .inl fun texts => ?_
      rw [Condition.matches, candidates_of_some hfield, hnone, List.any_nil]

/-- Conditions with shorter terms do not tell two records apart that a condition does: in both there
are all their terms under its field, and in one of them there is its own. -/
theorem exists_records_of_shorter {pieces : List Condition}
    (hlong : 1 < Text.lowerLength c.term.toList)
    (hpieces : ∀ p ∈ pieces, p.Readable ∧
      Text.lowerLength p.term.toList < Text.lowerLength c.term.toList) :
    ∃ r r', (∀ p ∈ pieces, Condition.matches r p = Condition.matches r' p) ∧
      Condition.matches r c = false ∧ Condition.matches r' c = true := by
  refine ⟨.ofTexts (c.field.getD "") ("\"" :: pieces.map Condition.term),
    .ofTexts (c.field.getD "") (c.term :: "\"" :: pieces.map Condition.term),
    fun p hp => ?_, ?_, ?_⟩
  · have hmem : p.term ∈ pieces.map Condition.term := List.mem_map_of_mem hp
    rcases matches_ofTexts_cases (hpieces p hp).1 (c.field.getD "") with hfalse | htrue
    · rw [hfalse, hfalse]
    · rw [htrue _ (by simp [hmem]) (by simp), htrue _ (by simp [hmem]) (by simp)]
  · rw [Condition.matches, List.any_eq_false]
    intro s hs haccepts
    have hle := lowerLength_le_of_accepts haccepts
    rcases List.mem_cons.1 (mem_of_mem_candidates hs) with rfl | hs
    · exact absurd hle (Nat.not_le_of_lt hlong)
    · obtain ⟨p, hp, rfl⟩ := List.mem_map.1 hs
      exact absurd hle (Nat.not_le_of_lt (hpieces p hp).2)
  · refine matches_ofTexts_self ?_ (List.mem_cons_self ..)
    intro hempty
    rw [hempty] at hlong
    exact absurd hlong (by decide)

end Condition

/-! ### Queries of one condition -/

theorem Group.chars_single (side : Side) (c : Condition) :
    (Group.single side (.condition c)).chars = side.dash ++ c.chars := by
  rw [Group.chars_eq]
  cases side with
  | included => simp [Group.includedChars, Group.excludedChars, Item.chars, Side.dash]
  | excluded => simp [Group.includedChars, Group.excludedChars, Item.chars, Side.dash]

theorem Group.matches_single (r : Record) (side : Side) (i : Item) :
    Group.matches r (Group.single side i) = (i.matches r != decide (side = .excluded)) := by
  rw [Group.matches_eq]
  cases side <;> simp

/-- **A condition alone keeps its meaning exactly if it is closed**, when it is written and read
again. -/
theorem matches_parse_text_single_iff {c : Condition} (hc : c.Readable)
    (heven : EvenQuotes c.term.toList) (side : Side) :
    (∀ r, Group.matches r (parse (Group.single side (.condition c)).text) =
      Group.matches r (Group.single side (.condition c))) ↔ c.Closed := by
  constructor
  · intro h
    by_contra hopen
    have htext : (Group.single side (.condition c)).text.toList = side.dash ++ c.chars := by
      rw [Group.text, String.toList_ofList, Group.chars_single]
    obtain ⟨front, ch, back, -, -, hlt, -⟩ := Condition.exists_pieces hc heven hopen side
    have hlong : 1 < Text.lowerLength c.term.toList := by
      rw [Text.lowerLength_cons] at hlt
      exact Nat.lt_of_le_of_lt (Nat.le_add_right 1 _) hlt
    have hpieces : ∀ p ∈ (parse (Group.single side (.condition c)).text).conditions,
        p.Readable ∧ Text.lowerLength p.term.toList < Text.lowerLength c.term.toList := by
      intro p hp
      obtain ⟨token, hmem, side', hleaf⟩ := exists_token_of_mem_conditions hp
      rw [tokenize_eq, htext] at hmem
      exact ⟨((parse_spec _).2 p hp).1,
        Condition.lowerLength_lt_of_mem_tokensOf hc heven hopen hmem hleaf⟩
    obtain ⟨r, r', hagree, hfalse, htrue⟩ := Condition.exists_records_of_shorter hlong hpieces
    -- the pieces agree on the two records, and so does the query that is read
    have hsame := Group.matches_congr hagree
    rw [h, h, Group.matches_single, Group.matches_single, Item.matches, Item.matches, hfalse,
      htrue] at hsame
    cases side <;> exact absurd hsame (by decide)
  · intro hclosed r
    have hdeep : (Group.single side (.condition c)).nesting ≤ 100 :=
      Group.nesting_single_le_iff.2 (Nat.zero_le 100)
    have hcond : ∀ k ∈ (Group.single side (.condition c)).conditions,
        k.Readable ∧ EvenQuotes k.term.toList ∧ k.Closed := by
      intro k hk
      obtain rfl : k = c := List.mem_singleton.1 (Group.mem_conditions_single.1 hk)
      exact ⟨hc, heven, hclosed⟩
    rw [parse_text_of_closed hdeep hcond, Group.matches_normal]

/-- **What is kept of a query that is read, written and read again.** If its quotes come in pairs,
its tree comes back in normal form exactly if all its conditions are closed, and then it matches the
same records. Each condition alone matches the same records only if it is closed. -/
theorem parse_text_parse (q : String) (heven : EvenQuotes q.toList) :
    (parse (parse q).text = (parse q).normal ↔ ∀ c ∈ (parse q).conditions, c.Closed) ∧
      ((∀ c ∈ (parse q).conditions, c.Closed) → ∀ r,
        Group.matches r (parse (parse q).text) = Group.matches r (parse q)) ∧
      ∀ side c, parse q = Group.single side (.condition c) →
        ((∀ r, Group.matches r (parse (parse q).text) = Group.matches r (parse q)) ↔
          c.Closed) := by
  obtain ⟨hdeep, hspec⟩ := parse_spec q
  have hcond : ∀ c ∈ (parse q).conditions, c.Readable ∧ EvenQuotes c.term.toList :=
    fun c hc => ⟨(hspec c hc).1, (hspec c hc).2 heven⟩
  have hiff := parse_text_eq_normal_iff hdeep hcond
  refine ⟨hiff, fun hclosed r => ?_, fun side c hq => ?_⟩
  · rw [hiff.2 hclosed, Group.matches_normal]
  · rw [hq] at hcond ⊢
    obtain ⟨hc, hterm⟩ :=
      hcond c (Group.mem_conditions_single.2 (List.mem_singleton_self c))
    exact matches_parse_text_single_iff hc hterm side

/-- In this query only the space stands between quotes. Written with quotes around it, everything
does but the space. -/
theorem parse_text_parse_space_in_quotes :
    EvenQuotes "a\"b c\"d".toList ∧
      ¬∀ r, Group.matches r (parse (parse "a\"b c\"d").text) =
        Group.matches r (parse "a\"b c\"d") := by
  have heven : EvenQuotes "a\"b c\"d".toList := by decide
  have hparse : parse "a\"b c\"d" =
      Group.single .included (.condition ⟨none, "a\"b c\"d", .contains⟩) := by
    have htokens : tokenize "a\"b c\"d" = ["a\"b c\"d"] := by decide
    rw [parse_eq_machine, htokens]
    decide
  have hopen : ¬Condition.Closed ⟨none, "a\"b c\"d", .contains⟩ := by decide
  exact ⟨heven, fun h => hopen (((parse_text_parse _ heven).2.2 .included _ hparse).1 h)⟩

/-- A record with the text of that query is lost. -/
example : Group.matches ⟨[(.name "t", .text "a\"b c\"d")]⟩ (parse "a\"b c\"d") = true ∧
    Group.matches ⟨[(.name "t", .text "a\"b c\"d")]⟩ (parse "\"a\"b c\"d\"") = false := by
  have htokens : tokenize "a\"b c\"d" = ["a\"b c\"d"] := by decide
  have htokens' : tokenize "\"a\"b c\"d\"" = ["\"a\"b", "c\"d\""] := by decide
  rw [parse_eq_machine, parse_eq_machine, htokens, htokens']
  decide

end RecordSearch
