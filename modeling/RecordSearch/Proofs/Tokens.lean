import RecordSearch.Command.Run
import RecordSearch.Proofs.Cutting

/-!
# What the tokens of a text are

A structural character outside quotes splits a text into two whose tokens are found apart, and of
all the characters of a text only blanks are lost: `tokenize_splits`.

`WellFormed` says of a list of texts, token by token, what the tokens of a text are like. Nothing
else is to be said of them: such a list, written with spaces between its texts, has just these texts
as its tokens, and no other list has (`tokenize_range`). A quote that is never closed shows in the
last token, and only there.
-/

namespace RecordSearch

/-! ### What is kept of a text -/

namespace Text

/-- The characters of a text that are not blank. -/
def withoutBlanks (text : List Char) : List Char := text.filter fun c => !isBlank c

theorem withoutBlanks_append (a b : List Char) :
    withoutBlanks (a ++ b) = withoutBlanks a ++ withoutBlanks b :=
  List.filter_append a b

theorem withoutBlanks_of_blank {text : List Char} (h : ∀ c ∈ text, isBlank c = true) :
    withoutBlanks text = [] := by
  rw [withoutBlanks, List.filter_eq_nil_iff]
  intro c hc
  rw [h c hc]
  exact Bool.false_ne_true

theorem exists_stripEnd (text : List Char) :
    ∃ back, text = stripEnd text ++ back ∧ ∀ c ∈ back, isBlank c = true := by
  induction text with
  | nil => exact ⟨[], rfl, fun c hc => absurd hc List.not_mem_nil⟩
  | cons c text ih =>
    obtain ⟨back, htext, hback⟩ := ih
    rw [stripEnd]
    split
    · rename_i hnil
      rw [hnil, List.nil_append] at htext
      subst htext
      by_cases hc : isBlank c = true
      · rw [if_pos hc]
        exact ⟨c :: text, rfl, List.forall_mem_cons.2 ⟨hc, hback⟩⟩
      · rw [if_neg hc]
        exact ⟨text, rfl, hback⟩
    · refine ⟨back, ?_, hback⟩
      rw [List.cons_append, ← htext]

/-- A text is what is left of it between two stretches of blanks. -/
theorem exists_strip (text : List Char) :
    ∃ front back, text = front ++ strip text ++ back ∧ (∀ c ∈ front, isBlank c = true) ∧
      ∀ c ∈ back, isBlank c = true := by
  obtain ⟨back, hback, hblank⟩ := exists_stripEnd (text.dropWhile isBlank)
  refine ⟨text.takeWhile isBlank, back, ?_, fun c hc => List.mem_takeWhile_imp hc, hblank⟩
  rw [strip, List.append_assoc, ← hback, List.takeWhile_append_dropWhile]

theorem withoutBlanks_strip (text : List Char) :
    withoutBlanks (strip text) = withoutBlanks text := by
  obtain ⟨front, back, htext, hfront, hback⟩ := exists_strip text
  conv_rhs => rw [htext, withoutBlanks_append, withoutBlanks_append,
    withoutBlanks_of_blank hfront, withoutBlanks_of_blank hback, List.nil_append, List.append_nil]

theorem getLast?_stripEnd {text : List Char} {c : Char} (h : c ∈ (stripEnd text).getLast?) :
    isBlank c = false := by
  induction text with
  | nil => exact absurd h (by simp)
  | cons d text ih =>
    rw [stripEnd] at h
    split at h
    · split at h
      · exact absurd h (by simp)
      · rename_i hd
        obtain rfl : d = c := by simpa using h
        simpa using hd
    · rename_i kept hkept
      rw [List.getLast?_cons_of_ne_nil hkept] at h
      exact ih h

/-- What is left of a text neither starts nor ends with a blank. -/
theorem strip_ends {text : List Char} {c : Char}
    (h : c ∈ (strip text).head? ∨ c ∈ (strip text).getLast?) : isBlank c = false := by
  rcases h with h | h
  · obtain ⟨rest, hrest⟩ := List.head?_eq_some_iff.1 h
    obtain ⟨back, hback, -⟩ := exists_stripEnd (text.dropWhile isBlank)
    rw [strip] at hrest
    have hdrop := List.head?_dropWhile_not isBlank text
    rw [hback, hrest] at hdrop
    exact hdrop
  · exact getLast?_stripEnd h

end Text

theorem withoutBlanks_flatMap_stretchToken (stretch : List Char) :
    Text.withoutBlanks ((stretchToken stretch).flatMap String.toList) =
      Text.withoutBlanks stretch := by
  by_cases hnil : Text.strip stretch = []
  · have htoken : stretchToken stretch = [] := by
      simp only [stretchToken, hnil]
    rw [htoken, ← Text.withoutBlanks_strip stretch, hnil]
    rfl
  · rw [stretchToken_of_ne_nil hnil, List.flatMap_singleton, String.toList_ofList,
      Text.withoutBlanks_strip]

theorem withoutBlanks_flatMap_structuralToken (c : Char) :
    Text.withoutBlanks ((structuralToken c).flatMap String.toList) = Text.withoutBlanks [c] := by
  by_cases hspace : c = ' '
  · subst hspace
    rfl
  · have htoken : structuralToken c = [String.singleton c] := by
      simp [structuralToken, hspace]
    rw [htoken, List.flatMap_singleton, String.toList_singleton]

/-- The tokens of a text are written with all its characters but blanks. -/
theorem withoutBlanks_tokensOf (text : List Char) :
    Text.withoutBlanks ((tokensOf text).flatMap String.toList) = Text.withoutBlanks text := by
  induction text using cut_induction with
  | uncut text huncut => rw [tokensOf_of_uncut huncut, withoutBlanks_flatMap_stretchToken]
  | cut first c rest huncut heven hc ih =>
    rw [tokensOf_append heven hc, tokensOf_of_uncut huncut, List.flatMap_append,
      List.flatMap_append, Text.withoutBlanks_append, Text.withoutBlanks_append,
      withoutBlanks_flatMap_stretchToken, withoutBlanks_flatMap_structuralToken, ih,
      ← Text.withoutBlanks_append, ← Text.withoutBlanks_append, List.append_assoc,
      List.singleton_append]

/-- **Tokens are split at the structural characters, and only blanks are lost.** A space, a bracket
or a tilde behind a text with paired quotes splits the tokens there, and is one itself unless it is
the space; and without their blanks, the tokens of a text are spelled by the characters of the
text. -/
theorem tokenize_splits :
    (∀ (a b : String) (c : Char), EvenQuotes a.toList → c ∈ [' ', '(', ')', '~'] →
      tokenize (a ++ String.singleton c ++ b) =
        tokenize a ++ (if c = ' ' then [] else [String.singleton c]) ++ tokenize b) ∧
    ∀ q : String, Text.withoutBlanks (String.join (tokenize q)).toList =
      Text.withoutBlanks q.toList := by
  constructor
  · intro a b c heven hc
    have hcases : c = ' ' ∨ c = '(' ∨ c = ')' ∨ c = '~' := by simpa using hc
    have hstructural : isStructural c = true := by
      rcases hcases with rfl | rfl | rfl | rfl <;> rfl
    have htoken : structuralToken c = if c = ' ' then [] else [String.singleton c] := by
      simp [structuralToken]
    rw [tokenize_eq, String.toList_append, String.toList_append, String.toList_singleton,
      List.append_assoc, List.singleton_append, tokensOf_append heven hstructural, htoken,
      tokenize_eq, tokenize_eq]
  · intro q
    rw [String.toList_join, tokenize_eq, withoutBlanks_tokensOf]

/-- The first text has a bracket and a tilde between quotes, and the quote of the second is never
closed. -/
theorem tokenize_splits_quoted :
    EvenQuotes "\"(~\" x".toList ∧ ')' ∈ [' ', '(', ')', '~'] ∧
      tokenize ("\"(~\" x" ++ String.singleton ')' ++ "-y\" ") =
        ["\"(~\"", "x"] ++ [")"] ++ ["-y\""] := by
  have heven : EvenQuotes "\"(~\" x".toList := by decide
  have hc : ')' ∈ [' ', '(', ')', '~'] := by decide
  have hfront : tokenize "\"(~\" x" = ["\"(~\"", "x"] := by decide
  have hback : tokenize "-y\" " = ["-y\""] := by decide
  refine ⟨heven, hc, ?_⟩
  rw [tokenize_splits.1 _ _ _ heven hc, hfront, hback]
  rfl

/-! ### Lists of tokens -/

/-- The tokens that are structural characters. -/
def marks : List String := ["(", ")", "~"]

/-- A text that can stand between two cuts. -/
structure IsStretch (text : List Char) : Prop where
  ne_nil : text ≠ []
  /-- No blanks stand at its ends. -/
  ends : ∀ c, c ∈ text.head? ∨ c ∈ text.getLast? → Text.isBlank c = false
  /-- Structural characters stand between quotes. -/
  quoted : ∀ front c back, text = front ++ c :: back → isStructural c = true → ¬EvenQuotes front

/-- What lists of tokens are like: each text in them is a structural character or a stretch, and
only the last one may leave a quote open. -/
structure WellFormed (tokens : List String) : Prop where
  token : ∀ t ∈ tokens, t ∈ marks ∨ IsStretch t.toList
  paired : ∀ t ∈ tokens.dropLast, EvenQuotes t.toList

/-- A text is not cut if an odd number of quotes stands in front of each structural character. -/
theorem uncut_iff_forall_append {text : List Char} :
    Uncut false text ↔
      ∀ front c back, text = front ++ c :: back → isStructural c = true → ¬EvenQuotes front := by
  have hquoted : ∀ front, quotedAfter false front = true ↔ ¬EvenQuotes front := by
    intro front
    rw [← quotedAfter_eq_iff false front, Bool.not_eq_false]
  rw [uncut_iff]
  constructor
  · rintro h front c back rfl hc
    have hi : front.length < (front ++ c :: back).length := by simp
    have hlast := h front.length hi (by simpa using hc)
    rwa [List.take_left, hquoted] at hlast
  · intro h i hi hc
    rw [hquoted]
    refine h (text.take i) text[i] (text.drop (i + 1)) ?_ hc
    rw [← List.drop_eq_getElem_cons hi, List.take_append_drop]

theorem IsStretch.uncut {text : List Char} (h : IsStretch text) : Uncut false text :=
  uncut_iff_forall_append.2 h.quoted

/-- What is left of a stretch without its blanks. -/
theorem isStretch_strip {text : List Char} (huncut : Uncut false text)
    (hne : Text.strip text ≠ []) : IsStretch (Text.strip text) := by
  obtain ⟨front, back, htext, hfront, -⟩ := Text.exists_strip text
  -- no quote is a blank, so that the middle is cut as it is inside the text
  have heven : EvenQuotes front := evenQuotes_of_notMem fun hmem =>
    absurd (hfront '"' hmem) (by decide)
  rw [htext, uncut_append_iff, uncut_append_iff, heven.quotedAfter] at huncut
  exact ⟨hne, fun c => Text.strip_ends, uncut_iff_forall_append.1 huncut.1.2⟩

theorem wellFormed_nil : WellFormed [] :=
  ⟨fun _ ht => absurd ht List.not_mem_nil, fun _ ht => absurd ht List.not_mem_nil⟩

theorem wellFormed_singleton {t : String} (h : t ∈ marks ∨ IsStretch t.toList) :
    WellFormed [t] :=
  ⟨fun _ ht' => List.mem_singleton.1 ht' ▸ h, fun _ ht' => absurd ht' List.not_mem_nil⟩

theorem WellFormed.append {front back : List String} (hfront : WellFormed front)
    (hpaired : ∀ t ∈ front, EvenQuotes t.toList) (hback : WellFormed back) :
    WellFormed (front ++ back) := by
  constructor
  · intro t ht
    exact (List.mem_append.1 ht).elim (hfront.token t) (hback.token t)
  · intro t ht
    by_cases hnil : back = []
    · rw [hnil, List.append_nil] at ht
      exact hfront.paired t ht
    · rw [List.dropLast_append_of_ne_nil hnil] at ht
      exact (List.mem_append.1 ht).elim (hpaired t) (hback.paired t)

theorem wellFormed_stretchToken {stretch : List Char} (huncut : Uncut false stretch) :
    WellFormed (stretchToken stretch) := by
  by_cases hnil : Text.strip stretch = []
  · simp only [stretchToken, hnil]
    exact wellFormed_nil
  · rw [stretchToken_of_ne_nil hnil]
    refine wellFormed_singleton (.inr ?_)
    rw [String.toList_ofList]
    exact isStretch_strip huncut hnil

theorem wellFormed_structuralToken {c : Char} (hc : isStructural c = true) :
    WellFormed (structuralToken c) := by
  have hcases : ((c = '(' ∨ c = ')') ∨ c = '~') ∨ c = ' ' := by
    simpa [isStructural] using hc
  rcases hcases with ((rfl | rfl) | rfl) | rfl
  · exact wellFormed_singleton (.inl (by decide))
  · exact wellFormed_singleton (.inl (by decide))
  · exact wellFormed_singleton (.inl (by decide))
  · exact wellFormed_nil

theorem wellFormed_tokensOf (text : List Char) : WellFormed (tokensOf text) := by
  induction text using cut_induction with
  | uncut text huncut =>
    rw [tokensOf_of_uncut huncut]
    exact wellFormed_stretchToken huncut
  | cut first c rest huncut heven hc ih =>
    -- a cut stands outside quotes, so no token in front of it leaves one open
    have hfirst : EvenQuotes (first ++ [c]) :=
      (evenQuotes_append heven).2 ((evenQuotes_cons (isStructural_ne_quote hc) []).2 evenQuotes_nil)
    have hpaired : ∀ t ∈ stretchToken first ++ structuralToken c, EvenQuotes t.toList := by
      intro t ht
      refine evenQuotes_of_mem_tokensOf hfirst ?_
      rw [tokensOf_append heven hc, tokensOf_of_uncut huncut]
      exact List.mem_append_left _ ht
    have hstretch : ∀ t ∈ stretchToken first, EvenQuotes t.toList := fun t ht =>
      hpaired t (List.mem_append_left _ ht)
    rw [tokensOf_append heven hc, tokensOf_of_uncut huncut]
    exact ((wellFormed_stretchToken huncut).append hstretch (wellFormed_structuralToken hc)).append
      hpaired ih

/-! ### The last token -/

/-- A quote that is never closed stands in the last token. -/
theorem exists_getLast?_tokensOf {text : List Char} (hodd : ¬EvenQuotes text) :
    ∃ t, (tokensOf text).getLast? = some t ∧ ¬EvenQuotes t.toList := by
  induction text using cut_induction with
  | uncut text huncut =>
    have hcount : (Text.strip text).count '"' = text.count '"' := Text.count_strip (by decide) text
    have hstrip : ¬EvenQuotes (Text.strip text) := by
      rwa [EvenQuotes, hcount]
    have hne : Text.strip text ≠ [] := by
      intro hnil
      rw [hnil] at hstrip
      exact hstrip evenQuotes_nil
    rw [tokensOf_of_uncut huncut, stretchToken_of_ne_nil hne]
    refine ⟨String.ofList (Text.strip text), rfl, ?_⟩
    rwa [String.toList_ofList]
  | cut first c rest huncut heven hc ih =>
    rw [evenQuotes_append heven, evenQuotes_cons (isStructural_ne_quote hc)] at hodd
    obtain ⟨t, ht, hquotes⟩ := ih hodd
    refine ⟨t, ?_, hquotes⟩
    rw [tokensOf_append heven hc, List.getLast?_append, ht]
    rfl

theorem getLast?_tokensOf_iff (text : List Char) :
    (∃ t ∈ (tokensOf text).getLast?, ¬EvenQuotes t.toList) ↔ ¬EvenQuotes text := by
  constructor
  · rintro ⟨t, ht, hquotes⟩ heven
    exact hquotes (evenQuotes_of_mem_tokensOf heven (List.mem_of_getLast? ht))
  · intro hodd
    obtain ⟨t, ht, hquotes⟩ := exists_getLast?_tokensOf hodd
    exact ⟨t, ht, hquotes⟩

theorem hasOddQuotes_iff (query : String) :
    hasOddQuotes query = true ↔ ¬EvenQuotes query.toList := by
  rw [hasOddQuotes, EvenQuotes, beq_iff_eq, Nat.not_even_iff]

/-! ### Texts joined by spaces -/

theorem tokensOf_of_token {t : String} (h : t ∈ marks ∨ IsStretch t.toList) :
    tokensOf t.toList = [t] := by
  rcases h with h | h
  · have hmark : t = "(" ∨ t = ")" ∨ t = "~" := by
      simpa [marks] using h
    rcases hmark with rfl | rfl | rfl <;> decide
  · rw [tokensOf_of_uncut h.uncut, stretchToken_eq h.ne_nil (fun c hc => h.ends c (.inl hc))
      (fun c hc => h.ends c (.inr hc)), String.ofList_toList]

/-- Tokens with spaces between them are the tokens of the text that they make. -/
theorem WellFormed.tokensOf_intercalate {tokens : List String} (h : WellFormed tokens) :
    tokensOf ([' '].intercalate (tokens.map String.toList)) = tokens := by
  induction tokens with
  | nil => rfl
  | cons t tokens ih =>
    have ht := tokensOf_of_token (h.token t (List.mem_cons_self ..))
    cases tokens with
    | nil => rw [List.map_singleton, List.intercalate_singleton, ht]
    | cons t' tokens =>
      have heven : EvenQuotes t.toList := h.paired t (List.mem_cons_self ..)
      have hrest : WellFormed (t' :: tokens) :=
        ⟨fun u hu => h.token u (List.mem_cons_of_mem _ hu),
          fun u hu => h.paired u (List.mem_cons_of_mem _ hu)⟩
      rw [List.map_cons, List.map_cons, List.intercalate_cons_cons, List.append_assoc,
        List.singleton_append, tokensOf_append heven rfl, ht, ← List.map_cons, ih hrest]
      rfl

/-- **What the tokens of a text can be.** The tokens of every text make a well-formed list, whose
last text has an odd number of quotes exactly if the text has, which is when parsing warns of it;
and a list is well formed exactly if its texts, joined by spaces, are cut into that list again. -/
theorem tokenize_range :
    (∀ q : String, WellFormed (tokenize q) ∧
      ((∃ t ∈ (tokenize q).getLast?, ¬EvenQuotes t.toList) ↔ ¬EvenQuotes q.toList) ∧
      ("Unbalanced double quote; the rest of the query was read literally." ∈
        (performParse q).warnings ↔ ¬EvenQuotes q.toList)) ∧
    ∀ ts : List String, tokenize (" ".intercalate ts) = ts ↔ WellFormed ts := by
  constructor
  · intro q
    refine ⟨wellFormed_tokensOf q.toList, getLast?_tokensOf_iff q.toList, ?_⟩
    rw [← hasOddQuotes_iff]
    by_cases hodd : hasOddQuotes q = true <;> simp [performParse, hodd]
  · intro ts
    constructor
    · intro h
      rw [← h]
      exact wellFormed_tokensOf _
    · intro h
      rw [tokenize_eq, String.toList_intercalate]
      exact h.tokensOf_intercalate

end RecordSearch
