import Mathlib.Algebra.Group.Nat.Even
import Mathlib.Data.List.TakeWhile
import RecordSearch.Query.Token

/-!
# Where a text is cut

A text is cut at its structural characters outside quotes, so what the rest of a text is cut into
depends on the text in front of it only through one bit: whether it starts between quotes.
`quotedAfter` is that bit, and it is left as it was by a text with an even number of quotes.

`tokensOf_append` says that a structural character behind such a text splits the tokens there, and
`uncut_iff` which texts are not cut at all.
-/

namespace RecordSearch

/-! ### Quotes -/

/-- Whether a text leads to a place between quotes, if it starts at one or not as `inQuotes` says.
-/
def quotedAfter (inQuotes : Bool) : List Char → Bool
  | [] => inQuotes
  | c :: rest => quotedAfter (inQuotes != (c == '"')) rest

/-- The number of quotes in a text is even. -/
def EvenQuotes (text : List Char) : Prop := Even (text.count '"')

instance (text : List Char) : Decidable (EvenQuotes text) :=
  inferInstanceAs (Decidable (Even _))

@[simp] theorem quotedAfter_nil (q : Bool) : quotedAfter q [] = q := rfl

theorem quotedAfter_cons (q : Bool) (c : Char) (rest : List Char) :
    quotedAfter q (c :: rest) = quotedAfter (q != (c == '"')) rest := rfl

theorem quotedAfter_append (q : Bool) (a b : List Char) :
    quotedAfter q (a ++ b) = quotedAfter (quotedAfter q a) b := by
  induction a generalizing q with
  | nil => rfl
  | cons c a ih => rw [List.cons_append, quotedAfter_cons, quotedAfter_cons, ih]

/-- Only a quote changes whether a place is between quotes. -/
theorem bne_quote_of_ne {c : Char} (hc : c ≠ '"') (q : Bool) : (q != (c == '"')) = q := by
  rw [beq_false_of_ne hc]
  cases q <;> rfl

/-- A text leads out of quotes it started in, or the other way round, exactly if it has an odd
number of them. -/
theorem quotedAfter_eq_iff (q : Bool) (text : List Char) :
    quotedAfter q text = q ↔ EvenQuotes text := by
  unfold EvenQuotes
  induction text generalizing q with
  | nil => simp
  | cons c rest ih =>
    rw [quotedAfter_cons, List.count_cons]
    by_cases hc : c = '"'
    · subst hc
      have hne : quotedAfter (!q) rest = q ↔ ¬quotedAfter (!q) rest = !q := by
        cases q <;> cases quotedAfter _ rest <;> simp
      rw [show (q != ('"' == '"')) = !q by cases q <;> rfl, hne, ih (!q), ← Nat.even_add_one]
      rfl
    · rw [bne_quote_of_ne hc, ih q, if_neg (by simpa using hc), Nat.add_zero]

theorem EvenQuotes.quotedAfter {text : List Char} (h : EvenQuotes text) (q : Bool) :
    quotedAfter q text = q :=
  (quotedAfter_eq_iff q text).2 h

theorem evenQuotes_nil : EvenQuotes [] := by
  simp [EvenQuotes]

theorem evenQuotes_append {a b : List Char} (ha : EvenQuotes a) :
    EvenQuotes (a ++ b) ↔ EvenQuotes b := by
  rw [← quotedAfter_eq_iff false, quotedAfter_append, ha.quotedAfter, quotedAfter_eq_iff]

theorem evenQuotes_cons {c : Char} (hc : c ≠ '"') (text : List Char) :
    EvenQuotes (c :: text) ↔ EvenQuotes text := by
  simp [EvenQuotes, hc]

theorem evenQuotes_of_notMem {text : List Char} (h : '"' ∉ text) : EvenQuotes text := by
  simp [EvenQuotes, List.count_eq_zero_of_not_mem h]

theorem isStructural_ne_quote {c : Char} (hc : isStructural c = true) : c ≠ '"' := by
  rintro rfl
  exact absurd hc (by decide)

/-! ### Cutting joined texts -/

namespace Cut

/-- At each character a text is cut, or it is not. -/
theorem cut_or_not (q : Bool) (c : Char) :
    (isStructural c = true ∧ q = false) ∨ (isStructural c = true → q = true) := by
  cases q <;> cases isStructural c <;> simp

theorem ofChars_structural {c : Char} (hc : isStructural c = true) (rest : List Char) :
    ofChars false (c :: rest) =
      ⟨[], (c, (ofChars false rest).first) :: (ofChars false rest).later⟩ := by
  rw [ofChars]
  simp [hc]

theorem ofChars_cons {q : Bool} {c : Char} (h : isStructural c = true → q = true)
    (rest : List Char) : ofChars q (c :: rest) = (ofChars (q != (c == '"')) rest).cons c := by
  rw [ofChars, if_neg]
  cases q <;> simp_all

/-- A structural character outside quotes is a cut, whatever stands around it. -/
theorem ofChars_append {q : Bool} {c : Char} {a : List Char} (ha : quotedAfter q a = false)
    (hc : isStructural c = true) (b : List Char) :
    ofChars q (a ++ c :: b) =
      ⟨(ofChars q a).first,
        (ofChars q a).later ++ (c, (ofChars false b).first) :: (ofChars false b).later⟩ := by
  induction a generalizing q with
  | nil =>
    rw [quotedAfter_nil] at ha
    subst ha
    exact ofChars_structural hc b
  | cons d a ih =>
    rw [quotedAfter_cons] at ha
    rcases cut_or_not q d with ⟨hd, rfl⟩ | hd
    · -- the text is cut at `d` already, and both sides go on behind that cut
      rw [bne_quote_of_ne (isStructural_ne_quote hd)] at ha
      rw [List.cons_append, ofChars_structural hd, ofChars_structural hd, ih ha]
      rfl
    · rw [List.cons_append, ofChars_cons hd, ofChars_cons hd, ih ha]
      rfl

theorem tokens_append {q : Bool} {c : Char} {a : List Char} (ha : quotedAfter q a = false)
    (hc : isStructural c = true) (b : List Char) :
    (ofChars q (a ++ c :: b)).tokens =
      (ofChars q a).tokens ++ structuralToken c ++ (ofChars false b).tokens := by
  simp only [ofChars_append ha hc, tokens, List.flatMap_append, List.flatMap_cons,
    List.append_assoc]

end Cut

/-! ### Texts that are not cut -/

/-- Nothing is cut in a text: it is one stretch. -/
def Uncut (inQuotes : Bool) (text : List Char) : Prop := Cut.ofChars inQuotes text = ⟨text, []⟩

theorem uncut_nil (q : Bool) : Uncut q [] := rfl

theorem uncut_cons_iff {q : Bool} {c : Char} {rest : List Char} :
    Uncut q (c :: rest) ↔ (isStructural c = true → q = true) ∧ Uncut (q != (c == '"')) rest := by
  unfold Uncut
  rcases Cut.cut_or_not q c with ⟨hc, rfl⟩ | hc
  · rw [Cut.ofChars_structural hc]
    constructor
    · intro h
      simp at h
    · intro h
      exact absurd (h.1 hc) Bool.false_ne_true
  · rw [Cut.ofChars_cons hc, iff_true_intro hc, true_and]
    generalize Cut.ofChars (q != (c == '"')) rest = cut
    obtain ⟨first, later⟩ := cut
    simp [Cut.cons]

theorem uncut_append_iff {q : Bool} {a b : List Char} :
    Uncut q (a ++ b) ↔ Uncut q a ∧ Uncut (quotedAfter q a) b := by
  induction a generalizing q with
  | nil => simp [uncut_nil]
  | cons c a ih => rw [List.cons_append, uncut_cons_iff, uncut_cons_iff, quotedAfter_cons, ih,
      and_assoc]

/-- A text is not cut if all its structural characters stand between quotes. -/
theorem uncut_iff {q : Bool} {text : List Char} :
    Uncut q text ↔
      ∀ (i : Nat) (h : i < text.length), isStructural text[i] = true →
        quotedAfter q (text.take i) = true := by
  induction text generalizing q with
  | nil => simp [uncut_nil]
  | cons c text ih =>
    rw [uncut_cons_iff, ih]
    constructor
    · rintro ⟨hc, h⟩ i hi hs
      cases i with
      | zero => exact hc hs
      | succ i => exact h i (Nat.lt_of_succ_lt_succ hi) hs
    · intro h
      exact ⟨h 0 (Nat.succ_pos _), fun i hi hs => h (i + 1) (Nat.succ_lt_succ hi) hs⟩

/-- A text without structural characters is not cut. -/
theorem uncut_of_forall {q : Bool} {text : List Char}
    (h : ∀ c ∈ text, isStructural c = false) : Uncut q text := by
  rw [uncut_iff]
  intro i hi hs
  rw [h _ (List.getElem_mem hi)] at hs
  exact absurd hs Bool.false_ne_true

/-- A text that is cut is cut at some first place. -/
theorem exists_first_cut {q : Bool} {text : List Char} (h : ¬Uncut q text) :
    ∃ first c rest, text = first ++ c :: rest ∧ isStructural c = true ∧
      quotedAfter q first = false ∧ Uncut q first := by
  induction text generalizing q with
  | nil => exact absurd (uncut_nil q) h
  | cons d text ih =>
    rcases Cut.cut_or_not q d with ⟨hd, rfl⟩ | hd
    · exact ⟨[], d, text, rfl, hd, rfl, uncut_nil false⟩
    · rw [uncut_cons_iff, not_and] at h
      obtain ⟨first, c, rest, rfl, hc, hq, hfirst⟩ := ih (h hd)
      exact ⟨d :: first, c, rest, rfl, hc, hq, uncut_cons_iff.2 ⟨hd, hfirst⟩⟩

/-- Induction along the cuts of a text. -/
theorem cut_induction {motive : List Char → Prop}
    (uncut : ∀ text, Uncut false text → motive text)
    (cut : ∀ first c rest, Uncut false first → EvenQuotes first → isStructural c = true →
      motive rest → motive (first ++ c :: rest))
    (text : List Char) : motive text := by
  induction hlen : text.length using Nat.strong_induction_on generalizing text with
  | _ len ih =>
    by_cases h : Uncut false text
    · exact uncut text h
    · obtain ⟨first, c, rest, rfl, hc, hq, hfirst⟩ := exists_first_cut h
      have hlt : rest.length < len := by
        rw [← hlen, List.length_append, List.length_cons]
        omega
      exact cut first c rest hfirst ((quotedAfter_eq_iff false first).1 hq) hc (ih _ hlt rest rfl)

/-! ### Tokens of joined texts -/

/-- The tokens of a text. -/
def tokensOf (text : List Char) : List String := (Cut.ofChars false text).tokens

theorem tokenize_eq (query : String) : tokenize query = tokensOf query.toList := rfl

@[simp] theorem tokensOf_nil : tokensOf [] = [] := rfl

/-- A structural character behind an even number of quotes splits the tokens of a text. -/
theorem tokensOf_append {c : Char} {a : List Char} (ha : EvenQuotes a)
    (hc : isStructural c = true) (b : List Char) :
    tokensOf (a ++ c :: b) = tokensOf a ++ structuralToken c ++ tokensOf b :=
  Cut.tokens_append (ha.quotedAfter false) hc b

theorem tokensOf_of_uncut {text : List Char} (h : Uncut false text) :
    tokensOf text = stretchToken text := by
  rw [tokensOf, h, Cut.tokens, List.flatMap_nil, List.append_nil]

/-! ### Texts without the blanks at their ends -/

namespace Text

theorem stripEnd_sublist (text : List Char) : (stripEnd text).Sublist text := by
  induction text with
  | nil => exact .slnil
  | cons c text ih =>
    rw [stripEnd]
    split
    · split
      · exact List.nil_sublist _
      · exact (List.nil_sublist text).cons_cons c
    · rename_i kept hkept
      exact ih.cons_cons c

theorem strip_sublist (text : List Char) : (strip text).Sublist text :=
  (stripEnd_sublist _).trans (List.dropWhile_sublist _)

/-- No characters but blanks are lost at the end. -/
theorem count_stripEnd {c : Char} (hc : isBlank c = false) (text : List Char) :
    (stripEnd text).count c = text.count c := by
  induction text with
  | nil => rfl
  | cons d text ih =>
    rw [stripEnd]
    split
    · rename_i hnil
      rw [hnil] at ih
      split
      · rename_i hd
        have hne : d ≠ c := by
          rintro rfl
          rw [hd] at hc
          exact Bool.false_ne_true hc.symm
        rw [List.count_cons_of_ne hne, ← ih]
      · rw [List.count_cons, List.count_cons, ← ih]
    · rw [List.count_cons, List.count_cons, ih]

theorem count_strip {c : Char} (hc : isBlank c = false) (text : List Char) :
    (strip text).count c = text.count c := by
  have hblank : (text.takeWhile isBlank).count c = 0 := by
    rw [List.count_eq_zero]
    intro hmem
    rw [List.mem_takeWhile_imp hmem] at hc
    exact Bool.false_ne_true hc.symm
  have hsplit : text.takeWhile isBlank ++ text.dropWhile isBlank = text :=
    List.takeWhile_append_dropWhile
  rw [strip, count_stripEnd hc]
  conv_rhs => rw [← hsplit, List.count_append, hblank, Nat.zero_add]

/-- Blanks are cut off up to the last character that is none. -/
theorem stripEnd_append {kept text : List Char} (h : stripEnd text ≠ []) :
    stripEnd (kept ++ text) = kept ++ stripEnd text := by
  induction kept with
  | nil => rfl
  | cons c kept ih =>
    rw [List.cons_append, stripEnd, ih]
    split
    · rename_i hnil
      exact absurd (List.append_eq_nil_iff.1 hnil).2 h
    · rfl

theorem stripEnd_cons {c : Char} (hc : isBlank c = false) (text : List Char) :
    stripEnd (c :: text) = c :: stripEnd text := by
  rw [stripEnd]
  split
  · rename_i hnil
    rw [hnil, if_neg (by rw [hc]; exact Bool.false_ne_true)]
  · rfl

/-- At the start nothing is cut off a text whose first character is not blank. -/
theorem strip_of_head {text : List Char} (hhead : ∀ c ∈ text.head?, isBlank c = false) :
    strip text = stripEnd text := by
  cases text with
  | nil => rfl
  | cons c text =>
    rw [strip, List.dropWhile_cons_of_neg (by rw [hhead c rfl]; exact Bool.false_ne_true)]

/-- Only blanks at the end of the last part are cut off. -/
theorem strip_append_cons {kept : List Char} (hkept : ∀ d ∈ kept, isBlank d = false) {c : Char}
    (hc : isBlank c = false) (text : List Char) :
    strip (kept ++ c :: text) = kept ++ c :: stripEnd text := by
  have hhead : ∀ d ∈ (kept ++ c :: text).head?, isBlank d = false := by
    cases kept with
    | nil => simpa using hc
    | cons d kept => simpa using hkept d (List.mem_cons_self ..)
  have hrest : stripEnd (c :: text) = c :: stripEnd text := stripEnd_cons hc text
  rw [strip_of_head hhead, stripEnd_append (by rw [hrest]; exact List.cons_ne_nil _ _), hrest]

/-- Nothing is cut off a text that starts and ends with characters that are not blank. -/
theorem strip_eq_self {text : List Char} (hhead : ∀ c ∈ text.head?, isBlank c = false)
    (hlast : ∀ c ∈ text.getLast?, isBlank c = false) : strip text = text := by
  rw [strip_of_head hhead]
  rcases List.eq_nil_or_concat text with rfl | ⟨front, d, rfl⟩
  · rfl
  · rw [List.concat_eq_append] at hlast ⊢
    have hd : stripEnd [d] = [d] := stripEnd_cons (hlast d (by simp)) []
    rw [stripEnd_append (by rw [hd]; exact List.cons_ne_nil _ _), hd]

end Text

/-! ### Tokens and the text they are cut from -/

theorem stretchToken_of_ne_nil {text : List Char} (hne : Text.strip text ≠ []) :
    stretchToken text = [String.ofList (Text.strip text)] := by
  rw [stretchToken]
  split
  · rename_i hnil
    exact absurd hnil hne
  · rfl

theorem stretchToken_eq {text : List Char} (hne : text ≠ [])
    (hhead : ∀ c ∈ text.head?, Text.isBlank c = false)
    (hlast : ∀ c ∈ text.getLast?, Text.isBlank c = false) :
    stretchToken text = [String.ofList text] := by
  have hstrip := Text.strip_eq_self hhead hlast
  rw [stretchToken_of_ne_nil (by rwa [hstrip]), hstrip]

theorem toList_of_mem_stretchToken {text : List Char} {token : String}
    (h : token ∈ stretchToken text) : token.toList = Text.strip text := by
  rw [stretchToken] at h
  split at h
  · exact absurd h List.not_mem_nil
  · rename_i hne
    rw [List.mem_singleton.1 h, String.toList_ofList]

theorem toList_of_mem_structuralToken {c : Char} {token : String}
    (h : token ∈ structuralToken c) : token.toList = [c] := by
  rw [structuralToken] at h
  split at h
  · exact absurd h List.not_mem_nil
  · rw [List.mem_singleton.1 h, String.toList_singleton]

/-- A token is a part of the text. -/
theorem sublist_of_mem_tokensOf {text : List Char} {token : String} (h : token ∈ tokensOf text) :
    token.toList.Sublist text := by
  induction text using cut_induction with
  | uncut text huncut =>
    rw [tokensOf_of_uncut huncut] at h
    rw [toList_of_mem_stretchToken h]
    exact Text.strip_sublist text
  | cut first c rest huncut heven hc ih =>
    rw [tokensOf_append heven hc, tokensOf_of_uncut huncut, List.mem_append, List.mem_append] at h
    rcases h with (h | h) | h
    · rw [toList_of_mem_stretchToken h]
      exact (Text.strip_sublist first).trans (List.sublist_append_left first _)
    · rw [toList_of_mem_structuralToken h]
      exact (List.singleton_sublist.2 (List.mem_cons_self ..)).trans
        (List.sublist_append_right first _)
    · exact (ih h).trans ((List.sublist_cons_self c rest).trans (List.sublist_append_right first _))

/-- Where the quotes of a text come in pairs, they do in each token. -/
theorem evenQuotes_of_mem_tokensOf {text : List Char} {token : String} (heven : EvenQuotes text)
    (h : token ∈ tokensOf text) : EvenQuotes token.toList := by
  have hstretch : ∀ {stretch : List Char}, EvenQuotes stretch → token ∈ stretchToken stretch →
      EvenQuotes token.toList := by
    intro stretch hs hmem
    rw [toList_of_mem_stretchToken hmem, EvenQuotes, Text.count_strip (by decide)]
    exact hs
  induction text using cut_induction with
  | uncut text huncut =>
    rw [tokensOf_of_uncut huncut] at h
    exact hstretch heven h
  | cut first c rest huncut hfirst hc ih =>
    rw [tokensOf_append hfirst hc, tokensOf_of_uncut huncut, List.mem_append, List.mem_append] at h
    rw [evenQuotes_append hfirst, evenQuotes_cons (isStructural_ne_quote hc)] at heven
    rcases h with (h | h) | h
    · exact hstretch hfirst h
    · rw [toList_of_mem_structuralToken h]
      exact (evenQuotes_cons (isStructural_ne_quote hc) []).2 evenQuotes_nil
    · exact ih heven h

end RecordSearch
