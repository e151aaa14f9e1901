import Mathlib.Data.List.Basic
import Mathlib.Data.List.TakeWhile
import RecordSearch.Proofs.Cutting
import RecordSearch.Query.Reading

/-!
# Conditions as tokens

`ofChars_chars` reads a condition back from how it is written: a readable condition is one that some
token spells, and it spells itself. For a text the written condition has to be one token too, and it
is exactly if its term is closed (`uncut_chars_iff`): the quotes that are put around a term turn
what stood outside quotes in it to the inside, and the other way round.
-/

namespace RecordSearch

namespace Text

/-- No blank is a word character. -/
theorem isWordChar_of_isBlank {c : Char} (h : isBlank c = true) : isWordChar c = false := by
  have hblanks : ((List.range' 9 5 ++ List.range' 0x1c 5 ++ List.range' 0x2000 11 ++
      [0x85, 0xa0, 0x1680, 0x2028, 0x2029, 0x202f, 0x205f, 0x3000]).all
        fun n => !wordRanges.holds n) = true := by decide +kernel
  rw [List.all_eq_true] at hblanks
  have hmem := hblanks c.toNat
  simp only [isBlank, Bool.or_eq_true, Bool.and_eq_true, decide_eq_true_eq, beq_iff_eq] at h
  simp only [List.mem_append, List.mem_range'_1, List.mem_cons, List.not_mem_nil, or_false,
    Bool.not_eq_true'] at hmem
  exact hmem (by omega)

theorem isBlank_of_isWordChar {c : Char} (h : isWordChar c = true) : isBlank c = false := by
  cases hb : isBlank c with
  | false => rfl
  | true => rw [isWordChar_of_isBlank hb] at h; exact absurd h Bool.false_ne_true

/-- A word character differs from every character that is none. -/
theorem ne_of_isWordChar {c d : Char} (h : isWordChar c = true) (hd : isWordChar d = false) :
    c ≠ d := by
  rintro rfl
  rw [hd] at h
  exact absurd h Bool.false_ne_true

theorem isStructural_of_isWordChar {c : Char} (h : isWordChar c = true) :
    isStructural c = false := by
  simp only [isStructural, Bool.or_eq_false_iff, beq_eq_false_iff_ne]
  exact ⟨⟨⟨ne_of_isWordChar h (by decide), ne_of_isWordChar h (by decide)⟩,
    ne_of_isWordChar h (by decide)⟩, ne_of_isWordChar h (by decide)⟩

end Text

/-! ### Dashes -/

namespace Side

/-- The characters that stand in front of an item on either side. -/
def dash : Side → List Char
  | .included => []
  | .excluded => ['-']

theorem evenQuotes_dash (side : Side) : EvenQuotes side.dash := by
  cases side <;> decide

theorem uncut_dash (side : Side) : Uncut false side.dash := by
  cases side <;> rfl

end Side

namespace Condition

/-- The conditions that tokens spell: those without a field that look for what contains the term,
and those with a field that is a word. -/
def Readable (c : Condition) : Prop :=
  match c.field with
  | none => c.operator = .contains
  | some field => field.toList ≠ [] ∧ ∀ ch ∈ field.toList, Text.isWordChar ch = true

instance : (c : Condition) → Decidable c.Readable
  | ⟨none, _, operator⟩ => inferInstanceAs (Decidable (operator = .contains))
  | ⟨some field, _, _⟩ =>
    decidable_of_iff (field.toList ≠ [] ∧ field.toList.all Text.isWordChar = true)
      (by rw [List.all_eq_true]; rfl)

/-- Every structural character of the term has an even number of quotes in front of it. -/
def Closed (c : Condition) : Prop :=
  ∀ (i : Nat) (h : i < c.term.toList.length), isStructural c.term.toList[i] = true →
    EvenQuotes (c.term.toList.take i)

instance (c : Condition) : Decidable c.Closed :=
  inferInstanceAs (Decidable (∀ (i : Nat) (h : i < c.term.toList.length),
    isStructural c.term.toList[i] = true → EvenQuotes (c.term.toList.take i)))

/-! ### Terms -/

theorem isSpecial_of_isStructural {c : Char} (h : isStructural c = true) : isSpecial c = true := by
  simp only [isStructural, Bool.or_eq_true, beq_iff_eq] at h
  rcases h with ((rfl | rfl) | rfl) | rfl <;> decide

/-- What is known of a term that is written without quotes. -/
theorem plain_of_needsQuotes {term : List Char} (h : needsQuotes term = false) :
    term ≠ [] ∧ term.head? ≠ some '-' ∧ ∀ c ∈ term, isSpecial c = false := by
  simp only [needsQuotes, Bool.or_eq_false_iff, List.isEmpty_eq_false_iff,
    beq_eq_false_iff_ne, List.any_eq_false, Bool.not_eq_true] at h
  exact ⟨h.1.1, h.1.2, h.2⟩

@[simp] theorem unquote_quoted (term : List Char) : unquote ('"' :: term ++ ['"']) = term := by
  simp [unquote]

theorem unquote_of_head?_ne {text : List Char} (h : text.head? ≠ some '"') :
    unquote text = text := by
  unfold unquote
  split
  · exact absurd rfl h
  · rfl

/-- Reading a written term gives the term. -/
theorem unquote_termChars (term : List Char) : unquote (termChars term) = term := by
  unfold termChars
  split
  · exact unquote_quoted term
  · rename_i h
    rw [Bool.not_eq_true] at h
    obtain ⟨-, -, hplain⟩ := plain_of_needsQuotes h
    refine unquote_of_head?_ne fun hq => ?_
    have := hplain '"' (List.mem_of_head? hq)
    exact absurd this (by decide)

theorem termChars_ne_nil (term : List Char) : termChars term ≠ [] := by
  unfold termChars
  split
  · exact List.cons_ne_nil _ _
  · rename_i h
    rw [Bool.not_eq_true] at h
    exact (plain_of_needsQuotes h).1

theorem evenQuotes_quoted {term : List Char} :
    EvenQuotes ('"' :: term ++ ['"']) ↔ EvenQuotes term := by
  simp [EvenQuotes, Nat.even_add_one]

theorem evenQuotes_termChars {term : List Char} (h : EvenQuotes term) :
    EvenQuotes (termChars term) := by
  unfold termChars
  split
  · exact evenQuotes_quoted.2 h
  · exact h

/-- A term is written as one stretch exactly if it is one between quotes. -/
theorem uncut_termChars_iff {term : List Char} :
    Uncut false (termChars term) ↔ Uncut true term := by
  unfold termChars
  split
  · have hlast : ∀ q, Uncut q ['"'] := fun q => uncut_of_forall (List.forall_mem_singleton.2 (by decide))
    rw [List.cons_append, uncut_cons_iff, uncut_append_iff]
    exact ⟨fun h => h.2.1, fun h => ⟨fun hq => absurd hq (by decide), h, hlast _⟩⟩
  · rename_i hq
    rw [Bool.not_eq_true] at hq
    have hplain : ∀ c ∈ term, isStructural c = false := by
      intro c hc
      cases hs : isStructural c with
      | false => rfl
      | true => rw [← (plain_of_needsQuotes hq).2.2 c hc, isSpecial_of_isStructural hs]
    exact ⟨fun _ => uncut_of_forall hplain, fun _ => uncut_of_forall hplain⟩

theorem closed_iff_uncut (c : Condition) : c.Closed ↔ Uncut true c.term.toList := by
  unfold Closed
  rw [uncut_iff]
  exact forall₃_congr fun i h hs => (quotedAfter_eq_iff true _).symm

/-! ### Written conditions -/

variable {c : Condition}

/-- What stands in front of the term of a written condition: the field and the sign. -/
def lead (c : Condition) : List Char :=
  match c.field with
  | none => []
  | some field => field.toList ++ [c.operator.sign]

theorem chars_eq (c : Condition) : c.chars = c.lead ++ termChars c.term.toList := by
  obtain ⟨field, term, operator⟩ := c
  cases field with
  | none => rfl
  | some field => exact List.append_cons field.toList operator.sign _

/-- The two kinds of readable conditions. -/
theorem Readable.cases (h : c.Readable) :
    (c.field = none ∧ c.operator = .contains) ∨
      ∃ field, c.field = some field ∧ field.toList ≠ [] ∧
        ∀ ch ∈ field.toList, Text.isWordChar ch = true := by
  unfold Readable at h
  split at h
  · rename_i hfield
    exact .inl ⟨hfield, h⟩
  · rename_i field hfield
    exact .inr ⟨field, hfield, h⟩

/-- Nothing in front of a term has a meaning of its own in a text. -/
theorem plain_lead (hc : c.Readable) : ∀ ch ∈ c.lead,
    Text.isBlank ch = false ∧ isStructural ch = false ∧ ch ≠ '"' ∧ ch ≠ '-' := by
  intro ch hch
  unfold lead at hch
  rcases hc.cases with ⟨hfield, -⟩ | ⟨field, hfield, -, hword⟩
  · rw [hfield] at hch
    exact absurd hch List.not_mem_nil
  · rw [hfield, List.mem_append, List.mem_singleton] at hch
    rcases hch with hch | rfl
    · have hw := hword ch hch
      exact ⟨Text.isBlank_of_isWordChar hw, Text.isStructural_of_isWordChar hw,
        Text.ne_of_isWordChar hw (by decide), Text.ne_of_isWordChar hw (by decide)⟩
    · cases c.operator <;> decide

theorem uncut_lead (hc : c.Readable) : Uncut false c.lead :=
  uncut_of_forall fun ch hch => (plain_lead hc ch hch).2.1

theorem evenQuotes_lead (hc : c.Readable) : EvenQuotes c.lead :=
  evenQuotes_of_notMem fun h => (plain_lead hc _ h).2.2.1 rfl

/-- A readable condition is written as one stretch exactly if its term is closed. -/
theorem uncut_chars_iff (hc : c.Readable) : Uncut false c.chars ↔ c.Closed := by
  rw [closed_iff_uncut, ← uncut_termChars_iff, chars_eq, uncut_append_iff,
    (evenQuotes_lead hc).quotedAfter]
  exact ⟨fun h => h.2, fun h => ⟨uncut_lead hc, h⟩⟩

theorem evenQuotes_chars (hc : c.Readable) (heven : EvenQuotes c.term.toList) :
    EvenQuotes c.chars := by
  rw [chars_eq, evenQuotes_append (evenQuotes_lead hc)]
  exact evenQuotes_termChars heven

/-! ### Reading -/

theorem Operator.isWordChar_sign (op : Operator) : Text.isWordChar op.sign = false := by
  cases op <;> decide

theorem Operator.eq_sign_of_ofSign? {sign : Char} {op : Operator}
    (h : Operator.ofSign? sign = some op) : sign = op.sign := by
  unfold Operator.ofSign? at h
  split at h <;> cases h <;> rfl

/-- A token of word characters, a sign and more makes a condition on a field. -/
theorem ofChars_field {word body : List Char} (hne : word ≠ [])
    (hword : ∀ ch ∈ word, Text.isWordChar ch = true) (op : Operator) (hbody : body ≠ []) :
    ofChars (word ++ op.sign :: body) =
      ⟨some (String.ofList word), String.ofList (unquote body), op⟩ := by
  have htake : (word ++ op.sign :: body).takeWhile Text.isWordChar = word := by
    rw [List.takeWhile_append_of_pos hword,
      List.takeWhile_cons_of_neg (by simp [Operator.isWordChar_sign]), List.append_nil]
  have hdrop : (word ++ op.sign :: body).dropWhile Text.isWordChar = op.sign :: body := by
    rw [List.dropWhile_append_of_pos hword,
      List.dropWhile_cons_of_neg (by simp [Operator.isWordChar_sign])]
  obtain ⟨w, word, rfl⟩ := List.exists_cons_of_ne_nil hne
  obtain ⟨b, body, rfl⟩ := List.exists_cons_of_ne_nil hbody
  simp only [ofChars, htake, hdrop, Operator.ofSign?_sign]

/-- A token makes a condition on a field, or it is a term for any field. -/
theorem ofChars_cases (token : List Char) :
    (∃ word op body, word ≠ [] ∧ (∀ ch ∈ word, Text.isWordChar ch = true) ∧ body ≠ [] ∧
      token = word ++ Operator.sign op :: body) ∨
    ofChars token = ⟨none, String.ofList (unquote token), .contains⟩ := by
  have hsplit : token = token.takeWhile Text.isWordChar ++ token.dropWhile Text.isWordChar :=
    List.takeWhile_append_dropWhile.symm
  have hword : ∀ ch ∈ token.takeWhile Text.isWordChar, Text.isWordChar ch = true :=
    fun ch hch => List.mem_takeWhile_imp hch
  unfold ofChars
  simp only
  split
  · rename_i w word sign b body htake hdrop
    split
    · rename_i op hop
      rw [htake] at hword
      refine .inl ⟨w :: word, op, b :: body, List.cons_ne_nil _ _, hword, List.cons_ne_nil _ _, ?_⟩
      rw [hsplit, htake, hdrop, Operator.eq_sign_of_ofSign? hop]
    · exact .inr rfl
  · exact .inr rfl

/-- A token without signs, or one that does not start with a word character, is a term for any
field. -/
theorem ofChars_any {token : List Char}
    (h : (∀ op, Operator.sign op ∉ token) ∨ ∀ ch ∈ token.head?, Text.isWordChar ch = false) :
    ofChars token = ⟨none, String.ofList (unquote token), .contains⟩ := by
  rcases ofChars_cases token with ⟨word, op, body, hne, hword, -, rfl⟩ | hany
  · rcases h with h | h
    · exact absurd (by simp) (h op)
    · obtain ⟨w, word, rfl⟩ := List.exists_cons_of_ne_nil hne
      have hw := hword w (List.mem_cons_self ..)
      rw [h w (by simp)] at hw
      exact absurd hw Bool.false_ne_true
  · exact hany

/-- A condition is read from the characters in front of its term and any others behind them, if the
latter would be a term alone. -/
theorem ofChars_lead_append (hc : c.Readable) {body : List Char} (hne : body ≠ [])
    (hbody : (∀ op, Operator.sign op ∉ body) ∨ ∀ ch ∈ body.head?, Text.isWordChar ch = false) :
    ofChars (c.lead ++ body) = ⟨c.field, String.ofList (unquote body), c.operator⟩ := by
  obtain ⟨field, term, operator⟩ := c
  rcases hc.cases with ⟨hfield, hop⟩ | ⟨f, hfield, hword, hwords⟩
  · obtain rfl : field = none := hfield
    obtain rfl : operator = .contains := hop
    exact ofChars_any hbody
  · obtain rfl : field = some f := hfield
    show ofChars (f.toList ++ [operator.sign] ++ body) = _
    rw [← List.append_cons, ofChars_field hword hwords operator hne, String.ofList_toList]

/-- A readable condition is read back from how it is written. -/
theorem ofChars_chars (hc : c.Readable) : ofChars c.chars = c := by
  have hterm : (∀ op, Operator.sign op ∉ termChars c.term.toList) ∨
      ∀ ch ∈ (termChars c.term.toList).head?, Text.isWordChar ch = false := by
    unfold termChars
    split
    · exact .inr fun ch hch => by rw [← Option.mem_some_iff.1 hch]; decide
    · rename_i h
      rw [Bool.not_eq_true] at h
      refine .inl fun op hop => ?_
      have := (plain_of_needsQuotes h).2.2 _ hop
      cases op <;> exact absurd this (by decide)
  rw [chars_eq, ofChars_lead_append hc (termChars_ne_nil _) hterm, unquote_termChars,
    String.ofList_toList]

/-! ### The token of a condition -/

/-- A written term starts with a quote or with a character of its own that is neither special nor a
dash, and ends with a quote or with a character of its own that is not special. -/
theorem termChars_ends (term : List Char) :
    (∀ ch ∈ (termChars term).head?, ch = '"' ∨ (isSpecial ch = false ∧ ch ≠ '-')) ∧
      ∀ ch ∈ (termChars term).getLast?, ch = '"' ∨ isSpecial ch = false := by
  unfold termChars
  split
  · refine ⟨fun ch hch => .inl (by simpa using hch.symm), fun ch hch => .inl ?_⟩
    rw [List.getLast?_concat] at hch
    exact (Option.mem_some_iff.1 hch).symm
  · rename_i h
    rw [Bool.not_eq_true] at h
    obtain ⟨-, hdash, hplain⟩ := plain_of_needsQuotes h
    refine ⟨fun ch hch => .inr ⟨hplain ch (List.mem_of_head? hch), ?_⟩,
      fun ch hch => .inr (hplain ch (List.mem_of_getLast? hch))⟩
    rintro rfl
    exact hdash hch

theorem isBlank_of_isSpecial {ch : Char} (h : ch = '"' ∨ isSpecial ch = false) :
    Text.isBlank ch = false := by
  rcases h with rfl | h
  · decide
  · simp only [isSpecial, Bool.or_eq_false_iff] at h
    exact h.1.1.1.1.1.1

theorem chars_ne_nil (c : Condition) : c.chars ≠ [] := by
  rw [chars_eq]
  exact List.append_ne_nil_of_right_ne_nil _ (termChars_ne_nil _)

/-- A text that starts with a readable condition's field starts with a character that is neither
blank nor structural nor a dash, if what stands behind the sign does. -/
theorem head_lead_append (hc : c.Readable) {body : List Char}
    (hbody : ∀ ch ∈ body.head?, Text.isBlank ch = false ∧ isStructural ch = false ∧ ch ≠ '-') :
    ∀ ch ∈ (c.lead ++ body).head?,
      Text.isBlank ch = false ∧ isStructural ch = false ∧ ch ≠ '-' := by
  intro ch hch
  cases hlead : c.lead with
  | nil =>
    rw [hlead] at hch
    exact hbody ch hch
  | cons d lead =>
    rw [hlead] at hch
    obtain rfl : d = ch := Option.some.inj hch
    obtain ⟨hblank, hstructural, -, hdash⟩ := plain_lead hc d (by rw [hlead]; exact .head _)
    exact ⟨hblank, hstructural, hdash⟩

theorem head_chars (hc : c.Readable) : ∀ ch ∈ c.chars.head?,
    Text.isBlank ch = false ∧ isStructural ch = false ∧ ch ≠ '-' := by
  rw [chars_eq]
  refine head_lead_append hc fun ch hch => ?_
  have hhead := (termChars_ends _).1 ch hch
  refine ⟨isBlank_of_isSpecial (hhead.imp_right And.left), ?_, ?_⟩
  · rcases hhead with rfl | ⟨hs, -⟩
    · decide
    · cases hst : isStructural ch with
      | false => rfl
      | true => rw [← hs, isSpecial_of_isStructural hst]
  · rcases hhead with rfl | ⟨-, hd⟩
    · decide
    · exact hd

theorem getLast_chars (c : Condition) :
    ∀ ch ∈ c.chars.getLast?, Text.isBlank ch = false := by
  intro ch hch
  rw [chars_eq, List.getLast?_append_of_ne_nil _ (termChars_ne_nil _)] at hch
  exact isBlank_of_isSpecial ((termChars_ends _).2 ch hch)

/-- A closed condition is written as one token on either side. -/
theorem tokensOf_dash_chars (hc : c.Readable) (hclosed : c.Closed) (side : Side) :
    tokensOf (side.dash ++ c.chars) = [String.ofList (side.dash ++ c.chars)] := by
  have huncut : Uncut false (side.dash ++ c.chars) := by
    rw [uncut_append_iff, side.evenQuotes_dash.quotedAfter]
    exact ⟨side.uncut_dash, (uncut_chars_iff hc).2 hclosed⟩
  rw [tokensOf_of_uncut huncut]
  refine stretchToken_eq (List.append_ne_nil_of_right_ne_nil _ (chars_ne_nil c)) ?_ ?_
  · intro ch hch
    cases side with
    | included => exact (head_chars hc ch hch).1
    | excluded =>
      obtain rfl : '-' = ch := Option.some.inj hch
      decide
  · intro ch hch
    rw [List.getLast?_append_of_ne_nil _ (chars_ne_nil c)] at hch
    exact getLast_chars c ch hch

end Condition

end RecordSearch
