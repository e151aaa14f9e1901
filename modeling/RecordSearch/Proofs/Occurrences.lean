import Mathlib.Data.List.Infix
import RecordSearch.Query.Matching

/-!
# Literal occurrences

A condition that looks for what contains its term compares in small letters. All of the small
letters of a term stand in the small letters of a text that it stands in, except that a capital
sigma may be final in one of them and not in the other. `isFinal_eq` says when it is not, whatever
stands around the term, and `accepts_occurrences_iff` that this is the only way to miss a text in
which the term stands.
-/

namespace RecordSearch

theorem occursIn_iff {part text : List Char} : occursIn part text = true ↔ part <:+: text := by
  induction text with
  | nil => rw [occursIn, List.isEmpty_iff, List.infix_nil]
  | cons c text ih =>
    rw [occursIn, Bool.or_eq_true, List.isPrefixOf_iff_prefix, ih, List.infix_cons_iff]

namespace Text

/-! ### Small letters of a part -/

/-- The small letters of a part of a text that has `before` in front of it, the nearest character
first, and `after` behind it. -/
def lowerBetween (before : List Char) : List Char → List Char → List Char
  | [], _ => []
  | c :: rest, after => lowerAt before c (rest ++ after) ++ lowerBetween (c :: before) rest after

theorem lowerFrom_append (before a b : List Char) :
    lowerFrom before (a ++ b) = lowerBetween before a b ++ lowerFrom (a.reverse ++ before) b := by
  induction a generalizing before with
  | nil => rfl
  | cons c a ih =>
    rw [List.cons_append, lowerFrom, ih, lowerBetween, List.append_assoc, List.reverse_cons,
      List.append_assoc, List.singleton_append]

theorem lowerFrom_eq (before text : List Char) :
    lowerFrom before text = lowerBetween before text [] := by
  have happend := lowerFrom_append before text []
  rwa [List.append_nil, lowerFrom, List.append_nil] at happend

section Contexts

variable {before before' after after' text : List Char}

/-- A part has the same small letters in two places if each of its characters has. -/
theorem lowerBetween_congr (h : ∀ front c back, text = front ++ c :: back →
      lowerAt (front.reverse ++ before') c (back ++ after') =
        lowerAt (front.reverse ++ before) c (back ++ after)) :
    lowerBetween before' text after' = lowerBetween before text after := by
  induction text generalizing before before' with
  | nil => rfl
  | cons c text ih =>
    have hfirst := h [] c text rfl
    rw [List.reverse_nil, List.nil_append, List.nil_append] at hfirst
    rw [lowerBetween, lowerBetween, hfirst, ih]
    intro front d back htext
    have hd := h (c :: front) d back (by rw [htext, List.cons_append])
    rwa [List.reverse_cons, List.append_assoc, List.append_assoc] at hd

/-- A part has less of a small letter in one place than in another if none of its characters has
more there, and one of them has less. -/
theorem count_lowerBetween_lt {small : Char}
    (hle : ∀ front c back, text = front ++ c :: back →
      (lowerAt (front.reverse ++ before') c (back ++ after')).count small ≤
        (lowerAt (front.reverse ++ before) c (back ++ after)).count small)
    (hlt : ∃ front c back, text = front ++ c :: back ∧
      (lowerAt (front.reverse ++ before') c (back ++ after')).count small <
        (lowerAt (front.reverse ++ before) c (back ++ after)).count small) :
    (lowerBetween before' text after').count small <
      (lowerBetween before text after).count small := by
  have hboth : (lowerBetween before' text after').count small ≤
        (lowerBetween before text after).count small ∧
      ((∃ front c back, text = front ++ c :: back ∧
        (lowerAt (front.reverse ++ before') c (back ++ after')).count small <
          (lowerAt (front.reverse ++ before) c (back ++ after)).count small) →
        (lowerBetween before' text after').count small <
          (lowerBetween before text after).count small) := by
    clear hlt
    induction text generalizing before before' with
    | nil =>
      refine ⟨Nat.le_refl _, ?_⟩
      rintro ⟨front, c, back, htext, -⟩
      exact absurd htext.symm (List.append_ne_nil_of_right_ne_nil _ (List.cons_ne_nil _ _))
    | cons c text ih =>
      have hrest := @ih (c :: before) (c :: before') fun front d back htext => by
        have hd := hle (c :: front) d back (by rw [htext, List.cons_append])
        rwa [List.reverse_cons, List.append_assoc, List.append_assoc] at hd
      have hfirst := hle [] c text rfl
      rw [List.reverse_nil, List.nil_append, List.nil_append] at hfirst
      rw [lowerBetween, lowerBetween, List.count_append, List.count_append]
      refine ⟨Nat.add_le_add hfirst hrest.1, ?_⟩
      rintro ⟨front, d, back, htext, hlt⟩
      cases front with
      | nil =>
        obtain ⟨rfl, rfl⟩ := List.cons.inj htext
        exact Nat.add_lt_add_of_lt_of_le hlt hrest.1
      | cons e front =>
        obtain ⟨rfl, rfl⟩ := List.cons.inj htext
        rw [List.reverse_cons, List.append_assoc, List.append_assoc] at hlt
        exact Nat.add_lt_add_of_le_of_lt hfirst (hrest.2 ⟨front, d, back, rfl, hlt⟩)
  exact hboth.2 hlt

end Contexts

/-! ### Final sigmas -/

/-- Whether a capital sigma that stands there is final. -/
def isFinal (before after : List Char) : Bool := meetsLetter before && !meetsLetter after

theorem lowerAt_sigma (before after : List Char) :
    lowerAt before 'Σ' after = [if isFinal before after then 'ς' else 'σ'] := rfl

theorem lowerAt_of_ne {c : Char} (hc : c ≠ 'Σ') (before before' after after' : List Char) :
    lowerAt before c after = lowerAt before' c after' := by
  rw [lowerAt, lowerAt, if_neg hc, if_neg hc]

theorem count_lowerAt_sigma (before after : List Char) :
    (lowerAt before 'Σ' after).count 'ς' = (isFinal before after).toNat ∧
      (lowerAt before 'Σ' after).count 'σ' = (!isFinal before after).toNat := by
  rw [lowerAt_sigma]
  cases isFinal before after <;> decide

theorem meetsLetter_of_skipped {text : List Char}
    (h : text.all skippedRanges.holdsChar = true) (more : List Char) :
    meetsLetter (text ++ more) = meetsLetter more := by
  rw [List.all_eq_true] at h
  rw [meetsLetter, List.dropWhile_append_of_pos h]
  rfl

theorem meetsLetter_append {text : List Char} (h : text.all skippedRanges.holdsChar = false)
    (more : List Char) : meetsLetter (text ++ more) = meetsLetter text := by
  induction text with
  | nil => exact absurd h (by decide)
  | cons c text ih =>
    unfold meetsLetter at ih ⊢
    rw [List.all_cons] at h
    cases hc : skippedRanges.holdsChar c with
    | true =>
      rw [hc, Bool.true_and] at h
      rw [List.cons_append, List.dropWhile_cons_of_pos hc, List.dropWhile_cons_of_pos hc]
      exact ih h
    | false =>
      rw [List.cons_append, List.dropWhile_cons_of_neg (by simp [hc]),
        List.dropWhile_cons_of_neg (by simp [hc])]

theorem meetsLetter_mono {text : List Char} (h : meetsLetter text = true) (more : List Char) :
    meetsLetter (text ++ more) = true := by
  cases hskipped : text.all skippedRanges.holdsChar with
  | false => rwa [meetsLetter_append hskipped]
  | true =>
    have hnone := meetsLetter_of_skipped hskipped []
    rw [List.append_nil, h] at hnone
    exact absurd hnone (by decide)

/-- A capital sigma between the two parts of a term is final or not whatever stands around the term.
If nothing in front of it shows whether a word goes on, a letter of its word has to follow, and if
nothing behind it does, none may come before it. -/
def Settled (front back : List Char) : Prop :=
  (front.all skippedRanges.holdsChar = true → meetsLetter back = true) ∧
    (back.all skippedRanges.holdsChar = true → meetsLetter front.reverse = false)

instance (front back : List Char) : Decidable (Settled front back) :=
  inferInstanceAs (Decidable (_ ∧ _))

theorem isFinal_eq {front back : List Char} (h : Settled front back) (before after : List Char) :
    isFinal (front.reverse ++ before) (back ++ after) = isFinal front.reverse back := by
  obtain ⟨hfront, hback⟩ := h
  cases hf : front.all skippedRanges.holdsChar with
  | true =>
    have hletter := hfront hf
    rw [isFinal, isFinal, meetsLetter_mono hletter, hletter, Bool.not_true, Bool.and_false,
      Bool.and_false]
  | false =>
    rw [isFinal, isFinal, meetsLetter_append (by rwa [List.all_reverse])]
    cases hb : back.all skippedRanges.holdsChar with
    | true => rw [hback hb, Bool.false_and, Bool.false_and]
    | false => rw [meetsLetter_append hb]

/-- A letter in front of a text makes one of its sigmas final that is not if nothing in front of
that one shows whether a word goes on, and nothing behind it goes on with one. -/
theorem count_sigma_lt {text front back : List Char} (htext : text = front ++ 'Σ' :: back)
    (hfront : front.all skippedRanges.holdsChar = true) (hback : meetsLetter back = false) :
    (lowerBetween ['a'] text []).count 'σ' < (lowerBetween [] text []).count 'σ' := by
  refine count_lowerBetween_lt (fun front c back _ => ?_) ⟨front, 'Σ', back, htext, ?_⟩
  · by_cases hc : c = 'Σ'
    · subst hc
      rw [(count_lowerAt_sigma _ _).2, (count_lowerAt_sigma _ _).2, isFinal, isFinal,
        List.append_nil, List.append_nil]
      cases hletter : meetsLetter front.reverse with
      | true => rw [meetsLetter_mono hletter]
      | false => cases meetsLetter (front.reverse ++ ['a']) <;> cases meetsLetter back <;> decide
    · rw [lowerAt_of_ne hc]
  · have hskipped : front.reverse.all skippedRanges.holdsChar = true := by rwa [List.all_reverse]
    have hbefore : meetsLetter (front.reverse ++ ['a']) = true := by
      rw [meetsLetter_of_skipped hskipped]
      decide
    have hnone : meetsLetter (front.reverse ++ []) = false := meetsLetter_of_skipped hskipped []
    rw [(count_lowerAt_sigma _ _).2, (count_lowerAt_sigma _ _).2, isFinal, isFinal, hbefore, hnone,
      List.append_nil, hback]
    decide

/-- A letter behind a text lets one of its sigmas not be final that is, if nothing behind that one
shows whether a word goes on, and a letter comes before it. -/
theorem count_finalSigma_lt {text front back : List Char} (htext : text = front ++ 'Σ' :: back)
    (hback : back.all skippedRanges.holdsChar = true)
    (hfront : meetsLetter front.reverse = true) :
    (lowerBetween [] text ['a']).count 'ς' < (lowerBetween [] text []).count 'ς' := by
  refine count_lowerBetween_lt (fun front c back _ => ?_) ⟨front, 'Σ', back, htext, ?_⟩
  · by_cases hc : c = 'Σ'
    · subst hc
      rw [(count_lowerAt_sigma _ _).1, (count_lowerAt_sigma _ _).1, isFinal, isFinal,
        List.append_nil, List.append_nil]
      cases hletter : meetsLetter back with
      | true => rw [meetsLetter_mono hletter]
      | false =>
        cases meetsLetter (back ++ ['a']) <;> cases meetsLetter front.reverse <;> decide
    · rw [lowerAt_of_ne hc]
  · have hafter : meetsLetter (back ++ ['a']) = true := by
      rw [meetsLetter_of_skipped hback]
      decide
    have hnone : meetsLetter (back ++ []) = false := meetsLetter_of_skipped hback []
    rw [(count_lowerAt_sigma _ _).1, (count_lowerAt_sigma _ _).1, isFinal, isFinal, hafter, hnone,
      List.append_nil, hfront]
    decide

/-! ### Small letters in longer texts -/

/-- The small letters of a text stand in those of every text in which it stands, if none of its
sigmas depends on what is around it. -/
theorem lower_isInfix {text : List Char}
    (h : ∀ front back, text = front ++ 'Σ' :: back → Settled front back) (before after : List Char) :
    lower text <:+: lower (before ++ text ++ after) := by
  have hsame : lowerBetween (before.reverse ++ []) text after = lower text := by
    rw [lower, lowerFrom_eq]
    refine lowerBetween_congr fun front c back htext => ?_
    by_cases hc : c = 'Σ'
    · subst hc
      have hsigma := h front back htext
      rw [lowerAt_sigma, lowerAt_sigma, isFinal_eq hsigma, List.append_nil, List.append_nil]
    · exact lowerAt_of_ne hc _ _ _ _
  have hwhole : lower (before ++ text ++ after) = lowerBetween [] before (text ++ after) ++
      (lower text ++ lowerFrom (text.reverse ++ (before.reverse ++ [])) after) := by
    rw [lower, List.append_assoc, lowerFrom_append, lowerFrom_append, hsame]
  rw [hwhole, ← List.append_assoc]
  exact List.infix_append _ _ _

variable {text front back : List Char}

/-- A letter in front of a text takes away one of its small letters, if that makes a sigma final. -/
theorem not_isInfix_lower_cons (htext : text = front ++ 'Σ' :: back)
    (hfront : front.all skippedRanges.holdsChar = true) (hback : meetsLetter back = false) :
    ¬lower text <:+: lower ('a' :: text) := by
  intro hinfix
  have hle := hinfix.sublist.count_le 'σ'
  have hlt := count_sigma_lt htext hfront hback
  have hletter : (lowerAt [] 'a' text).count 'σ' = 0 := by
    rw [lowerAt_of_ne (by decide) [] [] _ []]
    decide
  rw [lower, lower, lowerFrom, lowerFrom_eq, lowerFrom_eq, List.count_append] at hle
  omega

/-- A letter behind a text takes away one of its small letters, if that lets a sigma not be final. -/
theorem not_isInfix_lower_append (htext : text = front ++ 'Σ' :: back)
    (hback : back.all skippedRanges.holdsChar = true) (hfront : meetsLetter front.reverse = true) :
    ¬lower text <:+: lower (text ++ ['a']) := by
  intro hinfix
  have hle := hinfix.sublist.count_le 'ς'
  have hlt := count_finalSigma_lt htext hback hfront
  have hletter : (lowerFrom (text.reverse ++ []) ['a']).count 'ς' = 0 := by
    rw [lowerFrom, lowerAt_of_ne (by decide) _ [] _ [], lowerFrom]
    decide
  rw [lower, lower, lowerFrom_append, lowerFrom_eq, List.count_append] at hle
  omega

end Text

/-! ### Missed occurrences -/

theorem Condition.accepts_contains {field : Option String} {term value : String} :
    (Condition.mk field term .contains).accepts value = true ↔
      Text.lower term.toList <:+: Text.lower value.toList := by
  rw [Condition.accepts]
  simp only [occursIn_iff, Text.fold, String.toList_ofList]

/-- **When no occurrence is missed.** A condition accepts every text in which its term stands,
letter by letter, exactly if each capital sigma of the term is final, or is not, wherever the term
stands. -/
theorem accepts_occurrences_iff (field : Option String) (term : String) :
    (∀ value : String, term.toList <:+: value.toList →
      (Condition.mk field term .contains).accepts value = true) ↔
    ∀ front back, term.toList = front ++ 'Σ' :: back → Text.Settled front back := by
  simp only [Condition.accepts_contains]
  constructor
  · intro hall front back hterm
    -- a letter at either end of the term makes a text that does not have all its small letters
    have hbefore := hall (String.ofList ('a' :: term.toList))
    have hbehind := hall (String.ofList (term.toList ++ ['a']))
    rw [String.toList_ofList] at hbefore hbehind
    refine ⟨fun hfront => ?_, fun hback => ?_⟩
    · by_contra hletter
      rw [Bool.not_eq_true] at hletter
      exact Text.not_isInfix_lower_cons hterm hfront hletter
        (hbefore (List.suffix_cons 'a' _).isInfix)
    · by_contra hletter
      rw [Bool.not_eq_false] at hletter
      exact Text.not_isInfix_lower_append hterm hback hletter
        (hbehind (List.prefix_append _ ['a']).isInfix)
  · rintro hsettled value ⟨before, after, hvalue⟩
    rw [← hvalue]
    exact Text.lower_isInfix hsettled before after

-- a final sigma of the term stands inside a word of the text
example : (Condition.mk none "ΑΣ" .contains).accepts "ΑΣΑ" = false := by decide

end RecordSearch
