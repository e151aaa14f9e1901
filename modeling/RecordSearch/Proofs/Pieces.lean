import RecordSearch.Proofs.Rules
import RecordSearch.Text.LowerCase

/-!
# Conditions that fall to pieces

A condition whose term is not closed is written as several tokens. Each of them that is read as a
condition has a shorter term than the whole (`lowerLength_lt_of_mem_tokensOf`), and it stays shorter
in small letters. So the condition is not among those that its text is read as, and neither is one
that matches a text whenever it does.
-/

namespace RecordSearch

/-! ### The length of small letters -/

namespace Text

/-- The number of small letters of a text. The capital I with a dot has two. -/
def lowerLength (text : List Char) : Nat := text.length + text.count 'İ'

theorem lowerLength_append (a b : List Char) :
    lowerLength (a ++ b) = lowerLength a + lowerLength b := by
  rw [lowerLength, lowerLength, lowerLength, List.length_append, List.count_append]
  omega

theorem lowerLength_cons (c : Char) (text : List Char) :
    lowerLength (c :: text) = lowerLength [c] + lowerLength text :=
  lowerLength_append [c] text

theorem lowerLength_le_of_sublist {a b : List Char} (h : a.Sublist b) :
    lowerLength a ≤ lowerLength b :=
  Nat.add_le_add h.length_le (h.count_le _)

theorem lowerLength_singleton {c : Char} (hc : c ≠ 'İ') : lowerLength [c] = 1 := by
  rw [lowerLength, List.count_singleton, if_neg (by simpa using hc)]
  rfl

theorem length_lowerAt (before : List Char) (c : Char) (after : List Char) :
    (lowerAt before c after).length = lowerLength [c] := by
  rw [lowerAt]
  split
  · rename_i hc
    rw [hc]
    rfl
  · split
    · rename_i hc
      rw [hc]
      rfl
    · rename_i hc
      rw [lowerLength_singleton hc]
      rfl

theorem length_lower (text : List Char) : (lower text).length = lowerLength text := by
  have hfrom : ∀ before, (lowerFrom before text).length = lowerLength text := by
    induction text with
    | nil => exact fun before => rfl
    | cons c text ih =>
      intro before
      rw [lowerFrom, List.length_append, ih, length_lowerAt, ← lowerLength_cons]
  exact hfrom []

end Text

/-! ### Conditions of tokens -/

namespace Condition

theorem unquote_sublist (text : List Char) : (unquote text).Sublist text := by
  unfold unquote
  split
  · split
    · exact (List.dropLast_sublist _).trans (List.sublist_cons_self _ _)
    · exact List.Sublist.refl _
  · exact List.Sublist.refl _

theorem evenQuotes_unquote {text : List Char} (h : EvenQuotes text) :
    EvenQuotes (unquote text) := by
  unfold unquote
  split
  · rename_i rest
    split
    · rename_i hlast
      obtain ⟨inner, rfl⟩ := List.getLast?_eq_some_iff.1 hlast
      rw [List.dropLast_concat]
      exact evenQuotes_quoted.1 h
    · exact h
  · exact h

/-- What is known of a condition from the token that spells it. -/
theorem ofChars_spec (token : List Char) :
    (ofChars token).Readable ∧ (ofChars token).term.toList.Sublist token ∧
      (EvenQuotes token → EvenQuotes (ofChars token).term.toList) := by
  rcases ofChars_cases token with ⟨word, op, body, hne, hword, hbody, rfl⟩ | hany
  · have heven : EvenQuotes word :=
      evenQuotes_of_notMem fun h => absurd (hword _ h) (by decide)
    rw [ofChars_field hne hword op hbody]
    refine ⟨?_, ?_, fun h => ?_⟩
    · show (String.ofList word).toList ≠ [] ∧ _
      rw [String.toList_ofList]
      exact ⟨hne, hword⟩
    · rw [String.toList_ofList]
      exact (unquote_sublist body).trans
        ((List.sublist_cons_self _ _).trans (List.sublist_append_right word _))
    · rw [evenQuotes_append heven, evenQuotes_cons (by cases op <;> decide)] at h
      rw [String.toList_ofList]
      exact evenQuotes_unquote h
  · rw [hany]
    refine ⟨rfl, ?_, fun h => ?_⟩
    · rw [String.toList_ofList]
      exact unquote_sublist token
    · rw [String.toList_ofList]
      exact evenQuotes_unquote h

end Condition

/-- The condition of a token is spelled by what stands behind the dash, if there is one. -/
theorem Sign.of_ofLeaf_eq {token : String} {side : Side} {c : Condition}
    (h : Sign.ofLeaf token = .leaf side c) :
    ∃ text, token.toList = side.dash ++ text ∧ c = Condition.ofChars text := by
  unfold Sign.ofLeaf at h
  split at h
  · rename_i term hterm
    cases h
    exact ⟨term, hterm, rfl⟩
  · cases h
    exact ⟨token.toList, rfl, rfl⟩

/-! ### Pieces -/

namespace Condition

variable {c : Condition}

theorem needsQuotes_of_not_closed (hopen : ¬c.Closed) : needsQuotes c.term.toList = true := by
  by_contra h
  rw [Bool.not_eq_true] at h
  refine hopen ((closed_iff_uncut c).2 (uncut_of_forall fun ch hch => ?_))
  cases hst : isStructural ch with
  | false => rfl
  | true => rw [← (plain_of_needsQuotes h).2.2 ch hch, isSpecial_of_isStructural hst]

/-- The tokens of a condition that is not closed. Its term is cut between the quotes around it: the
first token ends where it is cut, and the others come from behind the cut. -/
theorem exists_first_piece (hc : c.Readable) (hopen : ¬c.Closed) (side : Side) :
    ∃ front ch back, c.term.toList = front ++ ch :: back ∧ isStructural ch = true ∧
      EvenQuotes ('"' :: front) ∧
      tokensOf (side.dash ++ c.chars) =
        String.ofList (side.dash ++ (c.lead ++ '"' :: Text.stripEnd front)) ::
          (structuralToken ch ++ tokensOf (back ++ ['"'])) := by
  obtain ⟨front, ch, back, hterm, hch, hq, huncut⟩ :=
    exists_first_cut (mt (closed_iff_uncut c).2 hopen)
  have hfront : EvenQuotes ('"' :: front) := (quotedAfter_eq_iff false _).1 hq
  have hfirst : EvenQuotes (side.dash ++ c.lead ++ '"' :: front) := by
    rw [List.append_assoc, evenQuotes_append side.evenQuotes_dash,
      evenQuotes_append (evenQuotes_lead hc)]
    exact hfront
  have hstretch : Uncut false (side.dash ++ c.lead ++ '"' :: front) := by
    rw [List.append_assoc, uncut_append_iff, side.evenQuotes_dash.quotedAfter, uncut_append_iff,
      (evenQuotes_lead hc).quotedAfter, uncut_cons_iff]
    exact ⟨side.uncut_dash, uncut_lead hc, fun h => absurd h (by decide), huncut⟩
  have hplain : ∀ d ∈ side.dash ++ c.lead, Text.isBlank d = false := by
    intro d hd
    rcases List.mem_append.1 hd with hd | hd
    · cases side with
      | included => exact absurd hd List.not_mem_nil
      | excluded =>
        obtain rfl := List.mem_singleton.1 hd
        decide
    · exact (plain_lead hc d hd).1
  have hstrip := Text.strip_append_cons hplain (c := '"') (by decide) front
  have hsplit : side.dash ++ c.chars =
      side.dash ++ c.lead ++ '"' :: front ++ ch :: (back ++ ['"']) := by
    rw [chars_eq, termChars, if_pos (needsQuotes_of_not_closed hopen), hterm]
    simp
  refine ⟨front, ch, back, hterm, hch, hfront, ?_⟩
  rw [hsplit, tokensOf_append hfirst hch, tokensOf_of_uncut hstretch,
    stretchToken_of_ne_nil (by rw [hstrip]; simp), hstrip, List.append_assoc, List.append_assoc]
  rfl

/-- Where the quotes of the term come in pairs, one stands on either side of its cut, and so what
is read of either side is shorter than the term. -/
theorem exists_pieces (hc : c.Readable) (heven : EvenQuotes c.term.toList) (hopen : ¬c.Closed)
    (side : Side) :
    ∃ front ch back, tokensOf (side.dash ++ c.chars) =
        String.ofList (side.dash ++ (c.lead ++ '"' :: front)) ::
          (structuralToken ch ++ tokensOf back) ∧
      isStructural ch = true ∧
      Text.lowerLength ('"' :: front) < Text.lowerLength c.term.toList ∧
      Text.lowerLength back < Text.lowerLength c.term.toList := by
  obtain ⟨front, ch, back, hterm, hch, hfront, htokens⟩ := exists_first_piece hc hopen side
  have hodd : ¬EvenQuotes front := by
    intro h
    rw [← List.singleton_append, EvenQuotes, List.count_append, Nat.even_add] at hfront
    exact absurd (hfront.2 h) (by decide)
  have hodd' : ¬EvenQuotes back := by
    intro h
    rw [hterm, EvenQuotes, List.count_append, List.count_cons_of_ne (isStructural_ne_quote hch),
      Nat.even_add] at heven
    exact hodd (heven.2 h)
  have hpos : ∀ {text : List Char}, ¬EvenQuotes text → 0 < Text.lowerLength text := by
    intro text h
    cases text with
    | nil => exact absurd evenQuotes_nil h
    | cons d text => rw [Text.lowerLength, List.length_cons]; omega
  have hquote : Text.lowerLength ['"'] = 1 := rfl
  have hch1 : Text.lowerLength [ch] = 1 :=
    Text.lowerLength_singleton (by rintro rfl; exact absurd hch (by decide))
  have hlen : Text.lowerLength c.term.toList =
      Text.lowerLength front + (1 + Text.lowerLength back) := by
    rw [hterm, Text.lowerLength_append, Text.lowerLength_cons ch, hch1]
  have hfront0 := hpos hodd
  have hback0 := hpos hodd'
  refine ⟨Text.stripEnd front, ch, back ++ ['"'], htokens, hch, ?_, ?_⟩
  · have hle := Text.lowerLength_le_of_sublist (Text.stripEnd_sublist front)
    rw [Text.lowerLength_cons, hquote, hlen]
    omega
  · rw [Text.lowerLength_append, hquote, hlen]
    omega

/-- The condition that the first of these tokens spells. -/
theorem ofChars_lead_quote (hc : c.Readable) (front : List Char) :
    ofChars (c.lead ++ '"' :: front) =
      ⟨c.field, String.ofList (unquote ('"' :: front)), c.operator⟩ :=
  ofChars_lead_append hc (List.cons_ne_nil _ _)
    (.inr fun ch hch => by rw [← Option.some.inj hch]; decide)

theorem head_lead_quote (hc : c.Readable) (front : List Char) :
    ∀ ch ∈ (c.lead ++ '"' :: front).head?, isStructural ch = false ∧ ch ≠ '-' := by
  intro ch hch
  refine (head_lead_append hc (fun d hd => ?_) ch hch).2
  obtain rfl : '"' = d := Option.some.inj hd
  decide

/-- No token of a condition that is not closed spells a term as long as its own. -/
theorem lowerLength_lt_of_mem_tokensOf (hc : c.Readable) (heven : EvenQuotes c.term.toList)
    (hopen : ¬c.Closed) {side side' : Side} {token : String} {piece : Condition}
    (hmem : token ∈ tokensOf (side.dash ++ c.chars))
    (hpiece : Sign.ofLeaf token = .leaf side' piece) :
    Text.lowerLength piece.term.toList < Text.lowerLength c.term.toList := by
  obtain ⟨front, ch, back, htokens, hch, hlt, hlt'⟩ := exists_pieces hc heven hopen side
  -- a piece's term is a part of its token
  have hpart : ∀ text : List Char, token.toList.Sublist text →
      Text.lowerLength piece.term.toList ≤ Text.lowerLength text := by
    intro text htext
    obtain ⟨spelled, htoken, rfl⟩ := Sign.of_ofLeaf_eq hpiece
    rw [htoken] at htext
    exact Text.lowerLength_le_of_sublist
      ((ofChars_spec spelled).2.1.trans ((List.sublist_append_right _ _).trans htext))
  rw [htokens, List.mem_cons, List.mem_append] at hmem
  rcases hmem with rfl | hmem | hmem
  · rw [Sign.ofLeaf_dash_append side fun h => (head_lead_quote hc front '-' h).2 rfl,
      ofChars_lead_quote hc] at hpiece
    cases hpiece
    rw [String.toList_ofList]
    exact Nat.lt_of_le_of_lt (Text.lowerLength_le_of_sublist (unquote_sublist _)) hlt
  · have hle := hpart [ch] (by rw [toList_of_mem_structuralToken hmem])
    rw [Text.lowerLength_singleton (by rintro rfl; exact absurd hch (by decide))] at hle
    rw [Text.lowerLength_cons] at hlt
    have hquote : Text.lowerLength ['"'] = 1 := rfl
    omega
  · exact Nat.lt_of_le_of_lt (hpart back (sublist_of_mem_tokensOf hmem)) hlt'

end Condition

end RecordSearch
