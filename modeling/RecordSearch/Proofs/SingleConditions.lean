import RecordSearch.Proofs.ReadTree

/-!
# Single conditions

A condition is written without regard to where its text will stand. As a token the text is read back
exactly if the condition is readable (`ofToken_text_spec`), whatever its term is. As a query it is
read back exactly if the term is closed too (`parse_text_condition_iff`): the first token of a
condition that is not closed ends inside its term, and spells another one.
-/

namespace RecordSearch

variable {c : Condition}

/-! ### Conditions as tokens -/

namespace Condition

theorem ofToken_text (hc : c.Readable) : ofToken c.text = c := by
  rw [ofToken, text, String.toList_ofList, ofChars_chars hc]

theorem readable_ofToken (token : String) : (ofToken token).Readable :=
  (ofChars_spec token.toList).1

/-- Reading a token undoes writing it exactly for the conditions that tokens spell. So the text of
whatever a token spells, well-formed or not, spells the same. -/
theorem ofToken_text_spec :
    (∀ c : Condition, ofToken c.text = c ↔ c.Readable) ∧
      ∀ token : String, ofToken (ofToken token).text = ofToken token := by
  refine ⟨fun c => ⟨fun h => ?_, ofToken_text⟩, fun token => ofToken_text (readable_ofToken token)⟩
  rw [← h]
  exact readable_ofToken c.text

-- a term of one quote, and one with a field and a sign of its own
example : ofToken (Condition.text ⟨none, "\"", .contains⟩) = ⟨none, "\"", .contains⟩ := by decide
example : ofToken (Condition.text ⟨none, "a:b", .exact⟩) ≠ ⟨none, "a:b", .exact⟩ := by decide

/-! ### Conditions as queries -/

/-- A closed condition is read as itself on either side, whatever stands behind it. -/
theorem readGroup_dash_chars (hc : c.Readable) (hclosed : c.Closed) (side : Side) (d : Int)
    (rest : List String) :
    readGroup d (tokensOf (side.dash ++ c.chars) ++ rest) =
      (readGroup d rest).prepend (Group.single side (.condition c)) := by
  have hsign := Sign.ofTokens_dash_append side c.chars_ne_nil
    (fun ch hch => (head_chars hc ch hch).2) rest
  rw [ofChars_chars hc] at hsign
  rw [tokensOf_dash_chars hc hclosed]
  exact readGroup_leaf hsign

/-- A term is not what the text between its first quote and a cut inside it spells. -/
theorem unquote_front_ne {front back : List Char} {ch : Char} (hch : isStructural ch = true) :
    unquote ('"' :: Text.stripEnd front) ≠ front ++ ch :: back := by
  intro h
  have hsub : (front ++ ch :: back).Sublist ('"' :: front) :=
    h ▸ (unquote_sublist _).trans ((Text.stripEnd_sublist front).cons_cons '"')
  -- there is no room for more than the cut itself behind it, and then a quote is missing
  have hback : back = [] := by
    have hlen := hsub.length_le
    simp only [List.length_append, List.length_cons] at hlen
    exact List.length_eq_zero_iff.1 (by omega)
  subst hback
  have hcount := congrArg (List.count '"') (hsub.eq_of_length (by simp))
  rw [List.count_append, List.count_cons_of_ne (isStructural_ne_quote hch), List.count_nil,
    List.count_cons_self] at hcount
  omega

/-- A condition that is not closed is read as another one, and what is left of it stands behind. -/
theorem exists_readGroup_dash_chars (hc : c.Readable) (hopen : ¬c.Closed) (side : Side) :
    ∃ piece later, piece ≠ c ∧ ∀ (d : Int) (rest : List String),
      readGroup d (tokensOf (side.dash ++ c.chars) ++ rest) =
        (readGroup d (later ++ rest)).prepend (Group.single side (.condition piece)) := by
  obtain ⟨front, ch, back, hterm, hch, -, htokens⟩ := exists_first_piece hc hopen side
  refine ⟨ofChars (c.lead ++ '"' :: Text.stripEnd front),
    structuralToken ch ++ tokensOf (back ++ ['"']), ?_, fun d rest => ?_⟩
  · rw [ofChars_lead_quote hc]
    intro h
    have hunquote := congrArg (fun k => k.term.toList) h
    rw [String.toList_ofList, hterm] at hunquote
    exact unquote_front_ne hch hunquote
  · have hne : c.lead ++ '"' :: Text.stripEnd front ≠ [] :=
      List.append_ne_nil_of_right_ne_nil _ (List.cons_ne_nil _ _)
    rw [htokens, List.cons_append]
    exact readGroup_leaf (Sign.ofTokens_dash_append side hne (head_lead_quote hc _) _)

end Condition

/-- The text of a condition is read as the query of this condition alone exactly if the condition is
readable and its term closed. -/
theorem parse_text_condition_iff (c : Condition) :
    parse c.text = ⟨.and, [.condition c], []⟩ ↔ c.Readable ∧ c.Closed := by
  have hparse : parse c.text =
      (readGroup 0 (tokensOf (Side.included.dash ++ c.chars) ++ [])).group := by
    rw [parse, tokenize_eq, Condition.text, String.toList_ofList, List.append_nil]
    rfl
  constructor
  · intro h
    have hmem : c ∈ (parse c.text).conditions := by
      rw [h]
      exact List.mem_singleton_self c
    have hc : c.Readable := ((parse_spec c.text).2 c hmem).1
    refine ⟨hc, ?_⟩
    by_contra hopen
    obtain ⟨piece, later, hne, hread⟩ := Condition.exists_readGroup_dash_chars hc hopen .included
    rw [hparse, hread, Reading.group_prepend] at h
    have hincluded : .condition piece :: _ = [Item.condition c] := congrArg Group.included h
    exact hne (Item.condition.inj (List.cons.inj hincluded).1)
  · rintro ⟨hc, hclosed⟩
    rw [hparse, Condition.readGroup_dash_chars hc hclosed, readGroup_nil]
    rfl

end RecordSearch
