import RecordSearch.Proofs.Layouts
import RecordSearch.Proofs.LineGaps

/-!
# Line ends and blank lines

A text of records is read the same if a line feed in it is replaced by the two characters that end a
line elsewhere, or by a blank line (`readRecords_alike`). The line feed may stand anywhere. If the
text is one document, its lexemes are the same. If it is not, its lines are, as far as they are not
blank: the break splits `filledLines` in two, whatever stands around it.
-/

namespace RecordSearch

/-! ### Lines that are not blank -/

namespace Text

variable {line rest : List Char} {c : Char}

/-- The lines of a text that are not blank. -/
def filledLines (text : List Char) : List (List Char) :=
  (splitLines text).filter fun line => !allBlank line

theorem allBlank_append (hc : isBlank c = true) (a b : List Char) :
    allBlank (a ++ c :: b) = (allBlank a && allBlank b) := by
  simp [allBlank, hc]

theorem filledLines_of_unbroken (hline : ∀ d ∈ line, isLineBreak d = false) :
    filledLines line = if allBlank line then [] else [line] := by
  cases line with
  | nil => rfl
  | cons d line =>
    rw [filledLines, splitLines_of_unbroken hline (List.cons_ne_nil d line), List.filter_singleton]
    cases allBlank (d :: line) <;> rfl

/-- A line ends at the first line break. A line feed that goes with it has an empty line in front of
it, if it is taken alone. -/
theorem exists_splitLines_append (hline : ∀ d ∈ line, isLineBreak d = false)
    (hc : isLineBreak c = true) (rest : List Char) :
    ∃ later, splitLines (line ++ c :: rest) = line :: later ∧
      (later.filter fun line => !allBlank line) = filledLines rest := by
  induction line with
  | nil =>
    by_cases hpair : ∃ behind, c = '\r' ∧ rest = '\n' :: behind
    · obtain ⟨behind, rfl, rfl⟩ := hpair
      exact ⟨splitLines behind, rfl, rfl⟩
    · refine ⟨splitLines rest, ?_, rfl⟩
      rw [List.nil_append, splitLines.eq_3 c rest fun behind hr hrest => hpair ⟨behind, hr, hrest⟩,
        if_pos hc]
  | cons d line ih =>
    obtain ⟨hd, hline⟩ := List.forall_mem_cons.1 hline
    obtain ⟨later, hsplit, hlater⟩ := ih hline
    refine ⟨later, ?_, hlater⟩
    rw [List.cons_append, splitLines_cons hd, hsplit]
    rfl

theorem filledLines_append_of_unbroken (hline : ∀ d ∈ line, isLineBreak d = false)
    (hc : isLineBreak c = true) (rest : List Char) :
    filledLines (line ++ c :: rest) = filledLines line ++ filledLines rest := by
  obtain ⟨later, hsplit, hlater⟩ := exists_splitLines_append hline hc rest
  rw [filledLines_of_unbroken hline, filledLines, hsplit, List.filter_cons, hlater]
  cases allBlank line <;> rfl

/-- **Lines are cut at every line break.** -/
theorem filledLines_append (hc : isLineBreak c = true) (a b : List Char) :
    filledLines (a ++ c :: b) = filledLines a ++ filledLines b := by
  induction hlen : a.length using Nat.strong_induction_on generalizing a with
  | _ k ih =>
    by_cases hbreak : ∃ d ∈ a, isLineBreak d = true
    · obtain ⟨line, d, rest, hline, hd, rfl⟩ := exists_first_break hbreak
      have hlt : rest.length < k := by
        rw [← hlen, List.length_append, List.length_cons]
        omega
      rw [List.append_assoc, List.cons_append, filledLines_append_of_unbroken hline hd,
        filledLines_append_of_unbroken hline hd, ih _ hlt rest rfl, List.append_assoc]
    · exact filledLines_append_of_unbroken (by simpa using hbreak) hc b

end Text

/-! ### Reading lines -/

/-- Lines are read if those that are not blank are, each by itself. -/
theorem readLines_eq_ok_iff {number : Nat} {lines : List (List Char)} {values : List Json} :
    readLines number lines = .ok values ↔
      List.Forall₂ (fun line v => Json.read line = .ok v)
        (lines.filter fun line => !Text.allBlank line) values := by
  induction lines generalizing number values with
  | nil =>
    rw [readLines, List.filter_nil, List.forall₂_nil_left_iff]
    exact ⟨fun h => (Except.ok.inj h).symm, fun h => congrArg Except.ok h.symm⟩
  | cons line lines ih =>
    cases hblank : Text.allBlank line with
    | true =>
      rw [readLines, if_pos hblank, ih, List.filter_cons_of_neg (by rw [hblank]; decide)]
    | false =>
      rw [List.filter_cons_of_pos (by rw [hblank]; rfl), List.forall₂_cons_left_iff]
      cases hread : Json.read line with
      | error failure =>
        rw [readLines_cut hblank hread]
        constructor
        · intro h
          exact absurd h (by simp)
        · rintro ⟨v, values, hv, -, -⟩
          exact absurd hv (by simp)
      | ok v =>
        rw [readLines_cons hblank hread]
        constructor
        · intro h
          cases hlines : readLines (number + 1) lines with
          | error e => rw [hlines] at h; exact absurd h (by simp [Except.map])
          | ok later =>
            rw [hlines] at h
            obtain rfl := Except.ok.inj h
            exact ⟨v, later, rfl, ih.1 hlines, rfl⟩
        · rintro ⟨w, later, hw, hlater, rfl⟩
          obtain rfl : v = w := Except.ok.inj hw
          rw [ih.2 hlater]
          rfl

theorem exists_badLine_of_readLines {number : Nat} {lines : List (List Char)} {e : RecordError}
    (h : readLines number lines = .error e) : ∃ line failure, e = .badLine line failure := by
  induction lines generalizing number with
  | nil => exact absurd h (by simp [readLines])
  | cons line lines ih =>
    cases hblank : Text.allBlank line with
    | true =>
      rw [readLines, if_pos hblank] at h
      exact ih h
    | false =>
      cases hread : Json.read line with
      | error failure =>
        rw [readLines_cut hblank hread] at h
        exact ⟨number, failure, (Except.error.inj h).symm⟩
      | ok v =>
        rw [readLines_cons hblank hread] at h
        cases hlines : readLines (number + 1) lines with
        | ok later => rw [hlines] at h; exact absurd h (by simp [Except.map])
        | error e' =>
          rw [hlines] at h
          obtain rfl := Except.error.inj h
          exact ih hlines

/-! ### Texts that are read alike -/

/-- Two texts of records are read alike: as the same records, or with the same fault. Only where a
line is no JSON, the line and what is wrong with it may differ. -/
inductive Alike : Except RecordError (List (List (String × Json))) →
    Except RecordError (List (List (String × Json))) → Prop
  | records (records : List (List (String × Json))) : Alike (.ok records) (.ok records)
  | notAnObject (index : Nat) (kind : String) :
    Alike (.error (.notAnObject index kind)) (.error (.notAnObject index kind))
  | badLine (line line' : Nat) (failure failure' : Json.Failure) :
    Alike (.error (.badLine line failure)) (.error (.badLine line' failure'))

theorem Alike.refl (outcome : Except RecordError (List (List (String × Json)))) :
    Alike outcome outcome := by
  cases outcome with
  | ok records => exact .records records
  | error e =>
    cases e with
    | badLine line failure => exact .badLine line line failure failure
    | notAnObject index kind => exact .notAnObject index kind

/-- Lines that are the same as far as they are not blank are read alike, one by one. -/
theorem Alike.of_lines {number number' : Nat} {lines lines' : List (List Char)}
    (h : (lines.filter fun line => !Text.allBlank line) =
      lines'.filter fun line => !Text.allBlank line) :
    Alike ((readLines number lines).bind (objectsOf 0))
      ((readLines number' lines').bind (objectsOf 0)) := by
  have hvalues : ∀ values, readLines number lines = .ok values ↔
      readLines number' lines' = .ok values := by
    intro values
    rw [readLines_eq_ok_iff, readLines_eq_ok_iff, h]
  cases hl : readLines number lines with
  | ok values =>
    rw [(hvalues values).1 hl]
    exact .refl _
  | error e =>
    cases hl' : readLines number' lines' with
    | ok values =>
      rw [(hvalues values).2 hl'] at hl
      exact absurd hl (by simp)
    | error e' =>
      obtain ⟨line, fault, rfl⟩ := exists_badLine_of_readLines hl
      obtain ⟨line', fault', rfl⟩ := exists_badLine_of_readLines hl'
      exact .badLine line line' fault fault'

/-- Texts are read alike if they have the same lexemes, and the same lines that are not blank. -/
theorem Alike.of_lexemes {text text' : String}
    (hblank : Text.allBlank text.toList = Text.allBlank text'.toList)
    (hlexemes : Json.lexemes? text.toList = Json.lexemes? text'.toList)
    (hlines : Text.filledLines text.toList = Text.filledLines text'.toList) :
    Alike (readRecords text) (readRecords text') := by
  have hread : ∀ v, Json.read text.toList = .ok v ↔ Json.read text'.toList = .ok v := by
    intro v
    rw [Json.read_eq_ok_iff, Json.read_eq_ok_iff, hlexemes]
  cases hb : Text.allBlank text.toList with
  | true =>
    have hb' := hblank.symm.trans hb
    rw [readRecords, readRecords, readValues, readValues, if_pos hb, if_pos hb']
    exact .refl _
  | false =>
    have hb' := hblank.symm.trans hb
    cases hr : Json.read text.toList with
    | ok v =>
      rw [readRecords, readRecords, readValues, readValues, hb, hb', hr, (hread v).1 hr]
      exact .refl _
    | error failure =>
      cases hr' : Json.read text'.toList with
      | ok v =>
        rw [(hread v).2 hr'] at hr
        exact absurd hr (by simp)
      | error failure' =>
        rw [readRecords_of_lines hb hr, readRecords_of_lines hb' hr']
        exact .of_lines hlines

/-- **Line ends do not matter.** A text of records is read alike if any line feed in it is replaced
by a carriage return and a line feed, or by a line feed, any spaces and tabs, and another one. -/
theorem readRecords_alike (a b blank : String)
    (hblank : ∀ c ∈ blank.toList, c = ' ' ∨ c = '\t') :
    Alike (readRecords (a ++ "\n" ++ b)) (readRecords (a ++ "\r\n" ++ b)) ∧
      Alike (readRecords (a ++ "\n" ++ b)) (readRecords (a ++ "\n" ++ blank ++ "\n" ++ b)) := by
  have hfeed : (a ++ "\n" ++ b).toList = a.toList ++ '\n' :: b.toList := by simp
  have hreturn : (a ++ "\r\n" ++ b).toList = a.toList ++ '\r' :: '\n' :: b.toList := by simp
  have hline : (a ++ "\n" ++ blank ++ "\n" ++ b).toList =
      a.toList ++ '\n' :: (blank.toList ++ '\n' :: b.toList) := by simp
  have hgaps : ∀ c ∈ blank.toList, Json.isGap c = true := by
    intro c hc
    rcases hblank c hc with rfl | rfl <;> decide
  have hall : Text.allBlank blank.toList = true := by
    rw [Text.allBlank, List.all_eq_true]
    intro c hc
    rcases hblank c hc with rfl | rfl <;> decide
  have hunbroken : ∀ c ∈ blank.toList, Text.isLineBreak c = false := by
    intro c hc
    rcases hblank c hc with rfl | rfl <;> decide
  have hsplit : ∀ rest : List Char, Text.filledLines ('\n' :: rest) = Text.filledLines rest :=
    fun rest => Text.filledLines_append (a := []) (by decide) rest
  constructor
  · refine Alike.of_lexemes ?_ ?_ ?_
    · rw [hfeed, hreturn, Text.allBlank_append (by decide), Text.allBlank_append (by decide)]
      rfl
    · rw [hfeed, hreturn]
      exact Json.lexemes?_congr (.inl rfl) (.inr rfl) (Json.lexemes?_gap (by decide) _).symm _
    · rw [hfeed, hreturn, Text.filledLines_append (by decide), Text.filledLines_append (by decide),
        hsplit]
  · refine Alike.of_lexemes ?_ ?_ ?_
    · rw [hfeed, hline, Text.allBlank_append (by decide), Text.allBlank_append (by decide),
        Text.allBlank_append (by decide), hall, Bool.true_and]
    · rw [hfeed, hline]
      refine Json.lexemes?_congr (.inl rfl) (.inl rfl) ?_ _
      rw [Json.lexemes?_gaps hgaps, Json.lexemes?_gap (by decide)]
    · rw [hfeed, hline, Text.filledLines_append (by decide), Text.filledLines_append (by decide),
        Text.filledLines_append (by decide), Text.filledLines_of_unbroken hunbroken, if_pos hall,
        List.nil_append]

/-- The line feed stands inside a list, and in the middle of what would be a number without it. -/
theorem readRecords_alike_inside_list : (∀ c ∈ " \t".toList, c = ' ' ∨ c = '\t') ∧
    Alike (readRecords ("[1" ++ "\n" ++ "2]")) (readRecords ("[1" ++ "\r\n" ++ "2]")) ∧
    Alike (readRecords ("[1" ++ "\n" ++ "2]"))
      (readRecords ("[1" ++ "\n" ++ " \t" ++ "\n" ++ "2]")) := by
  have hblank : ∀ c ∈ " \t".toList, c = ' ' ∨ c = '\t' := by simp
  exact ⟨hblank, readRecords_alike "[1" "2]" " \t" hblank⟩

end RecordSearch
