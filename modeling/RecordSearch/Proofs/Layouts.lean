import RecordSearch.Proofs.Enclosed
import RecordSearch.Proofs.Paired
import RecordSearch.Record.Document

/-!
# Two layouts of records

The same objects can be written as one list, or each on a line of its own. `readRecords_layouts`
says when both are read alike. A list is one document whatever its objects are. Lines are cut at
more characters than those that end a line of a file, and some of them may stand in a string: more
than one line is read as the list is if there is no such character, and is rejected if there is.
-/

namespace RecordSearch

/-! ### Lines -/

namespace Text

variable {line rest : List Char} {c : Char}

theorem splitLines_cons (hc : isLineBreak c = false) (rest : List Char) :
    splitLines (c :: rest) = consToFirst c (splitLines rest) := by
  rw [splitLines.eq_3 c rest (by rintro more rfl; exact absurd hc (by decide)), hc]
  rfl

theorem splitLines_break (hc : isLineBreak c = true) (hne : c ≠ '\r') (rest : List Char) :
    splitLines (c :: rest) = [] :: splitLines rest := by
  rw [splitLines.eq_3 c rest fun _ hr => absurd hr hne, hc]
  rfl

/-- A line ends at the first line break. -/
theorem splitLines_append (hline : ∀ d ∈ line, isLineBreak d = false) (hc : isLineBreak c = true)
    (hne : c ≠ '\r') (rest : List Char) :
    splitLines (line ++ c :: rest) = line :: splitLines rest := by
  induction line with
  | nil => exact splitLines_break hc hne rest
  | cons d line ih =>
    obtain ⟨hd, hline⟩ := List.forall_mem_cons.1 hline
    rw [List.cons_append, splitLines_cons hd, ih hline]
    rfl

theorem splitLines_of_unbroken (hline : ∀ d ∈ line, isLineBreak d = false) (hne : line ≠ []) :
    splitLines line = [line] := by
  induction line with
  | nil => exact absurd rfl hne
  | cons d line ih =>
    obtain ⟨hd, hline⟩ := List.forall_mem_cons.1 hline
    rw [splitLines_cons hd]
    cases line with
    | nil => rfl
    | cons e line =>
      rw [ih hline (List.cons_ne_nil e line)]
      rfl

/-- A text with a line break has a first one. -/
theorem exists_first_break {text : List Char} (h : ∃ d ∈ text, isLineBreak d = true) :
    ∃ line c rest, (∀ d ∈ line, isLineBreak d = false) ∧ isLineBreak c = true ∧
      text = line ++ c :: rest := by
  induction text with
  | nil =>
    obtain ⟨d, hd, -⟩ := h
    exact absurd hd List.not_mem_nil
  | cons d text ih =>
    by_cases hd : isLineBreak d = true
    · exact ⟨[], d, text, fun _ hmem => absurd hmem List.not_mem_nil, hd, rfl⟩
    · have hrest : ∃ e ∈ text, isLineBreak e = true := by
        obtain ⟨e, he, hbreak⟩ := h
        rcases List.mem_cons.1 he with rfl | he
        · exact absurd hbreak hd
        · exact ⟨e, he, hbreak⟩
      obtain ⟨line, c, rest, hline, hc, rfl⟩ := ih hrest
      rw [Bool.not_eq_true] at hd
      exact ⟨d :: line, c, rest, List.forall_mem_cons.2 ⟨hd, hline⟩, hc, rfl⟩

/-- Lines are cut apart at the line feeds that join them. -/
theorem splitLines_intercalate {lines : List (List Char)}
    (hline : ∀ d ∈ line, isLineBreak d = false) (hne : line ≠ []) :
    splitLines (['\n'].intercalate (line :: lines)) =
      line :: splitLines (['\n'].intercalate lines) := by
  cases lines with
  | nil =>
    rw [List.intercalate_singleton]
    exact splitLines_of_unbroken hline hne
  | cons next lines =>
    rw [List.intercalate_cons_cons, List.append_assoc, List.singleton_append]
    exact splitLines_append hline (by decide) (by decide) _

end Text

/-! ### Lines that are cut -/

open Json (Encloses Opens isGap)

section Cut

variable {text line rest : List Char} {c : Char} {v : Json}

theorem Json.Opens.exists_bracket (h : Opens text) : ∃ d ∈ text, d = '[' ∨ d = '{' := by
  obtain ⟨gaps, bracket, rest, -, hbracket, rfl⟩ := h
  exact ⟨bracket, List.mem_append_right _ (List.mem_cons_self ..), hbracket⟩

theorem Json.Opens.ne_nil (h : Opens text) : text ≠ [] := by
  obtain ⟨d, hd, -⟩ := h.exists_bracket
  exact List.ne_nil_of_mem hd

theorem Json.Opens.intercalate (h : Opens text) (separator : List Char)
    (texts : List (List Char)) : Opens (separator.intercalate (text :: texts)) := by
  obtain ⟨gaps, bracket, rest, hgaps, hbracket, rfl⟩ := h
  cases texts with
  | nil => exact ⟨gaps, bracket, rest, hgaps, hbracket, List.intercalate_singleton ..⟩
  | cons next texts =>
    refine ⟨gaps, bracket, rest ++ separator ++ separator.intercalate (next :: texts), hgaps,
      hbracket, ?_⟩
    rw [List.intercalate_cons_cons]
    simp

theorem Json.Opens.allBlank_eq_false (h : Opens text) : Text.allBlank text = false := by
  obtain ⟨d, hd, hbracket⟩ := h.exists_bracket
  rw [Text.allBlank, List.all_eq_false]
  refine ⟨d, hd, ?_⟩
  rcases hbracket with rfl | rfl <;> decide

/-- The bracket with which a text starts stands in front of everything else but gaps. -/
theorem Json.Opens.of_append (h : Opens (line ++ c :: rest)) (hgap : isGap c = false)
    (hc : c ≠ '[' ∧ c ≠ '{') : Opens line := by
  obtain ⟨gaps, bracket, more, hgaps, hbracket, heq⟩ := h
  rcases List.append_eq_append_iff.1 heq with ⟨inner, rfl, hrest⟩ | ⟨inner, rfl, hmore⟩
  · cases inner with
    | nil =>
      obtain rfl : c = bracket := (List.cons.inj hrest).1
      exact absurd hbracket (by simp [hc])
    | cons d inner =>
      obtain rfl : c = d := (List.cons.inj hrest).1
      have hmem := hgaps c (List.mem_append_right _ (List.mem_cons_self ..))
      rw [hgap] at hmem
      exact absurd hmem Bool.false_ne_true
  · cases inner with
    | nil =>
      obtain rfl : bracket = c := (List.cons.inj hmore).1
      exact absurd hbracket (by simp [hc])
    | cons d inner =>
      obtain rfl : bracket = d := (List.cons.inj hmore).1
      exact ⟨gaps, bracket, inner, hgaps, hbracket, rfl⟩

/-- A line break that is no end of a line in a file stands neither between lexemes nor for one. -/
theorem isGap_of_isLineBreak (hc : Text.isLineBreak c = true) (hfeed : c ≠ '\n')
    (hreturn : c ≠ '\r') : isGap c = false ∧ c ≠ '[' ∧ c ≠ '{' := by
  have hother : ∀ d, Text.isLineBreak d = false → c ≠ d := by
    rintro d hd rfl
    rw [hc] at hd
    exact absurd hd (by decide)
  refine ⟨?_, hother '[' (by decide), hother '{' (by decide)⟩
  simp only [isGap, Bool.or_eq_false_iff, beq_eq_false_iff_ne]
  exact ⟨⟨⟨hother ' ' (by decide), hother '\t' (by decide)⟩, hfeed⟩, hreturn⟩

/-- A value that is cut at a character that is no gap is neither blank up to there nor a value. -/
theorem Json.Encloses.cut (h : Encloses (line ++ c :: rest) v) (hgap : isGap c = false)
    (hc : c ≠ '[' ∧ c ≠ '{') :
    Text.allBlank line = false ∧ ∃ failure, Json.read line = .error failure := by
  have hopens : Opens line := h.opens.of_append hgap hc
  refine ⟨hopens.allBlank_eq_false, ?_⟩
  cases hread : Json.read line with
  | error failure => exact ⟨failure, rfl⟩
  | ok w =>
    have hencloses : Encloses line w := ⟨hopens, hread⟩
    have hall := hencloses.isGap_of_read_append h.read c (List.mem_cons_self ..)
    rw [hgap] at hall
    exact absurd hall Bool.false_ne_true

theorem readLines_cons (hblank : Text.allBlank line = false) (hread : Json.read line = .ok v)
    (number : Nat) (lines : List (List Char)) :
    readLines number (line :: lines) = (readLines (number + 1) lines).map (v :: ·) := by
  rw [readLines, hblank, hread]
  cases readLines (number + 1) lines <;> rfl

theorem readLines_cut {failure : Json.Failure} (hblank : Text.allBlank line = false)
    (hread : Json.read line = .error failure) (number : Nat) (lines : List (List Char)) :
    readLines number (line :: lines) = .error (.badLine number failure) := by
  rw [readLines, hblank, hread]
  rfl

end Cut

/-! ### Values on lines -/

variable {texts : List (List Char)} {values : List Json}

/-- Values that stand on a line each are read one by one if they hold no line break. -/
theorem readLines_of_unbroken (h : List.Forall₂ Encloses texts values)
    (hunbroken : ∀ t ∈ texts, ∀ c ∈ t, Text.isLineBreak c = false) (number : Nat) :
    readLines number (Text.splitLines (['\n'].intercalate texts)) = .ok values := by
  induction h generalizing number with
  | nil => rfl
  | @cons text v texts values hv _ ih =>
    obtain ⟨htext, htexts⟩ := List.forall_mem_cons.1 hunbroken
    rw [Text.splitLines_intercalate htext hv.opens.ne_nil,
      readLines_cons hv.opens.allBlank_eq_false hv.read, ih htexts]
    rfl

/-- The first value that holds a line break is cut there, and rejected. -/
theorem readLines_of_broken (h : List.Forall₂ Encloses texts values)
    (hlines : ∀ t ∈ texts, '\n' ∉ t ∧ '\r' ∉ t)
    (hbroken : ∃ t ∈ texts, ∃ c ∈ t, Text.isLineBreak c = true) (number : Nat) :
    ∃ line failure, readLines number (Text.splitLines (['\n'].intercalate texts)) =
      .error (.badLine line failure) := by
  induction h generalizing number with
  | nil =>
    obtain ⟨t, ht, -⟩ := hbroken
    exact absurd ht List.not_mem_nil
  | @cons text v texts values hv _ ih =>
    obtain ⟨hline, hlines⟩ := List.forall_mem_cons.1 hlines
    by_cases htext : ∃ c ∈ text, Text.isLineBreak c = true
    · obtain ⟨line, c, rest, hunbroken, hc, rfl⟩ := Text.exists_first_break htext
      have hmem : c ∈ line ++ c :: rest := List.mem_append_right _ (List.mem_cons_self ..)
      have hfeed : c ≠ '\n' := fun hc => hline.1 (hc ▸ hmem)
      have hreturn : c ≠ '\r' := fun hc => hline.2 (hc ▸ hmem)
      obtain ⟨hgap, hbracket⟩ := isGap_of_isLineBreak hc hfeed hreturn
      obtain ⟨hblank, failure, hread⟩ := hv.cut hgap hbracket
      obtain ⟨more, hmore⟩ : ∃ more, ['\n'].intercalate ((line ++ c :: rest) :: texts) =
          line ++ c :: (rest ++ more) := by
        cases texts with
        | nil => exact ⟨[], by simp⟩
        | cons next texts => exact ⟨'\n' :: ['\n'].intercalate (next :: texts), by simp⟩
      refine ⟨number, failure, ?_⟩
      rw [hmore, Text.splitLines_append hunbroken hc hreturn]
      exact readLines_cut hblank hread number _
    · have hunbroken : ∀ c ∈ text, Text.isLineBreak c = false := by simpa using htext
      have hlater : ∃ t ∈ texts, ∃ c ∈ t, Text.isLineBreak c = true := by
        obtain ⟨t, ht, hbreak⟩ := hbroken
        rcases List.mem_cons.1 ht with rfl | ht
        · exact absurd hbreak htext
        · exact ⟨t, ht, hbreak⟩
      obtain ⟨line, failure, hlater⟩ := ih hlines hlater (number + 1)
      refine ⟨line, failure, ?_⟩
      rw [Text.splitLines_intercalate hunbroken hv.opens.ne_nil,
        readLines_cons hv.opens.allBlank_eq_false hv.read, hlater]
      rfl

/-- More than one value in brackets is no document. -/
theorem read_lines_error {v w : Json} {text next : List Char} (hv : Encloses text v)
    (hw : Encloses next w) (texts : List (List Char)) :
    ∃ failure, Json.read (['\n'].intercalate (text :: next :: texts)) = .error failure := by
  rw [List.intercalate_cons_cons, List.append_assoc, List.singleton_append]
  cases hread : Json.read (text ++ '\n' :: ['\n'].intercalate (next :: texts)) with
  | error failure => exact ⟨failure, rfl⟩
  | ok u =>
    have hgaps := hv.isGap_of_read_append hread
    obtain ⟨d, hd, hbracket⟩ := (hw.opens.intercalate ['\n'] texts).exists_bracket
    have hgap := hgaps d (List.mem_cons_of_mem _ hd)
    rcases hbracket with rfl | rfl <;> exact absurd hgap (by decide)

/-! ### Records -/

theorem objectsOf_map (records : List (List (String × Json))) (index : Nat) :
    objectsOf index (records.map .object) = .ok records := by
  induction records generalizing index with
  | nil => rfl
  | cons members records ih =>
    rw [List.map_cons, objectsOf, ih]
    rfl

theorem readRecords_of_document {text : String} {v : Json} {records : List (List (String × Json))}
    (hblank : Text.allBlank text.toList = false) (hread : Json.read text.toList = .ok v)
    (hvalues : documentValues v = records.map .object) : readRecords text = .ok records := by
  rw [readRecords, readValues, hblank, hread]
  show objectsOf 0 (documentValues v) = .ok records
  rw [hvalues, objectsOf_map]

theorem readRecords_of_lines {text : String} {failure : Json.Failure}
    (hblank : Text.allBlank text.toList = false) (hread : Json.read text.toList = .error failure) :
    readRecords text = (readLines 1 (Text.splitLines text.toList)).bind (objectsOf 0) := by
  rw [readRecords, readValues, hblank, hread]
  rfl

/-- Texts of objects, one for each record. -/
def Objects (texts : List String) (records : List (List (String × Json))) : Prop :=
  List.Forall₂ (fun t members => Json.read t.toList = .ok (.object members)) texts records

theorem Objects.encloses {texts : List String} {records : List (List (String × Json))}
    (h : Objects texts records) :
    List.Forall₂ Encloses (texts.map String.toList) (records.map Json.object) := by
  rw [List.forall₂_map_left_iff, List.forall₂_map_right_iff]
  exact h.imp fun _ _ hread => ⟨Json.opens_of_read hread, hread⟩

/-- Objects are the records of the list of their texts. -/
theorem Objects.readRecords_list {texts : List String} {records : List (List (String × Json))}
    (h : Objects texts records) (hne : texts ≠ []) :
    readRecords ("[" ++ ",".intercalate texts ++ "]") = .ok records := by
  have htext : ("[" ++ ",".intercalate texts ++ "]").toList =
      '[' :: ([','].intercalate (texts.map String.toList) ++ [']']) := by
    simp [String.toList_intercalate]
  refine readRecords_of_document (v := .list (records.map .object)) ?_ ?_ rfl
  · rw [htext]
    exact Opens.allBlank_eq_false ⟨[], '[', _, by simp, .inl rfl, rfl⟩
  · rw [htext]
    exact Json.read_list h.encloses (by simpa using hne)

/-- One object is one record. -/
theorem readRecords_object {t : String} {members : List (String × Json)}
    (h : Json.read t.toList = .ok (.object members)) : readRecords t = .ok [members] :=
  readRecords_of_document (Json.opens_of_read h).allBlank_eq_false h rfl

/-- More than one object is read line by line. -/
theorem Objects.readRecords_lines {texts : List String} {records : List (List (String × Json))}
    (h : Objects texts records) (hmany : 1 < texts.length) :
    readRecords ("\n".intercalate texts) =
      (readLines 1 (Text.splitLines (['\n'].intercalate (texts.map String.toList)))).bind
        (objectsOf 0) := by
  have htext : ("\n".intercalate texts).toList = ['\n'].intercalate (texts.map String.toList) := by
    simp [String.toList_intercalate]
  have hencloses := h.encloses
  match texts, hmany with
  | t :: t' :: texts, _ =>
    obtain ⟨v, values, hv, hvalues, -⟩ := List.forall₂_cons_left_iff.1 hencloses
    obtain ⟨v', values, hv', -, -⟩ := List.forall₂_cons_left_iff.1 hvalues
    obtain ⟨failure, hread⟩ := read_lines_error hv hv' (texts.map String.toList)
    have hblank : Text.allBlank ("\n".intercalate (t :: t' :: texts)).toList = false := by
      rw [htext]
      exact (hv.opens.intercalate ['\n'] _).allBlank_eq_false
    rw [← htext]
    exact readRecords_of_lines hblank (htext ▸ hread)

/-- **Two layouts of records.** The texts are objects in which no line of a file ends. As a list
they are read one by one. On a line each they are read the same if there is only one or none of them
holds a line break of any kind, and else they are rejected. -/
theorem readRecords_layouts (texts : List String) (hne : texts ≠ [])
    (hlines : ∀ t ∈ texts, '\n' ∉ t.toList ∧ '\r' ∉ t.toList)
    (hobjects : ∀ t ∈ texts, ∃ members, Json.read t.toList = .ok (.object members)) :
    let unbroken := texts.length = 1 ∨ ∀ t ∈ texts, ∀ c ∈ t.toList, Text.isLineBreak c = false
    ∃ records, Objects texts records ∧
      readRecords ("[" ++ ",".intercalate texts ++ "]") = .ok records ∧
      (unbroken → readRecords ("\n".intercalate texts) = .ok records) ∧
      (¬unbroken → ∃ line failure,
        readRecords ("\n".intercalate texts) = .error (.badLine line failure)) := by
  intro unbroken
  obtain ⟨records, hrecords⟩ : ∃ records, Objects texts records := exists_forall₂ hobjects
  refine ⟨records, hrecords, hrecords.readRecords_list hne, ?_⟩
  by_cases hone : texts.length = 1
  · refine ⟨fun _ => ?_, fun hno => absurd (.inl hone) hno⟩
    obtain ⟨t, rfl⟩ := List.length_eq_one_iff.1 hone
    obtain ⟨members, rest, hread, hnil, rfl⟩ := List.forall₂_cons_left_iff.1 hrecords
    obtain rfl := List.forall₂_nil_left_iff.1 hnil
    rw [String.intercalate_singleton]
    exact readRecords_object hread
  · have hmany : 1 < texts.length := by
      have hpos := List.length_pos_of_ne_nil hne
      omega
    rw [hrecords.readRecords_lines hmany]
    constructor
    · rintro (hlength | hwhole)
      · exact absurd hlength hone
      · rw [readLines_of_unbroken hrecords.encloses (by simpa using hwhole)]
        exact objectsOf_map records 0
    · intro hbroken
      obtain ⟨line, failure, herror⟩ := readLines_of_broken hrecords.encloses
        (by simpa using hlines) (by simpa [unbroken, hone] using hbroken) 1
      rw [herror]
      exact ⟨line, failure, rfl⟩

/-- The text of an object with a line separator in a string. -/
def separatedObject : String := "\x7b\"a\":\"\u2028\"\x7d"

theorem read_separatedObject :
    Json.read separatedObject.toList = .ok (.object [("a", .text "\u2028")]) := by
  have hname : Json.readText 0 0 ['a', '"', ':', '"', '\u2028', '"', '}'] =
      .ok (['a'], 2, [':', '"', '\u2028', '"', '}']) := by
    rw [Json.readText_of_char rfl, Json.readText_of_close rfl]
  have hvalue : Json.readText 0 0 ['\u2028', '"', '}'] = .ok (['\u2028'], 2, ['}']) := by
    rw [Json.readText_of_char rfl, Json.readText_of_close rfl]
  have hlexemes : Json.lexemes? ['{', '"', 'a', '"', ':', '"', '\u2028', '"', '}'] =
      some [.openObject, .text "a", .colon, .text "\u2028", .closeObject] := by
    rw [Json.lexemes?_mark rfl, Json.lexemes?_text hname, Json.lexemes?_mark rfl,
      Json.lexemes?_text hvalue, Json.lexemes?_mark rfl, Json.lexemes?_nil]
    rfl
  exact Json.read_eq_ok_iff.2 ⟨_, hlexemes, rfl⟩

/-- The text of an object without members. -/
def emptyObject : String := "\x7b\x7d"

theorem read_emptyObject : Json.read emptyObject.toList = .ok (.object []) := by
  have hlexemes : Json.lexemes? ['{', '}'] = some [.openObject, .closeObject] := by
    rw [Json.lexemes?_mark rfl, Json.lexemes?_mark rfl, Json.lexemes?_nil]
    rfl
  exact Json.read_eq_ok_iff.2 ⟨_, hlexemes, rfl⟩

/-- The lines are cut inside the string. -/
theorem readRecords_layouts_separatedObject :
    (∀ t ∈ [separatedObject, emptyObject], '\n' ∉ t.toList ∧ '\r' ∉ t.toList) ∧
      (∀ t ∈ [separatedObject, emptyObject],
        ∃ members, Json.read t.toList = .ok (.object members)) ∧
      (∃ records,
        readRecords ("[" ++ ",".intercalate [separatedObject, emptyObject] ++ "]") =
          .ok records) ∧
      ∃ line failure, readRecords ("\n".intercalate [separatedObject, emptyObject]) =
        .error (.badLine line failure) := by
  have hlines : ∀ t ∈ [separatedObject, emptyObject],
      '\n' ∉ t.toList ∧ '\r' ∉ t.toList := by decide
  have hobjects : ∀ t ∈ [separatedObject, emptyObject],
      ∃ members, Json.read t.toList = .ok (.object members) := by
    rw [List.forall_mem_cons, List.forall_mem_singleton]
    exact ⟨⟨_, read_separatedObject⟩, ⟨_, read_emptyObject⟩⟩
  obtain ⟨records, -, hlist, -, hbroken⟩ :=
    readRecords_layouts [separatedObject, emptyObject] (List.cons_ne_nil _ _) hlines hobjects
  refine ⟨hlines, hobjects, ⟨records, hlist⟩, hbroken ?_⟩
  rintro (hlength | hwhole)
  · exact absurd hlength (by decide)
  · have hseparator : Text.isLineBreak '\u2028' = false :=
      hwhole separatedObject List.mem_cons_self '\u2028' (by decide)
    exact absurd hseparator (by decide)

end RecordSearch
