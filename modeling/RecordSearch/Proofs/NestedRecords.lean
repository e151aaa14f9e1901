import RecordSearch.Proofs.Attempts
import RecordSearch.Proofs.Layouts
import RecordSearch.Proofs.PrintedJson

/-!
# Records nested in lists

How deep a selection is, is up to the records. A record that holds a list in a list, and so on `n`
times, is read from its text however great `n` is (`readRecords_nested`), and a selection that shows
it has `n + 4` levels, so that the standard serializer refuses it from some `n` on
(`isRefused_nested_iff`).
-/

namespace RecordSearch

/-! ### Bytes below 128 -/

/-- A text as bytes, if its characters have one byte each. -/
def asciiBytes (text : List Char) : List UInt8 := text.map fun c => UInt8.ofNat c.toNat

theorem decodeFrom_asciiBytes {text : List Char} (h : ∀ c ∈ text, c.toNat < 0x80)
    (position : Nat) : Text.decodeFrom position .between (asciiBytes text) = .ok text := by
  induction text generalizing position with
  | nil => rfl
  | cons c text ih =>
    obtain ⟨hc, htext⟩ := List.forall_mem_cons.1 h
    have hbyte : Text.firstByte? (UInt8.ofNat c.toNat) = some (.inl c) := by
      have hnat : (UInt8.ofNat c.toNat).toNat = c.toNat := by
        simp
        omega
      simp only [Text.firstByte?, hnat, if_pos hc, Char.ofNat_toNat]
    rw [asciiBytes, List.map_cons, Text.decodeFrom, hbyte]
    show ((Text.decodeFrom (position + 1) .between (asciiBytes text)).map (c :: ·)) = _
    rw [ih htext]
    rfl

theorem unifyLineEnds_eq_self {text : List Char} (h : '\r' ∉ text) :
    Text.unifyLineEnds text = text := by
  induction text with
  | nil => rfl
  | cons c text ih =>
    rw [List.mem_cons, not_or] at h
    rw [Text.unifyLineEnds.eq_4 _ _ (fun _ hc _ => h.1 hc.symm) (fun hc => h.1 hc.symm), ih h.2]

theorem fileText_asciiBytes {text : String} (hascii : ∀ c ∈ text.toList, c.toNat < 0x80)
    (hreturn : '\r' ∉ text.toList) : fileText (asciiBytes text.toList) = .ok text := by
  rw [fileText, Text.decode, decodeFrom_asciiBytes hascii]
  simp only [unifyLineEnds_eq_self hreturn, String.ofList_toList]

/-! ### Nested lists -/

/-- An empty list inside `n` others. -/
def nestedList : Nat → Json
  | 0 => .list []
  | n + 1 => .list [nestedList n]

theorem levels_nestedList (n : Nat) : (nestedList n).levels = n + 1 := by
  induction n with
  | zero => rfl
  | succ n ih => simp [nestedList, Json.levels, Json.elementLevels, ih]

theorem reread_nestedList (n : Nat) : (nestedList n).reread = nestedList n := by
  induction n with
  | zero => rfl
  | succ n ih => rw [nestedList, Json.reread, Json.rereadElements, ih, Json.rereadElements]

theorem join_singleton (separator part : String) : Json.join separator [part] = part := by
  rw [Json.join, ← String.toList_inj, String.toList_intercalate]
  simp

theorem toList_compact_nestedList (n : Nat) : (nestedList n).compact.toList =
    List.replicate (n + 1) '[' ++ List.replicate (n + 1) ']' := by
  induction n with
  | zero => decide
  | succ n ih =>
    rw [nestedList, Json.compact, Json.compactElements, Json.compactElements, join_singleton,
      String.toList_append, String.toList_append, ih]
    show '[' :: (List.replicate (n + 1) '[' ++ List.replicate (n + 1) ']' ++ [']']) = _
    rw [List.append_assoc, ← List.replicate_succ', List.replicate_succ (n := n + 1) (a := '['),
      List.cons_append]

/-- The text of a record that holds nested lists. -/
def nestedRecord (n : Nat) : String := (Json.object [("a", nestedList n)]).compact

theorem toList_nestedRecord (n : Nat) : (nestedRecord n).toList =
    ['{', '"', 'a', '"', ':', ' '] ++
      (List.replicate (n + 1) '[' ++ List.replicate (n + 1) ']' ++ ['}']) := by
  have hname : Json.stringText "a" = "\"a\"" := by decide
  rw [nestedRecord, Json.compact, Json.compactMembers, Json.compactMembers, join_singleton, hname]
  simp only [String.toList_append, toList_compact_nestedList]
  simp

theorem mem_nestedRecord {n : Nat} {c : Char} (hc : c ∈ (nestedRecord n).toList) :
    c ∈ ['{', '"', 'a', ':', ' ', '[', ']', '}'] := by
  rw [toList_nestedRecord] at hc
  simp only [List.mem_append, List.mem_replicate] at hc
  rcases hc with hc | (⟨-, rfl⟩ | ⟨-, rfl⟩) | hc
  · have hall : ∀ c ∈ ['{', '"', 'a', '"', ':', ' '],
        c ∈ ['{', '"', 'a', ':', ' ', '[', ']', '}'] := by simp
    exact hall c hc
  · decide
  · decide
  · obtain rfl := List.mem_singleton.1 hc
    decide

/-- The record is read, however deep it is. -/
theorem readRecords_nested (n : Nat) :
    readRecords (nestedRecord n) = .ok [[("a", nestedList n)]] := by
  refine readRecords_object ?_
  rw [nestedRecord, Json.read_compact, Json.reread, Json.rereadMembers, Json.rereadMembers,
    reread_nestedList]
  rfl

/-- What is around a run that is given the record. -/
def aroundNested (n : Nat) : Surroundings := { stdin := asciiBytes (nestedRecord n).toList }

/-- The request for all records of the standard input. -/
def selectAll : Request := .select "" "-" none false

theorem readSource_nested (n : Nat) : readSource (aroundNested n) "-" = .ok (nestedRecord n) := by
  refine fileText_asciiBytes (fun c hc => ?_) fun hc => ?_
  · have hall : ∀ c ∈ ['{', '"', 'a', ':', ' ', '[', ']', '}'], c.toNat < 0x80 := by simp
    exact hall c (mem_nestedRecord hc)
  · exact absurd (mem_nestedRecord hc) (by decide)

theorem parse_empty : parse "" = {} := by
  have htokens : tokenize "" = [] := by decide
  rw [parse, htokens, readGroup_nil]

/-- A query without items matches every record. -/
theorem select_empty {α : Type} (view : α → Record) (records : List α) :
    Group.select ({} : Query) view records = records := by
  simp [Group.select, Group.matches_eq]

theorem openNotes_none (s : Surroundings) {settings : Settings} (h : settings.notesFile = none) :
    openNotes s settings = (s, none, []) := by
  rw [openNotes, h]

theorem attempted_nested (n : Nat) (settings : Settings) (h : settings.notesFile = none) :
    (attempted (aroundNested n) settings selectAll).outcome =
      .ok (.object [("query", .text ""), ("total", .integer 1), ("matched", .integer 1),
        ("records", .list [.object [("a", nestedList n)]])], some "") := by
  have htext : Group.text ({} : Query) = "" := by
    simp [Group.text, Group.chars, Item.charsIn, spaced]
  have hsource : readSource ((aroundNested n).withNotes none (parseNotes "")) "-" =
      .ok (nestedRecord n) := readSource_nested n
  rw [attempted, openNotes_none _ h, selectAll, perform, performSelect]
  simp only [Option.map_none, hsource, readRecords_nested, parse_empty, htext, select_empty]
  rfl

/-- The standard serializer refuses the nested lists from a certain number on. -/
theorem isRefused_nested_iff (n : Nat) (settings : Settings) (h : settings.notesFile = none) :
    (attempted (aroundNested n) settings selectAll).IsRefused (aroundNested n) selectAll.command ↔
      251 < n := by
  have hok := attempted_nested n settings h
  have hresult := result_of_ok hok selectAll.command 0
  generalize hr : (attempted (aroundNested n) settings selectAll).result selectAll.command 0 = r
  rw [hr] at hresult
  have hlevels : r.data.levels = n + 4 := by
    rw [hresult]
    simp [Json.levels, Json.memberLevels, Json.elementLevels, levels_nestedList]
  constructor
  · rintro ⟨data, query, fault, -, hrefused⟩
    refine Nat.lt_of_not_le fun hn => ?_
    have hreport : (r.toJson (aroundNested n).elapsed).levels ≤ 255 + 1 :=
      Result.levels_toJson_le (by decide) (by omega) (by simp [hresult]) _
    obtain ⟨w, hw⟩ := Serializer.standard_lawful.dumps _ hreport
    rw [hr] at hrefused
    exact absurd (hw.symm.trans hrefused) (by simp)
  · intro hn
    have hreport := r.levels_lt_toJson (aroundNested n).elapsed
    have hdeep : Serializer.maxLevels < (r.toJson (aroundNested n).elapsed).levels := by
      rw [Serializer.maxLevels]
      omega
    obtain ⟨fault, hfault⟩ := Serializer.standard_refuses hdeep
    refine ⟨_, _, fault, hok, ?_⟩
    rw [hr]
    exact hfault

end RecordSearch
