import RecordSearch.Command.Execution
import RecordSearch.Proofs.Outlines
import RecordSearch.Proofs.ReadTree
import RecordSearch.Proofs.WrittenScalars

/-!
# Data that can be shown

A result for people can fail to be drawn, as data may have any shape. The data that runs come to
have none of the wrong ones: the description of a query has an outline (`Group.outline_toJson`),
records are objects (`exists_recordTable`), and the texts in which markup counts hold no bracket, so
that a terminal that shows plain texts shows them (`exists_markedText`). A described query has few
levels, since groups are nested at most a hundred deep (`levels_parseData_lt`).
-/

namespace RecordSearch

variable {t : Terminal}

/-- A text without brackets can be shown. -/
theorem exists_markedText (ht : t.ShowsPlain) {text : String} (h : '[' ∉ text.toList) :
    ∃ shown, t.markedText text = .ok shown := by
  obtain ⟨shown, hshown⟩ := ht text h
  exact ⟨shown, by rw [Terminal.markedText, hshown]⟩

/-! ### Levels -/

theorem Json.elementLevels_le_iff {elements : List Json} {n : Nat} :
    Json.elementLevels elements ≤ n ↔ ∀ v ∈ elements, v.levels ≤ n := by
  induction elements with
  | nil => simp [Json.elementLevels]
  | cons v rest ih => rw [Json.elementLevels, Nat.max_le, ih, List.forall_mem_cons]

theorem Item.listToJson_eq (items : List Item) : Item.listToJson items = items.map Item.toJson := by
  induction items with
  | nil => rfl
  | cons i items ih => rw [Item.listToJson, ih, List.map_cons]

theorem levels_listToJson_le {items : List Item} {n : Nat} (h : ∀ i ∈ items, i.toJson.levels ≤ n) :
    Json.elementLevels (Item.listToJson items) ≤ n := by
  rw [Json.elementLevels_le_iff, Item.listToJson_eq]
  exact List.forall_mem_map.2 h

theorem levels_condition (c : Condition) : c.toJson.levels = 2 := by
  obtain ⟨field, term, operator⟩ := c
  cases field <;> rfl

/-- Each group takes two levels of its description, an object and a list in it. -/
theorem levels_toJson_le (g : Query) : (Group.toJson g).levels ≤ 2 * g.nesting + 4 := by
  induction g using Group.induction with
  | step g hincluded hexcluded =>
    -- the items stand in a list in an object, and a group among them is nested one less
    have hitem : ∀ i, i ∈ g.included ∨ i ∈ g.excluded → i.toJson.levels ≤ 2 * g.nesting + 2 := by
      intro i hi
      have hnesting := Group.nesting_le_iff.1 (Nat.le_refl g.nesting) i hi
      cases i with
      | condition c =>
        rw [Item.toJson, levels_condition]
        omega
      | group k =>
        have hk : (Group.toJson k).levels ≤ 2 * k.nesting + 4 :=
          hi.elim (hincluded k) (hexcluded k)
        rw [Item.nesting] at hnesting
        rw [Item.toJson]
        omega
    obtain ⟨mode, included, excluded⟩ := g
    have hinc : Json.elementLevels (Item.listToJson included) ≤ _ :=
      levels_listToJson_le fun i hi => hitem i (.inl hi)
    have hexc : Json.elementLevels (Item.listToJson excluded) ≤ _ :=
      levels_listToJson_le fun i hi => hitem i (.inr hi)
    simp only [Group.toJson, Json.levels, Json.memberLevels]
    omega

/-- The levels of a report that describes a query whose groups are nested as deep as can be. -/
def reportLevels : Nat := 2 * maxDepth.toNat + 6

theorem mapM_map_eq_ok {α β γ ε : Type} {f : β → Except ε γ} {e : α → β} {g : α → γ}
    (h : ∀ a, f (e a) = .ok (g a)) (l : List α) : (l.map e).mapM f = .ok (l.map g) := by
  induction l with
  | nil => rfl
  | cons a l ih =>
    rw [List.map_cons, List.mapM_cons, h, ih]
    rfl

/-- Records that are objects make a table. -/
theorem exists_recordTable (records : List (List (String × Json))) :
    ∃ table, recordTable (records.map Json.object) = .ok table := by
  -- the parts, then the headings, then the rows: each can be had of every object
  have hparts : (records.map Json.object).mapM Json.parts =
      .ok (records.map fun members => members.map fun m => .text m.1) :=
    mapM_map_eq_ok (fun _ => by rfl) records
  have hnames : (records.map fun members => members.map fun m => Json.text m.1).flatten =
      (records.flatten.map (·.1)).map Json.text := by
    rw [List.map_map, List.map_flatten]
    rfl
  have hheadings : ((records.flatten.map (·.1)).map Json.text).mapM headingOf =
      .ok ((records.flatten.map (·.1)).map id) :=
    mapM_map_eq_ok (fun _ => by rfl) _
  have hrows : ∀ columns : List String, (records.map Json.object).mapM (rowOf columns) =
      .ok (records.map fun members =>
        columns.map fun name => ((Json.find? name members).getD .null).cell) := by
    intro columns
    refine mapM_map_eq_ok (fun members => ?_) records
    cases columns <;> rfl
  simp only [recordTable, hparts, hnames, hheadings, hrows, bind, Except.bind]
  exact ⟨_, rfl⟩

/-! ### Results -/

namespace Result

variable {r : Result} {display : Display}

theorem bracket_notMem_integer (n : Int) : '[' ∉ (Json.integer n).plain.toList := by
  show '[' ∉ (toString n).toList
  rw [← Json.chars_integerText]
  intro hmem
  exact absurd (Json.isNumberChar_of_mem_chars (Json.integerText_isWritten n) hmem) (by decide)

/-- Members without a tree and without records stand in pairs. -/
theorem exists_dataText_pairs {members : List (String × Json)} (hr : r.data = .object members)
    (htree : Json.find? "tree" members = none) (hrecords : Json.find? "records" members = none)
    (display : Display) : ∃ text, r.dataText display = .ok text := by
  simp only [dataText, hr, htree, hrecords]
  exact ⟨_, rfl⟩

theorem exists_dataText_parse {query : String} (hr : r.data = parseData query)
    (ht : display.terminal.ShowsPlain) : ∃ text, r.dataText display = .ok text := by
  have htree : Json.find? "tree" [("query", .text query), ("normalized", .text (parse query).text),
      ("isEmpty", .bool (parse query).isEmpty), ("tokens", .list ((tokenize query).map .text)),
      ("tree", Group.toJson (parse query))] = some (Group.toJson (parse query)) := rfl
  obtain ⟨note, hnote⟩ := exists_markedText ht
    (show '[' ∉ "(empty query, matches everything)".toList by decide)
  simp only [dataText, hr, parseData, htree, Group.outline_toJson, hnote]
  split
  · exact ⟨_, rfl⟩
  · exact ⟨_, rfl⟩

/-- Records that are objects stand in a grid, over a line that counts them. -/
theorem exists_recordsText {members : List (String × Json)} {total matched : Int}
    (htotal : Json.find? "total" members = some (.integer total))
    (hmatched : Json.find? "matched" members = some (.integer matched))
    (records : List (List (String × Json))) (ht : display.terminal.ShowsPlain) :
    ∃ text, recordsText members (records.map Json.object) display = .ok text := by
  obtain ⟨⟨headings, rows⟩, htable⟩ := exists_recordTable records
  have hcount : '[' ∉ ((Json.integer matched).plain ++ " of " ++ (Json.integer total).plain ++
      " records matched").toList := by
    simp only [String.toList_append, List.mem_append, not_or]
    exact ⟨⟨⟨bracket_notMem_integer matched, by decide⟩, bracket_notMem_integer total⟩, by decide⟩
  obtain ⟨line, hline⟩ := exists_markedText ht hcount
  simp only [recordsText, htotal, hmatched, Option.getD_some, htable, hline, bind, Except.bind]
  cases display.quiet <;> exact ⟨_, rfl⟩

/-- The data of a selection that is not only counted hold the records that are shown. -/
theorem exists_selectionData (query : String) (total : Nat)
    (matched : List (List (String × Json))) (limit : Option Int) :
    ∃ records : List (List (String × Json)),
      (selectionData query total (matched.map .object) limit false).1 =
        .object [("query", .text query), ("total", .integer total),
          ("matched", .integer (matched.map Json.object).length),
          ("records", .list (records.map .object))] := by
  cases limit with
  | none => exact ⟨matched, rfl⟩
  | some n =>
    refine ⟨matched.take n.toNat, ?_⟩
    rw [List.map_take]
    rfl

theorem exists_dataText_selection {query : String} {total : Nat}
    {matched : List (List (String × Json))} {limit : Option Int} {countOnly : Bool}
    (hr : r.data = (selectionData query total (matched.map .object) limit countOnly).1)
    (ht : display.terminal.ShowsPlain) : ∃ text, r.dataText display = .ok text := by
  cases countOnly with
  | true => exact exists_dataText_pairs hr rfl rfl display
  | false =>
    obtain ⟨records, hrecords⟩ := exists_selectionData query total matched limit
    rw [hrecords] at hr
    have htotal : Json.find? "total" [("query", .text query), ("total", .integer total),
        ("matched", .integer (matched.map Json.object).length),
        ("records", .list (records.map .object))] = some (.integer total) := rfl
    obtain ⟨text, htext⟩ := exists_recordsText htotal rfl records ht
    refine ⟨text, ?_⟩
    rw [dataText, hr]
    exact htext

/-- A failure can be told. -/
theorem exists_problemText (hcommand : '[' ∉ r.command.toList) (ht : display.terminal.ShowsPlain) :
    ∃ text, r.problemText display = .ok text := by
  have hhint : ∀ p : Problem, ∃ text, r.hintText p display.terminal = .ok text := by
    intro p
    unfold hintText
    split
    · exact ⟨_, rfl⟩
    · split
      · refine exists_markedText ht ?_
        simp only [String.toList_append, List.mem_append, not_or]
        exact ⟨⟨by decide, hcommand⟩, by decide⟩
      · exact ⟨_, rfl⟩
  unfold problemText
  split
  · exact exists_markedText ht (by decide)
  · rename_i p _
    dsimp only
    split
    · exact ⟨_, rfl⟩
    · obtain ⟨text, htext⟩ := hhint p
      rw [htext]
      exact ⟨_, rfl⟩

end Result

end RecordSearch
