import RecordSearch.Proofs.Outlines
import RecordSearch.Proofs.QuotedText
import RecordSearch.Proofs.Reports

/-!
# Drawn trees

The tree that is drawn of a query determines the query (`parse_eq_of_drawn_eq`). A label tells
whether it is that of a group or of a condition, and whether the item is excluded: the words in
front of a term can be counted, as none of them holds a blank or a quote, and the term stands
between quotes (`nodeLabel_condition_inj`). So a tree can be told from the outline of its labels
(`Group.outline_inj`), the outline from its lines, and the lines from the text.
-/

namespace RecordSearch

/-! ### Labels -/

variable {c c' : Condition} {g g' : Query} {e e' : Bool}

/-- The words for where a condition looks. -/
def Condition.placeWords (c : Condition) : List (List Char) :=
  match c.field with
  | none => ["any".toList, "field".toList]
  | some field => [field.toList]

/-- The word for how an operator compares. -/
def Operator.verb : Operator → String
  | .exact => "equals"
  | .contains => "contains"

/-- The words in front of the term on the label of a condition. -/
def Condition.labelWords (excluded : Bool) (c : Condition) : List (List Char) :=
  (if excluded then ["NOT".toList] else []) ++ c.placeWords ++ [c.operator.verb.toList]

theorem Condition.isWordChar_labelWords (hc : c.Readable) (excluded : Bool) :
    ∀ w ∈ c.labelWords excluded, ∀ ch ∈ w, Text.isWordChar ch = true := by
  have hall : (["NOT", "any", "field", "equals", "contains"].all
      fun w => w.toList.all Text.isWordChar) = true := by decide +kernel
  have hwords : ∀ w ∈ ["NOT", "any", "field", "equals", "contains"], ∀ ch ∈ w.toList,
      Text.isWordChar ch = true := fun w hw => List.all_eq_true.1 (List.all_eq_true.1 hall w hw)
  have hplace : ∀ w ∈ c.placeWords, ∀ ch ∈ w, Text.isWordChar ch = true := by
    obtain ⟨field, term, operator⟩ := c
    cases field with
    | none =>
      exact List.forall_mem_cons.2
        ⟨hwords "any" (by simp), List.forall_mem_singleton.2 (hwords "field" (by simp))⟩
    | some field => exact List.forall_mem_singleton.2 hc.2
  intro w hw
  rw [labelWords, List.mem_append, List.mem_append, List.mem_singleton] at hw
  obtain (hw | hw) | rfl := hw
  · cases excluded with
    | false => exact absurd hw List.not_mem_nil
    | true =>
      obtain rfl := List.mem_singleton.1 hw
      exact hwords "NOT" (by simp)
  · exact hplace w hw
  · cases c.operator with
    | exact => exact hwords "equals" (by simp)
    | contains => exact hwords "contains" (by simp)

theorem Operator.verb_injective : Function.Injective Operator.verb := by
  intro o o' h
  cases o <;> cases o' <;> first | rfl | exact absurd h (by decide)

theorem Condition.placeWords_inj (h : c.placeWords = c'.placeWords) : c.field = c'.field := by
  unfold placeWords at h
  cases hc : c.field <;> cases hc' : c'.field <;> simp [hc, hc', String.toList_inj] at h ⊢
  exact h

/-- One word stands for a field, and of the two that stand for any field the first is no mark. -/
theorem Condition.placeWords_ne_cons (c c' : Condition) :
    c'.placeWords ≠ "NOT".toList :: c.placeWords := by
  unfold placeWords
  cases c.field <;> cases c'.field <;> simp

/-- The words tell what they have been made of. -/
theorem Condition.labelWords_inj (h : c.labelWords e = c'.labelWords e') :
    e = e' ∧ c.field = c'.field ∧ c.operator = c'.operator := by
  obtain ⟨hfront, hverb⟩ := List.append_inj' h rfl
  have hoperator := Operator.verb_injective (String.toList_inj.1 (List.cons.inj hverb).1)
  cases e <;> cases e'
  · exact ⟨rfl, placeWords_inj hfront, hoperator⟩
  · exact absurd hfront (placeWords_ne_cons c' c)
  · exact absurd hfront.symm (placeWords_ne_cons c c')
  · exact ⟨rfl, placeWords_inj (List.cons.inj hfront).2, hoperator⟩

theorem toList_nodeLabel_condition (hc : c.Readable) (excluded : Bool) :
    (nodeLabel excluded c.toJson).toList =
      (c.labelWords excluded).flatMap (· ++ [' ']) ++ Text.quoteChars c.term.toList := by
  have hlabel : nodeLabel excluded c.toJson = (if excluded then "NOT " else "") ++
      (match c.field with
        | none => "any field"
        | some field => field) ++ " " ++ c.operator.verb ++ " " ++ Text.quoted c.term := by
    obtain ⟨field, term, operator⟩ := c
    cases field with
    | none => cases operator <;> rfl
    | some field =>
      -- a field that can be read has a name
      have hplace : (if (Json.text field).isSomething then (Json.text field).plain
          else "any field") = field :=
        if_pos (bne_iff_ne.2 fun hnil => hc.1 (by rw [hnil]; rfl))
      cases operator <;> exact congrArg (fun place => (if excluded then "NOT " else "") ++ place ++
        " " ++ _ ++ " " ++ Text.quoted term) hplace
  rw [hlabel, Condition.labelWords, Condition.placeWords, Text.quoted]
  cases excluded <;> cases c.field <;> simp

theorem nodeLabel_group (g : Query) (excluded : Bool) :
    nodeLabel excluded (Group.toJson g) = (if excluded then "NOT " else "") ++ g.mode.name := by
  obtain ⟨mode, included, others⟩ := g
  rfl

/-- In front of the term there are words and blanks. -/
theorem Condition.isWordChar_or_blank (hc : c.Readable) {excluded : Bool} {ch : Char}
    (h : ch ∈ (c.labelWords excluded).flatMap (· ++ [' '])) :
    Text.isWordChar ch = true ∨ ch = ' ' := by
  obtain ⟨w, hw, hch⟩ := List.mem_flatMap.1 h
  rcases List.mem_append.1 hch with hch | hch
  · exact .inl (Condition.isWordChar_labelWords hc excluded w hw ch hch)
  · exact .inr (List.mem_singleton.1 hch)

theorem Condition.not_isQuote_of_mem (hc : c.Readable) (excluded : Bool) :
    ∀ ch ∈ (c.labelWords excluded).flatMap (· ++ [' ']), ¬Text.IsQuote ch := by
  intro ch hch
  rcases Condition.isWordChar_or_blank hc hch with hword | rfl
  · rintro (rfl | rfl) <;> exact absurd hword (by decide)
  · decide

/-- The label of a condition tells the condition. -/
theorem nodeLabel_condition_inj (hc : c.Readable) (hc' : c'.Readable)
    (h : nodeLabel e c.toJson = nodeLabel e' c'.toJson) : e = e' ∧ c = c' := by
  have hquote : ∀ text, ∀ ch ∈ (Text.quoteChars text).head?, ¬¬Text.IsQuote ch := by
    intro text ch hch
    obtain ⟨quote, hquote, hhead, -⟩ := Text.quoteChars_ends text
    obtain rfl := Option.some.inj (hhead.symm.trans hch)
    exact not_not_intro hquote
  have hblank : ∀ {k : Condition}, k.Readable → ∀ excluded, ∀ w ∈ k.labelWords excluded, ' ' ∉ w :=
    fun hk excluded w hw hmem =>
      absurd (Condition.isWordChar_labelWords hk excluded w hw ' ' hmem) (by decide)
  have hchars := congrArg String.toList h
  rw [toList_nodeLabel_condition hc, toList_nodeLabel_condition hc'] at hchars
  -- the first quote is where the term begins
  obtain ⟨hwords, hterm⟩ := append_inj_of_boundary (fun ch => ¬Text.IsQuote ch)
    (Condition.not_isQuote_of_mem hc e) (Condition.not_isQuote_of_mem hc' e') (hquote _) (hquote _)
    hchars
  obtain ⟨he, hfield, hoperator⟩ :=
    Condition.labelWords_inj (flatMap_ended_inj (hblank hc e) (hblank hc' e') hwords)
  have hterm := String.toList_inj.1 (Text.quoteChars_injective hterm)
  obtain ⟨field, term, operator⟩ := c
  obtain ⟨field', term', operator'⟩ := c'
  obtain rfl : field = field' := hfield
  obtain rfl : term = term' := hterm
  obtain rfl : operator = operator' := hoperator
  exact ⟨he, rfl⟩

theorem nodeLabel_group_inj (h : nodeLabel e (Group.toJson g) = nodeLabel e' (Group.toJson g')) :
    e = e' ∧ g.mode = g'.mode := by
  rw [nodeLabel_group, nodeLabel_group] at h
  cases e <;> cases e' <;> cases hg : g.mode <;> cases hg' : g'.mode <;> rw [hg, hg'] at h <;>
    first | exact ⟨rfl, rfl⟩ | exact absurd h (by decide)

/-- The label of a group is one line, and it has no quotes. -/
theorem nodeLabel_group_spec (g : Query) (excluded : Bool) :
    IsTidy (nodeLabel excluded (Group.toJson g)).toList ∧
      ∀ ch ∈ (nodeLabel excluded (Group.toJson g)).toList, ¬Text.IsQuote ch := by
  rw [nodeLabel_group]
  have hquotes : (((if excluded then "NOT " else "") ++ g.mode.name).toList.all
      fun ch => decide ¬Text.IsQuote ch) = true := by
    cases excluded <;> cases g.mode <;> decide
  refine ⟨?_, fun ch hch => of_decide_eq_true (List.all_eq_true.1 hquotes ch hch)⟩
  cases excluded <;> cases g.mode <;> exact ⟨by decide, _, rfl, by decide⟩

theorem isTidy_nodeLabel_condition (hc : c.Readable) (excluded : Bool) :
    IsTidy (nodeLabel excluded c.toJson).toList := by
  obtain ⟨quote, hquote, -, hlast⟩ := Text.quoteChars_ends c.term.toList
  have hterm : IsTidy (Text.quoteChars c.term.toList) := by
    refine ⟨Text.newline_notMem_quoteChars _, quote, hlast, ?_⟩
    rintro rfl
    exact absurd hquote (by decide)
  rw [toList_nodeLabel_condition hc]
  refine hterm.append fun hnewline => ?_
  rcases Condition.isWordChar_or_blank hc hnewline with h | h
  · exact absurd h (by decide)
  · exact absurd h (by decide)

/-- No label of a condition is that of a group. -/
theorem nodeLabel_condition_ne (hc : c.Readable) (g : Query) (e e' : Bool) :
    nodeLabel e c.toJson ≠ nodeLabel e' (Group.toJson g) := by
  intro h
  obtain ⟨quote, hquote, hhead, -⟩ := Text.quoteChars_ends c.term.toList
  refine (nodeLabel_group_spec g e').2 quote ?_ hquote
  rw [← h, toList_nodeLabel_condition hc, List.mem_append]
  exact .inr (List.mem_of_mem_head? hhead)

/-! ### Trees -/

/-- The items of a group, each with the mark that it has in the outline. -/
def Group.marked (g : Query) : List (Bool × Item) :=
  g.included.map (false, ·) ++ g.excluded.map (true, ·)

theorem Group.outline_eq (g : Query) (excluded : Bool) : Group.outline excluded g =
    .node (nodeLabel excluded (Group.toJson g)) (g.marked.map fun m => m.2.outline m.1) := by
  obtain ⟨mode, included, others⟩ := g
  rw [Group.outline, Item.outlines_eq, Item.outlines_eq, Group.marked, List.map_append,
    List.map_map, List.map_map]
  rfl

theorem Group.marked_inj (hmode : g.mode = g'.mode) (h : g.marked = g'.marked) : g = g' := by
  have hfalse : ∀ items : List Item, ∀ m ∈ items.map ((false, ·) : Item → Bool × Item),
      m.1 = false := fun items => List.forall_mem_map.2 fun _ _ => rfl
  have htrue : ∀ items : List Item,
      ∀ m ∈ (items.map ((true, ·) : Item → Bool × Item)).head?, ¬m.1 = false := by
    intro items m hm
    obtain ⟨i, -, rfl⟩ := List.mem_map.1 (List.mem_of_mem_head? hm)
    exact Bool.noConfusion
  obtain ⟨hincluded, hexcluded⟩ := append_inj_of_boundary (fun m : Bool × Item => m.1 = false)
    (hfalse _) (hfalse _) (htrue _) (htrue _) h
  obtain ⟨mode, included, others⟩ := g
  obtain ⟨mode', included', others'⟩ := g'
  obtain rfl : mode = mode' := hmode
  obtain rfl := List.map_injective_iff.2 (fun _ _ h => (Prod.mk.inj h).2) hincluded
  obtain rfl := List.map_injective_iff.2 (fun _ _ h => (Prod.mk.inj h).2) hexcluded
  rfl

theorem Group.mem_marked {m : Bool × Item} (h : m ∈ g.marked) :
    m.2 ∈ g.included ∨ m.2 ∈ g.excluded := by
  rcases List.mem_append.1 h with h | h
  · obtain ⟨i, hi, rfl⟩ := List.mem_map.1 h
    exact .inl hi
  · obtain ⟨i, hi, rfl⟩ := List.mem_map.1 h
    exact .inr hi

/-- A tree can be told from its outline. -/
theorem Group.outline_inj (hg : ∀ c ∈ g.conditions, c.Readable)
    (hg' : ∀ c ∈ g'.conditions, c.Readable)
    (h : Group.outline e g = Group.outline e' g') : e = e' ∧ g = g' := by
  induction g using Group.induction generalizing g' e e' with
  | step g hincluded hexcluded =>
    rw [Group.outline_eq, Group.outline_eq, Outline.node.injEq] at h
    obtain ⟨hlabel, hchildren⟩ := h
    obtain ⟨he, hmode⟩ := nodeLabel_group_inj hlabel
    refine ⟨he, Group.marked_inj hmode (eq_of_map_eq_map ?_ hchildren)⟩
    rintro ⟨d, i⟩ hi ⟨d', i'⟩ hi' hitem
    have hconditions : ∀ c ∈ i.conditions, c.Readable :=
      fun c hc => hg c (Group.mem_conditions.2 ⟨i, Group.mem_marked hi, hc⟩)
    have hconditions' : ∀ c ∈ i'.conditions, c.Readable :=
      fun c hc => hg' c (Group.mem_conditions.2 ⟨i', Group.mem_marked hi', hc⟩)
    suffices hboth : d = d' ∧ i = i' by rw [hboth.1, hboth.2]
    cases i with
    | condition c =>
      have hc := hconditions c (List.mem_singleton_self c)
      cases i' with
      | condition c' =>
        have hc' := hconditions' c' (List.mem_singleton_self c')
        obtain ⟨hd, rfl⟩ := nodeLabel_condition_inj hc hc' (Outline.node.inj hitem).1
        exact ⟨hd, rfl⟩
      | group k' =>
        rw [Item.outline, Item.outline, Group.outline_eq] at hitem
        exact absurd (Outline.node.inj hitem).1 (nodeLabel_condition_ne hc k' d d')
    | group k =>
      cases i' with
      | condition c' =>
        have hc' := hconditions' c' (List.mem_singleton_self c')
        rw [Item.outline, Item.outline, Group.outline_eq] at hitem
        exact absurd (Outline.node.inj hitem).1.symm (nodeLabel_condition_ne hc' k d' d)
      | group k' =>
        rw [Item.outline, Item.outline] at hitem
        obtain ⟨hd, rfl⟩ := (Group.mem_marked hi).elim
          (fun hk => hincluded k hk hconditions hconditions' hitem)
          (fun hk => hexcluded k hk hconditions hconditions' hitem)
        exact ⟨hd, rfl⟩

/-- The lines of a drawn tree stand as they are. -/
theorem Group.isTidy_outline (hg : ∀ c ∈ g.conditions, c.Readable) (excluded : Bool) :
    ∀ line ∈ (Group.outline excluded g).lines, IsTidy line.toList := by
  induction g using Group.induction generalizing excluded with
  | step g hincluded hexcluded =>
    rw [Group.outline_eq]
    refine Outline.isTidy_lines (nodeLabel_group_spec g excluded).1
      (List.forall_mem_map.2 fun m hm => ?_)
    obtain ⟨d, i⟩ := m
    have hconditions : ∀ c ∈ i.conditions, c.Readable :=
      fun c hc => hg c (Group.mem_conditions.2 ⟨i, Group.mem_marked hm, hc⟩)
    cases i with
    | condition c =>
      exact Outline.isTidy_lines
        (isTidy_nodeLabel_condition (hconditions c (List.mem_singleton_self c)) d) nofun
    | group k =>
      exact (Group.mem_marked hm).elim (fun hk => hincluded k hk hconditions d)
        (fun hk => hexcluded k hk hconditions d)

/-! ### Runs -/

variable {s : Surroundings} {settings : Settings} {q : String}

/-- A run that parses a text shows the query on a line, as the terminal draws it, and a tree below
it: the tree is what is drawn of the described query. Notes stand in front if the standard output is
where they go. -/
structure ShowsTree (s : Surroundings) (settings : Settings) (q tree : String) : Prop where
  code : (execute s settings (.parse q)).exitCode = 0
  stdout : ∃ notes, (execute s settings (.parse q)).stdout =
    outputNotes s (openNotes s settings).2.1 notes ++
      s.terminal.plain ("Query: " ++ (parse q).text) ++ tree
  drawn : ∃ o, (Group.toJson (parse q)).outline false = .ok o ∧ tree = textOfLines o.lines

theorem dataText_parse {r : Result} (hr : r.data = parseData q)
    (hne : (parse q).isEmpty = false) (display : Display) : r.dataText display =
      .ok (display.terminal.plain ("Query: " ++ (parse q).text) ++
        display.terminal.tree (Group.outline false (parse q))) := by
  have hempty : (Json.bool (parse q).isEmpty).isSomething = false := hne
  simp [Result.dataText, hr, parseData, Json.find?, hempty, Group.outline_toJson, Json.plain,
    Except.map]

theorem showsTree_execute (hformat : settings.format = .table) (hne : (parse q).isEmpty = false)
    (hlaid : s.terminal.LaysOut (Group.outline false (parse q))) :
    ShowsTree s settings q (textOfLines (Group.outline false (parse q)).lines) := by
  obtain ⟨w, hwrite, hstdout⟩ : ∃ w, ((performParse q).result "parse" settings.verbosity).write s
      settings = .ok w ∧ w.stdout = s.terminal.plain ("Query: " ++ (parse q).text) ++
        textOfLines (Group.outline false (parse q)).lines := by
    rw [← hlaid, Result.write, hformat]
    simp only [Result.toLines, dataText_parse (show ((performParse q).result "parse"
      settings.verbosity).data = parseData q from rfl) hne]
    exact ⟨_, rfl, rfl⟩
  obtain ⟨hcode, notes, hrun⟩ :=
    @execute_of_attempted_write s settings (.parse q) w hwrite
  exact ⟨hcode, ⟨notes, by rw [hrun, hstdout, String.append_assoc]⟩, _,
    Group.outline_toJson false (parse q), rfl⟩

/-- **The drawn tree determines the query.** Two runs that draw the queries of two texts show a tree
each, laid out with guides and one label on each line, and the trees are the same text exactly if
the queries are equal. -/
theorem parse_eq_of_drawn_eq {s₁ s₂ : Surroundings} {settings₁ settings₂ : Settings}
    {q₁ q₂ : String} (hformat₁ : settings₁.format = .table) (hformat₂ : settings₂.format = .table)
    (hlaid₁ : s₁.terminal.LaysOut (Group.outline false (parse q₁)))
    (hlaid₂ : s₂.terminal.LaysOut (Group.outline false (parse q₂)))
    (hne₁ : (parse q₁).isEmpty = false) (hne₂ : (parse q₂).isEmpty = false) :
    ∃ tree₁ tree₂, ShowsTree s₁ settings₁ q₁ tree₁ ∧ ShowsTree s₂ settings₂ q₂ tree₂ ∧
      (tree₁ = tree₂ ↔ parse q₁ = parse q₂) := by
  refine ⟨_, _, showsTree_execute hformat₁ hne₁ hlaid₁, showsTree_execute hformat₂ hne₂ hlaid₂,
    fun htree => ?_, fun hparse => by rw [hparse]⟩
  have hreadable : ∀ q : String, ∀ c ∈ (parse q).conditions, c.Readable :=
    fun q c hc => ((parse_spec q).2 c hc).1
  have hlines := textOfLines_inj (Group.isTidy_outline (hreadable q₁) false)
    (Group.isTidy_outline (hreadable q₂) false) htree
  exact (Group.outline_inj (hreadable q₁) (hreadable q₂) (Outline.lines_injective hlines)).2

/-- Two texts that differ in blanks, with a quote in a term and a field by the name of a mark, show
one tree. -/
theorem parse_eq_of_drawn_eq_blanks : ∃ tree, ShowsTree {} {} "NOT:it's -(a~b)" tree ∧
    ShowsTree {} {} " NOT:it's  -( a ~ b )" tree := by
  have hne : (parse "NOT:it's -(a~b)").isEmpty = false := by decide +kernel
  have hparse : parse "NOT:it's -(a~b)" = parse " NOT:it's  -( a ~ b )" := by decide +kernel
  obtain ⟨tree₁, tree₂, hshows₁, hshows₂, htree⟩ :=
    @parse_eq_of_drawn_eq {} {} {} {} _ _ rfl rfl rfl rfl hne (hparse ▸ hne)
  obtain rfl := htree.2 hparse
  exact ⟨tree₁, hshows₁, hshows₂⟩

end RecordSearch
