import Mathlib.Data.List.Basic
import RecordSearch.Query.Description
import RecordSearch.Report.Result

/-!
# Reading drawn outlines back

An outline can be told from its lines (`Outline.lines_injective`): the last of the outlines below a
label stands behind other guides than the rest, and a line that begins an outline begins otherwise
than one that goes on with it. Lines can be told from their text if each is one line without a blank
at its end (`textOfLines_inj`).

A described query has an outline, whatever the query is: `Group.outline` is made from the query
itself, and it is what the description gives (`Group.outline_toJson`).
-/

namespace RecordSearch

/-! ### Joined lists -/

/-- Where a list of one kind ends in front of something of another kind can be told. -/
theorem append_inj_of_boundary {α : Type} (p : α → Prop) {xs ys a b : List α}
    (hxs : ∀ x ∈ xs, p x) (hys : ∀ y ∈ ys, p y) (ha : ∀ x ∈ a.head?, ¬p x)
    (hb : ∀ x ∈ b.head?, ¬p x) (h : xs ++ a = ys ++ b) : xs = ys ∧ a = b := by
  induction xs generalizing ys with
  | nil =>
    cases ys with
    | nil => exact ⟨rfl, h⟩
    | cons y ys =>
      rw [List.nil_append] at h
      exact absurd (hys y (List.mem_cons_self ..)) (ha y (by rw [h]; rfl))
  | cons x xs ih =>
    cases ys with
    | nil =>
      rw [List.nil_append] at h
      exact absurd (hxs x (List.mem_cons_self ..)) (hb x (by rw [← h]; rfl))
    | cons y ys =>
      obtain ⟨rfl, hrest⟩ := List.cons.inj h
      obtain ⟨rfl, hab⟩ := ih (List.forall_mem_cons.1 hxs).2 (List.forall_mem_cons.1 hys).2 hrest
      exact ⟨rfl, hab⟩

/-- Words that each end with a character can be told from their text, if none of them holds that
character. -/
theorem flatMap_ended_inj {ending : Char} {vs ws : List (List Char)} (hvs : ∀ v ∈ vs, ending ∉ v)
    (hws : ∀ w ∈ ws, ending ∉ w)
    (h : vs.flatMap (· ++ [ending]) = ws.flatMap (· ++ [ending])) : vs = ws := by
  induction vs generalizing ws with
  | nil =>
    cases ws with
    | nil => rfl
    | cons w ws => simp at h
  | cons v vs ih =>
    cases ws with
    | nil => simp at h
    | cons w ws =>
      rw [List.forall_mem_cons] at hvs hws
      simp only [List.flatMap_cons, List.append_assoc, List.singleton_append] at h
      obtain ⟨rfl, hrest⟩ := append_inj_of_boundary (· ≠ ending)
        (fun _ hc => ne_of_mem_of_not_mem hc hvs.1) (fun _ hc => ne_of_mem_of_not_mem hc hws.1)
        (by simp) (by simp) h
      rw [ih hvs.2 hws.2 (List.cons.inj hrest).2]

/-! ### Lines as a text -/

/-- A line that stands as it is: it is one line, it is not empty, and no blank is at its end. -/
def IsTidy (line : List Char) : Prop :=
  '\n' ∉ line ∧ ∃ c, line.getLast? = some c ∧ c ≠ ' '

theorem IsTidy.append {line : List Char} (h : IsTidy line) {guide : List Char}
    (hguide : '\n' ∉ guide) : IsTidy (guide ++ line) := by
  obtain ⟨hnewline, c, hlast, hc⟩ := h
  refine ⟨by rw [List.mem_append]; exact not_or.2 ⟨hguide, hnewline⟩, c, ?_, hc⟩
  rw [List.getLast?_append, hlast, Option.some_or]

namespace Text

variable {c d : Char} {rest kept : List Char}

theorem trimLines_cons (h : trimLines rest = d :: kept) (hne : c ≠ ' ' ∨ d ≠ '\n') :
    trimLines (c :: rest) = c :: d :: kept := by
  rw [trimLines, h]
  · exact fun _ hnil => absurd (h.symm.trans hnil) (List.cons_ne_nil d kept)
  · intro kept' hc hnewline
    obtain ⟨rfl, -⟩ := List.cons.inj (h.symm.trans hnewline)
    exact hne.elim (absurd hc) (absurd rfl)

/-- Nothing is taken away from a tidy line. -/
theorem trimLines_tidy {line : List Char} (hnewline : '\n' ∉ line)
    (hlast : line.getLast? ≠ some ' ') (rest : List Char) :
    trimLines (line ++ '\n' :: rest) = line ++ '\n' :: trimLines rest := by
  induction line with
  | nil => rfl
  | cons c line ih =>
    cases line with
    | nil => exact trimLines_cons rfl (.inl fun hc => hlast (congrArg some hc))
    | cons d line =>
      rw [List.mem_cons, not_or] at hnewline
      rw [List.getLast?_cons_cons] at hlast
      refine trimLines_cons (ih hnewline.2 hlast) (.inr ?_)
      rintro rfl
      exact hnewline.2 (List.mem_cons_self ..)

end Text

theorem toList_textOfLines {lines : List String} (h : ∀ line ∈ lines, IsTidy line.toList) :
    (textOfLines lines).toList = (lines.map String.toList).flatMap (· ++ ['\n']) := by
  rw [textOfLines, String.toList_ofList, List.flatMap_map]
  induction lines with
  | nil => rfl
  | cons line lines ih =>
    obtain ⟨⟨hnewline, c, hlast, hc⟩, hlines⟩ := List.forall_mem_cons.1 h
    have hblank : line.toList.getLast? ≠ some ' ' := by
      rw [hlast]
      exact fun hsome => hc (Option.some.inj hsome)
    rw [List.flatMap_cons, List.append_assoc, List.singleton_append,
      Text.trimLines_tidy hnewline hblank, ih hlines, List.append_cons]

/-- Tidy lines can be told from their text. -/
theorem textOfLines_inj {xs ys : List String} (hxs : ∀ x ∈ xs, IsTidy x.toList)
    (hys : ∀ y ∈ ys, IsTidy y.toList) (h : textOfLines xs = textOfLines ys) : xs = ys := by
  have hchars := congrArg String.toList h
  rw [toList_textOfLines hxs, toList_textOfLines hys] at hchars
  have hwords := flatMap_ended_inj (List.forall_mem_map.2 fun x hx => (hxs x hx).1)
    (List.forall_mem_map.2 fun y hy => (hys y hy).1) hchars
  exact List.map_injective_iff.2 (fun _ _ => String.toList_inj.1) hwords

/-! ### Outlines as lines -/

namespace Outline

variable {o o' : Outline} {os os' : List Outline}

theorem lines_eq (o : Outline) : ∃ label below, o.lines = label :: below := by
  cases o
  exact ⟨_, _, lines.eq_1 _ _⟩

/-- What hangs below a label: the guides of the last outline differ from those of the others. -/
theorem branches_cons (o : Outline) (os : List Outline) :
    branches (o :: os) =
      hang (if os.isEmpty then "└── " else "├── ") (if os.isEmpty then "    " else "│   ")
        o.lines ++ branches os := by
  cases os with
  | nil => simp [branches]
  | cons next rest => rfl

/-- A line that goes on with an outline that has been begun. -/
def GoesOn (line : String) : Prop :=
  line.toList.head? = some '│' ∨ line.toList.head? = some ' '

theorem goesOn_append {guide : String} (h : guide = "    " ∨ guide = "│   ") (line : String) :
    GoesOn (guide ++ line) := by
  obtain rfl | rfl := h
  · exact .inr (by rw [String.toList_append]; rfl)
  · exact .inl (by rw [String.toList_append]; rfl)

theorem not_goesOn_append {guide : String} (h : guide = "└── " ∨ guide = "├── ") (line : String) :
    ¬GoesOn (guide ++ line) := by
  unfold GoesOn
  rw [String.toList_append]
  obtain rfl | rfl := h <;> simp

theorem not_goesOn_head_branches (os : List Outline) :
    ∀ line ∈ (branches os).head?, ¬GoesOn line := by
  cases os with
  | nil => nofun
  | cons o os =>
    obtain ⟨label, below, hlines⟩ := lines_eq o
    intro line hline
    rw [branches_cons, hlines] at hline
    obtain rfl := Option.some.inj hline
    refine not_goesOn_append ?_ label
    cases os.isEmpty <;> decide

/-- The guide in front of a label says whether the outline is the last one. -/
theorem guide_inj {last last' : Bool} {label label' : String}
    (h : (if last then "└── " else "├── ") ++ label =
      (if last' then "└── " else "├── ") ++ label') :
    last = last' ∧ label = label' := by
  have hne : ∀ label label' : String, "└── " ++ label ≠ "├── " ++ label' := by
    intro label label' h
    have hchars := congrArg String.toList h
    rw [String.toList_append, String.toList_append] at hchars
    exact absurd (List.cons.inj hchars).1 (by decide)
  cases last <;> cases last'
  · exact ⟨rfl, (String.append_right_inj _).1 h⟩
  · exact absurd h.symm (hne label' label)
  · exact absurd h (hne label label')
  · exact ⟨rfl, (String.append_right_inj _).1 h⟩

/-- The first of some outlines can be told from what hangs below a label. -/
theorem branches_cons_inj (h : branches (o :: os) = branches (o' :: os')) :
    o.lines = o'.lines ∧ branches os = branches os' := by
  obtain ⟨label, below, hlines⟩ := lines_eq o
  obtain ⟨label', below', hlines'⟩ := lines_eq o'
  rw [branches_cons, branches_cons, hlines, hlines'] at h
  obtain ⟨hhead, htail⟩ := List.cons.inj h
  obtain ⟨hlast, rfl⟩ := guide_inj hhead
  rw [hlast] at htail
  have hgoes : ∀ below : List String, ∀ line ∈ below.map
      ((if os'.isEmpty then "    " else "│   ") ++ ·), GoesOn line := by
    intro below
    refine List.forall_mem_map.2 fun line _ => goesOn_append ?_ line
    cases os'.isEmpty <;> decide
  obtain ⟨hbelow, hrest⟩ := append_inj_of_boundary GoesOn (hgoes below) (hgoes below')
    (not_goesOn_head_branches os) (not_goesOn_head_branches os') htail
  have hinj : Function.Injective ((if os'.isEmpty then "    " else "│   ") ++ ·) :=
    fun _ _ => (String.append_right_inj _).1
  rw [hlines, hlines', List.map_injective_iff.2 hinj hbelow]
  exact ⟨rfl, hrest⟩

theorem branches_cons_ne_nil (o : Outline) (os : List Outline) : branches (o :: os) ≠ [] := by
  obtain ⟨label, below, hlines⟩ := lines_eq o
  rw [branches_cons, hlines]
  exact List.cons_ne_nil _ _

mutual

/-- An outline can be told from its lines. -/
theorem lines_injective : ∀ {o o' : Outline}, o.lines = o'.lines → o = o'
  | .node label children, .node label' children', h => by
    obtain ⟨rfl, hbelow⟩ := List.cons.inj h
    rw [branches_injective hbelow]

/-- Outlines can be told from what hangs below their label. -/
theorem branches_injective : ∀ {os os' : List Outline}, branches os = branches os' → os = os'
  | [], [], _ => rfl
  | [], o :: os, h => absurd h.symm (branches_cons_ne_nil o os)
  | o :: os, [], h => absurd h (branches_cons_ne_nil o os)
  | o :: os, o' :: os', h => by
    obtain ⟨hfirst, hrest⟩ := branches_cons_inj h
    rw [lines_injective hfirst, branches_injective hrest]

end

/-- A line below a label is a line of one of the outlines there, behind a guide. -/
theorem exists_of_mem_branches {line : String} (h : line ∈ branches os) :
    ∃ guide : String, '\n' ∉ guide.toList ∧ ∃ o ∈ os, ∃ l ∈ o.lines, line = guide ++ l := by
  induction os with
  | nil => exact absurd h List.not_mem_nil
  | cons o os ih =>
    obtain ⟨label, below, hlines⟩ := lines_eq o
    have hmem : ∀ l ∈ label :: below, l ∈ o.lines := fun l hl => hlines ▸ hl
    rw [branches_cons, hlines, hang, List.cons_append, List.mem_cons, List.mem_append,
      List.mem_map] at h
    obtain rfl | ⟨l, hl, rfl⟩ | h := h
    · refine ⟨_, ?_, o, List.mem_cons_self .., label, hmem _ (List.mem_cons_self ..), rfl⟩
      cases os.isEmpty <;> decide
    · refine ⟨_, ?_, o, List.mem_cons_self .., l, hmem _ (List.mem_cons_of_mem _ hl), rfl⟩
      cases os.isEmpty <;> decide
    · obtain ⟨guide, hguide, o', ho', hline⟩ := ih h
      exact ⟨guide, hguide, o', List.mem_cons_of_mem o ho', hline⟩

/-- The lines of an outline are tidy if the labels are. -/
theorem isTidy_lines {label : String} {children : List Outline} (hlabel : IsTidy label.toList)
    (hchildren : ∀ o ∈ children, ∀ line ∈ o.lines, IsTidy line.toList) :
    ∀ line ∈ (node label children).lines, IsTidy line.toList := by
  rw [lines]
  refine List.forall_mem_cons.2 ⟨hlabel, fun line hline => ?_⟩
  obtain ⟨guide, hguide, o, ho, l, hl, rfl⟩ := exists_of_mem_branches hline
  rw [String.toList_append]
  exact (hchildren o ho l hl).append hguide

end Outline

/-! ### Outlines of queries -/

mutual

/-- The outline of an item of a query. -/
def Item.outline (excluded : Bool) : Item → Outline
  | .condition c => .node (nodeLabel excluded c.toJson) []
  | .group g => Group.outline excluded g

/-- The outline of a group: what it includes stands before what it excludes. -/
def Group.outline (excluded : Bool) : Group Item → Outline
  | ⟨mode, included, others⟩ =>
    .node (nodeLabel excluded (Group.toJson ⟨mode, included, others⟩))
      (Item.outlines false included ++ Item.outlines true others)

/-- The outlines of several items. -/
def Item.outlines (excluded : Bool) : List Item → List Outline
  | [] => []
  | i :: items => i.outline excluded :: Item.outlines excluded items

end

mutual

theorem Item.outline_toJson (excluded : Bool) :
    ∀ i : Item, i.toJson.outline excluded = .ok (i.outline excluded)
  | .condition c => by
    rw [Item.toJson, Item.outline]
    simp [Condition.toJson, Json.outline, Json.childrenIn]
  | .group g => by rw [Item.toJson, Item.outline, Group.outline_toJson]

/-- A described query has the outline of the query. -/
theorem Group.outline_toJson (excluded : Bool) :
    ∀ g : Query, (Group.toJson g).outline excluded = .ok (Group.outline excluded g)
  | ⟨mode, included, others⟩ => by
    rw [Group.outline]
    simp [Group.toJson, Json.outline, Json.childrenIn, Json.elementOutlines,
      Item.listOutlines_toJson]

theorem Item.listOutlines_toJson (excluded : Bool) : ∀ items : List Item,
    Json.listOutlines excluded (Item.listToJson items) = .ok (Item.outlines excluded items)
  | [] => rfl
  | i :: items => by
    rw [Item.listToJson, Json.listOutlines, Item.outline_toJson, Item.listOutlines_toJson]
    rfl

end

theorem Item.outlines_eq (excluded : Bool) (items : List Item) :
    Item.outlines excluded items = items.map (Item.outline excluded) := by
  induction items with
  | nil => rfl
  | cons i items ih => rw [Item.outlines, ih, List.map_cons]

end RecordSearch
