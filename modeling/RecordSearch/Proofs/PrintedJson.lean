import Mathlib.Data.List.Forall2
import RecordSearch.Proofs.Enclosed
import RecordSearch.Proofs.WrittenScalars

/-!
# JSON values as they are written

A value written on one line is read as that value again. Its text spells the lexemes
`Json.lexemes` (`spells_compact`), which build the value wherever it may stand (`run_lexemes`); the
escapes of a string stand for its characters (`spells_text`).

What is read again is `Json.reread`: a floating-point number is whatever its decimal is read as, and
of several members of one name the last one counts.
-/

namespace RecordSearch.Json

/-! ### Induction on values -/

/-- A property of values holds for all of them if it does for scalars and texts, for each list whose
elements have it, and for each object whose members have it. -/
@[elab_as_elim]
theorem nested_induction {motive : Json → Prop} (null : motive .null)
    (bool : ∀ b, motive (.bool b)) (integer : ∀ n, motive (.integer n))
    (float : ∀ x, motive (.float x)) (text : ∀ s, motive (.text s))
    (list : ∀ elements, (∀ v ∈ elements, motive v) → motive (.list elements))
    (object : ∀ members, (∀ m ∈ members, motive m.2) → motive (.object members)) (v : Json) :
    motive v :=
  match v with
  | .null => null
  | .bool b => bool b
  | .integer n => integer n
  | .float x => float x
  | .text s => text s
  | .list elements => list elements fun v _ =>
    nested_induction null bool integer float text list object v
  | .object members => object members fun m _ =>
    nested_induction null bool integer float text list object m.2
termination_by sizeOf v
decreasing_by
  · have := List.sizeOf_lt_of_mem ‹_›
    simp only [Json.list.sizeOf_spec]
    omega
  · have hlt := List.sizeOf_lt_of_mem ‹_›
    obtain ⟨name, w⟩ := m
    simp only [Prod.mk.sizeOf_spec] at hlt
    simp only [Json.object.sizeOf_spec]
    omega

theorem compactElements_eq (elements : List Json) :
    compactElements elements = elements.map compact := by
  induction elements with
  | nil => rfl
  | cons v rest ih => rw [compactElements, ih, List.map_cons]

theorem compactMembers_eq (members : List (String × Json)) :
    compactMembers members = members.map fun m => stringText m.1 ++ ": " ++ m.2.compact := by
  induction members with
  | nil => rfl
  | cons m rest ih => rw [compactMembers, ih, List.map_cons]

/-! ### What is read again -/

mutual

/-- A value as its text is read. -/
def reread : Json → Json
  | .float x => (Json.read (floatText x).toList).toOption.getD .null
  | .list elements => .list (rereadElements elements)
  | .object members => .ofMembers (rereadMembers members)
  | v => v

/-- The elements of a list as their texts are read. -/
def rereadElements : List Json → List Json
  | [] => []
  | v :: rest => v.reread :: rereadElements rest

/-- The members of an object as their texts are read. -/
def rereadMembers : List (String × Json) → List (String × Json)
  | [] => []
  | (name, v) :: rest => (name, v.reread) :: rereadMembers rest

end

mutual

/-- The lexemes of a value. -/
def lexemes : Json → List Lexeme
  | .text s => [.text s]
  | .list elements => .openList :: ([.comma].intercalate (elementLexemes elements) ++ [.closeList])
  | .object members =>
    .openObject :: ([.comma].intercalate (memberLexemes members) ++ [.closeObject])
  | v => [.scalar v.reread]

/-- The lexemes of the elements of a list, each by itself. -/
def elementLexemes : List Json → List (List Lexeme)
  | [] => []
  | v :: rest => v.lexemes :: elementLexemes rest

/-- The lexemes of the members of an object, each by itself. -/
def memberLexemes : List (String × Json) → List (List Lexeme)
  | [] => []
  | (name, v) :: rest => (.text name :: .colon :: v.lexemes) :: memberLexemes rest

end

theorem rereadElements_eq (elements : List Json) :
    rereadElements elements = elements.map reread := by
  induction elements with
  | nil => rfl
  | cons v rest ih => rw [rereadElements, ih, List.map_cons]

theorem rereadMembers_eq (members : List (String × Json)) :
    rereadMembers members = members.map fun m => (m.1, m.2.reread) := by
  induction members with
  | nil => rfl
  | cons m rest ih => rw [rereadMembers, ih, List.map_cons]

theorem elementLexemes_eq (elements : List Json) :
    elementLexemes elements = elements.map lexemes := by
  induction elements with
  | nil => rfl
  | cons v rest ih => rw [elementLexemes, ih, List.map_cons]

theorem memberLexemes_eq (members : List (String × Json)) :
    memberLexemes members = members.map fun m => .text m.1 :: .colon :: m.2.lexemes := by
  induction members with
  | nil => rfl
  | cons m rest ih => rw [memberLexemes, ih, List.map_cons]

theorem putMember_of_notMem {members : List (String × Json)} {m : String × Json}
    (h : m.1 ∉ members.map (·.1)) : putMember members m = members ++ [m] := by
  induction members with
  | nil => rfl
  | cons first rest ih =>
    rw [List.map_cons, List.mem_cons, not_or] at h
    rw [putMember, if_neg (Ne.symm h.1), ih h.2, List.cons_append]

/-- Members of different names are the members of their object. -/
theorem ofMembers_of_nodup {members : List (String × Json)} (h : (members.map (·.1)).Nodup) :
    ofMembers members = .object members := by
  -- the members that are there already are not the ones that come
  have hfold : ∀ before : List (String × Json), ((before ++ members).map (·.1)).Nodup →
      members.foldl putMember before = before ++ members := by
    clear h
    induction members with
    | nil => exact fun before _ => (List.append_nil before).symm
    | cons m rest ih =>
      intro before hbefore
      rw [List.append_cons] at hbefore ⊢
      have hm : m.1 ∉ before.map (·.1) := by
        rw [List.map_append, List.nodup_append, List.map_append, List.map_singleton,
          List.nodup_append] at hbefore
        exact fun hmem => hbefore.1.2.2 _ hmem _ (List.mem_singleton_self _) rfl
      rw [List.foldl_cons, putMember_of_notMem hm]
      exact ih _ hbefore
  rw [ofMembers, hfold [] h, List.nil_append]

/-! ### Building a value from its lexemes -/

namespace Place

variable {frames : List Frame} {elements : List Json} {before members : List (String × Json)}

/-- The lexemes of elements, between commas and in front of a closing bracket, go on a list. -/
theorem run_elements (h : ∀ v ∈ elements, ∀ frames,
      (Place.value frames).run v.lexemes = some (.complete frames v.reread))
    (hne : elements ≠ []) (frames : List Frame) (before : List Json) :
    (Place.value (.list before :: frames)).run
        ([.comma].intercalate (elements.map lexemes) ++ [.closeList]) =
      some (.complete frames (.list (before.reverse ++ elements.map reread))) := by
  induction elements generalizing before with
  | nil => exact absurd rfl hne
  | cons v rest ih =>
    obtain ⟨hv, hrest⟩ := List.forall_mem_cons.1 h
    cases rest with
    | nil =>
      rw [List.map_singleton, List.intercalate_singleton, run_append, hv, Option.bind_some]
      show some (Place.complete frames (.list (v.reread :: before).reverse)) = _
      rw [List.reverse_cons, List.map_singleton]
    | cons w rest =>
      -- behind the comma, the same list goes on with one element more
      have hnext := ih hrest (List.cons_ne_nil _ _) (v.reread :: before)
      rw [List.reverse_cons, List.append_assoc] at hnext
      rw [List.map_cons, List.map_cons, List.intercalate_cons_cons, List.append_assoc,
        List.append_assoc, run_append, hv, Option.bind_some]
      exact hnext

/-- The lexemes of members, between commas and in front of a closing bracket, go on an object. -/
theorem run_members (h : ∀ m ∈ members, ∀ frames,
      (Place.value frames).run m.2.lexemes = some (.complete frames m.2.reread))
    (hne : members ≠ []) (frames : List Frame) (before : List (String × Json)) :
    (Place.name frames before).run
        ([.comma].intercalate (members.map fun m => .text m.1 :: .colon :: m.2.lexemes) ++
          [.closeObject]) =
      some (.complete frames
        (.ofMembers (before.reverse ++ members.map fun m => (m.1, m.2.reread)))) := by
  induction members generalizing before with
  | nil => exact absurd rfl hne
  | cons m rest ih =>
    obtain ⟨hm, hrest⟩ := List.forall_mem_cons.1 h
    have hmember : ∀ ls, (Place.name frames before).run
        ((.text m.1 :: .colon :: m.2.lexemes) ++ ls) =
          (Place.complete (.object before m.1 :: frames) m.2.reread).run ls := by
      intro ls
      show (Place.value (.object before m.1 :: frames)).run (m.2.lexemes ++ ls) = _
      rw [run_append, hm, Option.bind_some]
    cases rest with
    | nil =>
      rw [List.map_singleton, List.intercalate_singleton, hmember]
      show some (Place.complete frames (.ofMembers ((m.1, m.2.reread) :: before).reverse)) = _
      rw [List.reverse_cons, List.map_singleton]
    | cons n rest =>
      have hnext := ih hrest (List.cons_ne_nil _ _) ((m.1, m.2.reread) :: before)
      rw [List.reverse_cons, List.append_assoc] at hnext
      rw [List.map_cons, List.map_cons, List.intercalate_cons_cons, List.append_assoc,
        List.append_assoc, hmember]
      exact hnext

/-- What is the name of a member may be that of the first one. -/
theorem run_firstMember {ls : List Lexeme} {v : Json}
    (h : (Place.name frames []).run ls = some (.complete frames v)) :
    (Place.firstMember frames).run ls = some (.complete frames v) := by
  cases ls with
  | nil => exact absurd h (by simp [run])
  | cons l ls => cases l <;> first | exact h | exact absurd h (by simp [run, step])

end Place

/-- The lexemes of a value build it, whatever it stands in. -/
theorem run_lexemes (v : Json) (frames : List Frame) :
    (Place.value frames).run v.lexemes = some (.complete frames v.reread) := by
  induction v using nested_induction generalizing frames with
  | null => rfl
  | bool b => rfl
  | integer n => rfl
  | float x => rfl
  | text s => rfl
  | list elements ih =>
    rw [lexemes, elementLexemes_eq, reread, rereadElements_eq]
    show (Place.firstElement frames).run _ = _
    cases elements with
    | nil => rfl
    | cons v rest =>
      exact Place.run_firstElement (Place.run_elements ih (List.cons_ne_nil _ _) frames [])
  | object members ih =>
    rw [lexemes, memberLexemes_eq, reread, rereadMembers_eq]
    show (Place.firstMember frames).run _ = _
    cases members with
    | nil => rfl
    | cons m rest =>
      exact Place.run_firstMember (Place.run_members ih (List.cons_ne_nil _ _) frames [])

/-! ### Strings -/

theorem exists_of_length_eq_four {digits : List Char} (h : digits.length = 4) :
    ∃ a b c d, digits = [a, b, c, d] := by
  match digits, h with
  | [a, b, c, d], _ => exact ⟨a, b, c, d, rfl⟩

/-- A control character is written with four digits that give its code. -/
theorem codeUnit?_hexDigits {n : Nat} (hn : n < 0x20) (c : Char) (rest : List Char) :
    codeUnit? (Text.hexDigits 4 n ++ c :: rest) = some n ∧
      (Text.hexDigits 4 n ++ c :: rest).drop 4 = c :: rest := by
  have hall : ∀ n < 0x20, (Text.hexDigits 4 n).length = 4 ∧
      codeUnit? (Text.hexDigits 4 n ++ ['x']) = some n := by decide
  obtain ⟨hlength, hunit⟩ := hall n hn
  obtain ⟨a, b, d, e, hdigits⟩ := exists_of_length_eq_four hlength
  rw [hdigits] at hunit ⊢
  exact ⟨hunit, rfl⟩

/-- A code below the space is no half of a pair. -/
theorem ofUnit_toNat {c : Char} (hc : c.toNat < 0x20) (rest : List Char) :
    Piece.ofUnit c.toNat rest = .char c 6 rest := by
  have hleading : isLeading c.toNat = false := by
    rw [isLeading, Bool.and_eq_false_iff, decide_eq_false_iff_not]
    exact .inl (by omega)
  have htrailing : isTrailing c.toNat = false := by
    rw [isTrailing, Bool.and_eq_false_iff, decide_eq_false_iff_not]
    exact .inl (by omega)
  have hchar : unitChar c.toNat = c := by
    rw [unitChar, hleading, htrailing]
    exact Char.ofNat_toNat c
  rw [Piece.ofUnit.eq_def, hleading, hchar]
  rfl

/-- What a character is written as stands for it. -/
theorem ofChars_escape (c d : Char) (rest : List Char) :
    ∃ n, Piece.ofChars (escape c ++ d :: rest) = .char c n (d :: rest) := by
  unfold escape
  split_ifs with hquote hbackslash _ _ _ _ _ hcontrol
  -- the quote, the backslash, and the control characters with a letter of their own
  iterate 7
    · subst_vars
      exact ⟨2, rfl⟩
  · obtain ⟨hunit, hdrop⟩ := codeUnit?_hexDigits hcontrol d rest
    refine ⟨6, ?_⟩
    simp only [List.cons_append, Piece.ofChars, hunit, hdrop]
    exact ofUnit_toNat hcontrol _
  · refine ⟨1, ?_⟩
    rw [List.singleton_append, Piece.ofChars.eq_6 _ _ hquote (fun hd => absurd hd hbackslash)
      (fun _ hd => absurd hd hbackslash) (fun _ _ hd => absurd hd hbackslash), if_neg hcontrol]

theorem readText_escape (chars behind : List Char) (start position : Nat) :
    ∃ n, readText start position (chars.flatMap escape ++ '"' :: behind) =
      .ok (chars, n, behind) := by
  induction chars generalizing position with
  | nil => exact ⟨position + 1, readText_of_close rfl start position⟩
  | cons c chars ih =>
    have hhead : ∃ d rest, chars.flatMap escape ++ '"' :: behind = d :: rest :=
      List.exists_cons_of_ne_nil (List.append_ne_nil_of_right_ne_nil _ (List.cons_ne_nil _ _))
    obtain ⟨d, rest, hrest⟩ := hhead
    obtain ⟨k, hk⟩ := ofChars_escape c d rest
    obtain ⟨n, hn⟩ := ih (position + k)
    refine ⟨n, ?_⟩
    rw [← hrest] at hk
    rw [List.flatMap_cons, List.append_assoc, readText_of_char hk, hn]

theorem visible_escape (c : Char) : ∀ d ∈ escape c, 0x20 ≤ d.toNat := by
  unfold escape
  split_ifs with hquote hbackslash _ _ _ _ _ hcontrol
  iterate 7 · simp
  · have hdigits : ∀ n < 0x20,
        (Text.hexDigits 4 n).all (fun d => decide (0x20 ≤ d.toNat)) = true := by
      decide
    have hvisible : ∀ d ∈ Text.hexDigits 4 c.toNat, 0x20 ≤ d.toNat := by
      simpa using hdigits c.toNat hcontrol
    exact List.forall_mem_cons.2 ⟨by decide, List.forall_mem_cons.2 ⟨by decide, hvisible⟩⟩
  · exact List.forall_mem_singleton.2 (Nat.le_of_not_lt hcontrol)

/-- A string is written as one lexeme. -/
theorem spells_text (s : String) : Spells (stringText s).toList [.text s] where
  visible := by
    rw [stringText, String.toList_ofList, List.cons_append]
    refine List.forall_mem_cons.2 ⟨by decide, fun c hc => ?_⟩
    rcases List.mem_append.1 hc with hc | hc
    · obtain ⟨d, -, hd⟩ := List.mem_flatMap.1 hc
      exact visible_escape d c hd
    · obtain rfl := List.mem_singleton.1 hc
      decide
  cut := by
    intro behind _
    obtain ⟨n, hn⟩ := readText_escape s.toList behind 0 0
    rw [stringText, String.toList_ofList, List.cons_append, List.cons_append, List.append_assoc,
      List.singleton_append, lexemes?_text hn, String.ofList_toList]
    rfl

/-! ### Values -/

namespace Spells

variable {text text' : List Char} {ls ls' : List Lexeme} {c : Char} {l : Lexeme}

theorem nil : Spells [] [] where
  visible := fun _ hc => absurd hc List.not_mem_nil
  cut := fun behind _ => by simp

/-- A mark is no control character, and does not go on a number. -/
theorem mark_spec (hc : mark? c = some l) :
    0x20 ≤ c.toNat ∧ c.isDigit = false ∧ goesOn c = false := by
  unfold mark? at hc
  split at hc
  case h_7 => exact absurd hc (by simp)
  all_goals decide

/-- A mark stands between two texts. -/
theorem mark (h : Spells text ls) (hc : mark? c = some l) (h' : Spells text' ls') :
    Spells (text ++ c :: text') (ls ++ l :: ls') where
  visible := List.forall_mem_append.2
    ⟨h.visible, List.forall_mem_cons.2 ⟨(mark_spec hc).1, h'.visible⟩⟩
  cut := by
    intro behind hbehind
    obtain ⟨-, hdigit, hgoes⟩ := mark_spec hc
    rw [List.append_assoc, List.cons_append, h.cut _ (endsNumber_cons hdigit hgoes _),
      lexemes?_mark hc, h'.cut behind hbehind, Option.map_map, Option.map_map]
    congr 1
    funext more
    simp

/-- A blank stands in front of a text. -/
theorem gap (h : Spells text ls) : Spells (' ' :: text) ls where
  visible := List.forall_mem_cons.2 ⟨by decide, h.visible⟩
  cut := fun behind hbehind => by
    rw [List.cons_append, lexemes?_gap (by decide), h.cut behind hbehind]

/-- Texts stand in a row, with a comma between each two of them. -/
theorem join {texts : List String} {lss : List (List Lexeme)}
    (h : List.Forall₂ (fun s ls => Spells s.toList ls) texts lss) :
    Spells (Json.join ", " texts).toList ([.comma].intercalate lss) := by
  rw [Json.join, String.toList_intercalate]
  induction h with
  | nil => exact nil
  | @cons s ls texts lss hs hrest ih =>
    cases hrest with
    | nil =>
      rw [List.map_singleton, List.intercalate_singleton, List.intercalate_singleton]
      exact hs
    | @cons s' ls' texts lss hs' hrest =>
      rw [List.map_cons, List.map_cons, List.intercalate_cons_cons, List.intercalate_cons_cons,
        List.append_assoc, List.append_assoc]
      exact hs.mark rfl ih.gap

/-- A row stands between brackets. -/
theorem between {opening closing : Char} {l l' : Lexeme} (h : Spells text ls)
    (hopening : mark? opening = some l) (hclosing : mark? closing = some l') :
    Spells (opening :: (text ++ [closing])) (l :: (ls ++ [l'])) :=
  nil.mark hopening (h.mark hclosing nil)

end Spells

theorem Spells.read {text : List Char} {ls : List Lexeme} {v : Json} (h : Spells text ls)
    (hrun : (Place.value []).run ls = some (.complete [] v)) : Json.read text = .ok v := by
  have hcut := h.cut [] endsNumber_nil
  rw [List.append_nil, lexemes?_nil, Option.map_some, List.append_nil] at hcut
  exact read_eq_ok_iff.2 ⟨ls, hcut, hrun⟩

/-- **A value is written as its lexemes.** -/
theorem spells_compact (v : Json) : Spells v.compact.toList v.lexemes := by
  induction v using nested_induction with
  | null => exact spells_null
  | bool b => exact spells_bool b
  | integer n => exact spells_integer n
  | float x =>
    obtain ⟨w, hw⟩ := exists_spells_float x
    have hread : Json.read (floatText x).toList = .ok w := hw.read rfl
    have hreread : reread (.float x) = w := by
      rw [reread, hread]
      rfl
    rw [lexemes, hreread]
    · exact hw
    all_goals simp
  | text s => exact spells_text s
  | list elements ih =>
    rw [compact, lexemes, compactElements_eq, elementLexemes_eq, String.toList_append,
      String.toList_append]
    refine Spells.between (Spells.join ?_) rfl rfl
    rw [List.forall₂_map_left_iff, List.forall₂_map_right_iff, List.forall₂_same]
    exact ih
  | object members ih =>
    rw [compact, lexemes, compactMembers_eq, memberLexemes_eq, String.toList_append,
      String.toList_append]
    refine Spells.between (Spells.join ?_) rfl rfl
    rw [List.forall₂_map_left_iff, List.forall₂_map_right_iff, List.forall₂_same]
    intro m hm
    rw [String.toList_append, String.toList_append, List.append_assoc]
    exact (spells_text m.1).mark rfl (ih m hm).gap

/-- **A value is read from its text.** -/
theorem read_compact (v : Json) : read v.compact.toList = .ok v.reread :=
  (spells_compact v).read (run_lexemes v [])

/-- A value is written on one line. -/
theorem visible_compact (v : Json) : ∀ c ∈ v.compact.toList, 0x20 ≤ c.toNat :=
  (spells_compact v).visible

end RecordSearch.Json
